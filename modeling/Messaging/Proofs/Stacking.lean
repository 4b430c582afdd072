import Messaging.Proofs.Punctuality
import Messaging.Proofs.Transparency

/-!
# Several delays on one message

A sender may put any number of delays on a message. The stage that defers it takes the due time of
the first of them and drops them all.

- `Deferred` lists what the stage makes of a message: its destination and a due time travel in the
  headers, and of its requirements only the delays are gone.
- `Honours` says that what the timeout manager reads from a message is no earlier than the due time
  of any of some constraints.
- `deferred_honours_iff` is the result: a message with delays is deferred, and it honours them if
  and only if none is due later than the first. `later_delay_dropped` is a message that does not.
-/

namespace Messaging.Timeouts.Stacking

open Manager.Interleaved.Punctual
open Time (Instant)

variable {now due : Instant} {manager destination : String} {context : RoutingContext}

/-- What the deferring stage makes of a message to one destination, with a due time for the timeout
manager to read. -/
structure Deferred (manager destination : String) (due : Instant)
    (context context' : RoutingContext) : Prop where
  /-- The timeout manager reads the due time and the destination. -/
  read : readDeferred context'.message = .ok (due, destination)
  /-- The message says that it was deferred. -/
  marked : context'.message.headers.get? Header.isDeferredMessage = some "true"
  /-- It goes to the timeout manager alone. -/
  routes : context'.routes = [.unicast manager]
  /-- The delays are gone, and no other requirement is. -/
  constraints : context'.constraints = context.constraints.filter fun c => !c.isDelay
  /-- The id stays. -/
  id : context'.message.id = context.message.id
  /-- The body stays. -/
  body : context'.message.body = context.message.body
  /-- All other headers stay. -/
  headers : ∀ key, key ∉ deferredKeys →
    context'.message.headers.get? key = context.message.headers.get? key
  /-- So does whether the message goes out apart from a receive. -/
  isolated : context'.isolated = context.isolated
  /-- So does the scope. -/
  scope : context'.scope = context.scope

/-- The due time that the timeout manager reads from a message is no earlier than that of any of
some constraints, cut down to whole microseconds. -/
def Honours (now : Instant) (constraints : List Constraint) (message : Message) : Prop :=
  ∃ read destination, readDeferred message = .ok (read, destination) ∧
    ∀ constraint ∈ constraints, ∀ due, constraint.dueAt? now = some due → due.wholeMicros ≤ read

/-- The timeout manager reads from a deferred message what was written there. -/
theorem readDeferred_handedOn (manager destination : String) (context : RoutingContext)
    (hdue : due.Representable) :
    readDeferred (handedOn manager destination due context).message
      = .ok (Time.Wire.asWritten due, destination) := by
  have hexpire : (handedOn manager destination due context).message.header? Header.timeoutExpire
      = some (Time.Wire.write due) := Deferring.get?_expire ..
  have hroute : (handedOn manager destination due context).message.header?
      Header.timeoutRouteExpiredTo = some destination := Deferring.get?_routeExpiredTo ..
  simp only [readDeferred, hexpire, Time.Wire.read_write hdue, hroute, Option.some_or]

/-- A message that was handed on is as the stage promises. -/
theorem deferred_handedOn (manager destination : String) (context : RoutingContext)
    (hdue : due.Representable) :
    Deferred manager destination (Time.Wire.asWritten due) context
      (handedOn manager destination due context) where
  read := readDeferred_handedOn manager destination context hdue
  marked := Table.get?_insert_self ..
  routes := rfl
  constraints := rfl
  id := rfl
  body := rfl
  headers _ hkey := get?_deferredHeaders destination due context.message.headers hkey
  isolated := rfl
  scope := rfl

/-- Only a delay has a due time. -/
theorem isDelay_of_dueAt? {constraint : Constraint} (h : constraint.dueAt? now = some due) :
    constraint.isDelay = true := by
  rw [← Deferring.isSome_dueAt? constraint now, h]
  rfl

/-- A message honours its delays if none is due after the time that is written for the first. -/
theorem honours_handedOn_iff {first : Constraint} {others : List Constraint}
    (hdelays : context.constraints.filter (·.isDelay) = first :: others)
    (hfirst : first.dueAt? now = some due) (hdue : due.Representable) :
    Honours now context.constraints (handedOn manager destination due context).message ↔
      ∀ other ∈ others, ∀ later, other.dueAt? now = some later →
        later.wholeMicros ≤ Time.Wire.asWritten due := by
  have hread := readDeferred_handedOn manager destination context hdue
  have hmem (constraint : Constraint) : constraint ∈ first :: others ↔
      constraint ∈ context.constraints ∧ constraint.isDelay = true := by
    rw [← hdelays, List.mem_filter]
  constructor
  · rintro ⟨read, destination', hread', hall⟩ other hother later hlater
    rw [hread] at hread'
    cases hread'
    exact hall other ((hmem other).1 (List.mem_cons_of_mem _ hother)).1 later hlater
  · intro hothers
    refine ⟨_, _, hread, fun constraint hconstraint later hlater => ?_⟩
    -- the first delay is honoured, being no later than what is written of it
    rcases List.mem_cons.1 ((hmem constraint).2 ⟨hconstraint, isDelay_of_dueAt? hlater⟩) with
      rfl | hother
    · cases hfirst.symm.trans hlater
      exact Time.Wire.wholeMicros_le_asWritten due
    · exact hothers constraint hother later hlater

/-- A message with one destination and any number of delays, of either kind and among any other
requirements, is deferred by the time of its first delay. It honours all of them if and only if none
is due later than the time that is written for the first. The due times are those of a sender whose
clock shows `now`. -/
theorem deferred_honours_iff (manager : String) {first : Constraint} {others : List Constraint}
    (hdelays : context.constraints.filter (·.isDelay) = first :: others)
    (hroutes : context.routes = [.unicast destination])
    (hbefore : ∀ t, .notBefore t ∈ context.constraints → t.Representable) (now : Instant) :
    ∃ due context', first.dueAt? now = some due ∧ Defers manager now context context' ∧
      Deferred manager destination (Time.Wire.asWritten due) context context' ∧
      (Honours now context.constraints context'.message ↔
        ∀ other ∈ others, ∀ later, other.dueAt? now = some later →
          later.wholeMicros ≤ Time.Wire.asWritten due) := by
  obtain ⟨hmem, hisDelay⟩ := List.mem_filter.1 (hdelays ▸ List.mem_cons_self : first ∈ _)
  obtain ⟨due, hfirst⟩ : ∃ due, first.dueAt? now = some due :=
    Option.isSome_iff_exists.1 ((Deferring.isSome_dueAt? first now).trans hisDelay)
  -- the first due time is one that the headers can hold
  have hdue : due.Representable :=
    representable_of_dueAt? (fun t ht => hbefore t (ht ▸ hmem)) hfirst
  exact ⟨due, handedOn manager destination due context, hfirst,
    defers_handedOn ((dueAt?_of_filter hdelays).trans hfirst) hroutes,
    deferred_handedOn manager destination context hdue, honours_handedOn_iff hdelays hfirst hdue⟩

/-- A message that is not to be delivered before 2030, and not before 2031. -/
def postponed : RoutingContext where
  message := ⟨"m-1", Table.ofList [("a", "b")], [123, 125]⟩
  routes := [.unicast "billing"]
  constraints := [.notBefore ⟨1893456000, 0⟩, .notBefore ⟨1924992000, 0⟩]
  scope := 0

theorem deferred_honours_iff_postponed :
    ∃ due context', (Constraint.notBefore ⟨1893456000, 0⟩).dueAt? ⟨0, 0⟩ = some due ∧
      Defers "sales.Timeouts" ⟨0, 0⟩ postponed context' ∧
      Deferred "sales.Timeouts" "billing" (Time.Wire.asWritten due) postponed context' ∧
      (Honours ⟨0, 0⟩ postponed.constraints context'.message ↔
        ∀ other ∈ [Constraint.notBefore ⟨1924992000, 0⟩], ∀ later,
          other.dueAt? ⟨0, 0⟩ = some later → later.wholeMicros ≤ Time.Wire.asWritten due) := by
  refine deferred_honours_iff "sales.Timeouts" rfl rfl (fun t ht => ?_) ⟨0, 0⟩
  simp only [postponed, List.mem_cons, Constraint.notBefore.injEq, List.not_mem_nil, or_false] at ht
  rcases ht with rfl | rfl
  · decide
  · decide

/-- The message goes to the timeout manager as one for 2030: its later delay is lost. -/
theorem later_delay_dropped :
    ∃ context', Defers "sales.Timeouts" ⟨0, 0⟩ postponed context' ∧
      context'.constraints = [] ∧
      readDeferred context'.message = .ok (⟨1893456000, 0⟩, "billing") ∧
      ¬ Honours ⟨0, 0⟩ postponed.constraints context'.message := by
  have hdue : (⟨1893456000, 0⟩ : Instant).Representable := by decide
  refine ⟨handedOn "sales.Timeouts" "billing" ⟨1893456000, 0⟩ postponed,
    defers_handedOn rfl rfl, rfl, readDeferred_handedOn _ _ _ hdue, ?_⟩
  rw [honours_handedOn_iff rfl rfl hdue]
  intro hothers
  have hlater := hothers (.notBefore ⟨1924992000, 0⟩) (by decide) ⟨1924992000, 0⟩ rfl
  exact absurd hlater (by decide)

end Messaging.Timeouts.Stacking
