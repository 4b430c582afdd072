import Messaging.Proofs.Requests
import Messaging.Recovery.Counter

/-!
# Counts of failures in a running program

- `SparesCounter` is a request that leaves a failure counter alone. `counter_perform` and
  `counter_advance` say that the counter stays the same while only such requests are made.
- `find?_countFailure` and `find?_clearFailures` say what the other requests do to it.
- `kept` is the entry for a number of failures, and `get_add_one` the next count after it.
- `LeftOf` is what is left of a program that has gone on and fallen asleep any number of times.
-/

namespace Messaging.Recovery

variable {counter : CounterId}

/-! ### Requests -/

/-- A request that leaves a failure counter alone. -/
def SparesCounter (counter : CounterId) : Effect → Prop
  | .countFailure other .. => other ≠ counter
  | .clearFailures other .. => other ≠ counter
  | _ => True

/-- A request that spares a counter leaves it as it is. -/
theorem counter_perform (effect : Effect) (world : World) (heffect : SparesCounter counter effect) :
    (world.perform effect).2.site.counters counter = world.site.counters counter := by
  cases effect
  case dispatch batch =>
    rw [World.perform, World.dispatch]
    split <;> rfl
  case countFailure other pipeline messageId =>
    exact if_neg (Ne.symm heffect)
  case clearFailures other pipeline messageId =>
    exact if_neg (Ne.symm heffect)
  all_goals rfl

/-- A program that spares a counter leaves it as it is, and spares it again when it goes on after a
sleep. -/
theorem counter_advance {α : Type} {program : Act α}
    (hprogram : program.Every (SparesCounter counter)) (world : World) :
    (World.advance program world).2.site.counters counter = world.site.counters counter ∧
      ∀ millis rest, (World.advance program world).1 = .asleep millis rest →
        rest.Every (SparesCounter counter) :=
  World.advance_keeps (I := fun w => w.site.counters counter = world.site.counters counter)
    (fun effect w heffect hw => (counter_perform effect w heffect).trans hw) hprogram rfl

/-- Counting a failure moves the count of the message to the next number. -/
theorem find?_countFailure (world : World) (pipeline messageId other id : String) :
    ((world.perform (.countFailure counter pipeline messageId)).2.site.counters counter).find?
        other id
      = if other = pipeline ∧ id = messageId
        then some ((world.site.counters counter).get pipeline messageId + 1)
        else (world.site.counters counter).find? other id := by
  have hcounter : (world.perform (.countFailure counter pipeline messageId)).2.site.counters counter
      = ((world.site.counters counter).increment pipeline messageId).2 := if_pos rfl
  rw [hcounter, FailureCounter.find?_increment]

/-- Clearing the failures of a message leaves the counts of the others. -/
theorem find?_clearFailures (world : World) (pipeline messageId other id : String) :
    ((world.perform (.clearFailures counter pipeline messageId)).2.site.counters counter).find?
        other id
      = if other = pipeline ∧ id = messageId then none
        else (world.site.counters counter).find? other id := by
  have hcounter :
      (world.perform (.clearFailures counter pipeline messageId)).2.site.counters counter
        = (world.site.counters counter).clear pipeline messageId := if_pos rfl
  rw [hcounter, FailureCounter.find?_clear]

/-! ### Numbers of failures -/

/-- How the counter keeps a number of failures: not at all when there are none. -/
def kept (n : Nat) : Option UInt32 := if n = 0 then none else some (.ofNat n)

/-- The next count of a message that has failed a number of times. -/
theorem get_add_one {counter : FailureCounter} {pipeline messageId : String} {n : Nat}
    (hcount : counter.find? pipeline messageId = kept n) :
    counter.get pipeline messageId + 1 = .ofNat (n + 1) := by
  rw [FailureCounter.get, hcount, kept]
  split
  · next hn => subst hn; rfl
  · rw [Option.getD_some, UInt32.ofNat_add]
    rfl

/-! ### Programs under way -/

/-- What is left of `program` once it has gone on and fallen asleep a number of times, in whatever
worlds that was. -/
inductive LeftOf {α : Type} (program : Act α) : Act α → Prop where
  /-- It has not gone on yet. -/
  | whole : LeftOf program program
  /-- It has gone on and sleeps again. -/
  | slept {rest rest' : Act α} {millis : Nat} {world world' : World} (hrest : LeftOf program rest)
      (hadvance : World.advance rest world = (.asleep millis rest', world')) :
      LeftOf program rest'

/-- What is left of a program with another behind it: the other one is still to come. -/
theorem LeftOf.bind {α β : Type} {program rest : Act α} (hrest : LeftOf program rest)
    (f : α → Act β) : LeftOf (program.bind f) (rest.bind f) := by
  induction hrest with
  | whole => exact .whole
  | slept _ hadvance ih => exact ih.slept (by rw [World.advance_bind, hadvance]; rfl)

end Messaging.Recovery
