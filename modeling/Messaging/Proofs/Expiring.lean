import Messaging.Proofs.Chronicle
import Messaging.Proofs.Dispatching
import Messaging.Proofs.Instants

/-!
# Several spans within which a message is to be received

A sender may ask any number of times that a message is dropped unless it is received within a span.

- `Puts` is what a broker puts into a queue for a message that is sent to it.
- `began_in_time` says that no run of a pump processes a message after its time, and
  `began_at_deadline` that one may process it up to then.
- `HandsOver` says that the events with which messages begin are what `receiveMessages` does: it
  hands these messages to the pipeline, and no others.
- `Honoured` says of a message that no run processes it after any of its spans, and
  `honoured_iff` is the result: this is so if and only if no span leads to an earlier time than the
  last one. `note_received_late` is a message for which it is not so.
-/

namespace Messaging.Expiring

open Host Redelivery Conservation Succession
open Relation (ReflTransGen)
open Time (Instant Span)

variable {broker : Broker} {sent now : Instant} {delivery : Delivery} {address : String}
  {queued : Queued} {host : Host} {key : PumpKey} {pump : PumpState} {concurrency : Concurrency}
  {c : Chronicle}

/-! ### What is put into a queue -/

/-- A broker puts something into a queue for a message that is sent to an address or to the
subscribers of a type. -/
inductive Puts (broker : Broker) (now : Instant) (delivery : Delivery) :
    String → Queued → Prop where
  /-- The message is sent to one address. -/
  | unicast {address : String} {queued : Queued}
      (h : broker.unicastDelivery now delivery = .ok (address, queued)) :
      Puts broker now delivery address queued
  /-- It is sent to subscribers, and this is one of them. -/
  | multicast {entries : List (String × Queued)} {address : String} {queued : Queued}
      (h : broker.multicastDeliveries now delivery = .ok entries)
      (hmem : (address, queued) ∈ entries) : Puts broker now delivery address queued

/-- Whatever is put into a queue is a copy of the message. -/
theorem Puts.eq_copy (h : Puts broker now delivery address queued) :
    queued = delivery.copy now := by
  cases h with
  | unicast h =>
    by_cases hrefused : broker.queueExists delivery.target = false ∨ delivery.IsDelayed
    · obtain ⟨error, herror⟩ := Broker.exists_unicastDelivery_eq_error hrefused now
      rw [herror] at h
      cases h
    · obtain ⟨hexists, hdelay⟩ := not_or.1 hrefused
      rw [Broker.unicastDelivery_eq_ok (by simpa using hexists) hdelay] at h
      cases h
      rfl
  | multicast h hmem =>
    by_cases hrefused : delivery.IsDelayed ∧ broker.targets delivery ≠ []
    · obtain ⟨hdelay, hsome⟩ := hrefused
      obtain ⟨subscriber, hsubscriber⟩ := List.exists_mem_of_ne_nil _ hsome
      obtain ⟨error, herror⟩ :=
        Broker.exists_multicastDeliveries_eq_error hdelay hsubscriber now
      rw [herror] at h
      cases h
    · rw [Broker.multicastDeliveries_eq_ok (by simpa using hrefused)] at h
      cases h
      obtain ⟨subscriber, -, hsame⟩ := List.mem_map.1 hmem
      cases hsame
      rfl

/-! ### When a message is processed -/

/-- No run processes a message after its time, however often it was put back before. -/
theorem began_in_time (hreached : Reached host key pump concurrency c) {receipt : Receipt}
    (hbegan : .began receipt ∈ c.history) {deadline : Instant}
    (hdeadline : receipt.queued.discardAfter = some deadline) : receipt.time ≤ deadline := by
  have hjudged : receipt.isDropped = false :=
    judged_of_steps (fun _ hmem => absurd hmem List.not_mem_nil) hreached _ hbegan
  rw [Receipt.isDropped, Queued.isExpired, hdeadline] at hjudged
  simpa using hjudged

/-- The message that begins to be processed with an event. -/
def begun? : Succession.Event → Option Queued
  | .began receipt => some receipt.queued
  | .ended .. | .dropped _ => none

/-- When the receiving task of a run goes on in a chronicle, the messages that begin by the history
are those that `receiveMessages` hands to the pipeline. -/
structure HandsOver (id : RunId) (run : PumpRun) (c : Chronicle) (fuel : Nat)
    (phase : ReceivePhase) : Prop where
  /-- They are in flight, next to those that were, and no others are. -/
  flying : (flights id (receiveMessages run.receiver id fuel phase c.host)).Perm
    (flights id c.host
      ++ ((receipts run.receiver id fuel phase c.host).map Succession.Event.taken).filterMap begun?)
  /-- A task that is new processes its message from the beginning, with the entry of the run. -/
  fresh : ∀ task queued rest,
    ((receiveMessages run.receiver id fuel phase c.host).task? task).map Task.job
        = some (.process id queued rest) →
      (c.host.task? task).map Task.job = some (.process id queued rest) ∨
        rest = Act.rootScope.bind (run.entry queued.message)

/-- The messages that begin are those that are taken and not dropped. -/
theorem begun_eq_filterMap (taken : List Receipt) :
    begun taken = (taken.map Succession.Event.taken).filterMap begun? := by
  induction taken with
  | nil => rfl
  | cons receipt rest ih =>
    rw [List.map_cons, List.filterMap_cons, ← ih, begun, List.filter_cons, Succession.Event.taken]
    cases receipt.isDropped <;> rfl

/-- Whatever has happened to a pump that was started, it hands messages over as the history says. -/
theorem hands_of_reached (hready : Ready host key pump)
    (hreached : Reached host key pump concurrency c) (fuel : Nat) (phase : ReceivePhase) :
    HandsOver host.runs.size (runOf host key pump concurrency) c fuel phase := by
  have hpumps := ((hready.worked_start concurrency).steps hreached).pumps
  have htakes := receiveMessages_takes fuel phase hpumps
  exact ⟨begun_eq_filterMap _ ▸ htakes.flying, htakes.fresh⟩

/-- The first message that waits is taken. -/
theorem takeMessage_cons {run : PumpRun} {first : Queued} {rest : List Queued}
    (hqueue : host.world.broker.queue? run.queue = some (first :: rest)) :
    ∃ host', host.takeMessage run = (some (first, first.isExpired host.world.clock), host') := by
  have hfirst : (popMessage run.queue (host.worldAt run.site)).1
      = some (first, first.isExpired host.world.clock) := by
    have hqueue' : (host.worldAt run.site).broker.queue? run.queue = some (first :: rest) := hqueue
    rw [popMessage, Broker.pop, hqueue']
    rfl
  have hpop : popMessage run.queue (host.worldAt run.site)
      = (some (first, first.isExpired host.world.clock), _) := Prod.ext hfirst rfl
  obtain ⟨host', htake, -⟩ := inSite_eq hpop
  exact ⟨host', htake⟩

section Receiving

variable {id : RunId} {task : TaskId} {run : PumpRun} {state : Task} {first : Queued}
  {rest : List Queued} (hrun : host.run? id = some run) (hstate : host.task? task = some state)
  (hasked : state.cancelled = false) (hfree : host.waiting.any (·.2 = task) = false)
  (hqueue : host.world.broker.queue? run.queue = some (first :: rest))
include hrun hstate hasked hfree hqueue

/-- A receiving task with a permission takes the first message that waits. -/
theorem exists_receipts_receiving (fuel : Nat) : ∃ later,
    receipts task id (fuel + 1) .receiving host = ⟨first, host.world.clock⟩ :: later := by
  let waked : Host := { host with notified := host.notified.filter (· ≠ task) }
  have hqueue' : waked.world.broker.queue? run.queue = some (first :: rest) := hqueue
  obtain ⟨host', htake⟩ := takeMessage_cons hqueue'
  rw [receipts, hrun, hstate]
  dsimp only
  rw [hasked, if_neg (by decide), hfree, if_neg (by decide), htake]
  exact ⟨_, rfl⟩

/-- So does one that may have a permission. -/
theorem exists_receipts_acquiring (hpermits : run.permits ≠ 0) (fuel : Nat) : ∃ later,
    receipts task id (fuel + 2) .acquiring host = ⟨first, host.world.clock⟩ :: later := by
  have hacquired : (host.modifyRun id fun run => { run with permits := run.permits - 1 }).run? id
      = some { run with permits := run.permits - 1 } := by
    rw [run?_modifyRun, hrun, Option.map_some, if_pos rfl]
  rw [receipts, hrun, hstate]
  dsimp only
  rw [hasked, if_neg (by decide), if_neg hpermits]
  exact exists_receipts_receiving hacquired hstate hasked hfree hqueue fuel

end Receiving

/-- A pump of a queue with one message. -/
def lonePump : PumpState where
  key := ⟨0, 0⟩
  entry _ _ := .done (.ok .completed)
  queue := "sales"

/-- A host on which a message waits at some time. -/
def loneHost (queued : Queued) (now : Instant) : Host where
  world := { clock := now, broker := (({} : Broker).createQueue "sales").2.push "sales" queued }
  sites := #[{}]
  pumps := [lonePump]

theorem ready_loneHost (queued : Queued) (now : Instant) :
    Ready (loneHost queued now) ⟨0, 0⟩ lonePump :=
  ⟨⟨nofun, List.nodup_nil, nofun⟩, rfl, rfl, rfl⟩

/-- The message waits in the queue of a `loneHost`. -/
theorem queue?_loneHost (queued : Queued) (now : Instant) :
    (loneHost queued now).world.broker.queue? "sales" = some [queued] :=
  (Broker.queue?_push (({} : Broker).createQueue "sales").2 "sales" queued).trans rfl

/-- Up to its time a message is processed. -/
theorem began_at_deadline (h : queued.isExpired now = false) :
    ∃ c, Reached (loneHost queued now) ⟨0, 0⟩ lonePump (some 1) c ∧
      .began ⟨queued, now⟩ ∈ c.history := by
  refine ⟨_, .single (.receive 2 rfl), ?_⟩
  have hqueue : ((loneHost queued now).startPump ⟨0, 0⟩ (some 1)).2.world.broker.queue? "sales"
      = some [queued] := by
    rw [(ready_loneHost queued now).world_startPump, queue?_loneHost]
  have hrun : ((loneHost queued now).startPump ⟨0, 0⟩ (some 1)).2.run? 0
      = some (runOf (loneHost queued now) ⟨0, 0⟩ lonePump (some 1)) := rfl
  have hreceiver : ((loneHost queued now).startPump ⟨0, 0⟩ (some 1)).2.task? 0
      = some { site := 0, job := .receive 0 .acquiring } := rfl
  obtain ⟨rest, hfirst⟩ :=
    exists_receipts_acquiring hrun hreceiver rfl rfl hqueue Nat.one_ne_zero 0
  change _ ∈ [] ++ (receipts 0 0 2 .acquiring
    ((loneHost queued now).startPump ⟨0, 0⟩ (some 1)).2).map Event.taken
  rw [show receipts 0 0 2 _ _ = _ from hfirst, List.nil_append, List.map_cons]
  rw [(ready_loneHost queued now).world_startPump]
  refine List.mem_cons.2 (.inl ?_)
  rw [Event.taken, if_neg (by simp [Receipt.isDropped, loneHost, h])]
  rfl

/-! ### What a message may rely on -/

/-- A message that is sent at some time is never handed to a pipeline after any span within which it
is to be received: whatever broker puts it into whatever queue, whatever pump is started there at
any time, with any number of permissions, and however often the message is put back. -/
def Honoured (delivery : Delivery) (sent : Instant) : Prop :=
  ∀ broker address queued, Puts broker sent delivery address queued →
    ∀ host key pump concurrency c, Ready host key pump → Reached host key pump concurrency c →
      ∀ receipt, .began receipt ∈ c.history → receipt.queued = queued →
        ∀ span, .discardAfter span ∈ delivery.constraints → receipt.time ≤ sent.later span

/-- A message that is to be received within some spans. -/
def within (spans : List Span) (target : String) (message : Message) (isolated : Bool) :
    Delivery :=
  ⟨target, message, spans.map .discardAfter, isolated⟩

variable {spans : List Span} {target : String} {message : Message} {isolated : Bool}

/-- The delivery `within` some spans has these as its constraints. -/
theorem mem_within {span : Span} :
    .discardAfter span ∈ (within spans target message isolated).constraints ↔ span ∈ spans := by
  simp [within]

/-- The last span decides when the message is dropped. -/
theorem discardAfter_copy_within (spans : List Span) (target : String) (message : Message)
    (isolated : Bool) (sent : Instant) :
    ((within spans target message isolated).copy sent).discardAfter
      = spans.getLast?.map sent.later := by
  have hsome : Constraint.lifetime? ∘ Constraint.discardAfter = some := rfl
  simp only [Delivery.copy, deadline?, within, List.filterMap_map, hsome, List.filterMap_some]

theorem not_isDelayed_within : ¬ (within spans target message isolated).IsDelayed := by
  rintro ⟨constraint, hmem, hdelay⟩
  obtain ⟨span, -, rfl⟩ := List.mem_map.1 hmem
  cases hdelay

/-- There is a broker that puts the message into a queue. -/
theorem puts_within (spans : List Span) (target : String) (message : Message) (isolated : Bool)
    (sent : Instant) :
    Puts (({} : Broker).createQueue target).2 sent (within spans target message isolated) target
      ((within spans target message isolated).copy sent) := by
  have hexists : (({} : Broker).createQueue target).2.queueExists target = true :=
    Broker.queueExists_createQueue.2 (.inl rfl)
  exact .unicast (Broker.unicastDelivery_eq_ok hexists not_isDelayed_within)

/-- **The last span counts.** A message that is to be received within any number of spans is never
handed to a pipeline after any of them if and only if none of them leads to an earlier time than the
last one. That a message begins, in terms of which this is said, means for every pump that
`receiveMessages` hands it to the pipeline. -/
theorem honoured_iff (spans : List Span) (target : String) (message : Message) (isolated : Bool)
    (sent : Instant) :
    (Honoured (within spans target message isolated) sent ↔
      ∀ last, spans.getLast? = some last → ∀ span ∈ spans,
        sent.later last ≤ sent.later span) ∧
    ∀ host key pump concurrency c, Ready host key pump → Reached host key pump concurrency c →
      ∀ fuel phase, HandsOver host.runs.size (runOf host key pump concurrency) c fuel phase := by
  have hdiscard := discardAfter_copy_within spans target message isolated sent
  refine ⟨⟨?_, ?_⟩, fun host key pump concurrency c => hands_of_reached⟩
  · intro h last hlast span hspan
    rw [hlast, Option.map_some] at hdiscard
    -- at the time to which the last span leads the message is still processed
    have hkept : ((within spans target message isolated).copy sent).isExpired (sent.later last)
        = false := by
      rw [Queued.isExpired, hdiscard]
      simp
    obtain ⟨c, hreached, hbegan⟩ := began_at_deadline hkept
    exact h _ _ _ (puts_within spans target message isolated sent) _ _ _ _ c
      (ready_loneHost _ _) hreached _ hbegan rfl span (mem_within.2 hspan)
  · intro h broker address queued hputs host key pump concurrency c _ hreached receipt hbegan hsame
      span hspan
    rw [mem_within] at hspan
    cases hlast : spans.getLast? with
    | none =>
      rw [List.getLast?_eq_none_iff.1 hlast] at hspan
      cases hspan
    | some last =>
      rw [hlast, Option.map_some, ← hputs.eq_copy, ← hsame] at hdiscard
      exact (began_in_time hreached hbegan hdiscard).trans (h last hlast span hspan)

/-- A note that is to be received within half a minute and within a minute. -/
def note : Delivery := within [.ofSeconds 30, .ofSeconds 60] "sales" ⟨"note", ∅, []⟩ false

/-- A host with an empty queue. -/
def shop : Host where
  world := { clock := ⟨0, 0⟩, broker := (({} : Broker).createQueue "sales").2 }
  sites := #[{}]
  pumps := [lonePump]

/-- The host once the note was sent. -/
def notedShop : Host := (shop.inSite 0 (·.perform (.dispatch ⟨[note], []⟩))).2

theorem ready_notedShop : Ready notedShop ⟨0, 0⟩ lonePump :=
  ⟨⟨nofun, List.nodup_nil, nofun⟩, rfl, rfl, rfl⟩

/-- The note is handed to a pipeline when the shorter of its spans has passed. -/
theorem note_received_late :
    (∃ c, Reached notedShop ⟨0, 0⟩ lonePump (some 1) c ∧
      .began ⟨note.copy shop.world.clock, ⟨45, 0⟩⟩ ∈ c.history) ∧
    shop.world.clock.later (.ofSeconds 30) < ⟨45, 0⟩ ∧ ¬ Honoured note shop.world.clock := by
  -- time passes before the pump looks at its queue
  have hpass : Conservation.Apart ⟨0, 0⟩ "sales" (.running 0) _ _ := apart_inSite
    (ready_notedShop.worked_start (some 1)).pumps.orderly (.running 0) 0
    (f := fun world => ((), { world with clock := ⟨45, 0⟩ })) (.of_eq rfl)
  have hpassed : Reached notedShop ⟨0, 0⟩ lonePump (some 1) _ :=
    .single (.elsewhere hpass.orderly hpass.queue (hpass.run 0 rfl))
  have hreceived := hpassed.tail (.receive 2 rfl)
  have hlate : ∃ c, Reached notedShop ⟨0, 0⟩ lonePump (some 1) c ∧
      .began ⟨note.copy shop.world.clock, ⟨45, 0⟩⟩ ∈ c.history :=
    ⟨_, hreceived, List.mem_singleton.2 rfl⟩
  obtain ⟨c, hreached, hbegan⟩ := hlate
  have hover : shop.world.clock.later (.ofSeconds 30) < ⟨45, 0⟩ := by decide
  refine ⟨⟨c, hreached, hbegan⟩, hover, fun h => ?_⟩
  have hputs : Puts shop.world.broker shop.world.clock note "sales" (note.copy shop.world.clock) :=
    .unicast rfl
  exact absurd (h _ _ _ hputs _ _ _ _ c ready_notedShop hreached _ hbegan rfl (.ofSeconds 30)
    (mem_within.2 List.mem_cons_self)) (not_le.2 hover)

end Messaging.Expiring
