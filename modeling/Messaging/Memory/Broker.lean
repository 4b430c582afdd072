import Messaging.Failure
import Messaging.Message
import Messaging.Text.LowerCase
import Messaging.Transport.Operation

/-!
# The in-memory broker

Queues and subscriptions of the endpoints of one process.

- `canonicalAddress` is the form in which addresses are compared.
- `Queued` is a message in a queue; it may carry the time after which it is dropped.
- `Broker` holds the queues and subscriptions; `Broker.deliver` puts a whole batch into its queues
  or none of it, and `Broker.Extends` says of a queue that it only gets longer.
-/

namespace Messaging

open Time (Instant Span)

/-- The form in which addresses are compared: without white space around it, in lower case. -/
def canonicalAddress (address : String) : String := Text.lowerCase (Text.trim address)

/-- A message in a queue. -/
structure Queued where
  /-- The message. -/
  message : Message
  /-- After this time the message is dropped instead of received. -/
  discardAfter : Option Instant := none
deriving DecidableEq

/-- Whether a message is to be dropped. -/
def Queued.isExpired (queued : Queued) (now : Instant) : Bool :=
  match queued.discardAfter with
  | some deadline => deadline < now
  | none => false

/-- Queues and subscriptions. -/
structure Broker where
  /-- The waiting messages of each queue by its canonical address, first to be received first. -/
  queues : Table (List Queued) := ∅
  /-- The addresses subscribed to each message type. -/
  subscriptions : Table (Table Unit) := ∅
  /-- The queues that got a message since their receivers were last told, in that order. -/
  arrivals : List String := []
deriving DecidableEq

namespace Broker

/-- The waiting messages of a queue, if it exists. -/
def queue? (broker : Broker) (address : String) : Option (List Queued) :=
  broker.queues.get? (canonicalAddress address)

/-- Whether a queue exists. -/
def queueExists (broker : Broker) (address : String) : Bool := (broker.queue? address).isSome

/-- Creates a queue, and says whether it did not exist. -/
def createQueue (broker : Broker) (address : String) : Bool × Broker :=
  if broker.queueExists address then (false, broker)
  else (true, { broker with queues := broker.queues.insert (canonicalAddress address) [] })

/-- How many messages wait in a queue; none in a queue that does not exist. -/
def depth (broker : Broker) (address : String) : Nat := ((broker.queue? address).getD []).length

/-- Changes the waiting messages of a queue that exists. -/
def modifyQueue (broker : Broker) (address : String) (f : List Queued → List Queued) : Broker :=
  match broker.queue? address with
  | some messages =>
    { broker with queues := broker.queues.insert (canonicalAddress address) (f messages) }
  | none => broker

/-- Notes that a queue got a message. -/
def arrived (broker : Broker) (address : String) : Broker :=
  { broker with arrivals := broker.arrivals ++ [canonicalAddress address] }

/-- Puts a message at the end of a queue. -/
def push (broker : Broker) (address : String) (message : Queued) : Broker :=
  (broker.modifyQueue address (· ++ [message])).arrived address

/-- Puts a message back to the head of a queue. -/
def requeue (broker : Broker) (address : String) (message : Queued) : Broker :=
  (broker.modifyQueue address (message :: ·)).arrived address

/-- Takes the first message of a queue. -/
def pop (broker : Broker) (address : String) : Option Queued × Broker :=
  match broker.queue? address with
  | some (first :: _) => (some first, broker.modifyQueue address List.tail)
  | _ => (none, broker)

/-- A queue changes only together with the queues at the same canonical address. -/
theorem queue?_modifyQueue (broker : Broker) (address other : String)
    (f : List Queued → List Queued) :
    (broker.modifyQueue address f).queue? other
      = if canonicalAddress other = canonicalAddress address then (broker.queue? other).map f
        else broker.queue? other := by
  unfold modifyQueue
  -- a queue that does not exist is not made by a change
  split
  · next messages hmessages =>
    rw [queue?, Table.get?_insert]
    split
    · next hsame =>
      rw [queue?, hsame]
      exact (congrArg (Option.map f) hmessages).symm
    · rfl
  · next hnone =>
    split
    · next hsame =>
      rw [queue?] at hnone
      rw [queue?, hsame, hnone]
      rfl
    · rfl

/-- A message that is put into a queue is the last of it. -/
theorem queue?_push (broker : Broker) (address : String) (message : Queued) :
    (broker.push address message).queue? address
      = (broker.queue? address).map (· ++ [message]) :=
  (queue?_modifyQueue broker address address _).trans (if_pos rfl)

/-- A message that is put back is the first of its queue. -/
theorem queue?_requeue (broker : Broker) (address : String) (message : Queued) :
    (broker.requeue address message).queue? address
      = (broker.queue? address).map (message :: ·) :=
  (queue?_modifyQueue broker address address _).trans (if_pos rfl)

/-- What a queue holds once its first message is taken. -/
theorem queue?_pop (broker : Broker) (address : String) :
    (∃ first rest, broker.queue? address = some (first :: rest) ∧
        (broker.pop address).1 = some first ∧ (broker.pop address).2.queue? address = some rest) ∨
      (broker.pop address).1 = none ∧ (broker.pop address).2 = broker := by
  unfold pop
  split
  · next first rest hmessages =>
    refine .inl ⟨first, rest, hmessages, rfl, ?_⟩
    rw [queue?_modifyQueue, if_pos rfl, hmessages]
    rfl
  · exact .inr ⟨rfl, rfl⟩

/-- Drops every waiting message of a queue. -/
def purge (broker : Broker) (address : String) : Broker := broker.modifyQueue address fun _ => []

/-- The addresses subscribed to a message type, in order. -/
def subscribers (broker : Broker) (messageType : String) : List String :=
  (broker.subscriptions.getD messageType ∅).keys

/-- Adds a subscriber. -/
def subscribe (broker : Broker) (messageType address : String) : Broker :=
  let addresses := broker.subscriptions.getD messageType ∅
  { broker with
    subscriptions :=
      broker.subscriptions.insert messageType (addresses.insert (canonicalAddress address) ()) }

/-- Removes a subscriber. -/
def unsubscribe (broker : Broker) (messageType address : String) : Broker :=
  match broker.subscriptions.get? messageType with
  | some addresses =>
    { broker with
      subscriptions :=
        broker.subscriptions.insert messageType (addresses.erase (canonicalAddress address)) }
  | none => broker

/-! ### Batches -/

/-- The refusal of a message that is to be delayed. -/
def delayRefused (message : Message) : TransportError :=
  .unsupported ("the in-memory transport cannot delay delivery of message '" ++ message.id ++ "'")

/-- A message for a queue: of several times to be received the last counts, and a delay is
refused. -/
def queuedWith (message : Message) (now : Instant) :
    List Constraint → Option Instant → Except TransportError Queued
  | [], discardAfter => .ok ⟨message, discardAfter⟩
  | .discardAfter span :: rest, _ => queuedWith message now rest (some (now.later span))
  | _ :: _, _ => .error (delayRefused message)

/-- The queue and message of an operation to one address. -/
def unicastDelivery (broker : Broker) (now : Instant) (delivery : Delivery) :
    Except TransportError (String × Queued) := do
  if broker.queueExists delivery.target then
    let queued ← queuedWith delivery.message now delivery.constraints none
    .ok (delivery.target, queued)
  else .error (.queueNotFound (canonicalAddress delivery.target))

/-- The queues and messages of an operation to subscribers; one without a queue is passed over. -/
def multicastDeliveries (broker : Broker) (now : Instant) (delivery : Delivery) :
    Except TransportError (List (String × Queued)) :=
  ((broker.subscribers delivery.target).filter broker.queueExists).mapM fun address => do
    let queued ← queuedWith delivery.message now delivery.constraints none
    .ok (address, queued)

/-- The queues and messages of a batch. -/
def deliveries (broker : Broker) (now : Instant) (batch : Batch) :
    Except TransportError (List (String × Queued)) := do
  let unicast ← batch.unicast.mapM (broker.unicastDelivery now)
  -- nothing is put into a queue before every operation is known to be possible
  let multicast ← batch.multicast.mapM (broker.multicastDeliveries now)
  .ok (unicast ++ multicast.flatten)

/-- Puts every message of a batch into its queue, or none if one of them is refused. -/
def deliver (broker : Broker) (now : Instant) (batch : Batch) :
    Except TransportError Unit × Broker :=
  match broker.deliveries now batch with
  | .ok messages =>
    (.ok (), messages.foldl (fun broker entry => broker.push entry.1 entry.2) broker)
  | .error error => (.error error, broker)

/-! ### Queues that only get longer -/

/-- The messages that waited in a queue still wait in it, before any others. -/
def Extends (address : String) (broker broker' : Broker) : Prop :=
  ∀ waiting, broker.queue? address = some waiting →
    ∃ later, broker'.queue? address = some (waiting ++ later)

namespace Extends

variable {address : String} {broker broker' broker'' : Broker}

/-- Where a queue stays as it is, its messages still wait. -/
theorem of_eq (h : broker'.queue? address = broker.queue? address) :
    Extends address broker broker' :=
  fun waiting hwaiting => ⟨[], by rw [h, hwaiting, List.append_nil]⟩

/-- Messages that still wait may do so for longer. -/
theorem trans (h : Extends address broker broker') (h' : Extends address broker' broker'') :
    Extends address broker broker'' := by
  intro waiting hwaiting
  obtain ⟨later, hlater⟩ := h waiting hwaiting
  obtain ⟨latest, hlatest⟩ := h' _ hlater
  exact ⟨later ++ latest, by rw [hlatest, List.append_assoc]⟩

/-- A queue with messages that still wait is still there. -/
theorem isSome (h : Extends address broker broker') (hsome : (broker.queue? address).isSome) :
    (broker'.queue? address).isSome := by
  obtain ⟨waiting, hwaiting⟩ := Option.isSome_iff_exists.1 hsome
  obtain ⟨later, hlater⟩ := h waiting hwaiting
  rw [hlater]
  rfl

/-- A message that is put into a queue comes after those that wait. -/
theorem push (address : String) (broker : Broker) (other : String) (queued : Queued) :
    Extends address broker (broker.push other queued) := by
  intro waiting hwaiting
  have hpush : (broker.push other queued).queue? address = _ :=
    queue?_modifyQueue broker other address _
  rw [hpush]
  split
  · exact ⟨[queued], by rw [hwaiting, Option.map_some]⟩
  · exact ⟨[], by rw [hwaiting, List.append_nil]⟩

/-- So do those of a batch. -/
theorem deliver (address : String) (broker : Broker) (now : Instant) (batch : Batch) :
    Extends address broker (broker.deliver now batch).2 := by
  unfold Broker.deliver
  split
  · next messages hmessages =>
    clear hmessages
    induction messages generalizing broker with
    | nil => exact of_eq rfl
    | cons entry rest ih => exact (push address broker entry.1 entry.2).trans (ih _)
  · exact of_eq rfl

/-- A new queue takes the place of no other. -/
theorem createQueue (address : String) (broker : Broker) (other : String) :
    Extends address broker (broker.createQueue other).2 := by
  intro waiting hwaiting
  unfold Broker.createQueue
  split
  · exact ⟨[], by rw [hwaiting, List.append_nil]⟩
  · next hnew =>
    refine ⟨[], ?_⟩
    rw [queue?, Table.get?_insert, if_neg, List.append_nil]
    · exact hwaiting
    · intro hsame
      rw [queueExists, queue?, ← hsame, ← queue?, hwaiting] at hnew
      exact hnew rfl

end Extends

end Broker

end Messaging
