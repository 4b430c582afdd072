import Messaging.Proofs.Subscribing

/-!
# Addresses that stand for each other

To a broker an address is what its canonical form is: it cannot tell two spellings of one address
apart, whatever is done with it.

- `QueueCall` is a call of a queue that was looked up, and `BrokerCall` a call of the broker or of
  such a queue. `BrokerSession` is the broker together with the queues looked up so far.
- `BrokerSession.perform` is one call with its reply, and `BrokerSession.run` a sequence of calls.
- `BrokerCall.canonical` puts every address of a call into its canonical form;
  `perform_canonical` says that the call does the same.
- `addresses_interchangeable` says it of two sequences of calls.
-/

namespace Messaging

open Time (Instant)

/-! ### Calls -/

/-- A call of a queue that was looked up. -/
inductive QueueCall where
  /-- Puts a message at the end. -/
  | push (queued : Queued)
  /-- Puts a message back to the head. -/
  | requeue (queued : Queued)
  /-- Takes the first message. -/
  | pop
  /-- Counts the messages. -/
  | length
  /-- Drops the messages and says how many there were. -/
  | purge
deriving DecidableEq

/-- A call of a broker, or of a queue that was looked up in it. -/
inductive BrokerCall where
  /-- Creates a queue, and says whether it did not exist. -/
  | createQueue (address : String)
  /-- Asks whether a queue exists. -/
  | queueExists (address : String)
  /-- Looks a queue up. -/
  | queue (address : String)
  /-- Counts the messages of a queue. -/
  | depth (address : String)
  /-- Takes all messages of a queue. -/
  | takeMessages (address : String)
  /-- Adds a subscriber. -/
  | subscribe (messageType address : String)
  /-- Removes a subscriber. -/
  | unsubscribe (messageType address : String)
  /-- Asks for the subscribers. -/
  | subscribers (messageType : String)
  /-- Hands over a batch. -/
  | dispatch (now : Instant) (batch : Batch)
  /-- Calls the queue that was looked up with this number. -/
  | use (number : Nat) (call : QueueCall)
deriving DecidableEq

/-- What a call replies. -/
inductive BrokerReply where
  /-- Nothing. -/
  | done
  /-- Yes or no. -/
  | flag (flag : Bool)
  /-- A number. -/
  | count (count : Nat)
  /-- The queue that was looked up, if there is one. -/
  | found (queue : Option String)
  /-- Addresses. -/
  | addresses (addresses : List String)
  /-- Messages. -/
  | messages (messages : List Message)
  /-- The message that was taken, if there was one. -/
  | taken (queued : Option Queued)
  /-- Whether a batch was delivered. -/
  | dispatched (result : Except TransportError Unit)

namespace QueueCall

/-- The reply of a call of a queue, and the broker after it. -/
def perform (broker : Broker) (queue : String) : QueueCall → BrokerReply × Broker
  | push queued => (.done, broker.push queue queued)
  | requeue queued => (.done, broker.requeue queue queued)
  | pop => ((broker.pop queue).map .taken id)
  | length => (.count (broker.depth queue), broker)
  | purge => (.count (broker.depth queue), broker.purge queue)

end QueueCall

/-- A broker and the queues that were looked up in it, each by the key under which the broker has
it, since a broker never gives up a queue (`BrokerSession.holds_run`). -/
structure BrokerSession where
  /-- The broker. -/
  broker : Broker := {}
  /-- The queues that were looked up. -/
  queues : List String := []
deriving DecidableEq

namespace BrokerSession

/-- The same queues in another broker. -/
def after (session : BrokerSession) (result : BrokerReply × Broker) : BrokerReply × BrokerSession :=
  (result.1, { session with broker := result.2 })

/-- The reply of a call, and the session after it. -/
def perform (session : BrokerSession) : BrokerCall → BrokerReply × BrokerSession
  | .createQueue address => session.after ((session.broker.createQueue address).map .flag id)
  | .queueExists address => (.flag (session.broker.queueExists address), session)
  | .queue address =>
    let queue := canonicalAddress address
    if session.broker.queueExists address then
      (.found (some queue), { session with queues := session.queues ++ [queue] })
    else (.found none, session)
  | .depth address => (.count (session.broker.depth address), session)
  | .takeMessages address =>
    session.after (.messages (((session.broker.queue? address).getD []).map (·.message)),
      session.broker.purge address)
  | .subscribe messageType address =>
    session.after (.done, session.broker.subscribe messageType address)
  | .unsubscribe messageType address =>
    session.after (.done, session.broker.unsubscribe messageType address)
  | .subscribers messageType => (.addresses (session.broker.subscribers messageType), session)
  | .dispatch now batch => session.after ((session.broker.deliver now batch).map .dispatched id)
  | .use number call =>
    match session.queues[number]? with
    | some queue => session.after (call.perform session.broker queue)
    | none => (.found none, session)

/-- The replies of a sequence of calls, and the session after it. -/
def run (session : BrokerSession) : List BrokerCall → List BrokerReply × BrokerSession
  | [] => ([], session)
  | call :: rest =>
    let result := session.perform call
    (result.2.run rest).map (result.1 :: ·) id

end BrokerSession

/-! ### Canonical addresses -/

/-- The same message to the canonical form of its address. -/
def Delivery.canonical (delivery : Delivery) : Delivery :=
  { delivery with target := canonicalAddress delivery.target }

/-- The same batch to canonical addresses; message types are no addresses. -/
def Batch.canonical (batch : Batch) : Batch :=
  { batch with unicast := batch.unicast.map Delivery.canonical }

/-- The same call with every address in its canonical form. -/
def BrokerCall.canonical : BrokerCall → BrokerCall
  | createQueue address => createQueue (canonicalAddress address)
  | queueExists address => queueExists (canonicalAddress address)
  | queue address => queue (canonicalAddress address)
  | depth address => depth (canonicalAddress address)
  | takeMessages address => takeMessages (canonicalAddress address)
  | subscribe messageType address => subscribe messageType (canonicalAddress address)
  | unsubscribe messageType address => unsubscribe messageType (canonicalAddress address)
  | subscribers messageType => subscribers messageType
  | dispatch now batch => dispatch now batch.canonical
  | use number call => use number call

namespace Broker

variable (broker : Broker) (address : String)

/-- `Broker.queue?` looks at the canonical address only, and so do the calls below. -/
@[simp]
theorem queue?_canonicalAddress :
    broker.queue? (canonicalAddress address) = broker.queue? address := by
  rw [queue?, queue?, canonicalAddress_canonicalAddress]

@[simp]
theorem queueExists_canonicalAddress :
    broker.queueExists (canonicalAddress address) = broker.queueExists address := by
  rw [queueExists, queueExists, queue?_canonicalAddress]

@[simp]
theorem depth_canonicalAddress :
    broker.depth (canonicalAddress address) = broker.depth address := by
  rw [depth, depth, queue?_canonicalAddress]

/-- Every change of one queue goes through `Broker.modifyQueue`. -/
@[simp]
theorem modifyQueue_canonicalAddress (f : List Queued → List Queued) :
    broker.modifyQueue (canonicalAddress address) f = broker.modifyQueue address f := by
  rw [modifyQueue, modifyQueue, queue?_canonicalAddress, canonicalAddress_canonicalAddress]

@[simp]
theorem push_canonicalAddress (queued : Queued) :
    broker.push (canonicalAddress address) queued = broker.push address queued := by
  simp [push, arrived, canonicalAddress_canonicalAddress]

@[simp]
theorem purge_canonicalAddress :
    broker.purge (canonicalAddress address) = broker.purge address :=
  modifyQueue_canonicalAddress ..

@[simp]
theorem createQueue_canonicalAddress :
    broker.createQueue (canonicalAddress address) = broker.createQueue address := by
  simp [createQueue, canonicalAddress_canonicalAddress]

/-- A subscription is kept under the canonical address of the queue. -/
@[simp]
theorem subscribe_canonicalAddress (messageType : String) :
    broker.subscribe messageType (canonicalAddress address)
      = broker.subscribe messageType address := by
  rw [subscribe, subscribe, canonicalAddress_canonicalAddress]

@[simp]
theorem unsubscribe_canonicalAddress (messageType : String) :
    broker.unsubscribe messageType (canonicalAddress address)
      = broker.unsubscribe messageType address := by
  rw [unsubscribe, unsubscribe, canonicalAddress_canonicalAddress]

/-! ### Batches in any spelling -/

/-- What is to be put into a queue, by the key of the queue. -/
def keyed (entry : String × Queued) : String × Queued := entry.map canonicalAddress id

/-- Messages are put into queues by the keys of the queues. -/
theorem pushAll_keyed (entries : List (String × Queued)) :
    (entries.map keyed).foldl (fun broker entry => broker.push entry.1 entry.2) broker
      = entries.foldl (fun broker entry => broker.push entry.1 entry.2) broker := by
  induction entries generalizing broker with
  | nil => rfl
  | cons entry rest ih =>
    rw [List.map_cons, List.foldl_cons, List.foldl_cons, ih]
    simp [keyed]

variable (now : Instant)

/-- What `Broker.unicastDelivery` makes of a delivery to the canonical address is the same, but for
the key. -/
theorem unicastDelivery_canonical (delivery : Delivery) :
    broker.unicastDelivery now delivery.canonical
      = (broker.unicastDelivery now delivery).map keyed := by
  simp only [unicastDelivery, Delivery.canonical, queueExists_canonicalAddress,
    canonicalAddress_canonicalAddress]
  split
  · cases queuedWith delivery.message now delivery.constraints none with
    | error error => rfl
    | ok queued => rfl
  · rfl

/-- Operations to other spellings of their addresses are refused as they are, or go to the same
queues. -/
theorem mapM_unicastDelivery_canonical (unicast : List Delivery) :
    (unicast.map Delivery.canonical).mapM (broker.unicastDelivery now)
      = (unicast.mapM (broker.unicastDelivery now)).map (List.map keyed) := by
  induction unicast with
  | nil => rfl
  | cons delivery rest ih =>
    rw [List.map_cons, List.mapM_cons, List.mapM_cons, ih, unicastDelivery_canonical]
    cases broker.unicastDelivery now delivery with
    | error error => rfl
    | ok entry =>
      cases rest.mapM (broker.unicastDelivery now) with
      | error error => rfl
      | ok entries => rfl

/-- A batch with canonical addresses is delivered, or refused, like the batch itself. -/
@[simp]
theorem deliver_canonical (batch : Batch) :
    broker.deliver now batch.canonical = broker.deliver now batch := by
  rw [deliver, deliver, deliveries, deliveries, Batch.canonical, mapM_unicastDelivery_canonical]
  cases batch.unicast.mapM (broker.unicastDelivery now) with
  | error error => rfl
  | ok unicast =>
    cases batch.multicast.mapM (broker.multicastDeliveries now) with
    | error error => rfl
    | ok multicast =>
      show (Except.ok (), (unicast.map keyed ++ multicast.flatten).foldl _ broker)
        = (Except.ok (), (unicast ++ multicast.flatten).foldl _ broker)
      rw [List.foldl_append, List.foldl_append, pushAll_keyed]

/-! ### Queues that stay -/

/-- A message more in a queue creates no queue, and neither does any other call on a queue. -/
@[simp]
theorem queueExists_push (queued : Queued) (other : String) :
    (broker.push address queued).queueExists other = broker.queueExists other :=
  queueExists_modifyQueue broker address other _

@[simp]
theorem queueExists_requeue (queued : Queued) (other : String) :
    (broker.requeue address queued).queueExists other = broker.queueExists other :=
  queueExists_modifyQueue broker address other _

/-- A message less removes no queue. -/
@[simp]
theorem queueExists_pop (other : String) :
    (broker.pop address).2.queueExists other = broker.queueExists other := by
  rw [pop]
  split
  · exact queueExists_modifyQueue broker address other _
  · rfl

@[simp]
theorem queueExists_purge (other : String) :
    (broker.purge address).queueExists other = broker.queueExists other :=
  queueExists_modifyQueue broker address other _

@[simp]
theorem queueExists_subscribe (messageType other : String) :
    (broker.subscribe messageType address).queueExists other = broker.queueExists other := rfl

@[simp]
theorem queueExists_unsubscribe (messageType other : String) :
    (broker.unsubscribe messageType address).queueExists other = broker.queueExists other := by
  rw [unsubscribe]
  split <;> rfl

end Broker

/-! ### Sequences of calls -/

namespace BrokerSession

/-- A call of a queue takes no queue away. -/
theorem queueExists_use (broker : Broker) (queue : String) (call : QueueCall) (address : String) :
    (call.perform broker queue).2.queueExists address = broker.queueExists address := by
  cases call <;> simp [QueueCall.perform]

/-- A call takes no queue away. -/
theorem queueExists_perform (session : BrokerSession) (call : BrokerCall) {address : String}
    (h : session.broker.queueExists address = true) :
    (session.perform call).2.broker.queueExists address = true := by
  cases call with
  | createQueue other => exact Broker.queueExists_createQueue.2 (.inr h)
  | queue other =>
    rw [perform]
    split <;> exact h
  | dispatch now batch => exact (Broker.queueExists_deliver ..).trans h
  | use number call =>
    rw [perform]
    split
    · exact (queueExists_use ..).trans h
    · exact h
  | _ => simpa [perform, after] using h

/-- The queues that were looked up are queues of the broker, each under its key. -/
def Holds (session : BrokerSession) : Prop :=
  ∀ queue ∈ session.queues,
    canonicalAddress queue = queue ∧ session.broker.queueExists queue = true

/-- A call leaves the queues alone that were looked up before it. -/
theorem holds_perform {session : BrokerSession} (h : session.Holds) (call : BrokerCall) :
    (session.perform call).2.Holds := by
  -- no call deletes a queue, so those that were found stay
  have hkept {queue : String} (hqueue : queue ∈ session.queues) :
      canonicalAddress queue = queue ∧
        (session.perform call).2.broker.queueExists queue = true :=
    ⟨(h queue hqueue).1, queueExists_perform session call (h queue hqueue).2⟩
  intro queue hqueue
  cases call with
  | queue address =>
    rw [perform] at hqueue ⊢
    split at hqueue
    · next hexists =>
      -- only a look-up that succeeds adds to what was found
      rcases List.mem_append.1 hqueue with hold | hnew
      · rw [if_pos hexists]
        exact h queue hold
      · rw [List.mem_singleton.1 hnew, if_pos hexists]
        exact ⟨canonicalAddress_canonicalAddress address, by simpa using hexists⟩
    · next hmissing =>
      rw [if_neg hmissing]
      exact h queue hqueue
  | use number call =>
    refine hkept ?_
    rw [perform] at hqueue
    split at hqueue <;> exact hqueue
  | _ => exact hkept hqueue

/-- So does a sequence of calls: a queue that was looked up is never given up. -/
theorem holds_run {session : BrokerSession} (h : session.Holds) (calls : List BrokerCall) :
    (session.run calls).2.Holds := by
  induction calls generalizing session with
  | nil => exact h
  | cons call rest ih => exact ih (holds_perform h call)

/-- A call does the same with every address in its canonical form. -/
theorem perform_canonical (session : BrokerSession) (call : BrokerCall) :
    session.perform call.canonical = session.perform call := by
  cases call with
  | queue address => simp [BrokerCall.canonical, perform, canonicalAddress_canonicalAddress]
  | _ => simp [BrokerCall.canonical, perform]

/-- So does a sequence of calls. -/
theorem run_canonical (session : BrokerSession) (calls : List BrokerCall) :
    session.run (calls.map BrokerCall.canonical) = session.run calls := by
  induction calls generalizing session with
  | nil => rfl
  | cons call rest ih => rw [List.map_cons, run, run, perform_canonical, ih]

end BrokerSession

/-- An address in its canonical form is its own canonical form; and where two sequences of calls
differ only in how they spell addresses, every call gets the same reply, and the same broker and the
same looked-up queues are left behind. -/
theorem addresses_interchangeable :
    (∀ address, canonicalAddress (canonicalAddress address) = canonicalAddress address) ∧
    ∀ (session : BrokerSession) (calls calls' : List BrokerCall),
      calls.map BrokerCall.canonical = calls'.map BrokerCall.canonical →
      session.run calls = session.run calls' := by
  refine ⟨canonicalAddress_canonicalAddress, fun session calls calls' hsame => ?_⟩
  calc session.run calls
      = session.run (calls.map BrokerCall.canonical) := (session.run_canonical calls).symm
    _ = session.run (calls'.map BrokerCall.canonical) := by rw [hsame]
    _ = session.run calls' := session.run_canonical calls'

/-- Calls that spell one address in several ways. -/
def spelledCalls : List BrokerCall := [
  .createQueue " SALES ", .queue "Sales", .subscribe "OrderPlaced" "sALES\n",
  .dispatch ⟨0, 0⟩ ⟨[{ orderPlaced with target := "SaLeS " }], [orderPlaced]⟩, .use 0 .pop,
  .unsubscribe "OrderPlaced" " sales", .depth "SALES"]

/-- The same calls with the address in its canonical form. -/
def plainCalls : List BrokerCall := [
  .createQueue "sales", .queue "sales", .subscribe "OrderPlaced" "sales",
  .dispatch ⟨0, 0⟩ ⟨[{ orderPlaced with target := "sales" }], [orderPlaced]⟩, .use 0 .pop,
  .unsubscribe "OrderPlaced" "sales", .depth "sales"]

/-- `spelledCalls` and `plainCalls` leave the same broker, with one message in the queue of sales.
-/
theorem addresses_interchangeable_sales :
    canonicalAddress (canonicalAddress " SALES ") = "sales" ∧
    spelledCalls.map BrokerCall.canonical = plainCalls.map BrokerCall.canonical ∧
    BrokerSession.run {} spelledCalls = BrokerSession.run {} plainCalls ∧
    (BrokerSession.run {} spelledCalls).2.broker.depth "sales" = 1 := by
  have hsame : spelledCalls.map BrokerCall.canonical = plainCalls.map BrokerCall.canonical := by
    decide +kernel
  have hrun := addresses_interchangeable.2 {} spelledCalls plainCalls hsame
  refine ⟨?_, hsame, hrun, ?_⟩
  · rw [addresses_interchangeable.1]
    decide +kernel
  · rw [hrun]
    decide +kernel

end Messaging
