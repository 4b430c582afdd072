import Mathlib.Data.List.Forall2
import Mathlib.Data.List.Induction
import Messaging.Memory.Broker
import Messaging.Proofs.Canonical

/-!
# Publishing to subscribers

One broker is shared by many endpoints, which create queues, change subscriptions and hand it
batches in any order.

- `BrokerEvent` is one thing that is done to a broker, and `replay` the broker after a history.
- `HasQueue` and `Subscribed` read off a history which queues there are and who is subscribed;
  `queueExists_replay` and `mem_subscribers_replay` say that the broker knows the same.
- `publish_reaches_subscribers` says what publishing adds to each queue.
-/

namespace Messaging.Broker

variable {broker broker' : Broker} {messageType other address key : String}

/-! ### What one operation does -/

/-- `Broker.subscribers` lists the keys of the subscriptions of a type. -/
theorem mem_subscribers :
    key ∈ broker.subscribers messageType ↔
      (broker.subscriptions.getD messageType ∅).get? key = some () := by
  rw [Table.get?_eq_some_iff, subscribers, Table.keys, List.mem_map]
  constructor
  · rintro ⟨⟨_, _⟩, hmem, rfl⟩
    exact hmem
  · exact fun hmem => ⟨_, hmem, rfl⟩

/-- An address is subscribed once. -/
theorem nodup_subscribers (broker : Broker) (messageType : String) :
    (broker.subscribers messageType).Nodup :=
  List.pairwise_map.2 ((broker.subscriptions.getD messageType ∅).ordered.imp
    fun {first later} hlt (hsame : first.1 = later.1) => String.lt_irrefl later.1 (hsame ▸ hlt))

/-- To subscribe adds one subscriber. -/
theorem mem_subscribers_subscribe :
    key ∈ (broker.subscribe other address).subscribers messageType ↔
      messageType = other ∧ key = canonicalAddress address ∨
        key ∈ broker.subscribers messageType := by
  rw [mem_subscribers, mem_subscribers, subscribe, Table.getD, Table.get?_insert]
  by_cases htype : messageType = other
  · subst htype
    rw [if_pos rfl, Option.getD_some, Table.get?_insert]
    by_cases hkey : key = canonicalAddress address <;> simp [hkey]
  · rw [if_neg htype, Table.getD]
    simp [htype]

/-- To unsubscribe removes one subscriber. -/
theorem mem_subscribers_unsubscribe :
    key ∈ (broker.unsubscribe other address).subscribers messageType ↔
      ¬ (messageType = other ∧ key = canonicalAddress address) ∧
        key ∈ broker.subscribers messageType := by
  rw [mem_subscribers, mem_subscribers, unsubscribe]
  -- the keys of one type are filtered, those of the others stay
  by_cases htype : messageType = other
  · subst htype
    split
    · next addresses haddresses =>
      rw [Table.getD, Table.get?_insert_self, Option.getD_some, Table.get?_erase, Table.getD,
        haddresses, Option.getD_some]
      by_cases hkey : key = canonicalAddress address <;> simp [hkey]
    · next hnone => simp [Table.getD, hnone]
  · split
    · next addresses haddresses => simp [Table.getD, Table.get?_insert, htype]
    · simp [htype]

/-- What happens to one queue changes no subscription. -/
theorem subscriptions_modifyQueue (broker : Broker) (address : String)
    (f : List Queued → List Queued) :
    (broker.modifyQueue address f).subscriptions = broker.subscriptions := by
  unfold modifyQueue
  split <;> rfl

/-- What happens to one queue creates none. -/
theorem queueExists_modifyQueue (broker : Broker) (address other : String)
    (f : List Queued → List Queued) :
    (broker.modifyQueue address f).queueExists other = broker.queueExists other := by
  rw [queueExists, queueExists, queue?_modifyQueue]
  split
  · rw [Option.isSome_map]
  · rfl

/-- Addresses with one canonical form name one queue. -/
theorem queueExists_createQueue :
    (broker.createQueue address).2.queueExists other = true ↔
      canonicalAddress other = canonicalAddress address ∨ broker.queueExists other = true := by
  rw [createQueue]
  split
  · next hexists =>
    refine ⟨.inr, ?_⟩
    rintro (hsame | hother)
    · rwa [queueExists, queue?, hsame]
    · exact hother
  · rw [queueExists, queueExists, queue?, Table.get?_insert, queue?]
    split
    · next hsame => simp [hsame]
    · next hne => simp [hne]

/-- To create a queue subscribes nobody. Neither do messages that are pushed or delivered. -/
theorem subscriptions_createQueue (broker : Broker) (address : String) :
    (broker.createQueue address).2.subscriptions = broker.subscriptions := by
  unfold createQueue
  split <;> rfl

/-! ### What a batch adds -/

/-- Messages that are put into queues come after those that wait there. -/
theorem queue?_pushAll (entries : List (String × Queued)) (broker : Broker) (address : String) :
    (entries.foldl (fun broker entry => broker.push entry.1 entry.2) broker).queue? address
      = (broker.queue? address).map (· ++
        (entries.filter fun entry => canonicalAddress address = canonicalAddress entry.1).map
          (·.2)) := by
  induction entries generalizing broker with
  | nil => simp
  | cons entry rest ih =>
    -- one push adds to the queue that has its canonical address
    have hpush : (broker.push entry.1 entry.2).queue? address
        = if canonicalAddress address = canonicalAddress entry.1
          then (broker.queue? address).map (· ++ [entry.2]) else broker.queue? address :=
      queue?_modifyQueue broker entry.1 address _
    rw [List.foldl_cons, ih, hpush]
    by_cases hsame : canonicalAddress address = canonicalAddress entry.1
    · rw [if_pos hsame, List.filter_cons_of_pos (by simpa using hsame), Option.map_map]
      simp [Function.comp_def]
    · rw [if_neg hsame, List.filter_cons_of_neg (by simpa using hsame)]

theorem subscriptions_pushAll (entries : List (String × Queued)) (broker : Broker) :
    (entries.foldl (fun broker entry => broker.push entry.1 entry.2) broker).subscriptions
      = broker.subscriptions := by
  induction entries generalizing broker with
  | nil => rfl
  | cons entry rest ih =>
    rw [List.foldl_cons, ih]
    exact subscriptions_modifyQueue broker entry.1 _

theorem subscriptions_deliver (broker : Broker) (now : Time.Instant) (batch : Batch) :
    (broker.deliver now batch).2.subscriptions = broker.subscriptions := by
  unfold deliver
  split
  · exact subscriptions_pushAll ..
  · rfl

/-- A batch creates no queue, whether it is refused or not. -/
theorem queueExists_deliver (broker : Broker) (now : Time.Instant) (batch : Batch)
    (address : String) :
    (broker.deliver now batch).2.queueExists address = broker.queueExists address := by
  unfold deliver
  split
  · rw [queueExists, queueExists, queue?_pushAll, Option.isSome_map]
  · rfl

/-- Where every element of a list gives a result, the results are those of the elements. -/
theorem forall₂_of_mapM {α β ε : Type} {f : α → Except ε β} {items : List α} {results : List β}
    (h : items.mapM f = .ok results) :
    List.Forall₂ (fun item result => f item = .ok result) items results := by
  induction items generalizing results with
  | nil =>
    cases h
    exact .nil
  | cons item rest ih =>
    rw [List.mapM_cons] at h
    cases hitem : f item with
    | error error =>
      rw [hitem] at h
      cases h
    | ok result =>
      cases hrest : rest.mapM f with
      | error error =>
        rw [hitem, hrest] at h
        cases h
      | ok others =>
        rw [hitem, hrest] at h
        cases h
        exact .cons hitem (ih hrest)

/-- What waits in a queue is a copy of a message that was published at a time. -/
structure IsCopy (now : Time.Instant) (delivery : Delivery) (queued : Queued) : Prop where
  /-- It holds the message. -/
  message : queued.message = delivery.message
  /-- It is dropped when the message asks for it. -/
  discardAfter :
    queuedWith delivery.message now delivery.constraints none = .ok queued

/-- What waits in a queue is the message that was sent. -/
theorem message_of_queuedWith {message : Message} {now : Time.Instant}
    {constraints : List Constraint} {discardAfter : Option Time.Instant} {queued : Queued}
    (h : queuedWith message now constraints discardAfter = .ok queued) :
    queued.message = message := by
  induction constraints generalizing discardAfter with
  | nil =>
    cases h
    rfl
  | cons constraint rest ih =>
    cases constraint with
    | discardAfter span => exact ih h
    | delayBy span => cases h
    | notBefore time => cases h

/-- Where addresses are canonical and different, at most one message is for the queue of an
address. -/
theorem copies_of_forall₂ {now : Time.Instant} {delivery : Delivery} {targets : List String}
    {entries : List (String × Queued)}
    (h : List.Forall₂ (fun target entry => entry.1 = target ∧ IsCopy now delivery entry.2) targets
      entries) (hnodup : targets.Nodup) (hcanonical : ∀ key ∈ targets, canonicalAddress key = key)
    (address : String) :
    List.Forall₂ (IsCopy now)
      (if canonicalAddress address ∈ targets then [delivery] else [])
      ((entries.filter fun entry => canonicalAddress address = canonicalAddress entry.1).map
        (·.2)) := by
  induction h with
  | nil => exact .nil
  | @cons target entry targets entries hentry _ ih =>
    obtain ⟨rfl, hcopy⟩ := hentry
    obtain ⟨hnew, hnodup⟩ := List.nodup_cons.1 hnodup
    obtain ⟨htarget, hcanonical⟩ := List.forall_mem_cons.1 hcanonical
    specialize ih hnodup hcanonical
    -- the targets differ, so at most one of the entries is for the address
    by_cases hsame : canonicalAddress address = entry.1
    · rw [hsame, if_neg hnew] at ih
      rw [hsame, if_pos List.mem_cons_self, List.filter_cons_of_pos (by simpa using htarget.symm)]
      exact .cons hcopy ih
    · rw [List.filter_cons_of_neg (by simpa [htarget] using hsame)]
      simpa only [List.mem_cons, hsame, false_or] using ih

/-- A publish puts one copy into the queue of a subscriber, and none into any other. -/
theorem copies_of_publish {now : Time.Instant} {delivery : Delivery}
    {entries : List (String × Queued)}
    (h : broker.multicastDeliveries now delivery = .ok entries)
    (hcanonical : ∀ key ∈ broker.subscribers delivery.target, canonicalAddress key = key)
    (hexists : broker.queueExists address = true) :
    List.Forall₂ (IsCopy now)
      (if canonicalAddress address ∈ broker.subscribers delivery.target then [delivery] else [])
      ((entries.filter fun entry => canonicalAddress address = canonicalAddress entry.1).map
        (·.2)) := by
  have hentries : List.Forall₂ (fun target entry => entry.1 = target ∧ IsCopy now delivery entry.2)
      ((broker.subscribers delivery.target).filter broker.queueExists) entries := by
    refine (forall₂_of_mapM h).imp fun target entry hentry => ?_
    cases hqueued : queuedWith delivery.message now delivery.constraints none with
    | error error =>
      rw [hqueued] at hentry
      cases hentry
    | ok queued =>
      rw [hqueued] at hentry
      cases hentry
      exact ⟨rfl, message_of_queuedWith hqueued, hqueued⟩
  -- an address whose queue exists is among the targets if it is subscribed
  have hmem : canonicalAddress address ∈
        (broker.subscribers delivery.target).filter broker.queueExists ↔
      canonicalAddress address ∈ broker.subscribers delivery.target := by
    rw [List.mem_filter, queueExists, queue?, canonicalAddress_canonicalAddress, ← queue?,
      ← queueExists]
    exact and_iff_left hexists
  simp only [← hmem]
  exact copies_of_forall₂ hentries ((nodup_subscribers ..).filter _)
    (fun key hkey => hcanonical key (List.mem_of_mem_filter hkey)) address

/-- A batch of publishes adds to a queue one copy of each message whose type it is subscribed to, in
the order of the batch. -/
theorem deliver_publishes {now : Time.Instant} {publishes : List Delivery}
    (h : broker.deliver now ⟨[], publishes⟩ = (.ok (), broker'))
    (hcanonical : ∀ messageType, ∀ key ∈ broker.subscribers messageType,
      canonicalAddress key = key) {waiting : List Queued}
    (hwaiting : broker.queue? address = some waiting) :
    ∃ copies, broker'.queue? address = some (waiting ++ copies) ∧
      List.Forall₂ (IsCopy now)
        (publishes.filter fun delivery =>
          canonicalAddress address ∈ broker.subscribers delivery.target) copies := by
  have hexists : broker.queueExists address = true := by rw [queueExists, hwaiting, Option.isSome]
  rw [deliver, deliveries] at h
  cases hentries : publishes.mapM (broker.multicastDeliveries now) with
  | error error =>
    rw [hentries] at h
    cases h
  | ok lists =>
    rw [hentries] at h
    cases h
    refine ⟨_, by rw [queue?_pushAll, hwaiting, Option.map_some], ?_⟩
    have hlists := forall₂_of_mapM hentries
    clear hentries
    change List.Forall₂ (IsCopy now) _ ((lists.flatten.filter _).map _)
    -- one event after the other, with none or one copy for each
    induction hlists with
    | nil => exact .nil
    | @cons delivery entries _ _ hentries _ ih =>
      have hboth := List.rel_append (copies_of_publish hentries (hcanonical _) hexists) ih
      rw [List.flatten_cons, List.filter_append, List.map_append]
      by_cases hsubscribed : canonicalAddress address ∈ broker.subscribers delivery.target
      · rw [if_pos hsubscribed] at hboth
        rwa [List.filter_cons_of_pos (by simpa using hsubscribed)]
      · rw [if_neg hsubscribed] at hboth
        rwa [List.filter_cons_of_neg (by simpa using hsubscribed)]

end Messaging.Broker

namespace Messaging

open Broker

/-! ### Histories -/

/-- Something that is done to a broker. -/
inductive BrokerEvent where
  /-- A queue is created, unless it exists. -/
  | createQueue (address : String)
  /-- A queue is subscribed to a message type. -/
  | subscribe (messageType address : String)
  /-- The subscription of a queue to a message type ends. -/
  | unsubscribe (messageType address : String)
  /-- A batch is dispatched at a time, successfully or not. -/
  | deliver (now : Time.Instant) (batch : Batch)
  /-- A message is taken from a queue. -/
  | pop (address : String)
  /-- A message is put back into a queue. -/
  | requeue (address : String) (queued : Queued)
  /-- A queue is emptied. -/
  | purge (address : String)
  /-- Those who wait for messages are told of the ones that arrived. -/
  | announce

namespace BrokerEvent

/-- The broker after an event. -/
def apply (broker : Broker) : BrokerEvent → Broker
  | createQueue address => (broker.createQueue address).2
  | subscribe messageType address => broker.subscribe messageType address
  | unsubscribe messageType address => broker.unsubscribe messageType address
  | deliver now batch => (broker.deliver now batch).2
  | pop address => (broker.pop address).2
  | requeue address queued => broker.requeue address queued
  | purge address => broker.purge address
  | announce => { broker with arrivals := [] }

/-- What an event says about the subscription of a queue to a message type. -/
def subscription? (messageType address : String) : BrokerEvent → Option Bool
  | subscribe other address' =>
    if messageType = other ∧ canonicalAddress address = canonicalAddress address' then some true
    else none
  | unsubscribe other address' =>
    if messageType = other ∧ canonicalAddress address = canonicalAddress address' then some false
    else none
  | _ => none

end BrokerEvent

/-- The broker after a history. -/
def replay (events : List BrokerEvent) : Broker := events.foldl BrokerEvent.apply {}

/-- A queue was created in a history. -/
def HasQueue (events : List BrokerEvent) (address : String) : Prop :=
  ∃ created, .createQueue created ∈ events ∧ canonicalAddress address = canonicalAddress created

/-- What the latest event about the subscription of a queue to a message type says. -/
def latest? (events : List BrokerEvent) (messageType address : String) : Option Bool :=
  events.reverse.findSome? (BrokerEvent.subscription? messageType address)

/-- The latest event about a subscription says that there is one. -/
def Subscribed (events : List BrokerEvent) (messageType address : String) : Prop :=
  latest? events messageType address = some true

instance (events : List BrokerEvent) (messageType address : String) :
    Decidable (Subscribed events messageType address) := inferInstanceAs (Decidable (_ = _))

variable {events : List BrokerEvent} {event : BrokerEvent} {messageType address key : String}

/-- `replay` goes through the events from the first one. -/
theorem replay_concat (events : List BrokerEvent) (event : BrokerEvent) :
    replay (events ++ [event]) = event.apply (replay events) := by
  rw [replay, List.foldl_append]
  rfl

/-- Whether a history `HasQueue` and what `latest?` came last in it is told by its last event and
those before. -/
theorem hasQueue_concat :
    HasQueue (events ++ [event]) address ↔
      (∃ created, event = .createQueue created ∧
        canonicalAddress address = canonicalAddress created) ∨ HasQueue events address := by
  simp only [HasQueue, List.mem_append, List.mem_singleton]
  constructor
  · rintro ⟨created, hmem | rfl, hsame⟩
    · exact .inr ⟨created, hmem, hsame⟩
    · exact .inl ⟨created, rfl, hsame⟩
  · rintro (⟨created, rfl, hsame⟩ | ⟨created, hmem, hsame⟩)
    · exact ⟨created, .inr rfl, hsame⟩
    · exact ⟨created, .inl hmem, hsame⟩

theorem latest?_concat (events : List BrokerEvent) (event : BrokerEvent)
    (messageType address : String) :
    latest? (events ++ [event]) messageType address
      = (event.subscription? messageType address).or (latest? events messageType address) := by
  rw [latest?, List.reverse_append, List.reverse_singleton, List.singleton_append,
    List.findSome?_cons]
  cases event.subscription? messageType address <;> rfl

/-- A queue exists once it was created. -/
theorem queueExists_replay (events : List BrokerEvent) (address : String) :
    (replay events).queueExists address = true ↔ HasQueue events address := by
  induction events using List.reverseRecOn with
  | nil => simp [replay, HasQueue, queueExists, queue?]
  | append_singleton events event ih =>
    rw [replay_concat, hasQueue_concat, ← ih]
    -- only the creation of a queue changes which queues there are
    cases event with
    | createQueue created => simp [BrokerEvent.apply, queueExists_createQueue]
    | subscribe messageType other => simp [BrokerEvent.apply, Broker.subscribe, queueExists, queue?]
    | unsubscribe messageType other =>
      rw [BrokerEvent.apply, Broker.unsubscribe]
      split <;> simp [queueExists, queue?]
    | deliver now batch => simp [BrokerEvent.apply, queueExists_deliver]
    | pop other =>
      rw [BrokerEvent.apply, Broker.pop]
      split <;> simp [queueExists_modifyQueue]
    | requeue other queued =>
      have hrequeue := queueExists_modifyQueue (replay events) other address (queued :: ·)
      simpa [BrokerEvent.apply, Broker.requeue, arrived, queueExists, queue?] using
        congrArg (· = true) hrequeue
    | purge other => simp [BrokerEvent.apply, Broker.purge, queueExists_modifyQueue]
    | announce => simp [BrokerEvent.apply, queueExists, queue?]

/-- The broker knows the canonical addresses of the queues that are subscribed. -/
theorem mem_subscribers_replay (events : List BrokerEvent) (messageType key : String) :
    key ∈ (replay events).subscribers messageType ↔
      canonicalAddress key = key ∧ Subscribed events messageType key := by
  induction events using List.reverseRecOn with
  | nil => simp [replay, Subscribed, latest?, mem_subscribers, Table.getD]
  | append_singleton events event ih =>
    rw [replay_concat, Subscribed, latest?_concat]
    -- most events leave the subscriptions alone
    have hother : (event.apply (replay events)).subscriptions = (replay events).subscriptions →
        event.subscription? messageType key = none →
        (key ∈ (event.apply (replay events)).subscribers messageType ↔ canonicalAddress key = key ∧
          (event.subscription? messageType key).or (latest? events messageType key)
            = some true) := by
      intro hsame hnone
      rw [mem_subscribers, hsame, ← mem_subscribers, ih, hnone]
      rfl
    cases event with
    | createQueue created => exact hother (subscriptions_createQueue ..) rfl
    | subscribe other address =>
      rw [BrokerEvent.apply, mem_subscribers_subscribe, ih, BrokerEvent.subscription?]
      split
      · next hsame =>
        refine ⟨?_, fun hlatest => .inl ⟨hsame.1, hlatest.1.symm.trans hsame.2⟩⟩
        rintro (⟨-, rfl⟩ | ⟨hkey, -⟩)
        · exact ⟨canonicalAddress_canonicalAddress address, rfl⟩
        · exact ⟨hkey, rfl⟩
      · next hdifferent =>
        refine or_iff_right ?_
        rintro ⟨htype, rfl⟩
        exact hdifferent ⟨htype, canonicalAddress_canonicalAddress address⟩
    | unsubscribe other address =>
      rw [BrokerEvent.apply, mem_subscribers_unsubscribe, ih, BrokerEvent.subscription?]
      split
      · next hsame =>
        constructor
        · rintro ⟨hdifferent, hkey, -⟩
          exact (hdifferent ⟨hsame.1, hkey.symm.trans hsame.2⟩).elim
        · rintro ⟨-, hlatest⟩
          cases hlatest
      · next hdifferent =>
        refine and_iff_right ?_
        rintro ⟨htype, rfl⟩
        exact hdifferent ⟨htype, canonicalAddress_canonicalAddress address⟩
    | deliver now batch => exact hother (subscriptions_deliver ..) rfl
    | pop other =>
      refine hother ?_ rfl
      rw [BrokerEvent.apply, Broker.pop]
      split
      · exact subscriptions_modifyQueue ..
      · rfl
    | requeue other queued => exact hother (subscriptions_modifyQueue ..) rfl
    | purge other => exact hother (subscriptions_modifyQueue ..) rfl
    | announce => exact hother rfl rfl

/-- Whether a queue is subscribed depends on its canonical address only. -/
theorem subscribed_canonicalAddress (events : List BrokerEvent) (messageType address : String) :
    Subscribed events messageType (canonicalAddress address)
      ↔ Subscribed events messageType address := by
  have hsame : BrokerEvent.subscription? messageType (canonicalAddress address)
      = BrokerEvent.subscription? messageType address := by
    funext event
    cases event <;> simp only [BrokerEvent.subscription?, canonicalAddress_canonicalAddress]
  rw [Subscribed, Subscribed, latest?, latest?, hsame]

/-- A batch of publishes adds to each queue that exists one copy of every message whose type the
queue is subscribed to by its latest event, in the order of the batch; there are no other queues
after it. -/
theorem publish_reaches_subscribers {now : Time.Instant} {publishes : List Delivery}
    {broker' : Broker} (events : List BrokerEvent)
    (h : (replay events).deliver now ⟨[], publishes⟩ = (.ok (), broker')) (address : String) :
    (HasQueue events address → ∃ waiting copies, (replay events).queue? address = some waiting ∧
      broker'.queue? address = some (waiting ++ copies) ∧
      List.Forall₂ (IsCopy now)
        (publishes.filter fun delivery => Subscribed events delivery.target address) copies) ∧
    (¬ HasQueue events address → broker'.queue? address = none) := by
  rw [← queueExists_replay]
  refine ⟨fun hexists => ?_, fun hnone => ?_⟩
  · obtain ⟨waiting, hwaiting⟩ := Option.isSome_iff_exists.1 hexists
    obtain ⟨copies, hqueue, hcopies⟩ := deliver_publishes h
      (fun messageType key hkey => ((mem_subscribers_replay ..).1 hkey).1) hwaiting
    refine ⟨waiting, copies, hwaiting, hqueue, ?_⟩
    simpa only [mem_subscribers_replay, canonicalAddress_canonicalAddress, true_and,
      subscribed_canonicalAddress] using hcopies
  · -- a batch creates no queue
    have hsame := queueExists_deliver (replay events) now ⟨[], publishes⟩ address
    rw [h] at hsame
    rw [← Option.not_isSome_iff_eq_none, ← queueExists, hsame]
    exact hnone

/-- An order that was placed. -/
def orderPlaced : Delivery := ⟨"OrderPlaced", ⟨"m", ∅, []⟩, [], false⟩

end Messaging
