import Messaging.Proofs.Subscribing
import Messaging.World.Basic

/-!
# A batch is dispatched as a whole

The queues in memory take every message of a batch, or none if one of them is refused.

- `deadline?` is the time after which a message with some requirements is dropped, and `Refuses`
  says which batches are refused. `queuedWith_eq` says that this is what becomes of one message.
- `copies` lists what a batch puts into which queue, and `deliveries_eq` says that a batch that is
  not refused comes to that.
- `Appended` is what becomes of a broker then, and `dispatch_atomic` says that every dispatch ends
  in one of the two ways.
-/

namespace Messaging

open Time (Instant Span)

/-! ### Traversals -/

section Traversal

variable {α β ε : Type} {f : α → Except ε β}

/-- Where every element gives its result, a list gives the list of these. -/
theorem mapM_eq_ok {g : α → β} {items : List α} (h : ∀ item ∈ items, f item = .ok (g item)) :
    items.mapM f = .ok (items.map g) := by
  induction items with
  | nil => rfl
  | cons item rest ih =>
    obtain ⟨hitem, hrest⟩ := List.forall_mem_cons.1 h
    rw [List.mapM_cons, hitem, ih hrest]
    rfl

/-- Where one element fails, so does the list. -/
theorem exists_mapM_eq_error {items : List α} {item : α} (hmem : item ∈ items) {error : ε}
    (h : f item = .error error) : ∃ first, items.mapM f = .error first := by
  induction items with
  | nil => cases hmem
  | cons head rest ih =>
    rw [List.mapM_cons]
    cases hhead : f head with
    | error first => exact ⟨first, rfl⟩
    | ok result =>
      rcases List.mem_cons.1 hmem with rfl | hrest
      · rw [hhead] at h
        cases h
      · obtain ⟨first, hfirst⟩ := ih hrest
        exact ⟨first, by rw [hfirst]; rfl⟩

/-- Where a list fails, one of its elements does. -/
theorem exists_of_mapM_eq_error {items : List α} {error : ε} (h : items.mapM f = .error error) :
    ∃ item ∈ items, f item = .error error := by
  induction items with
  | nil => cases h
  | cons head rest ih =>
    rw [List.mapM_cons] at h
    -- the first error ends the map
    cases hhead : f head with
    | error first =>
      rw [hhead] at h
      cases h
      exact ⟨head, List.mem_cons_self, hhead⟩
    | ok result =>
      rw [hhead] at h
      cases hrest : rest.mapM f with
      | error first =>
        rw [hrest] at h
        cases h
        obtain ⟨item, hmem, hitem⟩ := ih hrest
        exact ⟨item, List.mem_cons_of_mem _ hmem, hitem⟩
      | ok results =>
        rw [hrest] at h
        cases h

end Traversal

/-! ### One message -/

/-- The span within which a requirement wants a message to be received. -/
def Constraint.lifetime? : Constraint → Option Span
  | discardAfter span => some span
  | delayBy _ | notBefore _ => none

/-- The time after which a message that is sent at a time is dropped: of several spans within which
it is to be received the last one counts. -/
def deadline? (now : Instant) (constraints : List Constraint) : Option Instant :=
  (constraints.filterMap Constraint.lifetime?).getLast?.map now.later

/-- A message is to be delayed. -/
def Delivery.IsDelayed (delivery : Delivery) : Prop :=
  ∃ constraint ∈ delivery.constraints, constraint.isDelay = true

instance (delivery : Delivery) : Decidable delivery.IsDelayed :=
  inferInstanceAs (Decidable (∃ constraint ∈ delivery.constraints, constraint.isDelay = true))

/-- What waits in a queue of a message that was sent there at a time: the message as it is, and the
time after which it is dropped. -/
def Delivery.copy (delivery : Delivery) (now : Instant) : Queued :=
  ⟨delivery.message, deadline? now delivery.constraints⟩

namespace Broker

/-- One constraint that `isDelay` is enough for a message to be refused. -/
theorem queuedWith_of_isDelay {constraints : List Constraint} {constraint : Constraint}
    (hmem : constraint ∈ constraints) (hdelay : constraint.isDelay = true) (message : Message)
    (now : Instant) (before : Option Instant) :
    queuedWith message now constraints before = .error (delayRefused message) := by
  induction constraints generalizing before with
  | nil => cases hmem
  | cons first rest ih =>
    cases first with
    | discardAfter span =>
      rcases List.mem_cons.1 hmem with rfl | hrest
      · cases hdelay
      · exact ih hrest _
    | delayBy span => rfl
    | notBefore due => rfl

/-- Without such a constraint the message gets the deadline of the others. -/
theorem queuedWith_of_forall {constraints : List Constraint}
    (h : ∀ constraint ∈ constraints, ¬ constraint.isDelay = true) (message : Message)
    (now : Instant) (before : Option Instant) :
    queuedWith message now constraints before
      = .ok ⟨message, (deadline? now constraints).or before⟩ := by
  induction constraints generalizing before with
  | nil => rfl
  | cons first rest ih =>
    obtain ⟨hfirst, hrest⟩ := List.forall_mem_cons.1 h
    cases first with
    | delayBy span => exact absurd rfl hfirst
    | notBefore due => exact absurd rfl hfirst
    | discardAfter span =>
      rw [queuedWith, ih hrest]
      -- a later span takes the place of this one
      simp only [deadline?, List.filterMap_cons, Constraint.lifetime?, List.getLast?_cons]
      cases (rest.filterMap Constraint.lifetime?).getLast? <;> rfl

/-- A message that is to be delayed is refused, and of any other one a copy is made. -/
theorem queuedWith_eq (delivery : Delivery) (now : Instant) :
    queuedWith delivery.message now delivery.constraints none
      = if delivery.IsDelayed then .error (delayRefused delivery.message)
        else .ok (delivery.copy now) := by
  split
  · next h =>
    obtain ⟨constraint, hmem, hdelay⟩ := h
    exact queuedWith_of_isDelay hmem hdelay _ _ _
  · next h =>
    have hnone : ∀ constraint ∈ delivery.constraints, ¬ constraint.isDelay = true :=
      fun constraint hmem hdelay => h ⟨constraint, hmem, hdelay⟩
    rw [queuedWith_of_forall hnone, Option.or_none, Delivery.copy]

/-! ### A batch -/

variable {broker : Broker} {now : Instant} {batch : Batch} {delivery : Delivery}

/-- The addresses of a message for the subscribers of a type: those that have a queue. -/
def targets (broker : Broker) (delivery : Delivery) : List String :=
  (broker.subscribers delivery.target).filter broker.queueExists

/-- A batch is refused: a message for one address has no queue or is to be delayed, or a message for
subscribers is to be delayed and one of them has a queue. -/
def Refuses (broker : Broker) (batch : Batch) : Prop :=
  (∃ delivery ∈ batch.unicast,
    broker.queueExists delivery.target = false ∨ delivery.IsDelayed) ∨
  ∃ delivery ∈ batch.multicast, delivery.IsDelayed ∧
    ∃ subscriber ∈ broker.subscribers delivery.target, broker.queueExists subscriber = true

instance (broker : Broker) (batch : Batch) : Decidable (broker.Refuses batch) :=
  inferInstanceAs (Decidable (_ ∨ _))

/-- The copies that a batch puts into queues, each with its address: one of each message for one
address, in the order of the batch, and then one of each other message for each subscriber that has
a queue, in the order of the subscribers. -/
def copies (broker : Broker) (now : Instant) (batch : Batch) : List (String × Queued) :=
  batch.unicast.map (fun delivery => (delivery.target, delivery.copy now)) ++
    batch.multicast.flatMap fun delivery =>
      (broker.targets delivery).map fun subscriber => (subscriber, delivery.copy now)

/-- A delivery to a queue that exists is taken if it is not delayed. -/
theorem unicastDelivery_eq_ok (hexists : broker.queueExists delivery.target = true)
    (hdelay : ¬ delivery.IsDelayed) :
    broker.unicastDelivery now delivery = .ok (delivery.target, delivery.copy now) := by
  rw [unicastDelivery, if_pos hexists, queuedWith_eq, if_neg hdelay]
  rfl

/-- Otherwise the delivery is refused. -/
theorem exists_unicastDelivery_eq_error
    (h : broker.queueExists delivery.target = false ∨ delivery.IsDelayed) (now : Instant) :
    ∃ error, broker.unicastDelivery now delivery = .error error := by
  rw [unicastDelivery]
  by_cases hexists : broker.queueExists delivery.target = true
  · have hdelay : delivery.IsDelayed := h.resolve_left (by simp [hexists])
    rw [if_pos hexists, queuedWith_eq, if_pos hdelay]
    exact ⟨_, rfl⟩
  · rw [if_neg hexists]
    exact ⟨_, rfl⟩

/-- A message that nobody is to be sent is not refused, whatever is asked of its delivery. -/
theorem multicastDeliveries_eq_ok (h : delivery.IsDelayed → broker.targets delivery = []) :
    broker.multicastDeliveries now delivery
      = .ok ((broker.targets delivery).map fun subscriber => (subscriber, delivery.copy now)) := by
  refine mapM_eq_ok fun subscriber hmem => ?_
  have hdelay : ¬ delivery.IsDelayed := fun hdelay => by
    change subscriber ∈ broker.targets delivery at hmem
    rw [h hdelay] at hmem
    cases hmem
  rw [queuedWith_eq, if_neg hdelay]
  rfl

/-- A delayed event is refused if there is anyone to receive it. -/
theorem exists_multicastDeliveries_eq_error (hdelay : delivery.IsDelayed) {subscriber : String}
    (hmem : subscriber ∈ broker.targets delivery) (now : Instant) :
    ∃ error, broker.multicastDeliveries now delivery = .error error := by
  refine exists_mapM_eq_error hmem (?_ : _ = Except.error (delayRefused delivery.message))
  rw [queuedWith_eq, if_pos hdelay]
  rfl

/-- The targets of an event are the subscribed queues that exist. -/
theorem mem_targets {subscriber : String} :
    subscriber ∈ broker.targets delivery ↔
      subscriber ∈ broker.subscribers delivery.target ∧ broker.queueExists subscriber = true :=
  List.mem_filter

/-- A batch that is not refused comes to its copies. -/
theorem deliveries_eq (h : ¬ broker.Refuses batch) (now : Instant) :
    broker.deliveries now batch = .ok (broker.copies now batch) := by
  obtain ⟨hsingle, hseveral⟩ := not_or.1 h
  have hunicast : batch.unicast.mapM (broker.unicastDelivery now)
      = .ok (batch.unicast.map fun delivery => (delivery.target, delivery.copy now)) := by
    -- a message that would be refused makes the batch be refused
    refine mapM_eq_ok fun delivery hmem => unicastDelivery_eq_ok ?_ fun hdelay => ?_
    · by_contra hnone
      exact hsingle ⟨delivery, hmem, .inl (by simpa using hnone)⟩
    · exact hsingle ⟨delivery, hmem, .inr hdelay⟩
  have hmulticast : batch.multicast.mapM (broker.multicastDeliveries now)
      = .ok (batch.multicast.map fun delivery =>
          (broker.targets delivery).map fun subscriber => (subscriber, delivery.copy now)) := by
    refine mapM_eq_ok fun delivery hmem => multicastDeliveries_eq_ok fun hdelay => ?_
    -- a delayed event is refused as soon as it has one target
    rw [List.eq_nil_iff_forall_not_mem]
    intro subscriber htarget
    obtain ⟨hsubscribed, hexists⟩ := mem_targets.1 htarget
    exact hseveral ⟨delivery, hmem, hdelay, subscriber, hsubscribed, hexists⟩
  rw [deliveries, hunicast, hmulticast, copies, List.flatMap]
  rfl

/-- A batch that is refused fails. -/
theorem exists_deliveries_eq_error (h : broker.Refuses batch) (now : Instant) :
    ∃ error, broker.deliveries now batch = .error error := by
  rw [deliveries]
  rcases h with ⟨delivery, hmem, hrefused⟩ |
    ⟨delivery, hmem, hdelay, subscriber, hsubscribed, hexists⟩
  · obtain ⟨_, hdelivery⟩ := exists_unicastDelivery_eq_error hrefused now
    obtain ⟨error, hfirst⟩ := exists_mapM_eq_error hmem hdelivery
    rw [hfirst]
    exact ⟨error, rfl⟩
  · -- a message for one address may be refused before this one is looked at
    cases batch.unicast.mapM (broker.unicastDelivery now) with
    | error error => exact ⟨error, rfl⟩
    | ok single =>
      obtain ⟨_, hdelivery⟩ := exists_multicastDeliveries_eq_error hdelay
        (mem_targets.2 ⟨hsubscribed, hexists⟩) now
      obtain ⟨error, hfirst⟩ := exists_mapM_eq_error hmem hdelivery
      rw [hfirst]
      exact ⟨error, rfl⟩

/-- A refusal for a missing queue names the target of the delivery. -/
theorem unicastDelivery_eq_queueNotFound {address : String}
    (h : broker.unicastDelivery now delivery = .error (.queueNotFound address)) :
    broker.queueExists delivery.target = false ∧ address = canonicalAddress delivery.target := by
  rw [unicastDelivery, queuedWith_eq] at h
  split at h
  · -- with a queue it could only be refused for a delay
    split at h <;> cases h
  · next hmissing =>
    have haddress := TransportError.queueNotFound.inj (Except.error.inj h)
    exact ⟨Bool.eq_false_iff.2 hmissing, haddress.symm⟩

/-- An event is never refused for a queue: those that do not exist are passed over. -/
theorem multicastDeliveries_ne_queueNotFound (address : String) :
    broker.multicastDeliveries now delivery ≠ .error (.queueNotFound address) := by
  intro h
  obtain ⟨subscriber, -, hsubscriber⟩ := exists_of_mapM_eq_error h
  rw [queuedWith_eq] at hsubscriber
  split at hsubscriber <;> cases hsubscriber

/-- A queue that is missed is that of a message for one address. -/
theorem exists_unicast_of_queueNotFound {address : String}
    (h : broker.deliveries now batch = .error (.queueNotFound address)) :
    ∃ delivery ∈ batch.unicast,
      broker.queueExists delivery.target = false ∧ address = canonicalAddress delivery.target := by
  simp only [deliveries, bind, Except.bind] at h
  -- messages come before events, and only they name a missing queue
  split at h
  · next error hunicast =>
    obtain rfl := Except.error.inj h
    obtain ⟨delivery, hmem, hdelivery⟩ := exists_of_mapM_eq_error hunicast
    exact ⟨delivery, hmem, unicastDelivery_eq_queueNotFound hdelivery⟩
  · split at h
    · next error hmulticast =>
      obtain rfl := Except.error.inj h
      obtain ⟨delivery, -, hdelivery⟩ := exists_of_mapM_eq_error hmulticast
      exact (multicastDeliveries_ne_queueNotFound address hdelivery).elim
    · cases h

/-! ### What a batch changes -/

/-- What becomes of a broker when messages are put into its queues, one after another. -/
structure Appended (broker : Broker) (entries : List (String × Queued)) (broker' : Broker) :
    Prop where
  /-- Each queue holds what waited in it and then the messages for it, in their order. -/
  queues : ∀ address, broker'.queue? address = (broker.queue? address).map (· ++
    (entries.filter fun entry => canonicalAddress address = canonicalAddress entry.1).map (·.2))
  /-- The subscriptions stay as they were. -/
  subscriptions : broker'.subscriptions = broker.subscriptions
  /-- The receivers of the queues are told of each message, in the same order. -/
  arrivals : broker'.arrivals = broker.arrivals ++ entries.map fun entry => canonicalAddress entry.1

/-- A push is noted under the canonical address. -/
theorem arrivals_push (broker : Broker) (address : String) (queued : Queued) :
    (broker.push address queued).arrivals = broker.arrivals ++ [canonicalAddress address] := by
  simp only [push, arrived, modifyQueue]
  split <;> rfl

/-- To push entries one by one appends each of them at the end of its queue. -/
theorem appended_pushAll (entries : List (String × Queued)) (broker : Broker) :
    broker.Appended entries
      (entries.foldl (fun broker entry => broker.push entry.1 entry.2) broker) where
  queues := queue?_pushAll entries broker
  subscriptions := subscriptions_pushAll entries broker
  arrivals := by
    induction entries generalizing broker with
    | nil => simp
    | cons entry rest ih =>
      rw [List.foldl_cons, ih, arrivals_push, List.append_assoc]
      rfl

/-- A batch is delivered as a whole or refused as a whole. -/
theorem deliver_cases (broker : Broker) (now : Instant) (batch : Batch) :
    broker.Refuses batch ∧ (∃ error, broker.deliver now batch = (.error error, broker)) ∨
      ¬ broker.Refuses batch ∧ ∃ broker', broker.deliver now batch = (.ok (), broker') ∧
        broker.Appended (broker.copies now batch) broker' := by
  by_cases h : broker.Refuses batch
  · obtain ⟨error, herror⟩ := exists_deliveries_eq_error h now
    exact .inl ⟨h, error, by rw [deliver, herror]⟩
  · refine .inr ⟨h, _, ?_, appended_pushAll _ _⟩
    rw [deliver, deliveries_eq h]

end Broker

/-- **A batch is dispatched as a whole.** A batch that is handed to the queues in memory fails if
and only if it is refused, and then everything but the clock, which was read, stays as it was;
otherwise the queues get the copies of its messages, and nothing else changes. -/
theorem dispatch_atomic (world : World) (batch : Batch) (houtlet : world.site.outlet = .broker) :
    ((∃ error, (world.dispatch batch).1 = .error error) ↔ world.broker.Refuses batch) ∧
    (world.broker.Refuses batch → (world.dispatch batch).2 = world.readClock.2) ∧
    (¬ world.broker.Refuses batch → (world.dispatch batch).1 = .ok () ∧
      ∃ broker', (world.dispatch batch).2 = { world.readClock.2 with broker := broker' } ∧
        world.broker.Appended (world.broker.copies world.clock batch) broker') := by
  -- the world changes by its clock and by what the broker makes of the batch
  have hdispatch : world.dispatch batch = ((world.broker.deliver world.clock batch).1,
      { world.readClock.2 with broker := (world.broker.deliver world.clock batch).2 }) := by
    simp only [World.dispatch, houtlet, World.readClock]
  rw [hdispatch]
  rcases world.broker.deliver_cases world.clock batch with
    ⟨hrefused, error, hdeliver⟩ | ⟨hkept, broker', hdeliver, happended⟩
  · rw [hdeliver]
    exact ⟨⟨fun _ => hrefused, fun _ => ⟨error, rfl⟩⟩, fun _ => rfl, fun h => absurd hrefused h⟩
  · rw [hdeliver]
    refine ⟨⟨?_, fun h => absurd h hkept⟩, fun h => absurd h hkept,
      fun _ => ⟨rfl, broker', rfl, happended⟩⟩
    rintro ⟨error, herror⟩
    cases herror

/-- A world with two queues and three subscribers of a type, of which one has no queue. -/
def office : World where
  clock := ⟨100, 0⟩
  broker := ((({} : Broker).createQueue "Billing").2.createQueue "shipping").2
    |>.subscribe "OrderPlaced" "SHIPPING" |>.subscribe "OrderPlaced" " billing"
    |>.subscribe "OrderPlaced" "nowhere"

/-- A bill that is dropped after a minute. -/
def bill : Delivery := ⟨"billing ", ⟨"bill", ∅, []⟩, [.discardAfter (.ofSeconds 60)], false⟩

/-- The message that an order was placed. -/
def placed : Delivery := ⟨"OrderPlaced", ⟨"placed", ∅, []⟩, [], false⟩

/-- A message that is to be delayed, of a type that nobody is subscribed to. -/
def unwanted : Delivery := ⟨"OrderLost", ⟨"lost", ∅, []⟩, [.delayBy (.ofSeconds 1)], false⟩

/-- One batch is delivered, and another one with the same bill is refused because of what comes
after it. -/
theorem dispatch_atomic_office :
    (office.dispatch ⟨[bill], [placed, unwanted]⟩).1 = .ok () ∧
    (∃ broker', (office.dispatch ⟨[bill], [placed, unwanted]⟩).2.broker = broker' ∧
      broker'.queue? "billing"
        = some [⟨⟨"bill", ∅, []⟩, some ⟨160, 0⟩⟩, ⟨⟨"placed", ∅, []⟩, none⟩] ∧
      broker'.queue? "shipping" = some [⟨⟨"placed", ∅, []⟩, none⟩]) ∧
    (∃ error, (office.dispatch ⟨[bill], [{ unwanted with target := "OrderPlaced" }]⟩).1
      = .error error) ∧
    (office.dispatch ⟨[bill], [{ unwanted with target := "OrderPlaced" }]⟩).2.broker
      = office.broker := by
  obtain ⟨-, -, hkept⟩ := dispatch_atomic office ⟨[bill], [placed, unwanted]⟩ rfl
  obtain ⟨hok, broker', hworld, happended⟩ := hkept (by decide +kernel)
  obtain ⟨hfails, hsame, -⟩ :=
    dispatch_atomic office ⟨[bill], [{ unwanted with target := "OrderPlaced" }]⟩ rfl
  have hrefused : office.broker.Refuses ⟨[bill], [{ unwanted with target := "OrderPlaced" }]⟩ := by
    decide +kernel
  refine ⟨hok, ⟨broker', by rw [hworld], ?_, ?_⟩, hfails.2 hrefused, by rw [hsame hrefused]; rfl⟩
  · rw [happended.queues]
    decide +kernel
  · rw [happended.queues]
    decide +kernel

end Messaging
