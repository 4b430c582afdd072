import Messaging.Proofs.Drafts
import Messaging.Proofs.Punctuality

/-!
# What a receiver sees of a timeout manager

A deferred message reaches its receiver by way of a timeout manager. This stores the message and
sends it on when it is due, or sends it on at once if it is nearly due.

- `MayAsk` says what a program may ask for before it finishes, and `AsksOnly` what it asks for at
  most.
- `Stores`, `SendsAtOnce` and `SendsOn` say what the two queues of a timeout manager do with a
  message, and `stores_iff`, `sendsAtOnce_iff` and `sendsOn_iff` what that comes to.
- `Transparent` compares a message that was stored with the one that a send without the delay
  leaves, and `deferral_transparent` says that a receiver sees no other difference.
- `Compared` compares it with the message that is sent on at once, and `compared_of_both` says that
  the two differ in no other way. They do differ, as `not_agree` says.
-/

namespace Messaging.Timeouts

open Deferring Redelivery
open Manager.Interleaved.Punctual (parcel)

variable {α : Type} {P Q : List Exchange → Prop} {log : List Exchange} {owner key : String}
  {message : Message} {x : Timeout} {isolated : Bool} {batch : Batch}

/-! ### Headers -/

/-- The headers that a message gets when it is deferred. -/
def deferredKeys : List String :=
  [Header.timeoutRouteExpiredTo, Header.timeoutExpire, Header.isDeferredMessage]

/-- Headers beside the `deferredKeys` are not touched when a message is deferred. -/
theorem get?_deferredHeaders (destination : String) (due : Time.Instant) (headers : Headers)
    (hkey : key ∉ deferredKeys) :
    (deferredHeaders destination due headers).get? key = headers.get? key := by
  simp only [deferredKeys, List.mem_cons, List.not_mem_nil, or_false, not_or] at hkey
  obtain ⟨hroute, hexpire, hdeferred⟩ := hkey
  rw [deferredHeaders, Table.get?_insert_of_ne _ _ hdeferred, Table.get?_insert_of_ne _ _ hexpire,
    Table.get?_insert_of_ne _ _ hroute]

/-- A stored message keeps its headers but for those that say when and where it was to go. -/
theorem get?_expiredMessage (x : Timeout) (timeSent : String) (hsent : key ≠ Header.timeSent)
    (hrelated : key ≠ Header.relatedToTimeoutId) :
    (expiredMessage x timeSent).headers.get? key
      = if key = Header.timeoutExpire ∨ key = Header.timeoutRouteExpiredTo then none
        else x.headers.get? key := by
  rw [expiredMessage, Table.get?_insert_of_ne _ _ hrelated, Table.get?_insert_of_ne _ _ hsent,
    Table.get?_erase, Table.get?_erase]
  grind

theorem get?_timeSent (x : Timeout) (timeSent : String) :
    (expiredMessage x timeSent).headers.get? Header.timeSent = some timeSent := by
  rw [expiredMessage, Table.get?_insert_of_ne _ _ (by decide), Table.get?_insert_self]

/-- A stored message goes by the id in its headers, or else by that of the timeout. -/
theorem id_expiredMessage (x : Timeout) (timeSent : String) :
    (expiredMessage x timeSent).id = x.headers.getD Header.messageId x.id := by
  have hget := get?_expiredMessage x timeSent (show Header.messageId ≠ _ by decide) (by decide)
  rw [if_neg (by decide)] at hget
  rw [Table.getD, ← hget]
  rfl

/-- When a message was sent makes no difference to its other headers. -/
theorem get?_newHeaders (sender : Operations) (intent : Intent)
    (messageId timeSent timeSent' : String) (headers : Headers) (hkey : key ≠ Header.timeSent) :
    (sender.newHeaders intent messageId timeSent headers).get? key
      = (sender.newHeaders intent messageId timeSent' headers).get? key := by
  have hcorrelation : Header.correlationId ≠ Header.timeSent := by decide
  have hreply : Header.replyToAddress ≠ Header.timeSent := by decide
  unfold Operations.newHeaders
  cases sender.localAddress <;>
    simp only [Table.get?_insertIfNew, Table.get?_insert, Table.getD, hkey, hcorrelation, hreply,
      if_false]

/-! ### The queues of a timeout manager -/

/-- A program may finish with a log of a kind. -/
def MayAsk (Q : List Exchange → Prop) (program : Act α) (log : List Exchange) : Prop :=
  ∃ result after, Runs anyAnswers.serves program log result after ∧ Q after

theorem MayAsk.done (result : α) (h : Q log) : MayAsk Q (.done result) log :=
  ⟨result, log, .done result log, h⟩

theorem MayAsk.call {effect : Effect} {next : effect.Answer → Act α} (answer : effect.Answer)
    (h : MayAsk Q (next answer) (log ++ [⟨effect, answer⟩])) :
    MayAsk Q (Program.call (S := Effect.signature) effect next) log := by
  obtain ⟨result, after, hruns, hafter⟩ := h
  exact ⟨result, after, .call rfl hruns, hafter⟩

/-- Where a program may end with a log of a kind, this log also is of the kind that is assured. -/
theorem MayAsk.of_assured {program : Act α} (h : MayAsk Q program log)
    (hassured : Assured anyAnswers (fun _ after => P after) program log) :
    ∃ after, P after ∧ Q after := by
  obtain ⟨result, after, hruns, hafter⟩ := h
  exact ⟨after, hassured.of_runs (fun _ => rfl) hruns, hafter⟩

/-- All requests of a program, with their answers, are of a kind. -/
def AsksOnly (P : Exchange → Prop) (program : Act α) (log : List Exchange) : Prop :=
  Assured anyAnswers (fun _ after => ∀ exchange ∈ after, P exchange) program log

/-- A program asks for nothing else if neither its first request nor the rest does, whatever the
answer. -/
theorem AsksOnly.ask {P : Exchange → Prop} {effect : Effect} {f : effect.Answer → Act α}
    (hlog : ∀ exchange ∈ log, P exchange) (heffect : ∀ answer, P ⟨effect, answer⟩)
    (h : ∀ answer, (∀ exchange ∈ log ++ [⟨effect, answer⟩], P exchange) →
      AsksOnly P (f answer) (log ++ [⟨effect, answer⟩])) :
    AsksOnly P ((Act.ask effect).bind f) log := by
  refine assured_ask fun answer => h answer fun exchange hmem => ?_
  rcases List.mem_append.1 hmem with hmem | hmem
  · exact hlog exchange hmem
  · exact List.mem_singleton.1 hmem ▸ heffect answer

/-- A request of the queue that stores messages. -/
inductive Storing (owner : String) (message : Message) : Exchange → Prop where
  /-- It has nothing to do with the message. -/
  | aside {effect : Effect} {answer : effect.Answer} (hadd : ∀ x, effect ≠ .addTimeout x)
      (hsend : ∀ batch, effect ≠ .dispatch batch) : Storing owner message ⟨effect, answer⟩
  /-- The message is not due soon. -/
  | added {due now : Time.Instant} {destination id : String} {answer : Except StorageError Unit}
      (hread : readDeferred message = .ok (due, destination))
      (hlate : ¬ due ≤ now.later immediateWithin) :
      Storing owner message
        ⟨.addTimeout ⟨id, destination, message.body, due, message.headers, owner⟩, answer⟩
  /-- The message is nearly due. -/
  | sent {due now : Time.Instant} {destination : String} {answer : Except TransportError Unit}
      (hread : readDeferred message = .ok (due, destination))
      (hnear : due ≤ now.later immediateWithin) :
      Storing owner message ⟨.dispatch (parcel destination message false), answer⟩

/-- `Storing` lists the requests of `store`. -/
theorem store_asksOnly (owner : String) (message : Message) :
    AsksOnly (Storing owner message) (store owner message) [] := by
  -- along `store`: the message cannot be read, it is due soon, or it is stored under a new id
  unfold store
  split
  · exact nofun
  · next due destination hread =>
    refine AsksOnly.ask nofun (fun _ => .aside nofun nofun) fun now hlog => ?_
    split
    · next hnear =>
      refine AsksOnly.ask hlog (fun _ => .sent hread hnear) fun answer hlog => ?_
      cases answer <;> exact hlog
    · next hlate =>
      refine AsksOnly.ask hlog (fun _ => .aside nofun nofun) fun id hlog => ?_
      refine AsksOnly.ask hlog (fun _ => .added hread hlate) fun answer hlog => ?_
      cases answer with
      | error error => exact hlog
      | ok _ => exact AsksOnly.ask hlog (fun _ => .aside nofun nofun) fun _ hlog => hlog

/-- The queue that stores messages stores a message as a timeout. -/
def Stores (owner : String) (message : Message) (x : Timeout) : Prop :=
  MayAsk (fun log => ⟨.addTimeout x, .ok ()⟩ ∈ log) (store owner message) []

/-- What the queue that stores messages may store. -/
theorem stores_iff :
    Stores owner message x ↔ ∃ due destination id, readDeferred message = .ok (due, destination) ∧
      (∃ now : Time.Instant, ¬ due ≤ now.later immediateWithin) ∧
      x = ⟨id, destination, message.body, due, message.headers, owner⟩ := by
  constructor
  · intro h
    obtain ⟨log, hasked, hmem⟩ := h.of_assured (store_asksOnly owner message)
    cases hasked _ hmem with
    | aside hadd => exact absurd rfl (hadd x)
    | added hread hlate => exact ⟨_, _, _, hread, ⟨_, hlate⟩, rfl⟩
  · rintro ⟨due, destination, id, hread, ⟨now, hlate⟩, rfl⟩
    -- a clock that is early and a storage that does not fail let it be stored
    rw [Stores, store, hread]
    refine MayAsk.call now ?_
    rw [Program.done_bind, if_neg hlate]
    refine MayAsk.call id (MayAsk.call (.ok ()) (MayAsk.call () (MayAsk.done _ ?_)))
    simp

/-- The queue that stores messages sends a batch on in the place of storing a message. -/
def SendsAtOnce (owner : String) (message : Message) (batch : Batch) : Prop :=
  MayAsk (fun log => ∃ answer, ⟨.dispatch batch, answer⟩ ∈ log) (store owner message) []

/-- What the queue that stores messages may send on at once. -/
theorem sendsAtOnce_iff :
    SendsAtOnce owner message batch ↔ ∃ due destination,
      readDeferred message = .ok (due, destination) ∧
      (∃ now : Time.Instant, due ≤ now.later immediateWithin) ∧
      batch = parcel destination message false := by
  constructor
  · intro h
    obtain ⟨log, hasked, answer, hmem⟩ := h.of_assured (store_asksOnly owner message)
    cases hasked _ hmem with
    | aside _ hsend => exact absurd rfl (hsend batch)
    | sent hread hnear => exact ⟨_, _, hread, ⟨_, hnear⟩, rfl⟩
  · rintro ⟨due, destination, hread, ⟨now, hnear⟩, rfl⟩
    -- a clock that is late lets it be sent on
    rw [SendsAtOnce, store, hread]
    refine MayAsk.call now ?_
    rw [Program.done_bind, if_pos hnear]
    refine MayAsk.call (.ok ()) (MayAsk.done _ ⟨.ok (), ?_⟩)
    exact List.mem_append_right _ (List.mem_singleton.2 rfl)

/-- A request of the queue that sends stored messages on, after it has found a timeout. -/
inductive Forwarding (isolated : Bool) (x : Timeout) : Exchange → Prop where
  /-- The timeout is found. -/
  | found (id : String) : Forwarding isolated x ⟨.peekTimeout id, .ok (some x)⟩
  /-- It has nothing to do with the message. -/
  | aside {effect : Effect} {answer : effect.Answer} (hpeek : ∀ id, effect ≠ .peekTimeout id)
      (hsend : ∀ batch, effect ≠ .dispatch batch) : Forwarding isolated x ⟨effect, answer⟩
  /-- Its message is sent on. -/
  | sent {answer : Except TransportError Unit} (now : Time.Instant) :
      Forwarding isolated x
        ⟨.dispatch (parcel x.destination (expiredMessage x (Time.Wire.write now)) isolated), answer⟩

/-- `dispatchStored` dispatches nothing, or finds a timeout and asks for what `Forwarding` lists. -/
theorem dispatchStored_forwards (isolated : Bool) (request : Message) :
    Assured anyAnswers
      (fun _ after => (∀ batch answer, ⟨.dispatch batch, answer⟩ ∉ after) ∨
        ∃ x, ∀ exchange ∈ after, Forwarding isolated x exchange)
      (dispatchStored isolated request) [] := by
  unfold dispatchStored
  split
  · exact .inl nofun
  · next id hid =>
    refine assured_ask fun answer => ?_
    -- without a timeout nothing is dispatched
    match answer with
    | .error error => exact .inl (by simp)
    | .ok none => exact .inl (by simp)
    | .ok (some x) =>
      refine Assured.imp ?_ fun _ _ h => .inr ⟨x, h⟩
      have hlog : ∀ exchange ∈ [] ++ [(⟨.peekTimeout id, .ok (some x)⟩ : Exchange)],
          Forwarding isolated x exchange := by
        simpa using .found id
      refine AsksOnly.ask hlog (fun _ => .aside nofun nofun) fun now hlog => ?_
      refine AsksOnly.ask hlog (fun _ => .sent now) fun answer hlog => ?_
      cases answer with
      | error error => exact hlog
      | ok _ =>
        refine AsksOnly.ask hlog (fun _ => .aside nofun nofun) fun answer hlog => ?_
        match answer with
        | .error error => exact hlog
        | .ok true => exact hlog
        | .ok false => exact hlog

/-- The queue that sends stored messages on finds a timeout and sends a batch on. -/
def SendsOn (isolated : Bool) (x : Timeout) (batch : Batch) : Prop :=
  ∃ request, MayAsk
    (fun log => (∃ id, ⟨.peekTimeout id, .ok (some x)⟩ ∈ log) ∧
      ∃ answer, ⟨.dispatch batch, answer⟩ ∈ log)
    (dispatchStored isolated request) []

/-- What the queue that sends stored messages on may make of a timeout. -/
theorem sendsOn_iff :
    SendsOn isolated x batch ↔ ∃ now,
      batch = parcel x.destination (expiredMessage x (Time.Wire.write now)) isolated := by
  constructor
  · rintro ⟨request, h⟩
    obtain ⟨log, hnothing | ⟨y, hall⟩, ⟨id, hfound⟩, answer, hmem⟩ :=
      h.of_assured (dispatchStored_forwards isolated request)
    · exact absurd hmem (hnothing batch answer)
    · -- there is one request to find a timeout, so what is sent on is the timeout that was found
      obtain rfl : x = y := by
        cases hall _ hfound with
        | found => rfl
        | aside hpeek => exact absurd rfl (hpeek id)
      cases hall _ hmem with
      | aside _ hsend => exact absurd rfl (hsend batch)
      | sent now => exact ⟨now, rfl⟩
  · rintro ⟨now, rfl⟩
    -- a request for the id of the timeout, answered without errors
    let request : Message := ⟨"", Table.empty.insert Header.timeoutIdToDispatch x.id, []⟩
    have hid : request.header? Header.timeoutIdToDispatch = some x.id :=
      Table.get?_insert_self _ _ _
    refine ⟨request, ?_⟩
    rw [dispatchStored, hid]
    refine MayAsk.call (.ok (some x)) (MayAsk.call now (MayAsk.call (.ok ()) (MayAsk.call (.ok true)
      (MayAsk.done _ ⟨⟨x.id, ?_⟩, .ok (), ?_⟩))))
    · simp
    · exact List.mem_append_left _ (List.mem_append_right _ (List.mem_singleton.2 rfl))

/-! ### The way of a deferred message -/

/-- The headers in which a message that was stored may differ from one that was not deferred. -/
def changedKeys : List String :=
  [Header.timeoutExpire, Header.timeoutRouteExpiredTo, Header.isDeferredMessage,
    Header.relatedToTimeoutId, Header.timeSent]

/-- A message that was sent on for a timeout is what its sender would have sent without the delay,
but for headers that tell of its way. -/
structure Transparent (x : Timeout) (plain sent : Message) : Prop where
  /-- The id is the same. -/
  id : sent.id = plain.id
  /-- The body is the same. -/
  body : sent.body = plain.body
  /-- The due time is no longer there. -/
  expire : sent.headers.get? Header.timeoutExpire = none
  /-- Nor is the destination. -/
  routeExpiredTo : sent.headers.get? Header.timeoutRouteExpiredTo = none
  /-- The message says that it was deferred. -/
  deferred : sent.headers.get? Header.isDeferredMessage = some "true"
  /-- It names the timeout. -/
  related : sent.headers.get? Header.relatedToTimeoutId = some x.id
  /-- It was sent when the timeout manager sent it on. -/
  timeSent : ∃ now, sent.headers.get? Header.timeSent = some (Time.Wire.write now)
  /-- All other headers are the same. -/
  others : ∀ key, key ∉ changedKeys → sent.headers.get? key = plain.headers.get? key

/-- Headers that agree but for the time agree so with what the serializer writes. -/
theorem get?_writtenHeaders {serializer : Serializer} {messageType messageId : String}
    {headers headers' : Headers}
    (hheaders : ∀ key, key ≠ Header.timeSent → headers.get? key = headers'.get? key)
    (hkey : key ≠ Header.timeSent) :
    (writtenHeaders serializer messageType messageId headers).get? key
      = (writtenHeaders serializer messageType messageId headers').get? key := by
  simp only [writtenHeaders, Table.get?_insert, hheaders key hkey]

/-- The message of a timeout under which a written message was stored. -/
theorem transparent_expiredMessage {serializer : Serializer}
    {messageType messageId destination : String} {due : Time.Instant} {headers headers' : Headers}
    (hheaders : ∀ key, key ≠ Header.timeSent → headers.get? key = headers'.get? key)
    (hx : x.headers
      = deferredHeaders destination due (writtenHeaders serializer messageType messageId headers))
    (now : Time.Instant) :
    Transparent x ⟨messageId, writtenHeaders serializer messageType messageId headers', x.body⟩
      (expiredMessage x (Time.Wire.write now)) where
  id := by
    have hid : x.headers.get? Header.messageId = some messageId := by
      rw [hx, get?_deferredHeaders _ _ _ (by decide), writtenHeaders, Table.get?_insert_self]
    rw [id_expiredMessage, Table.getD, hid, Option.getD_some]
  body := rfl
  expire := by rw [get?_expiredMessage _ _ (by decide) (by decide), if_pos (.inl rfl)]
  routeExpiredTo := by rw [get?_expiredMessage _ _ (by decide) (by decide), if_pos (.inr rfl)]
  deferred := by
    rw [get?_expiredMessage _ _ (by decide) (by decide), if_neg (by decide), hx, deferredHeaders,
      Table.get?_insert_self]
  related := Manager.Interleaved.Punctual.get?_relatedToTimeoutId x _
  timeSent := ⟨now, get?_timeSent x _⟩
  -- a header that changes nowhere on the way is the one that was written
  others key hkey := by
    simp only [changedKeys, List.mem_cons, List.not_mem_nil, or_false, not_or] at hkey
    obtain ⟨hexpire, hroute, hdeferred, hrelated, hsent⟩ := hkey
    have hnew : key ∉ deferredKeys := by simp [deferredKeys, hexpire, hroute, hdeferred]
    rw [get?_expiredMessage _ _ hsent hrelated, if_neg (by simp [hexpire, hroute]), hx,
      get?_deferredHeaders _ _ _ hnew]
    exact get?_writtenHeaders hheaders hsent

/-- A deferred message goes where its headers say. -/
theorem destination_of_readDeferred {due : Time.Instant} {destination target : String}
    (h : readDeferred message = .ok (due, destination))
    (htarget : message.headers.get? Header.timeoutRouteExpiredTo = some target) :
    destination = target := by
  have hroute : message.header? Header.timeoutRouteExpiredTo = some target := htarget
  rw [readDeferred, hroute] at h
  split at h
  · cases h
  · split at h
    · cases h
    · cases h
      rfl

/-- Two sends draw the same id, if they draw one. -/
def SameIds (log log' : List Exchange) : Prop :=
  ∀ id id', ⟨.freshId, id⟩ ∈ log → ⟨.freshId, id'⟩ ∈ log' → id = id'

/-- With the `SameIds` two sends name their messages alike. -/
theorem SameIds.named {log' : List Exchange} {options options' : SendOptions} {id id' : String}
    (h : SameIds log log') (hoptions : options.messageId = options'.messageId)
    (hid : Named options log id) (hid' : Named options' log' id') : id = id' := by
  rw [Named, hoptions] at hid
  rw [Named] at hid'
  cases hgiven : options'.messageId with
  | some given =>
    simp only [hgiven] at hid hid'
    exact hid.trans hid'.symm
  | none =>
    simp only [hgiven] at hid hid'
    exact h id id' hid hid'

/-- The same wishes for a message without its delays. -/
def undelayed (options : SendOptions) : SendOptions :=
  { options with constraints := options.constraints.filter fun constraint => !constraint.isDelay }

/-- What a send leaves of a message with a delay and of the same one without. -/
theorem transparent_of_drafted {outbound : Outbound} {manager : String} {sender : Operations}
    {intent : Intent} {payload : Payload} {options : SendOptions} {log' : List Exchange}
    {operation plain : Operation}
    (hdelay : ∃ constraint ∈ options.constraints, constraint.isDelay = true)
    (hdraft : Drafted outbound manager sender intent payload options log operation)
    (hplain : Drafted outbound manager sender intent payload (undelayed options) log' plain)
    (hids : SameIds log log') (hstores : Stores owner operation.message x)
    (hsends : SendsOn isolated x batch) :
    ∃ destination sent, plain.route = .unicast destination ∧
      batch = parcel destination sent isolated ∧ Transparent x plain.message sent := by
  obtain ⟨hcontent, hid, hroutes, hbody, hdeparts⟩ := hdraft
  obtain ⟨hcontent', hid', hroutes', hbody', hdeparts'⟩ := hplain
  -- both sends write the same content under the same id, and find the same routes
  cases hcontent.symm.trans hcontent'
  cases hids.named rfl hid hid'
  cases hroutes.symm.trans hroutes'
  cases hbody.symm.trans hbody'
  obtain ⟨-, destination, due, hdestination, hdeferred⟩ := hdeparts.of_isDelay hdelay
  have hnone : ∀ constraint ∈ (undelayed options).constraints, constraint.isDelay = false := by
    simp [undelayed]
  obtain ⟨hroute, hmessage⟩ := hdeparts'.of_not_isDelay hnone
  rw [hdestination, List.mem_singleton] at hroute
  rw [hdeferred] at hstores
  obtain ⟨_, target, id, hread, -, rfl⟩ := stores_iff.1 hstores
  obtain ⟨now, rfl⟩ := sendsOn_iff.1 hsends
  obtain rfl := destination_of_readDeferred hread (get?_routeExpiredTo ..)
  rw [hmessage]
  exact ⟨target, _, hroute, rfl, transparent_expiredMessage
    (fun key hkey => get?_newHeaders sender intent _ _ _ _ hkey) rfl now⟩

/-- Deferral is transparent to the receiver. A message with one delay is left for the timeout
manager only, and what this sends on after storing it goes where the same send without the delay
leaves its message, and is that message but for the headers that tell of its way. -/
theorem deferral_transparent {settings : Settings} {manager : String}
    (hmanager : settings.timeoutManagerAddress = some manager) (resolver : Resolver)
    (serializer : Serializer) (capabilities : Capabilities) (faults : Option (Chain FaultContext)) :
    ∃ steps side,
      Assembly.mainSteps settings resolver { name := mainPipeline } faults = .ok steps ∧
      Assembly.sendingSide steps serializer capabilities = .ok side ∧
      ∀ (endpointName : String) (localAddress : Option String) (parent : ScopeId) (intent : Intent)
        (payload : Payload) (options : SendOptions) (delay : Constraint)
        (log log' : List Exchange) (operation plain : Operation),
        let sender : Operations := ⟨side.outgoing, side.routing, endpointName, localAddress⟩
        options.constraints.filter (·.isDelay) = [delay] →
        Emits (sender.dispatch parent intent payload options) log operation →
        Emits (sender.dispatch parent intent payload (undelayed options)) log' plain →
        SameIds log log' →
        operation.route = .unicast manager ∧
          ∀ (owner : String) (x : Timeout) (isolated : Bool) (batch : Batch),
            Stores owner operation.message x → SendsOn isolated x batch →
            ∃ destination sent, plain.route = .unicast destination ∧
              batch = parcel destination sent isolated ∧ Transparent x plain.message sent := by
  refine ⟨_, _, mainSteps_builtIn settings resolver faults,
    sendingSide_builtIn settings resolver faults serializer capabilities, ?_⟩
  intro endpointName localAddress parent intent payload options delay log log' operation plain
    sender hone hemits hplain hids
  have hdelay : ∃ constraint ∈ options.constraints, constraint.isDelay = true :=
    ⟨delay, List.mem_filter.1 (hone ▸ List.mem_singleton_self delay)⟩
  let outbound := outboundOf settings resolver serializer capabilities
  -- both sends are described by what they draft, one with the delay and one without
  have hdraft : Drafted outbound manager sender intent payload options log operation :=
    drafted_of_emits hmanager rfl hemits
  have hdraft' : Drafted outbound manager sender intent payload (undelayed options) log' plain :=
    drafted_of_emits hmanager rfl hplain
  obtain ⟨-, -, -, -, hdeparts⟩ := id hdraft
  exact ⟨(hdeparts.of_isDelay hdelay).1, fun owner x isolated batch hstores hsends =>
    transparent_of_drafted hdelay hdraft hdraft' hids hstores hsends⟩

/-! ### A reminder -/

/-- The routes of an endpoint that knows of no other. -/
def shopResolver : Resolver := ⟨∅, none, Memory.capabilities.policy, none⟩

/-- A sender whose deferred messages go to a timeout manager. -/
def reminding : Operations :=
  (outboundOf shopSettings shopResolver .json Memory.capabilities).operations "shop" none

/-- A message to one address in five seconds. -/
def inFiveSeconds : SendOptions :=
  { destination := some "billing", constraints := [.delayBy (.ofSeconds 5)] }

/-- The message that is written. -/
def reminderMessage : Message :=
  ⟨"m-1", writtenHeaders .json "Reminder" "m-1"
    (reminding.newHeaders .send "m-1" (Time.Wire.write ⟨0, 0⟩) ∅), Json.null.toBytes⟩

/-- The message on its way to the timeout manager. -/
def deferredReminder : Message :=
  { reminderMessage with headers := deferredHeaders "billing" ⟨5, 0⟩ reminderMessage.headers }

/-- The timeout that it is stored as. -/
def reminderTimeout : Timeout :=
  ⟨"t-1", "billing", deferredReminder.body, ⟨5, 0⟩, deferredReminder.headers, "clock"⟩

/-- A run of the example that leaves one operation behind `Emits` it. -/
theorem emits_of_mayAsk {program : Act α} {operation : Operation}
    (h : MayAsk (fun log => Left [operation] log ∧ Q log) program []) :
    ∃ log, Emits program log operation ∧ Q log := by
  obtain ⟨result, log, hruns, hleft, hlog⟩ := h
  exact ⟨log, ⟨result, _, hruns, hleft, List.mem_singleton_self _⟩, hlog⟩

/-- With the delay the reminder goes to the timeout manager. -/
theorem emits_deferredReminder : ∃ log,
    Emits (reminding.dispatch 0 .send ⟨"Reminder", .ok .null⟩ inFiveSeconds) log
        { message := deferredReminder, route := .unicast "clock" } ∧
      ∀ id, ⟨.freshId, id⟩ ∈ log → id = "m-1" := by
  refine emits_of_mayAsk (MayAsk.call "m-1" (MayAsk.call ⟨0, 0⟩ ?_))
  refine MayAsk.call (1 : ScopeId) (MayAsk.call (2 : ScopeId) (MayAsk.call (3 : ScopeId) ?_))
  refine MayAsk.call (⟨0, 0⟩ : Time.Instant) (MayAsk.call none (MayAsk.call (Except.ok ()) ?_))
  exact MayAsk.done (Except.ok ()) ⟨.sent rfl rfl, by simp⟩

/-- Without it the same reminder goes to its address. -/
theorem emits_reminderMessage : ∃ log,
    Emits (reminding.dispatch 0 .send ⟨"Reminder", .ok .null⟩ (undelayed inFiveSeconds)) log
        { message := reminderMessage, route := .unicast "billing" } ∧
      ∀ id, ⟨.freshId, id⟩ ∈ log → id = "m-1" := by
  refine emits_of_mayAsk (MayAsk.call "m-1" (MayAsk.call ⟨0, 0⟩ ?_))
  refine MayAsk.call (1 : ScopeId) (MayAsk.call (2 : ScopeId) (MayAsk.call (3 : ScopeId) ?_))
  refine MayAsk.call (⟨0, 0⟩ : Time.Instant) (MayAsk.call none (MayAsk.call (Except.ok ()) ?_))
  exact MayAsk.done (Except.ok ()) ⟨.sent rfl rfl, by simp⟩

theorem readDeferred_deferredReminder :
    readDeferred deferredReminder = .ok (⟨5, 0⟩, "billing") := by
  decide +kernel

/-- It may store the reminder, if it comes in time. -/
theorem stores_reminder : Stores "clock" deferredReminder reminderTimeout :=
  stores_iff.2 ⟨⟨5, 0⟩, "billing", "t-1", readDeferred_deferredReminder, ⟨⟨0, 0⟩, by decide⟩, rfl⟩

/-- If it comes late the reminder may be sent on at once. -/
theorem sendsAtOnce_reminder :
    SendsAtOnce "clock" deferredReminder (parcel "billing" deferredReminder false) :=
  sendsAtOnce_iff.2 ⟨⟨5, 0⟩, "billing", readDeferred_deferredReminder, ⟨⟨4, 0⟩, by decide⟩, rfl⟩

/-- A stored reminder is sent on as soon as it is asked for. -/
theorem sendsOn_reminder :
    SendsOn true reminderTimeout
      (parcel "billing" (expiredMessage reminderTimeout (Time.Wire.write ⟨5, 0⟩)) true) :=
  sendsOn_iff.2 ⟨⟨5, 0⟩, rfl⟩

theorem deferral_transparent_reminder : ∃ log log' batch,
    Emits (reminding.dispatch 0 .send ⟨"Reminder", .ok .null⟩ inFiveSeconds) log
        { message := deferredReminder, route := .unicast "clock" } ∧
      Emits (reminding.dispatch 0 .send ⟨"Reminder", .ok .null⟩ (undelayed inFiveSeconds)) log'
        { message := reminderMessage, route := .unicast "billing" } ∧
      Stores "clock" deferredReminder reminderTimeout ∧ SendsOn true reminderTimeout batch ∧
      ∃ sent, batch = parcel "billing" sent true ∧
        Transparent reminderTimeout reminderMessage sent := by
  obtain ⟨log, hemits, hids⟩ := emits_deferredReminder
  obtain ⟨log', hplain, hids'⟩ := emits_reminderMessage
  obtain ⟨steps, side, hsteps, hside, htransparent⟩ := deferral_transparent
    (show shopSettings.timeoutManagerAddress = some "clock" from rfl) shopResolver .json
    Memory.capabilities none
  -- the pipelines of the shop are the built-in ones, and its two sends are known
  cases hsteps.symm.trans (mainSteps_builtIn shopSettings shopResolver none)
  cases hside.symm.trans
    (sendingSide_builtIn shopSettings shopResolver none .json Memory.capabilities)
  obtain ⟨-, hreceived⟩ := htransparent "shop" none 0 .send ⟨"Reminder", .ok .null⟩ inFiveSeconds
    (.delayBy (.ofSeconds 5)) log log' _ _ rfl hemits hplain
    fun id id' hid hid' => (hids id hid).trans (hids' id' hid').symm
  obtain ⟨destination, sent, hroute, hbatch, hsent⟩ :=
    hreceived "clock" reminderTimeout true _ stores_reminder sendsOn_reminder
  cases hroute
  exact ⟨log, log', _, hemits, hplain, stores_reminder, sendsOn_reminder, sent, hbatch, hsent⟩

/-! ### The two ways of a deferred message -/

/-- What a receiver would see if it made no difference whether a timeout manager stores a message
before it sends it on. -/
structure Agree (direct stored : Message) : Prop where
  /-- The ids are the same. -/
  id : stored.id = direct.id
  /-- The bodies are the same. -/
  body : stored.body = direct.body
  /-- The headers are the same, but for those that name the timeout and when it was sent on. -/
  headers : ∀ key, key ≠ Header.timeSent → key ≠ Header.relatedToTimeoutId →
    stored.headers.get? key = direct.headers.get? key
  /-- Neither says when the message was due. -/
  expire : direct.headers.get? Header.timeoutExpire = none ∧
    stored.headers.get? Header.timeoutExpire = none
  /-- Neither says where it was to go. -/
  routeExpiredTo : direct.headers.get? Header.timeoutRouteExpiredTo = none ∧
    stored.headers.get? Header.timeoutRouteExpiredTo = none

/-- What a receiver does see. -/
structure Compared (x : Timeout) (direct stored : Message) : Prop where
  /-- The bodies are the same. -/
  body : stored.body = direct.body
  /-- The ids are, if the headers name that of the message; a message without an id in its headers
  goes by that of the timeout. -/
  id : stored.id = direct.id ↔ direct.headers.getD Header.messageId x.id = direct.id
  /-- Of the headers, but for those that name the timeout and when it was sent on, all are the same
  except the two that said when and where the message was to go. -/
  headers : ∀ key, key ≠ Header.timeSent → key ≠ Header.relatedToTimeoutId →
    (stored.headers.get? key = direct.headers.get? key ↔
      key ≠ Header.timeoutExpire ∧ key ≠ Header.timeoutRouteExpiredTo ∨
        direct.headers.get? key = none)
  /-- A message that was stored has neither of those. -/
  removed : stored.headers.get? Header.timeoutExpire = none ∧
    stored.headers.get? Header.timeoutRouteExpiredTo = none
  /-- One that was not always says when it was due. -/
  kept : ∃ due, Manager.Interleaved.Punctual.Dated direct.headers due

/-- What is sent on at once goes where it goes after it was stored, and differs from that in the
headers that say when and where the message was to go, and in the id if the headers do not name
it. -/
theorem compared_of_both {batch' : Batch} (hdirect : SendsAtOnce owner message batch)
    (hstores : Stores owner message x) (hsends : SendsOn isolated x batch') :
    ∃ destination stored, batch = parcel destination message false ∧
      batch' = parcel destination stored isolated ∧ Compared x message stored := by
  obtain ⟨due, destination, hread, -, rfl⟩ := sendsAtOnce_iff.1 hdirect
  obtain ⟨due', destination', id, hread', -, rfl⟩ := stores_iff.1 hstores
  obtain ⟨now, rfl⟩ := sendsOn_iff.1 hsends
  -- both ways start from what is read of the same message
  cases hread.symm.trans hread'
  refine ⟨destination, _, rfl, rfl, ?_⟩
  exact {
    body := rfl
    id := by rw [id_expiredMessage]
    headers := fun key hsent hrelated => by
      rw [get?_expiredMessage _ _ hsent hrelated]
      grind
    removed :=
      ⟨by rw [get?_expiredMessage _ _ (by decide) (by decide), if_pos (.inl rfl)],
        by rw [get?_expiredMessage _ _ (by decide) (by decide), if_pos (.inr rfl)]⟩
    kept := ⟨due, Manager.Interleaved.Punctual.dated_of_readDeferred hread⟩ }

theorem compared_of_both_reminder : ∃ batch batch',
    SendsAtOnce "clock" deferredReminder batch ∧ Stores "clock" deferredReminder reminderTimeout ∧
      SendsOn true reminderTimeout batch' ∧
      ∃ destination stored, batch = parcel destination deferredReminder false ∧
        batch' = parcel destination stored true ∧
        Compared reminderTimeout deferredReminder stored :=
  ⟨_, _, sendsAtOnce_reminder, stores_reminder, sendsOn_reminder,
    compared_of_both sendsAtOnce_reminder stores_reminder sendsOn_reminder⟩

/-- It does make a difference whether a message is stored before it is sent on: a message that is
sent on at once still says when it was due. -/
theorem not_agree : ¬ ∀ (owner : String) (message : Message) (x : Timeout) (isolated : Bool)
    (batch batch' : Batch), SendsAtOnce owner message batch → Stores owner message x →
      SendsOn isolated x batch' →
      ∃ destination direct stored, batch = parcel destination direct false ∧
        batch' = parcel destination stored isolated ∧ Agree direct stored := by
  intro hclaim
  obtain ⟨destination, direct, stored, hbatch, -, hagree⟩ := hclaim "clock" deferredReminder
    reminderTimeout true _ _ sendsAtOnce_reminder stores_reminder sendsOn_reminder
  obtain rfl := Manager.Interleaved.Punctual.message_eq_of_parcel hbatch
  have hexpire := hagree.expire.1
  rw [deferredReminder, get?_expire] at hexpire
  cases hexpire

end Messaging.Timeouts
