import Messaging.Proofs.Bearing
import Messaging.Proofs.Carrying
import Messaging.Proofs.Transparency

/-!
# What outgoing messages carry

Messages that an endpoint sends carry the name of a conversation and the address of their sender,
and an answer goes to the address that it was made for. It holds whatever the surroundings answer,
and with steps of the user that leave conversations alone.

- `Stamp` is what an outgoing message has to carry; `Stamp.Directs` says so of a message on its way
  and `Stamp.On` of an operation.
- `routing_stamps`, `physical_stamps` and `outgoing_stamps` lead from one to the other,
  `draft_stamps` starts with what user code hands over, and `dispatch_stamps` with a send.
- `forward_holds` says what is left of a message that is forwarded.
-/

namespace Messaging.Conversation

open Redelivery Deferring Timeouts

variable {α β : Type} {ok : List Exchange → Prop} {log : List Exchange}

/-! ### Stamps -/

/-- Headers name a conversation and an address for answers, or none. -/
structure Marks (correlation replyTo : Option String) (headers : Headers) : Prop where
  correlation : headers.get? Header.correlationId = correlation
  replyTo : headers.get? Header.replyToAddress = replyTo

/-- What an outgoing message carries: its id, if that is to be a certain one, the conversation, the
address for answers, and, if it is an answer itself, the address that it goes to. -/
structure Stamp where
  messageId : Option String := none
  correlation : Option String
  replyTo : Option String
  answerTo : Option String

/-- A message on its way carries a stamp, and as an answer it goes where the stamp says, at once. -/
structure Stamp.Directs (stamp : Stamp) (course : Course) : Prop where
  messageId : ∀ id ∈ stamp.messageId, course.messageId = id
  marks : Marks stamp.correlation stamp.replyTo course.headers
  reply : IsReply course.headers →
    (∀ route ∈ course.routes, ∃ address, stamp.answerTo = some address ∧
      route = .unicast address) ∧
    ∀ constraint ∈ course.constraints, constraint.isDelay = false

/-- An operation carries a stamp, and as an answer it goes where the stamp says. -/
structure Stamp.On (stamp : Stamp) (operation : Operation) : Prop where
  messageId : ∀ id ∈ stamp.messageId, operation.message.id = id
  marks : Marks stamp.correlation stamp.replyTo operation.message.headers
  reply : IsReply operation.message.headers →
    ∃ address, stamp.answerTo = some address ∧ operation.route = .unicast address

/-- `SameThread` is transitive, as headers go from stage to stage. -/
theorem SameThread.trans {headers headers' headers'' : Headers} (h : SameThread headers headers')
    (h' : SameThread headers' headers'') : SameThread headers headers'' :=
  ⟨h'.correlation.trans h.correlation, h'.replyTo.trans h.replyTo⟩

variable {stamp : Stamp} {correlation replyTo : Option String} {headers headers' : Headers}

/-- Headers of the `SameThread` have the same `Marks`. -/
theorem Marks.of_sameThread (h : Marks correlation replyTo headers)
    (hsame : SameThread headers headers') : Marks correlation replyTo headers' :=
  ⟨hsame.correlation.trans h.correlation, hsame.replyTo.trans h.replyTo⟩

/-- A stamp that `Directs` a message still does after the message `Follows` its course. -/
theorem Stamp.Directs.follows {course course' : Course} (h : stamp.Directs course)
    (hfollows : Follows course course') : stamp.Directs course' where
  messageId id hid := hfollows.messageId.trans (h.messageId id hid)
  marks := h.marks.of_sameThread hfollows.thread
  reply hreply := by
    obtain ⟨hbefore, hroutes, hconstraints⟩ := hfollows.reply hreply
    obtain ⟨hall, hprompt⟩ := h.reply hbefore
    exact ⟨fun route hroute => hall route (hroutes hroute),
      fun constraint hconstraint => hprompt constraint (hconstraints hconstraint)⟩

/-- Headers that differ in none of those that make a conversation. -/
theorem follows_of_get? {messageId : String} {routes : List Route} {constraints : List Constraint}
    (h : ∀ key, key = Header.correlationId ∨ key = Header.replyToAddress ∨
      key = Header.messageIntent → headers'.get? key = headers.get? key) :
    Follows ⟨messageId, headers, routes, constraints⟩
      ⟨messageId, headers', routes, constraints⟩ where
  messageId := rfl
  thread := ⟨h _ (.inl rfl), h _ (.inr (.inl rfl))⟩
  reply hreply := by
    refine ⟨?_, List.Subset.refl _, List.Subset.refl _⟩
    rw [IsReply, ← h _ (.inr (.inr rfl))]
    exact hreply

/-- `Operations.newHeaders` names the intent it is given. -/
theorem get?_messageIntent (sender : Operations) (intent : Intent)
    (messageId timeSent : String) (headers : Headers) :
    (sender.newHeaders intent messageId timeSent headers).get? Header.messageIntent
      = some intent.name := by
  have hcorrelation : Header.messageIntent ≠ Header.correlationId := by decide
  have hreplyTo : Header.messageIntent ≠ Header.replyToAddress := by decide
  have hendpoint : Header.messageIntent ≠ Header.originatingEndpoint := by decide
  rw [Operations.newHeaders]
  cases sender.localAddress <;>
    simp only [Table.get?_insertIfNew, hcorrelation, hreplyTo, if_false,
      Table.get?_insert_of_ne _ _ (show Header.messageIntent ≠ Header.timeSent by decide),
      Table.get?_insert_of_ne _ _ hendpoint,
      Table.get?_insert_self]

/-- New headers are those of a reply only if it is one. -/
theorem isReply_newHeaders {sender : Operations} {intent : Intent} {messageId timeSent : String}
    (h : IsReply (sender.newHeaders intent messageId timeSent headers)) : intent = .reply := by
  rw [IsReply, get?_messageIntent, Option.some_inj] at h
  revert h
  cases intent <;> decide

/-! ### Outgoing messages -/

/-- A property of what was asked that allows for operations of a kind. -/
structure Admits (P : Operation → Prop) (ok : List Exchange → Prop) : Prop where
  lasts : Lasts ok
  stage : ∀ (log : List Exchange) (staging : StagingId) (operations : List Operation),
    (∀ operation ∈ operations, P operation) → ok log →
    ok (log ++ [⟨.stage staging operations, ()⟩])
  dispatch : ∀ (log : List Exchange) (operations : List Operation)
    (answer : Except TransportError Unit), (∀ operation ∈ operations, P operation) → ok log →
    ok (log ++ [⟨.dispatch (.ofList operations), answer⟩])

section Sending

variable {P : Operation → Prop} {Q : RoutingContext → Prop} {capabilities : Capabilities}
  {serializer : Serializer}

/-- A batch that is handed over at once keeps what its operations are admitted to. -/
theorem dispatchNow_holds {operations : List Operation}
    (h : ∀ log answer, ok log → ok (log ++ [⟨.dispatch (.ofList operations), answer⟩])) :
    Holds ok (Outgoing.dispatchNow (.ofList operations)) :=
  (Holds.ask h).bind fun answer _ => by cases answer <;> exact .done _

/-- The last stage stages or hands over what the routes make of the message. -/
theorem dispatchLast_holds (hadmits : Admits P ok) (context : RoutingContext)
    (hall : ∀ operation ∈ Outgoing.operations context, P operation) :
    Holds ok (Outgoing.dispatchLast capabilities context) := by
  have hdispatch := dispatchNow_holds fun log answer =>
    hadmits.dispatch log (Outgoing.operations context) answer hall
  rw [Outgoing.dispatchLast]
  split
  · exact .done _
  · split
    · exact .done _
    · split
      · exact hdispatch.bind fun _ _ => .done _
      · -- inside of a receive the operations are staged, elsewhere handed over
        refine hadmits.lasts.bind_ask (.readSlot context.scope .staging) trivial fun staging => ?_
        cases staging with
        | none => exact hdispatch.bind fun _ _ => .done _
        | some staging =>
          refine Holds.bind (.ask fun log answer => ?_) fun _ _ => .done _
          exact hadmits.stage log staging _ hall

/-- A message that is sent apart from the receive is sent at once. -/
theorem dispatchLast_holds_of_isolated
    (hdispatch : ∀ (log : List Exchange) (operations : List Operation)
      (answer : Except TransportError Unit), (∀ operation ∈ operations, operation.isolated = true) →
      ok log → ok (log ++ [⟨.dispatch (.ofList operations), answer⟩]))
    (context : RoutingContext) (hisolated : context.isolated = true) :
    Holds ok (Outgoing.dispatchLast capabilities context) := by
  rw [Outgoing.dispatchLast]
  split
  · exact .done _
  · split
    · exact .done _
    · refine Holds.bind (dispatchNow_holds fun log answer => hdispatch log _ answer ?_)
        fun _ _ => .done _
      -- every operation is isolated as its message is
      intro operation hmem
      obtain ⟨route, -, rfl⟩ := List.mem_map.1 hmem
      exact hisolated

/-- A routed message once it is deferred. -/
def deferred (manager destination : String) (due : Time.Instant) (context : RoutingContext) :
    RoutingContext :=
  { context with
    message := { context.message with
      headers := deferredHeaders destination due context.message.headers }
    routes := [.unicast manager]
    constraints := context.constraints.filter fun constraint => !constraint.isDelay }

/-- The pipeline of routed messages keeps what its last stage keeps, if neither steps of the user
nor a deferral take its grounds away. -/
theorem routing_holds {routing : Chain RoutingContext}
    (hrouting : Lined none .routing routing (Outgoing.dispatchLast capabilities))
    (hlasts : Lasts ok) (hbears : ∀ context context', Bears .routing context context' →
      Q context → Q context')
    (hdeferred : ∀ manager destination due context,
      (∃ constraint ∈ context.constraints, constraint.isDelay = true) → Q context →
        Q (deferred manager destination due context))
    (hlast : ∀ context, Q context → Holds ok (Outgoing.dispatchLast capabilities context))
    (context : RoutingContext) (hcontext : Q context) : Holds ok (routing.invoke context) := by
  refine chain_holds hrouting (fun stage hstage => ?_) hlast context hcontext
  -- stages of the user bear on, and the deferring one may send the message elsewhere
  cases hstage with
  | user hkeeps => exact hkeeps.forwards hlasts hbears fun _ _ _ _ h => h.elim
  | deferral manager =>
    intro next hnext context hcontext
    rw [Timeouts.routeDeferred]
    refine hlasts.bind_ask .clock trivial fun now => ?_
    split
    · exact hnext context hcontext
    · next due hdue =>
      split
      · exact .done _
      · exact hnext _ (hdeferred manager _ due context (exists_isDelay hdue) hcontext)

/-- The headers of a deferred message are of the `SameThread`. -/
theorem sameThread_deferredHeaders (destination : String) (due : Time.Instant)
    (headers : Headers) : SameThread headers (deferredHeaders destination due headers) :=
  ⟨get?_deferredHeaders _ _ _ (by decide), get?_deferredHeaders _ _ _ (by decide)⟩

/-- A reply is never deferred, so that the route to the timeout manager breaks no stamp. -/
theorem directs_deferred {manager destination : String} {due : Time.Instant}
    {context : RoutingContext}
    (hdelay : ∃ constraint ∈ context.constraints, constraint.isDelay = true)
    (h : stamp.Directs ⟨context.message.id, context.message.headers, context.routes,
      context.constraints⟩) :
    stamp.Directs ⟨context.message.id, deferredHeaders destination due context.message.headers,
      [.unicast manager], context.constraints.filter fun constraint => !constraint.isDelay⟩ := by
  refine ⟨h.messageId, h.marks.of_sameThread (sameThread_deferredHeaders ..), fun hreply => ?_⟩
  -- an answer is never deferred
  obtain ⟨constraint, hmem, hisDelay⟩ := hdelay
  rw [IsReply, get?_deferredHeaders _ _ _ (by decide)] at hreply
  rw [(h.reply hreply).2 constraint hmem] at hisDelay
  cases hisDelay

section Stages

variable {sending : Assembly.SendingSide} (houtward : Outward sending serializer capabilities)
  (hadmits : Admits stamp.On ok)
include houtward hadmits

/-- From the last pipeline to the first one: a message that its stamp `Directs` is staged or sent
with it. -/
theorem routing_stamps (context : RoutingContext)
    (h : stamp.Directs ⟨context.message.id, context.message.headers, context.routes,
      context.constraints⟩) :
    Holds ok (sending.routing.invoke context) := by
  refine routing_holds houtward.routing hadmits.lasts
    (fun _ _ hbears (h : stamp.Directs ⟨_, _, _, _⟩) => h.follows hbears.1)
    (fun _ _ _ _ hdelay h => directs_deferred hdelay h) (fun context h => ?_) context h
  refine dispatchLast_holds hadmits context fun operation hoperation => ?_
  obtain ⟨route, hroute, rfl⟩ := List.mem_map.1 hoperation
  exact ⟨h.messageId, h.marks, fun hreply => (h.reply hreply).1 route hroute⟩

theorem physical_stamps (context : PhysicalContext)
    (h : stamp.Directs ⟨context.messageId, context.headers, context.routes, context.constraints⟩) :
    Holds ok (sending.physical.invoke context) := by
  refine chain_holds houtward.physical
    (P := fun context =>
      stamp.Directs ⟨context.messageId, context.headers, context.routes, context.constraints⟩)
    (fun stage hstage => ?_) (fun context h => ?_) context h
  · cases hstage with
    | user hkeeps =>
      exact hkeeps.forwards hadmits.lasts (fun _ _ hbears h => h.follows hbears)
        fun _ _ _ _ h => h.elim
  · refine hadmits.lasts.bind_ask (.openScope _) trivial fun scope =>
      Holds.bind (.result ?_) fun _ _ => .done _
    refine routing_stamps houtward hadmits _ (h.follows (follows_of_get? fun key hkey => ?_))
    rcases hkey with rfl | rfl | rfl <;> exact Table.get?_insert_of_ne _ _ (by decide)

theorem serialize_stamps (context : OutgoingContext)
    (h : stamp.Directs ⟨context.messageId, context.headers, context.routes, context.constraints⟩) :
    Holds ok (Outgoing.serialize serializer sending.physical context) := by
  rw [Outgoing.serialize]
  split
  · exact .done _
  · refine hadmits.lasts.bind_ask (.openScope _) trivial fun scope =>
      Holds.bind (.result ?_) fun _ _ => .done _
    refine physical_stamps houtward hadmits _ (h.follows (follows_of_get? fun key hkey => ?_))
    rcases hkey with rfl | rfl | rfl <;>
      exact (Table.get?_insert_of_ne _ _ (by decide)).trans
        (Table.get?_insert_of_ne _ _ (by decide))

/-- A message that is yet to be written is left with its stamp. -/
theorem outgoing_stamps (context : OutgoingContext)
    (h : stamp.Directs ⟨context.messageId, context.headers, context.routes, context.constraints⟩)
    (hreply : IsReply context.headers →
      context.intent = .reply ∧ context.destination = stamp.answerTo) :
    Holds ok (sending.outgoing.invoke context) := by
  refine chain_holds houtward.outgoing
    (P := fun context =>
      stamp.Directs ⟨context.messageId, context.headers, context.routes, context.constraints⟩ ∧
        (IsReply context.headers →
          context.intent = .reply ∧ context.destination = stamp.answerTo))
    (fun stage hstage => ?_) (fun context h => serialize_stamps houtward hadmits context h.1)
    context ⟨h, hreply⟩
  cases hstage with
  | user hkeeps =>
    refine hkeeps.forwards hadmits.lasts ?_ fun _ _ _ _ h => h.elim
    rintro context context' ⟨hfollows, hsame⟩ ⟨h, hreply⟩
    refine ⟨h.follows hfollows, fun hreply' => ?_⟩
    obtain ⟨hintent, hdestination⟩ := hsame hreply'
    obtain ⟨hbefore, htarget⟩ := hreply (hfollows.reply hreply').1
    exact ⟨hintent.trans hbefore, hdestination.trans htarget⟩
  | routes resolver =>
    rintro next hnext context ⟨h, hreply⟩
    rw [Outgoing.resolveRoutes]
    split
    · split
      · next routes hroutes =>
        refine hnext _ ⟨⟨h.messageId, h.marks, fun hisReply => ⟨?_, (h.reply hisReply).2⟩⟩, hreply⟩
        -- an answer has one route, to its destination
        obtain ⟨hintent, hdestination⟩ := hreply hisReply
        rw [hintent, hdestination, Resolver.resolve] at hroutes
        intro route hroute
        cases hanswer : stamp.answerTo with
        | none =>
          rw [hanswer] at hroutes
          cases hroutes
        | some address =>
          rw [hanswer] at hroutes
          cases hroutes
          exact ⟨address, rfl, List.mem_singleton.1 hroute⟩
      · exact .done _
    · exact hnext context ⟨h, hreply⟩

/-! ### Messages of user code -/

variable {sender : Operations} {intent : Intent} {options : SendOptions} {messageId : String}

/-- What user code sends is left with a stamp: it names the conversation that the options name, or
else begins one, and it names the address of its sender. -/
theorem draft_stamps (hsender : sender.outgoing = sending.outgoing) (parent : ScopeId)
    (payload : Payload) (content : Json) (hid : ∀ id ∈ stamp.messageId, messageId = id)
    (hcorrelation : (options.headers.get? Header.correlationId).or (some messageId)
      = stamp.correlation)
    (hfree : options.headers.get? Header.replyToAddress = none)
    (hreplyTo : sender.localAddress = stamp.replyTo)
    (hreply : intent = .reply → options.destination = stamp.answerTo ∧
      ∀ constraint ∈ options.constraints, constraint.isDelay = false) :
    Holds ok ((Act.ask .clock).bind fun now => (Act.childScope parent).bind fun scope =>
      (sender.outgoing.result
        (draft sender intent payload content options messageId now scope)).bind
          fun result => .done (Operations.unitResult result)) := by
  refine hadmits.lasts.bind_ask .clock trivial fun now => ?_
  refine hadmits.lasts.bind_ask (.openScope _) trivial fun scope =>
    Holds.bind (.result ?_) fun _ _ => .done _
  rw [hsender]
  -- the new headers: conversation, address for answers, and what there is to say of a reply
  refine outgoing_stamps houtward hadmits _ ⟨hid, ⟨?_, ?_⟩, fun hisReply => ⟨nofun, ?_⟩⟩
    fun hisReply => ⟨isReply_newHeaders hisReply, ?_⟩
  · exact (get?_newHeaders_eq _ _ _ _ _ (by decide)).trans hcorrelation
  · refine (get?_newHeaders_eq _ _ _ _ _ (by decide)).trans ?_
    rw [hfree, Option.none_or, defaultHeader?, if_neg (by decide), if_pos rfl, hreplyTo]
  · exact (hreply (isReply_newHeaders hisReply)).2
  · exact (hreply (isReply_newHeaders hisReply)).1

/-- The same holds from the start if the options name the conversation. -/
theorem dispatch_stamps (hsender : sender.outgoing = sending.outgoing) (parent : ScopeId)
    (payload : Payload) (hnone : stamp.messageId = none)
    (hcorrelation : options.headers.get? Header.correlationId = stamp.correlation)
    (hsome : stamp.correlation.isSome)
    (hfree : options.headers.get? Header.replyToAddress = none)
    (hreplyTo : sender.localAddress = stamp.replyTo)
    (hreply : intent = .reply → options.destination = stamp.answerTo ∧
      ∀ constraint ∈ options.constraints, constraint.isDelay = false) :
    Holds ok (sender.dispatch parent intent payload options) := by
  obtain ⟨root, hroot⟩ := Option.isSome_iff_exists.1 hsome
  have hdraft (messageId : String) (content : Json) :=
    draft_stamps houtward hadmits hsender parent payload content
      (show ∀ id ∈ stamp.messageId, messageId = id by simp [hnone])
      (by rw [hcorrelation, hroot, Option.some_or]) hfree hreplyTo hreply
  rw [Operations.dispatch]
  split
  · exact .done _
  · next content _ =>
    -- the id is given or drawn; the stamp asks for none
    cases options.messageId with
    | some messageId => exact hdraft messageId content
    | none =>
      exact hadmits.lasts.bind_ask .freshId trivial fun messageId => hdraft messageId content

end Stages

/-- A message passes for another: it has its id and its thread. -/
structure PassesFor (message message' : Message) : Prop where
  id : message'.id = message.id
  thread : SameThread message.headers message'.headers

/-- A written message that is forwarded is left as one that passes for it. -/
theorem forward_holds {sending : Assembly.SendingSide}
    (houtward : Outward sending serializer capabilities) {sender : Operations}
    (hsender : sender.routing = sending.routing) {message : Message}
    (hadmits : Admits (fun operation => PassesFor message operation.message) ok)
    (parent : ScopeId) (destination : String) :
    Holds ok (sender.forward parent message destination) := by
  refine hadmits.lasts.bind_ask (.openScope _) trivial fun scope =>
    Holds.bind (.result ?_) fun _ _ => .done _
  rw [hsender]
  -- a forwarded message goes through routing only, which keeps its id and thread
  refine routing_holds houtward.routing (Q := fun context => PassesFor message context.message)
    hadmits.lasts ?_ ?_ (fun context h => ?_) _ ⟨rfl, rfl, rfl⟩
  · rintro context context' ⟨hfollows, -⟩ h
    exact ⟨hfollows.messageId.trans h.id, h.thread.trans hfollows.thread⟩
  · intro manager destination due context _ h
    exact ⟨h.id, h.thread.trans (sameThread_deferredHeaders ..)⟩
  refine dispatchLast_holds hadmits context fun operation hoperation => ?_
  obtain ⟨route, -, rfl⟩ := List.mem_map.1 hoperation
  exact h

end Sending

end Messaging.Conversation
