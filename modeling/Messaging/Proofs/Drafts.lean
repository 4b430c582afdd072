import Messaging.Proofs.Deferring

/-!
# What a send leaves

A send writes one message and leaves it on the routes that are found for it, or, if it is to be
delayed, for a timeout manager.

- `written` is the message that a send writes under an id at a time.
- `Departs` says which operations the stages of routed messages make of a message, and `Drafted`
  which ones a send makes of what user code hands over.
- `drafted_of_emits` says that a send leaves no others, whatever the surroundings answer.
-/

namespace Messaging.Deferring

open Redelivery Timeouts

variable {α : Type} {log : List Exchange} {manager : String} {operations : List Operation}
  {operation : Operation} {P Q : Operation → Prop}

/-! ### Operations that were left -/

/-- All operations that were sent or staged are of a kind. -/
def LeavesOnly (P : Operation → Prop) (log : List Exchange) : Prop :=
  ∃ operations, Left operations log ∧ ∀ operation ∈ operations, P operation

/-- A program has written down what it asked, and has left an operation, sent or staged. -/
def Emits (program : Act α) (log : List Exchange) (operation : Operation) : Prop :=
  ∃ result operations, Runs anyAnswers.serves program [] result log ∧ Left operations log ∧
    operation ∈ operations

theorem LeavesOnly.imp (h : LeavesOnly P log) (hPQ : ∀ operation, P operation → Q operation) :
    LeavesOnly Q log := by
  obtain ⟨operations, hleft, hall⟩ := h
  exact ⟨operations, hleft, fun operation hmem => hPQ operation (hall operation hmem)⟩

theorem Still.leavesOnly (h : Still log) : LeavesOnly P log :=
  ⟨[], .staged h.sent h.staged, nofun⟩

/-- What was left does not depend on who asks. -/
theorem Left.mem {operations' : List Operation} (h : Left operations log)
    (h' : Left operations' log) (hmem : operation ∈ operations) : operation ∈ operations' := by
  cases h with
  | sent hsent _ =>
    cases h' with
    | sent hsent' _ =>
      obtain ⟨hbatch, -⟩ := List.cons.inj (hsent.symm.trans hsent')
      rwa [← Batch.mem_toList_ofList, ← hbatch, Batch.mem_toList_ofList]
    | staged hnone _ => cases hsent.symm.trans hnone
  | staged hnone hstaged =>
    cases h' with
    | sent hsent' _ => cases hnone.symm.trans hsent'
    | staged _ hstaged' => rwa [← hstaged', hstaged]

/-- An operation that a program has left is of the kind of all that it leaves. -/
theorem Emits.of_assured {P : List Exchange → Operation → Prop} {program : Act α}
    (h : Emits program log operation)
    (hassured : Assured anyAnswers (fun _ after => LeavesOnly (P after) after) program []) :
    P log operation := by
  obtain ⟨result, operations, hruns, hleft, hmem⟩ := h
  obtain ⟨operations', hleft', hall⟩ := hassured.of_runs (fun _ => rfl) hruns
  exact hall operation (hleft.mem hleft' hmem)

/-! ### Routed messages -/

/-- An operation that the stages of routed messages make of a message. -/
inductive Departs (manager : String) (message : Message) (routes : List Route)
    (constraints : List Constraint) : Operation → Prop where
  /-- Without a delay the message is left for each route. -/
  | plain {route : Route} (hnone : ∀ constraint ∈ constraints, constraint.isDelay = false)
      (hroute : route ∈ routes) :
      Departs manager message routes constraints { message, route, constraints }
  /-- With a delay it is left for the timeout manager, and its one destination travels in the
  headers with the due time. -/
  | deferred {destination : String} {due : Time.Instant}
      (hdelay : ∃ constraint ∈ constraints, constraint.isDelay = true)
      (hroutes : routes = [.unicast destination]) :
      Departs manager message routes constraints {
        message := { message with headers := deferredHeaders destination due message.headers }
        route := .unicast manager
        constraints := constraints.filter fun constraint => !constraint.isDelay }

namespace Departs

variable {message : Message} {routes : List Route} {constraints : List Constraint}

/-- A message with a delay is left for the timeout manager only. -/
theorem of_isDelay (h : Departs manager message routes constraints operation)
    (hdelay : ∃ constraint ∈ constraints, constraint.isDelay = true) :
    operation.route = .unicast manager ∧ ∃ destination due, routes = [.unicast destination] ∧
      operation.message
        = { message with headers := deferredHeaders destination due message.headers } := by
  cases h with
  | plain hnone =>
    obtain ⟨constraint, hmem, hisDelay⟩ := hdelay
    exact absurd ((hnone constraint hmem).symm.trans hisDelay) nofun
  | deferred _ hroutes => exact ⟨rfl, _, _, hroutes, rfl⟩

/-- A message without a delay is left as it is. -/
theorem of_not_isDelay (h : Departs manager message routes constraints operation)
    (hnone : ∀ constraint ∈ constraints, constraint.isDelay = false) :
    operation.route ∈ routes ∧ operation.message = message := by
  cases h with
  | plain _ hroute => exact ⟨hroute, rfl⟩
  | deferred hdelay =>
    obtain ⟨constraint, hmem, hisDelay⟩ := hdelay
    exact absurd ((hnone constraint hmem).symm.trans hisDelay) nofun

end Departs

/-- The last stage leaves the operations of its message. -/
theorem Leaves.leavesOnly {capabilities : Capabilities} {context : RoutingContext}
    {result : StageResult} (h : Leaves capabilities context result log)
    (hall : ∀ operation ∈ Outgoing.operations context, P operation) : LeavesOnly P log := by
  cases h with
  | failed hstill => exact hstill.leavesOnly
  | nowhere _ hstill => exact hstill.leavesOnly
  | left _ _ hleft => exact ⟨_, hleft, hall⟩

/-- A message without a due time has no delays. -/
theorem isDelay_eq_false {constraints : List Constraint} {now : Time.Instant}
    (h : dueAt? constraints now = none) :
    ∀ constraint ∈ constraints, constraint.isDelay = false := by
  intro constraint hmem
  rw [← isSome_dueAt? constraint now, List.findSome?_eq_none_iff.1 h constraint hmem]
  rfl

theorem exists_isDelay {constraints : List Constraint} {now due : Time.Instant}
    (h : dueAt? constraints now = some due) :
    ∃ constraint ∈ constraints, constraint.isDelay = true := by
  obtain ⟨constraint, hmem, hdue⟩ := List.exists_of_findSome?_eq_some h
  exact ⟨constraint, hmem, by rw [← isSome_dueAt? constraint now, hdue]; rfl⟩

section Stages

variable {outbound : Outbound} (hmanager : outbound.manager = some manager)
include hmanager

/-- What the stages of routed messages leave. -/
theorem routing_departs (message : Message) (routes : List Route) (constraints : List Constraint)
    (scope : ScopeId) (hlog : Still log) :
    Ends (fun _ => LeavesOnly (Departs manager message routes constraints))
      (outbound.sending.routing.invoke { message, routes, constraints, scope }) log := by
  obtain ⟨resolver, _, serializer, capabilities⟩ := outbound
  cases hmanager
  change Ends _ (routeDeferred manager _ _) log
  rw [routeDeferred]
  refine assured_ask fun now => ?_
  have hlog' := hlog.aside .clock trivial now
  generalize log ++ [_] = log' at hlog' ⊢
  dsimp only
  -- without a delay the message goes where it was to go
  split
  · next hnone =>
    refine Ends.imp (dispatchLast_ends capabilities _ hlog') fun result after _ hleaves => ?_
    refine hleaves.leavesOnly fun operation hmem => ?_
    obtain ⟨route, hroute, rfl⟩ := List.mem_map.1 hmem
    exact .plain (isDelay_eq_false hnone) hroute
  · next due hdue =>
    split
    · exact ⟨_, _, rfl, hlog'.leavesOnly⟩
    · -- with one it goes to the manager, which is told the destination
      next destination hone =>
      refine Ends.imp (dispatchLast_ends capabilities _ hlog') fun result after _ hleaves => ?_
      refine hleaves.leavesOnly fun operation hmem => ?_
      obtain rfl := List.mem_singleton.1 hmem
      exact .deferred (exists_isDelay hdue) (oneAddress?_eq_some hone)

/-- What the stages of written messages leave. -/
theorem physical_departs (context : PhysicalContext) (hlog : Still log) :
    Ends (fun _ => LeavesOnly (Departs manager
        ⟨context.messageId, context.headers.insert Header.messageId context.messageId, context.body⟩
        context.routes context.constraints))
      (outbound.sending.physical.invoke context) log := by
  refine assured_ask fun scope => Ends.nested ?_
  exact routing_departs hmanager _ context.routes context.constraints scope
    (hlog.aside (.openScope _) trivial scope)

end Stages

/-! ### Messages of user code -/

/-- The headers that a message has once it is written. -/
def writtenHeaders (serializer : Serializer) (messageType messageId : String) (headers : Headers) :
    Headers :=
  ((headers.insert Header.contentType serializer.contentType).insert Header.enclosedMessageTypes
    messageType).insert Header.messageId messageId

/-- An operation that the stages of outgoing messages make of a message. -/
inductive Outgoes (outbound : Outbound) (manager : String) (context : OutgoingContext) :
    Operation → Prop where
  | intro {routes : List Route} {body : Body} {operation : Operation}
      (hroutes : destinations outbound.resolver context = .ok routes)
      (hbody : outbound.serializer.write context.message.body = .ok body)
      (hdeparts : Departs manager
        ⟨context.messageId, writtenHeaders outbound.serializer context.message.messageType
          context.messageId context.headers, body⟩ routes context.constraints operation) :
      Outgoes outbound manager context operation

section Stages

variable {outbound : Outbound} (hmanager : outbound.manager = some manager)
include hmanager

/-- What the stages that write a message leave. -/
theorem serialize_outgoes {context : OutgoingContext} {routes : List Route}
    (hroutes : destinations outbound.resolver context = .ok routes) (hlog : Still log) :
    Ends (fun _ => LeavesOnly (Outgoes outbound manager context))
      (Outgoing.serialize outbound.serializer outbound.sending.physical { context with routes })
      log := by
  rw [Outgoing.serialize]
  split
  · exact ⟨_, _, rfl, hlog.leavesOnly⟩
  · next body hbody =>
    refine assured_ask fun scope => Ends.nested ?_
    refine Ends.imp (physical_departs hmanager _ (hlog.aside (.openScope _) trivial scope)) ?_
    exact fun result after _ hleaves => hleaves.imp fun operation hdeparts =>
      .intro hroutes hbody hdeparts

/-- What the stages of outgoing messages leave. -/
theorem outgoing_outgoes (context : OutgoingContext) (hlog : Still log) :
    Ends (fun _ => LeavesOnly (Outgoes outbound manager context))
      (outbound.sending.outgoing.invoke context) log := by
  change Ends _ (Outgoing.resolveRoutes outbound.resolver _ context) log
  rw [Outgoing.resolveRoutes]
  split
  · next hempty =>
    split
    · next routes hroutes =>
      exact serialize_outgoes hmanager (by rw [destinations, if_pos hempty, hroutes]) hlog
    · exact ⟨_, _, rfl, hlog.leavesOnly⟩
  · next hsome => exact serialize_outgoes hmanager (by rw [destinations, if_neg hsome]) hlog

end Stages

/-- The id of a message is the one that user code gave it, or else one that was drawn. -/
def Named (options : SendOptions) (log : List Exchange) (messageId : String) : Prop :=
  match options.messageId with
  | some id => messageId = id
  | none => ⟨.freshId, messageId⟩ ∈ log

theorem Named.mono {options : SendOptions} {log' : List Exchange} {messageId : String}
    (h : Named options log messageId) (hlog : log <+: log') : Named options log' messageId := by
  unfold Named at *
  split at h
  · exact h
  · exact hlog.subset h

/-- An operation that a send makes of what user code hands over. -/
inductive Drafted (outbound : Outbound) (manager : String) (sender : Operations) (intent : Intent)
    (payload : Payload) (options : SendOptions) (log : List Exchange) : Operation → Prop where
  | intro {content : Json} {messageId : String} {now : Time.Instant} {routes : List Route}
      {body : Body} {operation : Operation} (hcontent : payload.body = .ok content)
      (hid : Named options log messageId)
      (hroutes : outbound.resolver.resolve intent payload.messageType messageId
        options.destination options.toSelf = .ok routes)
      (hbody : outbound.serializer.write content = .ok body)
      (hdeparts : Departs manager
        ⟨messageId, writtenHeaders outbound.serializer payload.messageType messageId
          (sender.newHeaders intent messageId (Time.Wire.write now) options.headers), body⟩
        routes options.constraints operation) :
      Drafted outbound manager sender intent payload options log operation

section Sends

variable {outbound : Outbound} {sender : Operations} {intent : Intent} {payload : Payload}
  {options : SendOptions} {content : Json} {messageId : String}

/-- The message that a send puts on its way. -/
def draft (sender : Operations) (intent : Intent) (payload : Payload) (content : Json)
    (options : SendOptions) (messageId : String) (now : Time.Instant) (scope : ScopeId) :
    OutgoingContext where
  messageId := messageId
  intent := intent
  message := ⟨payload.messageType, content⟩
  headers := sender.newHeaders intent messageId (Time.Wire.write now) options.headers
  destination := options.destination
  toSelf := options.toSelf
  constraints := options.constraints
  routes := []
  scope := scope

/-- What the stages of outgoing messages leave of it. -/
theorem draft_drafted (hmanager : outbound.manager = some manager)
    (hsender : sender.outgoing = outbound.sending.outgoing) (hcontent : payload.body = .ok content)
    (hid : Named options log messageId) (now : Time.Instant) (scope : ScopeId) (hlog : Still log) :
    Assured anyAnswers
      (fun _ after =>
        LeavesOnly (Drafted outbound manager sender intent payload options after) after)
      ((sender.outgoing.result
        (draft sender intent payload content options messageId now scope)).bind
          fun result => .done (Operations.unitResult result)) log := by
  rw [hsender]
  refine Assured.bind (Assured.bind (Assured.imp
    (assured_grows (outgoing_outgoes hmanager _ hlog)) ?_))
  rintro _ after ⟨⟨result, context, rfl, hleaves⟩, hgrown⟩
  refine hleaves.imp fun operation houtgoes => ?_
  obtain ⟨hroutes, hbody, hdeparts⟩ := houtgoes
  exact .intro hcontent (hid.mono hgrown) hroutes hbody hdeparts

/-- What a send leaves is what it makes of what user code hands over. -/
theorem drafted_of_emits (hmanager : outbound.manager = some manager)
    (hsender : sender.outgoing = outbound.sending.outgoing) {parent : ScopeId}
    (h : Emits (sender.dispatch parent intent payload options) log operation) :
    Drafted outbound manager sender intent payload options log operation := by
  have hstill : Still [] := ⟨rfl, rfl⟩
  refine h.of_assured ?_
  rw [Operations.dispatch]
  split
  · exact hstill.leavesOnly
  · next content hcontent =>
    -- the id is given or drawn; the time and a scope are asked for before the stages run
    cases hid : options.messageId with
    | some id =>
      refine assured_ask fun now => assured_ask fun scope =>
        draft_drafted hmanager hsender hcontent (by simp [Named, hid]) now scope ?_
      exact (hstill.aside .clock trivial now).aside (.openScope _) trivial scope
    | none =>
      refine assured_ask fun id => assured_ask fun now => assured_ask fun scope =>
        draft_drafted hmanager hsender hcontent (by simp [Named, hid]) now scope ?_
      exact ((hstill.aside .freshId trivial id).aside .clock trivial now).aside (.openScope _)
        trivial scope

end Sends

end Messaging.Deferring
