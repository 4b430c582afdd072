import Messaging.Endpoint.Assembly
import Messaging.Proofs.Staging

/-!
# What is sent while a message is received

The pipelines of outgoing messages of an endpoint without steps of the user, seen from a scope that
leads to a list of staged operations.

- `Outbound` is what the built-in stages are told, and `Outbound.sending` the pipelines of them.
- `Outbound.dispatch_stages` and `Outbound.forward_stages` say that the ways to send of an endpoint
  stage what they send, and that nothing leaves the endpoint.
- `Outbound.fault_tries` says that a message for the error queue is sent apart from that, in a batch
  of its own.
-/

namespace Messaging.Redelivery

open Assembly (SendingSide)

/-- What the built-in stages of outgoing messages are told. -/
structure Outbound where
  /-- What decides the routes. -/
  resolver : Resolver
  /-- The timeout manager that deferred messages go to, if there is one. -/
  manager : Option String
  /-- The format of message bodies. -/
  serializer : Serializer
  /-- What the transport offers. -/
  capabilities : Capabilities

namespace Outbound

/-- The pipelines of outgoing messages with built-in stages only. -/
def sending (outbound : Outbound) : SendingSide :=
  let routing : Chain RoutingContext :=
    { name := mainPipeline
      steps := outbound.manager.toList.map fun address =>
        (Timeouts.routeDeferredStep, Timeouts.routeDeferred address)
      terminator := Outgoing.dispatchLast outbound.capabilities }
  let physical : Chain PhysicalContext :=
    { name := mainPipeline, steps := [], terminator := Outgoing.toRouting routing }
  { outgoing :=
      { name := mainPipeline
        steps := [(Outgoing.resolveRoutesStep, Outgoing.resolveRoutes outbound.resolver)]
        terminator := Outgoing.serialize outbound.serializer physical }
    physical
    routing
    fault := { name := mainPipeline, steps := [], terminator := Outgoing.faultToRouting routing } }

/-- The ways to send with built-in stages only. -/
def operations (outbound : Outbound) (endpointName : String) (localAddress : Option String) :
    Operations :=
  { outgoing := outbound.sending.outgoing, routing := outbound.sending.routing, endpointName
    localAddress }

end Outbound

variable {staging : StagingId} {s : Moment} {α C : Type}

/-! ### Staging -/

/-- A pipeline whose result is made something of sends nothing if its stages do not. -/
theorem Stages.result {pipeline : Chain C} {context : C} {f : StageResult → α}
    (h : Stages staging (fun _ => True) (pipeline.invoke context) s) :
    Stages staging (fun _ => True)
      ((pipeline.result context).bind fun result => .done (f result)) s :=
  have hresult : Stages staging (fun _ => True) (pipeline.result context) s :=
    h.bind fun _ _ _ ht => .done ht.pending trivial
  hresult.bind fun _ _ _ ht => .done ht.pending trivial

/-- The operations of a routed message are isolated if the message is. -/
theorem isolated_of_mem_operations {context : RoutingContext} {operation : Operation}
    (h : operation ∈ Outgoing.operations context) : operation.isolated = context.isolated := by
  obtain ⟨route, -, rfl⟩ := List.mem_map.1 h
  rfl

/-- The last stage of routed messages stages those that are not isolated. -/
theorem dispatchLast_stages (capabilities : Capabilities) {context : RoutingContext}
    (hs : Pending staging s) (hscope : Sees staging context.scope s)
    (htogether : context.isolated = false) :
    Stages staging (fun _ => True) (Outgoing.dispatchLast capabilities context) s := by
  rw [Outgoing.dispatchLast]
  split
  · exact .done hs trivial
  · split
    · exact .done hs trivial
    · rw [if_neg (by rw [htogether]; exact Bool.false_ne_true)]
      refine .ask hs nofun fun t ht => ?_
      have hu := ht.pending.aside (.readSlot context.scope .staging) trivial
      refine ⟨hu, ?_⟩
      -- the scope leads to the list, so the stage finds it and sends nothing itself
      have hfound : (t.world.perform (.readSlot context.scope .staging)).1 = some staging :=
        (ht.sees _ hscope).found
      rw [hfound]
      refine .ask hu.pending nofun fun v hv => ?_
      have hstaged := hv.pending.stage (Outgoing.operations context)
        fun operation hmem => (isolated_of_mem_operations hmem).trans htogether
      exact ⟨hstaged, .done hstaged.pending trivial⟩

namespace Outbound

variable (outbound : Outbound) {parent : ScopeId}

/-- The pipeline of routed messages stages those that are not isolated. -/
theorem routing_stages {context : RoutingContext} (hs : Pending staging s)
    (hscope : Sees staging context.scope s) (htogether : context.isolated = false) :
    Stages staging (fun _ => True) (outbound.sending.routing.invoke context) s := by
  obtain ⟨resolver, manager, serializer, capabilities⟩ := outbound
  cases manager with
  | none => exact dispatchLast_stages capabilities hs hscope htogether
  | some address =>
    change Stages staging _ (Timeouts.routeDeferred address _ context) s
    rw [Timeouts.routeDeferred]
    -- a deferred message changes its route and is staged like the others
    refine .ask hs nofun fun t ht => ?_
    have hu := ht.pending.aside .clock trivial
    have hscope' := hu.sees _ (ht.sees _ hscope)
    refine ⟨hu, ?_⟩
    split
    · exact dispatchLast_stages capabilities hu.pending hscope' htogether
    · split
      · exact .done hu.pending trivial
      · exact dispatchLast_stages capabilities hu.pending hscope' htogether

/-- The pipeline of written messages stages them. -/
theorem physical_stages {context : PhysicalContext} (hs : Pending staging s)
    (hscope : Sees staging context.scope s) :
    Stages staging (fun _ => True) (outbound.sending.physical.invoke context) s :=
  .childScope hs hscope fun _ _ ht hscope' =>
    (outbound.routing_stages ht.pending hscope' rfl).result

/-- The stage that writes the body stages what it has written. -/
theorem serialize_stages {context : OutgoingContext} (hs : Pending staging s)
    (hscope : Sees staging context.scope s) :
    Stages staging (fun _ => True)
      (Outgoing.serialize outbound.serializer outbound.sending.physical context) s := by
  rw [Outgoing.serialize]
  split
  · exact .done hs trivial
  · exact .childScope hs hscope fun _ _ ht hscope' =>
      (outbound.physical_stages ht.pending hscope').result

/-- The pipeline of messages that are not yet written stages them. -/
theorem outgoing_stages {context : OutgoingContext} (hs : Pending staging s)
    (hscope : Sees staging context.scope s) :
    Stages staging (fun _ => True) (outbound.sending.outgoing.invoke context) s := by
  change Stages staging _ (Outgoing.resolveRoutes outbound.resolver _ context) s
  rw [Outgoing.resolveRoutes]
  split
  · split
    · exact outbound.serialize_stages hs hscope
    · exact .done hs trivial
  · exact outbound.serialize_stages hs hscope

/-! ### The ways to send -/

variable {endpointName : String} {localAddress : Option String}

/-- A new message is staged. -/
theorem dispatch_stages {intent : Intent} {payload : Payload} {options : SendOptions}
    (hs : Pending staging s) (hparent : Sees staging parent s) :
    Stages staging (fun _ => True)
      ((outbound.operations endpointName localAddress).dispatch parent intent payload options)
      s := by
  have hbody (context : Time.Instant → ScopeId → OutgoingContext)
      (hcontext : ∀ now scope, (context now scope).scope = scope) (t : Moment)
      (ht : Onward staging s t) :
      Stages staging (fun _ => True)
        ((Act.ask .clock).bind fun now => (Act.childScope parent).bind fun scope =>
          (outbound.sending.outgoing.result (context now scope)).bind fun result =>
            .done (Operations.unitResult result)) t := by
    refine .ask ht.pending nofun fun u hu => ?_
    have hv := hu.pending.aside .clock trivial
    refine ⟨hv, .childScope hv.pending (hv.sees _ (hu.sees _ (ht.sees _ hparent)))
      fun scope w hw hscope => ?_⟩
    exact (outbound.outgoing_stages hw.pending (by rw [hcontext]; exact hscope)).result
  rw [Operations.dispatch]
  split
  · exact .done hs trivial
  · -- the id is one that user code chose, or a new one
    cases options.messageId with
    | some messageId => exact hbody (fun now scope => _) (fun _ _ => rfl) s (.refl hs)
    | none =>
      refine .ask hs nofun fun t ht => ?_
      have hu := ht.pending.aside .freshId trivial
      exact ⟨hu, hbody (fun now scope => _) (fun _ _ => rfl) _ (ht.trans hu)⟩

/-- A forwarded message is staged. -/
theorem forward_stages {message : Message} {destination : String} (hs : Pending staging s)
    (hparent : Sees staging parent s) :
    Stages staging (fun _ => True)
      ((outbound.operations endpointName localAddress).forward parent message destination) s :=
  .childScope hs hparent fun _ _ ht hscope =>
    (outbound.routing_stages ht.pending hscope rfl).result

end Outbound

/-! ### The error queue -/

/-- The batch of a message for the error queue. -/
def faultBatch (errorQueue : String) (message : Message) : Batch :=
  .ofList [{ message, route := .unicast errorQueue, isolated := true }]

/-- A batch was handed to the transport, and the result says whether it was taken. -/
inductive Tried (batch : Batch) (s t : Moment) : StageResult → Prop where
  /-- The transport took the batch. -/
  | taken (hstaged : staged t.log = staged s.log) (hsent : sent t.log = sent s.log ++ [batch]) :
      Tried batch s t (.ok .completed)
  /-- The transport refused it. -/
  | refused {failure : Failure} (hquiet : Quiet s t) : Tried batch s t (.error failure)

/-- What happened before the batch does not matter. -/
theorem Tried.of_quiet {batch : Batch} {t u : Moment} {result : StageResult} (hst : Quiet s t)
    (h : Tried batch t u result) : Tried batch s u result := by
  cases h with
  | taken hstaged hsent => exact .taken (hstaged.trans hst.staged) (hsent.trans (by rw [hst.sent]))
  | refused hquiet => exact .refused (hst.trans hquiet)

/-- A batch that is handed to the transport is taken or refused. -/
theorem dispatchNow_tries (batch : Batch) (s : Moment) :
    Assured terms (fun result t => ∃ value, result = .ok value ∧ Tried batch s t value)
      (Outgoing.dispatchNow batch) s := by
  refine assured_ask nofun fun t hspared => ?_
  have hstaged : staged (t.after (.dispatch batch)).log = staged t.log :=
    (t.staged_after _).trans (List.append_nil _)
  have hsent := t.sent_after (.dispatch batch)
  -- the log holds a batch only with the answer that it was taken
  cases hanswer : (t.world.perform (.dispatch batch)).1 with
  | ok answer =>
    rw [hanswer] at hsent
    exact ⟨_, rfl, .of_quiet hspared.quiet (.taken hstaged hsent)⟩
  | error error =>
    rw [hanswer] at hsent
    exact ⟨_, rfl, .of_quiet hspared.quiet (.refused ⟨hstaged, hsent.trans (List.append_nil _)⟩)⟩

/-- A failed message on its way to the error queue. -/
def faultRouting (errorQueue : String) (message : Message) (scope : ScopeId) : RoutingContext :=
  { message, routes := [.unicast errorQueue], isolated := true, scope }

/-- The last stage of routed messages sends a failed message at once. -/
theorem dispatchLast_tries (capabilities : Capabilities) (errorQueue : String) (message : Message)
    (scope : ScopeId) (s : Moment) :
    Assured terms
      (fun result t => ∃ value after, result = .ok (value, after) ∧
        Tried (faultBatch errorQueue message) s t value)
      (Outgoing.dispatchLast capabilities (faultRouting errorQueue message scope)) s := by
  change Assured terms _ ((Outgoing.dispatchNow (faultBatch errorQueue message)).bind fun result =>
    .done (result, faultRouting errorQueue message scope)) s
  refine Assured.bind (Assured.imp (dispatchNow_tries _ s) ?_)
  rintro result t ⟨value, rfl, htried⟩
  exact ⟨value, _, rfl, htried⟩

namespace Outbound

variable (outbound : Outbound)

/-- The pipeline of routed messages sends a failed message at once. -/
theorem routing_tries (errorQueue : String) (message : Message) (scope : ScopeId) (s : Moment) :
    Assured terms
      (fun result t => ∃ value after, result = .ok (value, after) ∧
        Tried (faultBatch errorQueue message) s t value)
      (outbound.sending.routing.invoke (faultRouting errorQueue message scope)) s := by
  obtain ⟨resolver, manager, serializer, capabilities⟩ := outbound
  cases manager with
  | none => exact dispatchLast_tries capabilities errorQueue message scope s
  | some address =>
    -- the message has no constraints, so that it is not to be delayed
    refine assured_aside .clock trivial fun now t ht => ?_
    refine Assured.imp (dispatchLast_tries capabilities errorQueue message scope t) ?_
    rintro result u ⟨value, after, rfl, htried⟩
    exact ⟨value, after, rfl, htried.of_quiet ht⟩

/-- A message for the error queue is sent at once, in a batch of its own. -/
theorem fault_tries (context : FaultContext) (s : Moment) :
    Assured terms
      (fun result t => ∃ value, result = .ok value ∧
        Tried (faultBatch context.errorQueue context.message) s t value)
      (outbound.sending.fault.result context) s := by
  have hrouting (scope : ScopeId) (t : Moment) (ht : Quiet s t) :
      Assured terms
        (fun result u => ∃ value, result = .ok value ∧
          Tried (faultBatch context.errorQueue context.message) s u value)
        (outbound.sending.routing.result
          (faultRouting context.errorQueue context.message scope)) t := by
    refine Assured.bind (Assured.imp (outbound.routing_tries _ _ scope t) ?_)
    rintro result u ⟨value, after, rfl, htried⟩
    exact ⟨value, rfl, htried.of_quiet ht⟩
  refine Assured.bind (assured_aside (.openScope (some context.scope)) trivial
    fun scope t ht => Assured.bind (Assured.imp (hrouting scope t ht) ?_))
  rintro result u ⟨value, rfl, htried⟩
  exact ⟨value, rfl, htried⟩

end Outbound

end Messaging.Redelivery
