import Messaging.Proofs.Requests
import Messaging.Proofs.Scripts

/-!
# Code that writes into its own scopes only

A handler is given a scope below that of its message. It may write into this scope and into those
that it opens, and sees the others only.

- `Confined` says so of a program, and `Confined.of_every` has it for programs that write nothing.
- `dispatch_writesNothing` and `forward_writesNothing` say that the ways to send of an endpoint
  without steps of the user write nothing.
- `KeepToThemselves` says of handlers that they are confined to the scope they are given, and
  `keepToThemselves_scripts` that scripted handlers are, whatever their scripts.
-/

namespace Messaging.Handling

open Redelivery (Outbound handedOn_perform scopeOf)

variable {α β : Type} {own own' : List ScopeId}

/-! ### Programs that are confined -/

/-- A program writes into some scopes, and those that it opens, only. -/
def Confined : List ScopeId → Act α → Prop
  | _, .done _ | _, .panic _ => True
  | own, .call effect next =>
    (∀ id slot value, effect = .writeSlot id slot value → id ∈ own) ∧
      ∀ answer, Confined ((scopeOf ⟨effect, answer⟩).toList ++ own) (next answer)

/-- A request that writes nothing into a scope. -/
def WritesNothing : Effect → Prop
  | .writeSlot .. => False
  | _ => True

namespace Confined

/-- A program may be allowed to write into more scopes. -/
theorem mono {program : Act α} (h : Confined own program) (hown : own ⊆ own') :
    Confined own' program := by
  induction program generalizing own own' with
  | done => trivial
  | panic => trivial
  | call effect next ih =>
    exact ⟨fun id slot value heffect => hown (h.1 id slot value heffect),
      fun answer => ih answer (h.2 answer) (List.append_subset.2
        ⟨List.subset_append_left _ _, List.subset_append_of_subset_right _ hown⟩)⟩

/-- Two programs one after another. -/
theorem bind {program : Act α} {f : α → Act β} (h : Confined own program)
    (hf : ∀ result, program.Yields result → Confined own (f result)) :
    Confined own (program.bind f) := by
  induction program generalizing own with
  | done result => exact hf result (.done result)
  | panic => trivial
  | call effect next ih =>
    refine ⟨h.1, fun answer => ih answer (h.2 answer) fun result hresult => ?_⟩
    exact (hf result (.call hresult)).mono (List.subset_append_right _ _)

/-- Catching a panic writes nothing. -/
theorem attempt {program : Act α} (h : Confined own program) : Confined own program.attempt := by
  induction program generalizing own with
  | done => trivial
  | panic => trivial
  | call effect next ih => exact ⟨h.1, fun answer => ih answer (h.2 answer)⟩

/-- A program that writes nothing is confined to any scopes. -/
theorem of_every {program : Act α} (h : program.Every WritesNothing) : Confined own program := by
  induction h generalizing own with
  | done => trivial
  | panic => trivial
  | call heffect _ ih =>
    refine ⟨fun id slot value hwrite => ?_, fun answer => ih answer⟩
    rw [hwrite] at heffect
    exact heffect.elim

end Confined

/-! ### The ways to send -/

/-- A batch is handed to the transport. -/
theorem dispatchNow_writesNothing (batch : Batch) :
    (Outgoing.dispatchNow batch).Every WritesNothing := by
  refine .call trivial fun answer => ?_
  cases answer <;> exact .done _

/-- A routed message is staged or handed to the transport. -/
theorem dispatchLast_writesNothing (capabilities : Capabilities) (context : RoutingContext) :
    (Outgoing.dispatchLast capabilities context).Every WritesNothing := by
  have hnow := (dispatchNow_writesNothing (.ofList (Outgoing.operations context))).bind
    fun result => .done (result, context)
  rw [Outgoing.dispatchLast]
  split
  · exact .done _
  · split
    · exact .done _
    · split
      · exact hnow
      · refine .call trivial fun found => ?_
        cases found with
        | none => exact hnow
        | some staging => exact .call trivial fun _ => .done _

/-- A pipeline whose result only is of interest writes no more. -/
theorem result_writesNothing {C : Type} {pipeline : Chain C} {context : C}
    (h : (pipeline.invoke context).Every WritesNothing) :
    (pipeline.result context).Every WritesNothing :=
  h.bind fun _ => .done _

variable (outbound : Outbound) {endpointName : String} {localAddress : Option String}

/-- Nothing is written on the way of a routed message. -/
theorem routing_writesNothing (context : RoutingContext) :
    (outbound.sending.routing.result context).Every WritesNothing := by
  refine result_writesNothing ?_
  obtain ⟨resolver, manager, serializer, capabilities⟩ := outbound
  cases manager with
  | none => exact dispatchLast_writesNothing _ _
  | some address =>
    change (Timeouts.routeDeferred address _ context).Every WritesNothing
    refine .ask trivial fun now => ?_
    split
    · exact dispatchLast_writesNothing _ _
    · split
      · exact .done _
      · exact dispatchLast_writesNothing _ _

/-- Nor is it while a message is written, or before. -/
theorem outgoing_writesNothing (context : OutgoingContext) :
    (outbound.sending.outgoing.result context).Every WritesNothing := by
  -- from the inside out: routing, the body, and the routes
  have hserialize (context : OutgoingContext) :
      (Outgoing.serialize outbound.serializer outbound.sending.physical context).Every
        WritesNothing := by
    rw [Outgoing.serialize]
    split
    · exact .done _
    · refine .ask trivial fun scope => .bind (result_writesNothing ?_) fun _ => .done _
      exact .ask trivial fun scope => (routing_writesNothing outbound _).bind fun _ => .done _
  refine result_writesNothing ?_
  change (Outgoing.resolveRoutes outbound.resolver _ context).Every WritesNothing
  rw [Outgoing.resolveRoutes]
  split
  · split
    · exact hserialize _
    · exact .done _
  · exact hserialize _

/-- A new message is put on its way without anything written. -/
theorem dispatch_writesNothing (parent : ScopeId) (intent : Intent) (payload : Payload)
    (options : SendOptions) :
    ((outbound.operations endpointName localAddress).dispatch parent intent payload
      options).Every WritesNothing := by
  rw [Operations.dispatch]
  split
  · exact .done _
  · have hrest (context : Time.Instant → ScopeId → OutgoingContext) :
        ((Act.ask .clock).bind fun now => (Act.childScope parent).bind fun scope =>
          (outbound.sending.outgoing.result (context now scope)).bind fun result =>
            .done (Operations.unitResult result)).Every WritesNothing :=
      .call trivial fun now => .call trivial fun scope =>
        (outgoing_writesNothing outbound _).bind fun _ => .done _
    -- the id is one that user code chose, or a new one
    cases options.messageId with
    | some messageId => exact hrest fun now scope => _
    | none => exact .call trivial fun messageId => hrest fun now scope => _

/-- So is a message that was written before. -/
theorem forward_writesNothing (parent : ScopeId) (message : Message) (destination : String) :
    ((outbound.operations endpointName localAddress).forward parent message destination).Every
      WritesNothing :=
  .call trivial fun _ => (routing_writesNothing outbound _).bind fun _ => .done _

/-! ### Handlers -/

/-- Handlers that are given certain ways to send are user code of their own: each writes into the
scope that it is given, and those that it opens, only. -/
def KeepToThemselves (operations : Operations) (handlers : List Handler) : Prop :=
  ∀ handler ∈ handlers, ∀ content context, context.operations = operations →
    Confined [context.scope] (handler.handle content context)

variable {context : HandlerContext}

/-- An action that leads out of a handler writes what its program does. -/
theorem finishOutgoing_confined {program : Act (Except Failure Unit)}
    (h : program.Every WritesNothing) :
    Confined own (Scripted.finishOutgoing context program) := by
  refine .of_every (h.attempt.bind fun ended => ?_)
  match ended with
  | .ok (.ok ()) => exact .done _
  | .ok (.error failure) => exact .done _
  | .error payload => exact .done _

/-- Every action of a script writes into the scope that it is given only. -/
theorem perform_confined
    (hoperations : context.operations = outbound.operations endpointName localAddress)
    (hscope : context.scope ∈ own) (call : Nat) (action : Scripted.HandlerAction) :
    Confined own (action.perform call context) := by
  -- what the handler sends, it sends with pipelines that write into no scope
  have hdispatch (intent : Intent) (payload : Payload) (options : SendOptions) :
      (context.operations.dispatch context.scope intent payload options).Every WritesNothing := by
    rw [hoperations]
    exact dispatch_writesNothing outbound _ _ _ _
  have hnoting (name : String) (value : Json) : Confined own (Scripted.noting context name value) :=
    .of_every (.call trivial fun _ => .done _)
  cases action with
  | fail text causes => trivial
  | failFirst calls text causes =>
    rw [Scripted.HandlerAction.perform]
    split <;> trivial
  | panic payload => trivial
  | stop => trivial
  | stopped => exact hnoting _ _
  | describe => exact hnoting _ _
  | setText text =>
    refine ⟨fun id slot value hwrite => ?_, fun _ => trivial⟩
    cases hwrite
    exact hscope
  | getText => exact .bind (.of_every (.call trivial fun _ => .done _)) fun _ _ => hnoting _ _
  | header key => exact hnoting _ _
  | forward address =>
    refine finishOutgoing_confined (.call trivial fun found => ?_)
    cases found with
    | none => exact .done _
    | some message =>
      dsimp only
      rw [hoperations]
      exact forward_writesNothing outbound _ _ _
  | send payload options => exact finishOutgoing_confined (hdispatch .send _ _)
  | sendLocal payload =>
    exact finishOutgoing_confined
      (hdispatch .send payload (context.correlated { toSelf := true }))
  | publish payload =>
    exact finishOutgoing_confined (hdispatch .publish payload (context.correlated {}))
  | reply payload =>
    refine finishOutgoing_confined ?_
    rw [HandlerContext.reply]
    split
    · exact .done _
    · exact hdispatch .reply _ _

/-- So do several actions. -/
theorem performLines_confined
    (hoperations : context.operations = outbound.operations endpointName localAddress)
    (hscope : context.scope ∈ own) (call : Nat) (lines : List Scripted.HandlerLine) :
    Confined own (Scripted.performLines call lines context) := by
  induction lines generalizing context with
  | nil => trivial
  | cons line rest ih =>
    refine (perform_confined outbound hoperations hscope call line.action).bind
      fun ended hended => ?_
    obtain ⟨ending, after⟩ := ended
    -- a line hands its context on with the same scope and operations
    have hafter := handedOn_perform hended
    have hrest := ih (hafter.operations.trans hoperations) (by rwa [hafter.scope])
    cases ending with
    | returned => exact hrest
    | failed failure =>
      dsimp only
      split
      · exact .bind (.of_every (.call trivial fun _ => .done _)) fun _ _ => hrest
      · trivial
    | panicked payload => trivial

/-- Scripted handlers keep to themselves, whatever their scripts. -/
theorem keepToThemselves_scripts (scripts : List Scripted.HandlerScript) :
    KeepToThemselves (outbound.operations endpointName localAddress)
      (scripts.map (·.handler)) := by
  intro handler hhandler content context hoperations
  obtain ⟨script, -, rfl⟩ := List.mem_map.1 hhandler
  exact .bind (.of_every (.call trivial fun _ => .done _)) fun call _ =>
    .bind (.of_every (.call trivial fun _ => .done _)) fun depth _ =>
      .bind (.of_every (.call trivial fun _ => .done _)) fun _ _ =>
        performLines_confined outbound hoperations List.mem_cons_self call script.lines

end Messaging.Handling
