import Messaging.Proofs.Bearing
import Messaging.Proofs.Scripts
import Messaging.Scripted.Steps

/-!
# Code that sends from its own scopes

While a message is received, handlers and steps of the user send from the scopes that they are
given and from those below. What they send goes through the pipelines of the endpoint down to the
last stage of routed messages, in scopes that lie below theirs.

- `Works` says of code that what it does apart from other requests is made of certain verbs, in
  scopes of its own, and `Works.map` that verbs may be spelled out by others.
- `Sends` are the verbs of a handler, and `StepVerbs` those of a step. `Speaking` and `Polite` say
  of handlers and steps of the user that they get by with them; scripted ones do
  (`speaking_script`, `polite_script`).
- `Hands` is the one verb that all of them come down to: the last stage of routed messages runs in
  one of the scopes. `sends_works` and `incoming_works` say so of the ways to send of an endpoint
  and of its pipeline of read messages.
-/

namespace Messaging

/-- The scope of a context. -/
def ContextKind.scope : (kind : ContextKind) → kind.Context → ScopeId
  | .receive, context => context.scope
  | .incoming, context => context.scope
  | .invocation, context => context.scope
  | .outgoing, context => context.scope
  | .physical, context => context.scope
  | .routing, context => context.scope
  | .fault, context => context.scope

end Messaging

namespace Messaging.Batching

open Redelivery (Converses Conversing IsAside)

variable {α β : Type} {operations : Operations} {scopes : List ScopeId}

/-! ### Code and its verbs -/

/-- Puts operations into the list of staged operations that a scope leads to, if there is one. -/
def extend (scope : ScopeId) (staged : List Operation) : Act Bool := do
  match ← Act.ask (.readSlot scope .staging) with
  | none => pure false
  | some staging => do
    Act.ask (.stage staging staged)
    pure true

/-- What is said of a result and of scopes. -/
abbrev Post (α : Type) := List ScopeId → α → Prop

/-- What code may do in some scopes, and what is said of its results. -/
abbrev Verbs := List ScopeId → (α : Type) → Act α → Post α → Prop

/-- Code that works in some scopes: it does what the verbs say, opens scopes below its own, and may
put operations into the list that its scopes lead to. Its other requests send nothing and have
nothing to do with the list. It may end in any way; if it has a result, then what is said of this is
true of the scopes that it has by then. -/
inductive Works (verbs : Verbs) : List ScopeId → {α : Type} → Act α → Post α → Prop where
  /-- It ends. -/
  | done {scopes : List ScopeId} {α : Type} {result : α} {post : Post α}
      (hpost : post scopes result) : Works verbs scopes (.done result) post
  /-- It panics. -/
  | panic {scopes : List ScopeId} {α : Type} (payload : Panic) {post : Post α} :
      Works verbs scopes (.panic payload) post
  /-- It makes another request. -/
  | aside {scopes : List ScopeId} {effect : Effect} (heffect : IsAside effect) :
      Works verbs scopes (Act.ask effect) fun _ _ => True
  /-- It does what a verb says. -/
  | verb {scopes : List ScopeId} {α : Type} {program : Act α} {post : Post α}
      (hverb : verbs scopes α program post) : Works verbs scopes program post
  /-- It stages operations by itself. -/
  | extend {scopes : List ScopeId} {scope : ScopeId} {staged : List Operation}
      (hscope : scope ∈ scopes) (htogether : ∀ operation ∈ staged, operation.isolated = false) :
      Works verbs scopes (Batching.extend scope staged) fun _ _ => True
  /-- It opens a scope. -/
  | childScope {scopes : List ScopeId} {parent : ScopeId} (hparent : parent ∈ scopes) :
      Works verbs scopes (Act.childScope parent) fun scopes' scope => scope ∈ scopes'
  /-- It does one thing after another. -/
  | bind {scopes : List ScopeId} {α β : Type} {program : Act α} {f : α → Act β} {middle : Post α}
      {post : Post β} (hprogram : Works verbs scopes program middle)
      (hf : ∀ scopes' result, scopes ⊆ scopes' → middle scopes' result → program.Yields result →
        Works verbs scopes' (f result) post) : Works verbs scopes (program.bind f) post
  /-- It catches a panic. -/
  | attempt {scopes : List ScopeId} {α : Type} {program : Act α} {post : Post α}
      (hprogram : Works verbs scopes program post) :
      Works verbs scopes program.attempt fun scopes' ended =>
        ∀ result, ended = .ok result → post scopes' result

variable {verbs verbs' : Verbs} {post : Post α}

/-- Verbs may be spelled out by others. -/
theorem Works.map {program : Act α} (h : Works verbs scopes program post)
    (hverbs : ∀ scopes (α : Type) (program : Act α) (post : Post α),
      verbs scopes α program post → Works verbs' scopes program post) :
    Works verbs' scopes program post := by
  induction h with
  | done hpost => exact .done hpost
  | panic payload => exact .panic payload
  | aside heffect => exact .aside heffect
  | verb hverb => exact hverbs _ _ _ _ hverb
  | extend hscope htogether => exact .extend hscope htogether
  | childScope hparent => exact .childScope hparent
  | bind _ _ ih ihf => exact .bind ih ihf
  | attempt _ ih => exact .attempt ih

/-- What is said of a result may be weakened. -/
theorem Works.imp {post' : Post α} {program : Act α} (h : Works verbs scopes program post)
    (hpost : ∀ scopes' result, scopes ⊆ scopes' → post scopes' result → program.Yields result →
      post' scopes' result) : Works verbs scopes program post' := by
  rw [← Program.bind_done program]
  exact .bind h fun scopes' result hscopes hresult hyields =>
    .done (hpost scopes' result hscopes hresult hyields)

/-- A request that has nothing to do with the list, and what follows it. -/
theorem Works.ask (effect : Effect) (heffect : IsAside effect) {f : effect.Answer → Act α}
    (hf : ∀ scopes' answer, scopes ⊆ scopes' → Works verbs scopes' (f answer) post) :
    Works verbs scopes ((Act.ask effect).bind f) post :=
  .bind (.aside heffect) fun scopes' answer hscopes _ _ => hf scopes' answer hscopes

/-- A scope that is opened, and what follows. -/
theorem Works.under {parent : ScopeId} (hparent : parent ∈ scopes) {f : ScopeId → Act α}
    (hf : ∀ scopes' scope, scopes ⊆ scopes' → scope ∈ scopes' →
      Works verbs scopes' (f scope) post) :
    Works verbs scopes ((Act.childScope parent).bind f) post :=
  .bind (.childScope hparent) fun scopes' scope hscopes hscope _ => hf scopes' scope hscopes hscope

/-- A pipeline works as before when its result only is of interest. -/
theorem Works.result {C : Type} {pipeline : Chain C} {context : C} {post : Post (StageResult × C)}
    (h : Works verbs scopes (pipeline.invoke context) post) :
    Works verbs scopes (pipeline.result context) fun _ _ => True :=
  .bind h fun _ _ _ _ _ => .done trivial

/-! ### Handlers and steps -/

/-- New messages and written ones are put on their way, in one of the scopes. -/
inductive Sends (operations : Operations) (scopes : List ScopeId) :
    (α : Type) → Act α → Post α → Prop where
  | dispatch {parent : ScopeId} (hparent : parent ∈ scopes) (intent : Intent) (payload : Payload)
      (options : SendOptions) :
      Sends operations scopes _ (operations.dispatch parent intent payload options) fun _ _ => True
  | forward {parent : ScopeId} (hparent : parent ∈ scopes) (message : Message)
      (destination : String) :
      Sends operations scopes _ (operations.forward parent message destination) fun _ _ => True

/-- A handler sends in its own scopes through what it is given, and hands this on. -/
def Speaking (handler : Handler) : Prop :=
  ∀ scopes content context, context.scope ∈ scopes →
    Works (Sends context.operations) scopes (handler.handle content context) fun scopes' ended =>
      ended.2.operations = context.operations ∧ ended.2.scope ∈ scopes'

/-- The handlers of each message type send in their own scopes. -/
def Spoken (handlers : Incoming.Handlers) : Prop :=
  ∀ messageType, ∀ handler ∈ handlers.getD messageType [], Speaking handler

/-- What a context has beside its scope: the ways to send, and a handler that goes by them. -/
def Equipped (operations : Operations) : (kind : ContextKind) → kind.Context → Prop
  | .invocation, context => context.operations = operations ∧ Speaking context.handler
  | _, _ => True

/-- A context that belongs to code with some scopes. -/
structure Fits (operations : Operations) (scopes : List ScopeId) (kind : ContextKind)
    (context : kind.Context) : Prop where
  /-- Its scope is one of them. -/
  scope : kind.scope context ∈ scopes
  /-- It has what contexts of its kind have. -/
  equipped : Equipped operations kind context

/-- It belongs to code with more scopes as well. -/
theorem Fits.mono {kind : ContextKind} {context : kind.Context} {scopes' : List ScopeId}
    (h : Fits operations scopes kind context) (hscopes : scopes ⊆ scopes') :
    Fits operations scopes' kind context :=
  ⟨hscopes h.scope, h.equipped⟩

/-- The context that comes back belongs to code with the scopes of then. -/
def Back (operations : Operations) (kind : ContextKind) : Post (StageResult × kind.Context) :=
  fun scopes ended => Fits operations scopes kind ended.2

/-- A step runs the stages behind it on contexts in its own scopes, whatever else is changed in
them, and sends as a handler does where it has the ways to. -/
inductive StepVerbs (operations : Operations) (kind : ContextKind)
    (next : Next Effect.signature kind.Context) (scopes : List ScopeId) :
    (α : Type) → Act α → Post α → Prop where
  | next {context : kind.Context} (hcontext : Fits operations scopes kind context) :
      StepVerbs operations kind next scopes _ (next.run context) (Back operations kind)
  | sends (hkind : kind = .invocation) {α : Type} {program : Act α} {post : Post α}
      (hsends : Sends operations scopes α program post) :
      StepVerbs operations kind next scopes α program post

/-- A step that works in the scopes that it is given. -/
def Polite (kind : ContextKind) (stage : Stage kind.Context) : Prop :=
  ∀ operations next scopes context, Fits operations scopes kind context →
    Works (StepVerbs operations kind next) scopes (stage next context) (Back operations kind)

/-- The step that finds routes works so. -/
theorem polite_resolveRoutes (resolver : Resolver) :
    Polite .outgoing (Outgoing.resolveRoutes resolver) := by
  intro operations next scopes context hcontext
  rw [Outgoing.resolveRoutes]
  split
  · split
    · exact .verb (.next ⟨hcontext.scope, trivial⟩)
    · exact .done hcontext
  · exact .verb (.next hcontext)

/-- So does the step that defers messages. -/
theorem polite_routeDeferred (manager : String) :
    Polite .routing (Timeouts.routeDeferred manager) := by
  intro operations next scopes context hcontext
  rw [Timeouts.routeDeferred]
  refine .ask .clock trivial fun scopes' now hscopes => ?_
  have hcontext' := hcontext.mono hscopes
  split
  · exact .verb (.next hcontext')
  · split
    · exact .done hcontext'
    · exact .verb (.next ⟨hcontext'.scope, trivial⟩)

/-! ### Scripts -/

/-- User code that sends through what it is given works in its scope. -/
theorem works_of_converses {scope : ScopeId} {program : Act α}
    (h : Converses operations scope program) (hscope : scope ∈ scopes) :
    Works (Sends operations) scopes program fun _ _ => True := by
  induction h generalizing scopes with
  | done result => exact .done trivial
  | panic payload => exact .panic payload
  | aside heffect => exact .aside heffect
  | send hoperations hcontext payload options =>
    rw [HandlerContext.send, hoperations, hcontext]
    exact .verb (.dispatch hscope ..)
  | publish hoperations hcontext payload =>
    rw [HandlerContext.publish, hoperations, hcontext]
    exact .verb (.dispatch hscope ..)
  | reply hoperations hcontext payload =>
    rw [HandlerContext.reply]
    split
    · exact .done trivial
    · rw [hoperations, hcontext]
      exact .verb (.dispatch hscope ..)
  | forward hoperations hcontext destination =>
    rw [HandlerContext.forward]
    refine .ask (.readSlot _ .received) trivial fun scopes' found hscopes => ?_
    -- there is nothing to forward outside of a receive
    cases found with
    | none => exact .done trivial
    | some message =>
      dsimp only
      rw [hoperations, hcontext]
      exact .verb (.forward (hscopes hscope) ..)
  | bind _ _ ih ihf =>
    exact .bind (ih hscope) fun scopes' result hscopes _ hyields =>
      ihf result hyields (hscopes hscope)
  | attempt _ ih => exact (Works.attempt (ih hscope)).imp fun _ _ _ _ _ => trivial

/-- A scripted handler does so. -/
theorem speaking_script (script : Scripted.HandlerScript) : Speaking script.handler := by
  intro scopes content context hscope
  refine (works_of_converses (Redelivery.handler_converses script content context) hscope).imp ?_
  intro scopes' ended hscopes _ hyields
  have hafter := Redelivery.handedOn_handler hyields
  exact ⟨hafter.operations, hafter.scope ▸ hscopes hscope⟩

/-- Scripted handlers are among the handlers that are meant. -/
theorem spoken_registerHandlers (scripts : List Scripted.HandlerScript) :
    Spoken (Scripted.registerHandlers scripts) :=
  Redelivery.forall_registerHandlers fun script _ => speaking_script script

section StepScripts

open Scripted

variable {kind : ContextKind} {next : Next Effect.signature kind.Context} {context : kind.Context}

/-- A changed context belongs to the same code. -/
theorem Fits.edit (h : Fits operations scopes kind context) (change : Edit) :
    Fits operations scopes kind ((View.ofKind kind).edit change context) := by
  obtain ⟨hscope, hequipped⟩ := h
  cases kind <;> cases change <;> exact ⟨hscope, hequipped⟩

/-- Writing down what a scope sees sends nothing. -/
theorem noteText_works (scope : ScopeId) :
    Works verbs scopes (noteText scope) fun _ _ => True :=
  .ask (.readSlot scope .text) trivial fun _ _ _ => .aside trivial

/-- What a scripted step does first keeps to its context. -/
theorem performEntry_works (call : Nat) (actions : List EntryAction)
    (hcontext : Fits operations scopes kind context) :
    Works (StepVerbs operations kind next) scopes
      (performEntry (View.ofKind kind) call actions context)
      fun scopes' ended => Fits operations scopes' kind ended.2 := by
  induction actions generalizing scopes context with
  | nil => exact .done hcontext
  | cons action rest ih =>
    -- an action edits the context, ends the entry, or uses the scope
    cases action with
    | edit change => exact ih (hcontext.edit change)
    | fail failure => exact .done hcontext
    | failFirst calls failure =>
      rw [performEntry]
      split
      · exact .done hcontext
      · exact ih hcontext
    | panic payload => exact .panic payload
    | setText text =>
      exact .ask (.writeSlot _ .text text) nofun fun _ _ hscopes => ih (hcontext.mono hscopes)
    | getText =>
      exact .bind (noteText_works _) fun _ _ hscopes _ _ => ih (hcontext.mono hscopes)

/-- What it does last sends nothing. -/
theorem performExit_works (scope : ScopeId) (actions : List ExitAction) (result : StageResult) :
    Works verbs scopes (performExit scope actions result) fun _ _ => True := by
  induction actions generalizing scopes result with
  | nil => exact .done trivial
  | cons action rest ih =>
    cases action with
    | swallow => cases result <;> exact ih _
    | replace result => exact ih result
    | getText => exact .bind (noteText_works scope) fun _ _ _ _ _ => ih result

/-- Scripted steps are among the steps that are meant. -/
theorem polite_script (script : StepScript) :
    Polite kind (script.behavior (View.ofKind kind)) := by
  obtain ⟨label, key, onEntry, result?, onExit⟩ := script
  intro operations next scopes context hcontext
  refine .ask (.scopeDepth _) trivial fun scopes depth hscopes => ?_
  replace hcontext := hcontext.mono hscopes
  refine .ask (.note _) trivial fun scopes _ hscopes => ?_
  replace hcontext := hcontext.mono hscopes
  refine .ask (.tally key) trivial fun scopes call hscopes => ?_
  replace hcontext := hcontext.mono hscopes
  refine .bind (performEntry_works call onEntry hcontext) ?_
  rintro scopes ⟨refused, context⟩ - hcontext -
  cases refused with
  | some failure => exact .done hcontext
  | none =>
    -- what is done last is the same whether the stages behind are run or not
    have hleave (scopes : List ScopeId) (ended : StageResult × kind.Context)
        (hcontext : Fits operations scopes kind ended.2) :
        Works (StepVerbs operations kind next) scopes
          ((performExit ((View.ofKind kind).scope ended.2) onExit ended.1).bind fun result =>
            (Act.note (.string ("exit " ++ label ++ " " ++ resultText result))).bind
              fun _ => .done (result, ended.2)) (Back operations kind) :=
      .bind (performExit_works _ onExit ended.1) fun _ result hscopes _ _ =>
        .ask (.note _) trivial fun _ _ hscopes' => .done ((hcontext.mono hscopes).mono hscopes')
    cases result? with
    | some result => exact hleave scopes (result, context) hcontext
    | none =>
      exact .bind (.verb (.next hcontext)) fun scopes ended _ hended _ => hleave scopes ended hended

end StepScripts

/-! ### Pipelines -/

/-- A pipeline of polite steps comes down to what its last stage does. -/
theorem chain_works (operations : Operations) {kind : ContextKind} {pipeline : Chain kind.Context}
    (hsteps : ∀ step ∈ pipeline.steps, Polite kind step.2)
    (hsends : kind = .invocation → ∀ scopes (α : Type) (program : Act α) (post : Post α),
      Sends operations scopes α program post → Works verbs scopes program post)
    (hlast : ∀ scopes context, Fits operations scopes kind context →
      Works verbs scopes (pipeline.terminator context) (Back operations kind))
    (context : kind.Context) (hcontext : Fits operations scopes kind context) :
    Works verbs scopes (pipeline.invoke context) (Back operations kind) := by
  obtain ⟨name, steps, terminator⟩ := pipeline
  suffices h : ∀ scopes context, Fits operations scopes kind context →
      Works verbs scopes ((Pipeline.chain terminator steps).run context) (Back operations kind) from
    h scopes context hcontext
  change ∀ step ∈ steps, Polite kind step.2 at hsteps
  change ∀ scopes context, Fits operations scopes kind context →
    Works verbs scopes (terminator context) (Back operations kind) at hlast
  -- by induction on the stages: those behind are what a stage runs on contexts in its scopes
  induction steps with
  | nil => exact hlast
  | cons step rest ih =>
    intro scopes context hcontext
    obtain ⟨hstep, hrest⟩ := List.forall_mem_cons.1 hsteps
    refine (hstep operations _ scopes context hcontext).map fun scopes α program post hverb => ?_
    cases hverb with
    | next hcontext => exact ih hrest scopes _ hcontext
    | sends hkind hsent => exact hsends hkind scopes α program post hsent

/-- The last stage of routed messages runs in one of the scopes, and gives its context back. -/
inductive Hands (capabilities : Capabilities) (scopes : List ScopeId) :
    (α : Type) → Act α → Post α → Prop where
  | last {context : RoutingContext} (hscope : context.scope ∈ scopes) :
      Hands capabilities scopes _ (Outgoing.dispatchLast capabilities context)
        fun _ ended => ended.2 = context

/-- The kinds of contexts that there are while a message is handled. -/
def Behind : ContextKind → Prop
  | .receive | .fault => False
  | _ => True

/-- The steps of the user that run while a message is handled work in the scopes they are given. -/
structure Courteous (user : EndpointSteps) : Prop where
  /-- So do those that are registered. -/
  steps : ∀ step ∈ user.steps, Behind step.kind → Polite step.kind step.behavior
  /-- So do those that replace others. -/
  replacements : ∀ step ∈ user.replacements, Behind step.kind → Polite step.kind step.behavior

variable {settings : Settings} {resolver : Resolver} {user steps : EndpointSteps}
  {faults : Option (Chain FaultContext)}

/-- The stages of a pipeline of an endpoint work so. -/
theorem polite_of_build (hsteps : Assembly.mainSteps settings resolver user faults = .ok steps)
    (huser : Courteous user) {kind : ContextKind} (hkind : Behind kind)
    {last : LastStage kind.Context} {pipeline : Chain kind.Context}
    (h : steps.build kind last = .ok pipeline) :
    (∀ step ∈ pipeline.steps, Polite kind step.2) ∧ pipeline.terminator = last := by
  let Q (kind : ContextKind) (stage : Stage kind.Context) : Prop := Behind kind → Polite kind stage
  have hbuiltIn : ∀ step ∈ Assembly.builtInSteps settings resolver faults,
      Q step.kind step.behavior :=
    Assembly.forall_builtInSteps (Q := Q) (fun _ _ => False.elim) (fun _ _ => False.elim)
      (fun _ => polite_resolveRoutes resolver) fun manager _ => polite_routeDeferred manager
  obtain ⟨hstages, hlast⟩ :=
    Assembly.forall_stages (Q := Q) hsteps hbuiltIn huser.steps huser.replacements h
  exact ⟨fun step hstep => hstages step hstep hkind, hlast⟩

/-- A pipeline of an endpoint comes down to what its last stage does. -/
theorem pipeline_works (operations : Operations)
    (hsteps : Assembly.mainSteps settings resolver user faults = .ok steps)
    (huser : Courteous user) {kind : ContextKind} {last : LastStage kind.Context}
    {pipeline : Chain kind.Context} (hbuild : steps.build kind last = .ok pipeline)
    (hkind : Behind kind)
    (hsends : kind = .invocation → ∀ scopes (α : Type) (program : Act α) (post : Post α),
      Sends operations scopes α program post → Works verbs scopes program post)
    (hlast : ∀ scopes context, Fits operations scopes kind context →
      Works verbs scopes (last context) (Back operations kind))
    {context : kind.Context} (hcontext : Fits operations scopes kind context) :
    Works verbs scopes (pipeline.invoke context) (Back operations kind) := by
  obtain ⟨hpolite, hterminator⟩ := polite_of_build hsteps huser hkind hbuild
  exact chain_works operations hpolite hsends (hterminator ▸ hlast) context hcontext

/-- The ways to send of an endpoint with certain pipelines. -/
def through (sending : Assembly.SendingSide) (endpointName : String)
    (localAddress : Option String) : Operations where
  outgoing := sending.outgoing
  routing := sending.routing
  endpointName
  localAddress

section Sending

variable {serializer : Serializer} {capabilities : Capabilities} {sending : Assembly.SendingSide}
  (hsteps : Assembly.mainSteps settings resolver user faults = .ok steps) (huser : Courteous user)
  (hsending : Assembly.sendingSide steps serializer capabilities = .ok sending)
  {endpointName : String} {localAddress : Option String}
include hsteps huser hsending

/-- The pipeline of routed messages comes down to its last stage. -/
theorem routing_works {context : RoutingContext} (hscope : context.scope ∈ scopes) :
    Works (Hands capabilities) scopes (sending.routing.result context) fun _ _ => True := by
  obtain ⟨hrouting, -, -, -⟩ := Assembly.sendingSide_eq_ok hsending
  refine .result (pipeline_works (through sending "" none) hsteps huser hrouting trivial nofun ?_
    ⟨hscope, trivial⟩)
  intro scopes context hcontext
  refine (Works.verb (.last hcontext.scope)).imp fun scopes' ended hscopes hsame _ => ?_
  rw [Back, hsame]
  exact hcontext.mono hscopes

/-- So does the pipeline of written messages, in scopes below. -/
theorem physical_works {context : PhysicalContext} (hscope : context.scope ∈ scopes) :
    Works (Hands capabilities) scopes (sending.physical.result context) fun _ _ => True := by
  obtain ⟨-, hphysical, -, -⟩ := Assembly.sendingSide_eq_ok hsending
  refine .result (pipeline_works (through sending "" none) hsteps huser hphysical trivial nofun ?_
    ⟨hscope, trivial⟩)
  intro scopes context hcontext
  exact .under hcontext.scope fun scopes' scope hscopes hscope =>
    .bind (routing_works hsteps huser hsending hscope) fun scopes'' _ hscopes' _ _ =>
      .done ⟨hscopes' (hscopes hcontext.scope), trivial⟩

/-- And so does the pipeline of messages that are not yet written. -/
theorem outgoing_works {context : OutgoingContext} (hscope : context.scope ∈ scopes) :
    Works (Hands capabilities) scopes (sending.outgoing.result context) fun _ _ => True := by
  obtain ⟨-, -, houtgoing, -⟩ := Assembly.sendingSide_eq_ok hsending
  refine .result (pipeline_works (through sending "" none) hsteps huser houtgoing trivial nofun ?_
    ⟨hscope, trivial⟩)
  intro scopes context hcontext
  rw [Outgoing.serialize]
  split
  · exact .done hcontext
  · exact .under hcontext.scope fun scopes' scope hscopes hscope =>
      .bind (physical_works hsteps huser hsending hscope) fun scopes'' _ hscopes' _ _ =>
        .done ((hcontext.mono hscopes).mono hscopes')

/-- The ways to send of an endpoint come down to the last stage of routed messages. -/
theorem sends_works {program : Act α} {post : Post α}
    (h : Sends (through sending endpointName localAddress) scopes α program post) :
    Works (Hands capabilities) scopes program post := by
  cases h with
  | @dispatch parent hparent intent payload options =>
    have hrest {scopes : List ScopeId} (hparent : parent ∈ scopes)
        (context : Time.Instant → ScopeId → OutgoingContext)
        (hcontext : ∀ now scope, (context now scope).scope = scope) :
        Works (Hands capabilities) scopes
          ((Act.ask .clock).bind fun now => (Act.childScope parent).bind fun scope =>
            (sending.outgoing.result (context now scope)).bind fun result =>
              .done (Operations.unitResult result)) fun _ _ => True :=
      .ask .clock trivial fun _ now hscopes => .under (hscopes hparent) fun _ scope _ hscope =>
        .bind (outgoing_works hsteps huser hsending ((hcontext now scope).symm ▸ hscope))
          fun _ _ _ _ _ => .done trivial
    rw [Operations.dispatch]
    split
    · exact .done trivial
    · -- the id is one that user code chose, or a new one
      cases options.messageId with
      | some messageId => exact hrest hparent (fun now scope => _) fun _ _ => rfl
      | none =>
        exact .ask .freshId trivial fun _ messageId hscopes =>
          hrest (hscopes hparent) (fun now scope => _) fun _ _ => rfl
  | forward hparent message destination =>
    exact .under hparent fun _ scope _ hscope =>
      .bind (routing_works hsteps huser hsending hscope) fun _ _ _ _ _ => .done trivial

/-- A handler that is called comes down to that stage as well. -/
theorem invokeHandler_works {context : Invocation}
    (hcontext : Fits (through sending endpointName localAddress) scopes .invocation context) :
    Works (Hands capabilities) scopes (Incoming.invokeHandler context)
      (Back (through sending endpointName localAddress) .invocation) := by
  rw [Incoming.invokeHandler]
  split
  · exact .done hcontext
  · next content hcontent =>
    obtain ⟨hoperations, hspeaking⟩ := hcontext.equipped
    have hhandle := hspeaking scopes content context.toHandlerContext hcontext.scope
    rw [hoperations] at hhandle
    refine .bind (.attempt (hhandle.map fun _ _ _ _ h => sends_works hsteps huser hsending h)) ?_
    rintro scopes' (payload | ⟨ending, after⟩) hscopes hended -
    · exact .done (hcontext.mono hscopes)
    · obtain ⟨hsame, hscope⟩ := hended _ rfl
      -- what the handler leaves is a context of the same kind
      have hafter : Fits (through sending endpointName localAddress) scopes' .invocation
          { context with toHandlerContext := after } := ⟨hscope, hsame, hspeaking⟩
      cases ending with
      | returned => exact .done hafter
      | failed failure => exact .done hafter
      | panicked payload => exact .done hafter

variable {faults' : Option (Chain FaultContext)} {steps' : EndpointSteps}
  (hsteps' : Assembly.mainSteps settings resolver user faults' = .ok steps')
include hsteps'

/-- The pipeline of invocations comes down to it. -/
theorem invocation_works {invocation : Chain Invocation}
    (hinvocation : steps'.build .invocation Incoming.invokeHandler = .ok invocation)
    {context : Invocation}
    (hcontext : Fits (through sending endpointName localAddress) scopes .invocation context) :
    Works (Hands capabilities) scopes (invocation.invoke context)
      (Back (through sending endpointName localAddress) .invocation) :=
  pipeline_works _ hsteps' huser hinvocation trivial
    (fun _ _ _ _ _ h => sends_works hsteps huser hsending h)
    (fun _ _ hcontext => invokeHandler_works hsteps huser hsending hcontext) hcontext

/-- Handlers that are called one after another come down to it. -/
theorem runHandlers_works {invocation : Chain Invocation}
    (hinvocation : steps'.build .invocation Incoming.invokeHandler = .ok invocation)
    {context : IncomingContext} (hscope : context.scope ∈ scopes) {handlers : List Handler}
    (hhandlers : ∀ handler ∈ handlers, Speaking handler) :
    Works (Hands capabilities) scopes
      (Incoming.runHandlers (through sending endpointName localAddress) invocation context
        handlers) fun _ _ => True := by
  -- each handler runs in a scope below that of the message
  induction handlers generalizing scopes with
  | nil => exact .done trivial
  | cons handler rest ih =>
    obtain ⟨hspeaking, hrest⟩ := List.forall_mem_cons.1 hhandlers
    refine .under hscope fun scopes' scope hscopes hopened => ?_
    have hcontext : Fits (through sending endpointName localAddress) scopes' .invocation
        { messageId := context.messageId, headers := context.headers, message := context.message
          handlerName := handler.name, operations := through sending endpointName localAddress
          scope, handler } := ⟨hopened, rfl, hspeaking⟩
    refine .bind (invocation_works hsteps huser hsending hsteps' hinvocation hcontext) ?_
    rintro scopes'' ⟨failure | outcome, after⟩ hscopes' - -
    · exact .done trivial
    · cases outcome with
      | completed =>
        dsimp only
        split
        · exact .done trivial
        · exact ih (hscopes' (hscopes hscope)) hrest
      | retryRequested => exact .done trivial
      | movedToErrorQueue failure => exact .done trivial

/-- All that is done with a message that was read comes down to the last stage of routed messages,
in scopes of its own. -/
theorem incoming_works {handlers : Incoming.Handlers} (hhandlers : Spoken handlers)
    {incoming : Chain IncomingContext}
    (hincoming : Assembly.incomingPipeline steps' handlers
      (through sending endpointName localAddress) = .ok incoming)
    {context : IncomingContext} (hscope : context.scope ∈ scopes) :
    Works (Hands capabilities) scopes (incoming.result context) fun _ _ => True := by
  obtain ⟨invocation, hinvocation, hbuilt⟩ := Assembly.incomingPipeline_eq_ok hincoming
  refine .result (pipeline_works (through sending endpointName localAddress) hsteps' huser hbuilt
    trivial nofun ?_ ⟨hscope, trivial⟩)
  intro scopes context hcontext
  rw [Incoming.loadHandlers]
  split
  · exact .done hcontext
  · exact .bind (runHandlers_works hsteps huser hsending hsteps' hinvocation hcontext.scope
      (hhandlers _)) fun _ _ hscopes _ _ => .done (hcontext.mono hscopes)

end Sending

end Messaging.Batching
