import Messaging.Proofs.Precedence

/-!
# Steps that leave conversations alone

Messages of one conversation carry its name and the address that answers go to. Steps of the user
may stand anywhere in the pipelines, so it is said here what they leave alone.

- `Holds` says of a program that it keeps a property of what was asked, whatever the answers.
- `Speaks` says of user code that it sends through the context that it is given, and `Passes` of the
  program of a step that it runs the rest of its pipeline on certain contexts.
- `Keeps` says of a step that the contexts it hands on bear the same as the one it got, as `Bears`
  has it for each kind of contexts.
- `Lined` says that a pipeline is made of such steps and of built-in ones, and `chain_holds` what
  follows for the pipeline. `Assembly.forall_stages` says what the stages of an endpoint have in
  common, and `sendingSide_lined` and `receivePipeline_lined` that its pipelines are made so.
-/

namespace Messaging.Conversation

open Redelivery Deferring

variable {α β C : Type} {ok : List Exchange → Prop}

/-! ### What programs keep -/

/-- Whatever the answers, a program keeps a property of what was asked. -/
def Holds (ok : List Exchange → Prop) (program : Act α) : Prop :=
  ∀ log, ok log → Assured anyAnswers (fun _ after => ok after) program log

namespace Holds

/-- A finished program keeps whatever held. -/
theorem done (result : α) : Holds ok (.done result) := fun _ hlog => hlog

theorem panic (payload : Panic) : Holds ok (.panic payload : Act α) := fun _ hlog => hlog

/-- A request keeps what its answer leaves true. -/
theorem ask {effect : Effect}
    (h : ∀ log (answer : effect.Answer), ok log → ok (log ++ [⟨effect, answer⟩])) :
    Holds ok (Act.ask effect) := by
  rintro log hlog _ rfl answer _ rfl
  exact ⟨trivial, h log answer hlog⟩

/-- Of two programs, the second need only keep it for results that the first may come to. -/
theorem bind {program : Act α} {f : α → Act β} (h : Holds ok program)
    (hf : ∀ result, program.Yields result → Holds ok (f result)) :
    Holds ok (program.bind f) := by
  intro log hlog
  refine Assured.bind ((h log hlog).yields.imp ?_)
  rintro (payload | result) after ⟨hafter, hyields⟩
  · exact hafter
  · exact hf result (hyields result rfl) after hafter

/-- To catch a panic adds no request. -/
theorem attempt {program : Act α} (h : Holds ok program) : Holds ok program.attempt :=
  fun log hlog => Assured.attempt (h log hlog)

/-- A pipeline keeps what it keeps when its result only is of interest. -/
theorem result {pipeline : Chain C} {context : C} (h : Holds ok (pipeline.invoke context)) :
    Holds ok (pipeline.result context) :=
  h.bind fun _ _ => .done _

end Holds

/-- A property of what was asked lasts while nothing is staged or sent. -/
def Lasts (ok : List Exchange → Prop) : Prop :=
  ∀ (log : List Exchange) (effect : Effect) (answer : effect.Answer), IsAside effect → ok log →
    ok (log ++ [⟨effect, answer⟩])

/-- What `Lasts` is kept by a request that has nothing to do with staging or sending. -/
theorem Lasts.ask (h : Lasts ok) (effect : Effect) (heffect : IsAside effect) :
    Holds ok (Act.ask effect) :=
  .ask fun log answer hlog => h log effect answer heffect hlog

/-- What comes after such a request keeps the property. -/
theorem Lasts.bind_ask (h : Lasts ok) (effect : Effect) (heffect : IsAside effect)
    {f : effect.Answer → Act α} (hf : ∀ answer, Holds ok (f answer)) :
    Holds ok ((Act.ask effect).bind f) :=
  (h.ask effect heffect).bind fun answer _ => hf answer

/-! ### What user code does -/

/-- Two tables of headers name the same conversation and the same address for answers. -/
structure SameThread (headers headers' : Headers) : Prop where
  correlation : headers'.get? Header.correlationId = headers.get? Header.correlationId
  replyTo : headers'.get? Header.replyToAddress = headers.get? Header.replyToAddress

/-- Headers name no conversation and no address for answers. -/
structure Unthreaded (headers : Headers) : Prop where
  correlation : headers.get? Header.correlationId = none
  replyTo : headers.get? Header.replyToAddress = none

/-- Headers say that the message is a reply. -/
def IsReply (headers : Headers) : Prop :=
  headers.get? Header.messageIntent = some Intent.reply.name

/-- A context with the same ways to send and the same thread, whatever else was changed in it. -/
structure SameContext (received context : HandlerContext) : Prop where
  operations : context.operations = received.operations
  thread : SameThread received.headers context.headers

/-- User code that is given a context: it sends, publishes, answers and forwards through it, with
options that name no conversation and no address for answers, and its other requests send nothing.
It may end in any way. -/
inductive Speaks (received : HandlerContext) : {α : Type} → Act α → Prop where
  | done {α : Type} (result : α) : Speaks received (.done result)
  | panic {α : Type} (payload : Panic) : Speaks received (.panic payload : Act α)
  | aside {effect : Effect} (heffect : IsAside effect) : Speaks received (Act.ask effect)
  /-- A message to the endpoint itself is a command with such options. -/
  | send {context : HandlerContext} (hsame : SameContext received context) (payload : Payload)
      {options : SendOptions} (hfree : Unthreaded options.headers) :
      Speaks received (context.send payload options)
  | publish {context : HandlerContext} (hsame : SameContext received context)
      (payload : Payload) : Speaks received (context.publish payload)
  | reply {context : HandlerContext} (hsame : SameContext received context) (payload : Payload) :
      Speaks received (context.reply payload)
  | forward {context : HandlerContext} (hsame : SameContext received context)
      (destination : String) : Speaks received (context.forward destination)
  | bind {α β : Type} {program : Act α} {f : α → Act β} (hprogram : Speaks received program)
      (hf : ∀ result, program.Yields result → Speaks received (f result)) :
      Speaks received (program.bind f)
  | attempt {α : Type} {program : Act α} (hprogram : Speaks received program) :
      Speaks received program.attempt

/-- A handler that sends through what it is given. -/
def Speaking (handler : Handler) : Prop :=
  ∀ content context, Speaks context (handler.handle content context)

/-- The program of a step: it runs the rest of its pipeline on contexts of a kind, as often as it
likes, makes the requests that are its `own`, and its other requests send nothing. -/
inductive Passes (own : (β : Type) → Act β → Prop) (allows : C → Prop)
    (next : Next Effect.signature C) : {α : Type} → Act α → Prop where
  | done {α : Type} (result : α) : Passes own allows next (.done result)
  | panic {α : Type} (payload : Panic) : Passes own allows next (.panic payload : Act α)
  | aside {effect : Effect} (heffect : IsAside effect) :
      Passes own allows next (Act.ask effect)
  | own {α : Type} {program : Act α} (hprogram : own α program) :
      Passes own allows next program
  | next {context : C} (hcontext : allows context) : Passes own allows next (next.run context)
  | bind {α β : Type} {program : Act α} {f : α → Act β}
      (hprogram : Passes own allows next program)
      (hf : ∀ result, program.Yields result → Passes own allows next (f result)) :
      Passes own allows next (program.bind f)
  | attempt {α : Type} {program : Act α} (hprogram : Passes own allows next program) :
      Passes own allows next program.attempt

/-- A program that `Passes` keeps what its own requests and the stages inside keep. -/
theorem Passes.holds {own : (β : Type) → Act β → Prop} {allows : C → Prop}
    {next : Next Effect.signature C} {program : Act α} (h : Passes own allows next program)
    (hlasts : Lasts ok) (hown : ∀ (β : Type) (program : Act β), own β program → Holds ok program)
    (hnext : ∀ context, allows context → Holds ok (next.run context)) : Holds ok program := by
  induction h with
  | done result => exact .done result
  | panic payload => exact .panic payload
  | aside heffect => exact hlasts.ask _ heffect
  | own hprogram => exact hown _ _ hprogram
  | next hcontext => exact hnext _ hcontext
  | bind _ _ ih ihf => exact ih.bind ihf
  | attempt _ ih => exact ih.attempt

/-! ### What steps leave alone -/

/-- What decides where a message goes and when, and how it is known there. -/
structure Course where
  messageId : String
  headers : Headers
  routes : List Route
  constraints : List Constraint

/-- A message keeps its id and its thread, and a reply goes nowhere else and no later. -/
structure Follows (course course' : Course) : Prop where
  messageId : course'.messageId = course.messageId
  thread : SameThread course.headers course'.headers
  reply : IsReply course'.headers → IsReply course.headers ∧
    course'.routes ⊆ course.routes ∧ course'.constraints ⊆ course.constraints

/-- A context bears the same as another one of its kind. -/
def Bears : (kind : ContextKind) → kind.Context → kind.Context → Prop
  | .receive, context, context' => SameThread context.message.headers context'.message.headers
  | .incoming, context, context' => SameThread context.headers context'.headers
  | .invocation, context, context' =>
    SameContext context.toHandlerContext context'.toHandlerContext ∧
      (Speaking context.handler → Speaking context'.handler)
  | .outgoing, context, context' =>
    Follows ⟨context.messageId, context.headers, context.routes, context.constraints⟩
        ⟨context'.messageId, context'.headers, context'.routes, context'.constraints⟩ ∧
      (IsReply context'.headers →
        context'.intent = context.intent ∧ context'.destination = context.destination)
  | .physical, context, context' =>
    Follows ⟨context.messageId, context.headers, context.routes, context.constraints⟩
      ⟨context'.messageId, context'.headers, context'.routes, context'.constraints⟩
  | .routing, context, context' =>
    Follows ⟨context.message.id, context.message.headers, context.routes, context.constraints⟩
        ⟨context'.message.id, context'.message.headers, context'.routes, context'.constraints⟩ ∧
      context'.isolated = context.isolated
  | .fault, _, _ => True

/-- What a step may say: with a handler at hand it sends like user code. -/
def Utters : (kind : ContextKind) → kind.Context → (β : Type) → Act β → Prop
  | .invocation, context, _, program => Speaks context.toHandlerContext program
  | _, _, _, _ => False

/-- A step leaves conversations alone: the contexts that it hands on bear the same as the one that
it got. -/
def Keeps (kind : ContextKind) (stage : Stage kind.Context) : Prop :=
  ∀ next context, Passes (Utters kind context) (Bears kind context) next (stage next context)

/-- The stages that stand in the pipelines of an endpoint: those of the user, which leave
conversations alone, and the built-in ones. -/
inductive Sound (faults : Option (Chain FaultContext)) :
    (kind : ContextKind) → Stage kind.Context → Prop where
  | user {kind : ContextKind} {stage : Stage kind.Context} (hkeeps : Keeps kind stage) :
      Sound faults kind stage
  | moveFaults {settings : Recovery.FaultSettings} (hfaults : settings.faults = faults) :
      Sound faults .receive (Recovery.moveFaults settings)
  | retries (policy : RetryPolicy) (pipeline : String) :
      Sound faults .receive (Recovery.firstLevelRetries policy pipeline)
  | routes (resolver : Resolver) : Sound faults .outgoing (Outgoing.resolveRoutes resolver)
  | deferral (manager : String) : Sound faults .routing (Timeouts.routeDeferred manager)

/-- A pipeline of such stages. -/
structure Lined (faults : Option (Chain FaultContext)) (kind : ContextKind)
    (pipeline : Chain kind.Context) (last : LastStage kind.Context) : Prop where
  steps : ∀ step ∈ pipeline.steps, Sound faults kind step.2
  last : pipeline.terminator = last

/-- On contexts with a property a stage keeps what the rest of its pipeline keeps. -/
def Forwards (P : C → Prop) (ok : List Exchange → Prop) (stage : Stage C) : Prop :=
  ∀ next, (∀ context, P context → Holds ok (next.run context)) →
    ∀ context, P context → Holds ok (stage next context)

/-- A stage that `Keeps` its kind `Forwards` whatever a context bears on to the contexts that
`Bears` derives from it. -/
theorem Keeps.forwards {kind : ContextKind} {stage : Stage kind.Context} (h : Keeps kind stage)
    {P : kind.Context → Prop} (hlasts : Lasts ok)
    (hbears : ∀ context context', Bears kind context context' → P context → P context')
    (hown : ∀ context, P context → ∀ (β : Type) (program : Act β),
      Utters kind context β program → Holds ok program) : Forwards P ok stage :=
  fun next hnext context hcontext => (h next context).holds hlasts (hown context hcontext)
    fun context' hbear => hnext context' (hbears context context' hbear hcontext)

/-- What all stages of a chain keep the chain keeps. -/
theorem chain_forwards {P : C → Prop} {terminator : LastStage C} {stages : List (String × Stage C)}
    (hstages : ∀ stage ∈ stages, Forwards P ok stage.2)
    (hlast : ∀ context, P context → Holds ok (terminator context)) :
    ∀ context, P context → Holds ok ((Pipeline.chain terminator stages).run context) := by
  -- by induction on the stages: the rest of the chain is what a stage runs on contexts
  induction stages with
  | nil => exact hlast
  | cons stage rest ih =>
    obtain ⟨hstage, hrest⟩ := List.forall_mem_cons.1 hstages
    exact hstage _ (ih hrest)

/-- What such stages keep a pipeline of them keeps. -/
theorem chain_holds {faults : Option (Chain FaultContext)} {kind : ContextKind}
    {pipeline : Chain kind.Context} {last : LastStage kind.Context}
    (hlined : Lined faults kind pipeline last) {P : kind.Context → Prop}
    (hstages : ∀ stage, Sound faults kind stage → Forwards P ok stage)
    (hlast : ∀ context, P context → Holds ok (last context)) (context : kind.Context)
    (hcontext : P context) : Holds ok (pipeline.invoke context) := by
  refine chain_forwards (fun stage hmem => hstages stage.2 (hlined.steps stage hmem)) ?_ context
    hcontext
  rwa [hlined.last]

end Messaging.Conversation

namespace Messaging.StepSet

variable {S : Signature} {K : Type} {C : K → Type} {Q : Step S C → Prop}

/-! ### The pipelines of an endpoint -/

/-- What holds of all steps and of a replacement holds after `StepSet.applyTo`. -/
theorem forall_applyTo
    (hreplace : ∀ step replacement : Step S C, Q replacement → Q (step.replaceBy replacement))
    {replacement : Step S C} (hreplacement : Q replacement) {steps steps' : List (Step S C)}
    (hsteps : ∀ step ∈ steps, Q step) (h : applyTo replacement steps = some steps') :
    ∀ step ∈ steps', Q step := by
  induction steps generalizing steps' with
  | nil => cases h
  | cons step rest ih =>
    obtain ⟨hstep, hrest⟩ := List.forall_mem_cons.1 hsteps
    rw [applyTo] at h
    split at h
    · cases h
      exact List.forall_mem_cons.2 ⟨hreplace step replacement hreplacement, hrest⟩
    · obtain ⟨rest', hrest', rfl⟩ := Option.map_eq_some_iff.1 h
      exact List.forall_mem_cons.2 ⟨hstep, ih hrest hrest'⟩

/-- What the registered steps and the replacements have in common the steps that run have too. -/
theorem forall_resolved {set : StepSet S C}
    (hreplace : ∀ step replacement : Step S C, Q replacement → Q (step.replaceBy replacement))
    (hsteps : ∀ step ∈ set.steps, Q step) (hreplacements : ∀ step ∈ set.replacements, Q step)
    {resolved : List (Step S C)} (h : set.resolved = .ok resolved) : ∀ step ∈ resolved, Q step := by
  -- by induction on the replacements, each of which keeps what holds of all steps
  have happlyAll (replacements steps steps' : List (Step S C)) (hsteps : ∀ step ∈ steps, Q step)
      (hreplacements : ∀ step ∈ replacements, Q step)
      (happly : applyAll steps replacements = .ok steps') : ∀ step ∈ steps', Q step := by
    induction replacements generalizing steps with
    | nil =>
      cases happly
      exact hsteps
    | cons replacement rest ih =>
      obtain ⟨hfirst, hrest⟩ := List.forall_mem_cons.1 hreplacements
      rw [applyAll] at happly
      split at happly
      · next replaced hreplaced =>
        exact ih replaced (forall_applyTo hreplace hfirst hsteps hreplaced) hrest happly
      · cases happly
  obtain ⟨effective, order, heffective, -, rfl⟩ := resolved_eq_ok h
  intro step hstep
  obtain ⟨index, -, hindex⟩ := List.mem_filterMap.1 hstep
  exact happlyAll _ _ _ hsteps hreplacements heffective step (List.mem_of_getElem? hindex)

/-- So do the stages of a pipeline that is built from them, in front of its last stage. -/
theorem forall_build [DecidableEq K] {Q : (kind : K) → Behavior S (C kind) → Prop}
    {set : StepSet S C} (hsteps : ∀ step ∈ set.steps, Q step.kind step.behavior)
    (hreplacements : ∀ step ∈ set.replacements, Q step.kind step.behavior) {kind : K}
    {last : Terminator S (C kind)} {pipeline : Pipeline S (C kind)}
    (h : set.build kind last = .ok pipeline) :
    (∀ stage ∈ pipeline.steps, Q kind stage.2) ∧ pipeline.terminator = last := by
  rw [build] at h
  cases hresolved : set.resolved with
  | error error =>
    rw [hresolved] at h
    cases h
  | ok resolved =>
    rw [hresolved] at h
    cases h
    refine ⟨fun stage hstage => ?_, rfl⟩
    have hall := forall_resolved (Q := fun step => Q step.kind step.behavior) (fun _ _ h => h)
      hsteps hreplacements hresolved
    obtain ⟨step, hstep, hfor⟩ := List.mem_filterMap.1 hstage
    obtain ⟨behavior, hbehavior, rfl⟩ := Option.map_eq_some_iff.1 hfor
    -- of the steps only those of the kind are taken
    rw [Step.behaviorFor?] at hbehavior
    split at hbehavior
    · next hkind =>
      subst hkind
      cases hbehavior
      exact hall step hstep
    · cases hbehavior

end Messaging.StepSet

namespace Messaging.Assembly

variable {settings : Settings} {resolver : Resolver} {user steps : EndpointSteps}
  {faults : Option (Chain FaultContext)} {Q : (kind : ContextKind) → Stage kind.Context → Prop}

/-- What the four built-in stages have in common. -/
theorem forall_builtInSteps
    (hmoveFaults : ∀ settings : Recovery.FaultSettings, settings.faults = faults →
      Q .receive (Recovery.moveFaults settings))
    (hretries : ∀ policy pipeline, Q .receive (Recovery.firstLevelRetries policy pipeline))
    (hroutes : Q .outgoing (Outgoing.resolveRoutes resolver))
    (hdeferral : ∀ manager, Q .routing (Timeouts.routeDeferred manager)) :
    ∀ step ∈ builtInSteps settings resolver faults, Q step.kind step.behavior := by
  intro step hstep
  rw [builtInSteps] at hstep
  -- which steps there are depends on the two addresses
  cases hlocal : settings.localAddress <;> cases hmanager : settings.timeoutManagerAddress <;>
    simp only [hlocal, hmanager, recoverySteps, List.mem_append, List.mem_cons,
      List.not_mem_nil, or_false, false_or] at hstep
  · subst hstep
    exact hroutes
  · obtain rfl | rfl := hstep
    · exact hroutes
    · exact hdeferral _
  · obtain (rfl | rfl) | rfl := hstep
    · exact hmoveFaults _ rfl
    · exact hretries _ _
    · exact hroutes
  · obtain ((rfl | rfl) | rfl) | rfl := hstep
    · exact hmoveFaults _ rfl
    · exact hretries _ _
    · exact hroutes
    · exact hdeferral _

/-- What the built-in stages and those of the user have in common the stages of every pipeline of an
endpoint have too. -/
theorem forall_stages (hsteps : mainSteps settings resolver user faults = .ok steps)
    (hbuiltIn : ∀ step ∈ builtInSteps settings resolver faults, Q step.kind step.behavior)
    (huser : ∀ step ∈ user.steps, Q step.kind step.behavior)
    (hreplacements : ∀ step ∈ user.replacements, Q step.kind step.behavior) {kind : ContextKind}
    {last : LastStage kind.Context} {pipeline : Chain kind.Context}
    (h : steps.build kind last = .ok pipeline) :
    (∀ stage ∈ pipeline.steps, Q kind stage.2) ∧ pipeline.terminator = last := by
  obtain ⟨hall, hreplaced, -⟩ := mainSteps_eq_ok hsteps
  refine StepSet.forall_build ?_ ?_ h
  · rw [hall]
    exact List.forall_mem_append.2 ⟨hbuiltIn, huser⟩
  · rwa [hreplaced]

variable {serializer : Serializer} {capabilities : Capabilities}

/-- The four pipelines of outgoing messages are built, each with its last stage. -/
theorem sendingSide_eq_ok {sending : SendingSide}
    (h : sendingSide steps serializer capabilities = .ok sending) :
    steps.build .routing (Outgoing.dispatchLast capabilities) = .ok sending.routing ∧
      steps.build .physical (Outgoing.toRouting sending.routing) = .ok sending.physical ∧
      steps.build .outgoing (Outgoing.serialize serializer sending.physical)
        = .ok sending.outgoing ∧
      steps.build .fault (Outgoing.faultToRouting sending.routing) = .ok sending.fault := by
  simp only [sendingSide, bind, Except.bind] at h
  -- each pipeline is built, or the sending side is not
  split at h
  · cases h
  · next routing hrouting =>
    split at h
    · cases h
    · next physical hphysical =>
      split at h
      · cases h
      · next outgoing houtgoing =>
        split at h
        · cases h
        · next fault hfault =>
          cases h
          exact ⟨hrouting, hphysical, houtgoing, hfault⟩

/-- The pipeline of read messages is built around that of invocations. -/
theorem incomingPipeline_eq_ok {handlers : Incoming.Handlers} {sender : Operations}
    {incoming : Chain IncomingContext} (h : incomingPipeline steps handlers sender = .ok incoming) :
    ∃ invocation, steps.build .invocation Incoming.invokeHandler = .ok invocation ∧
      steps.build .incoming (Incoming.loadHandlers handlers sender invocation) = .ok incoming := by
  simp only [incomingPipeline, bind, Except.bind] at h
  split at h
  · cases h
  · next invocation hinvocation => exact ⟨invocation, hinvocation, h⟩

end Messaging.Assembly

namespace Messaging.Conversation

/-- The steps of the user leave conversations alone. -/
structure Discreet (user : EndpointSteps) : Prop where
  steps : ∀ step ∈ user.steps, Keeps step.kind step.behavior
  replacements : ∀ step ∈ user.replacements, Keeps step.kind step.behavior

variable {settings : Settings} {resolver : Resolver} {user steps : EndpointSteps}
  {faults : Option (Chain FaultContext)}

/-- The steps of `Assembly.builtInSteps` are `Sound`, one case for each. -/
theorem sound_builtInSteps (settings : Settings) (resolver : Resolver)
    (faults : Option (Chain FaultContext)) :
    ∀ step ∈ Assembly.builtInSteps settings resolver faults,
      Sound faults step.kind step.behavior :=
  Assembly.forall_builtInSteps (fun _ => .moveFaults) .retries (.routes resolver) .deferral

/-- The stages of every pipeline of an endpoint are those of the user and the built-in ones. -/
theorem lined_of_build (hsteps : Assembly.mainSteps settings resolver user faults = .ok steps)
    (huser : Discreet user) {kind : ContextKind} {last : LastStage kind.Context}
    {pipeline : Chain kind.Context} (h : steps.build kind last = .ok pipeline) :
    Lined faults kind pipeline last := by
  obtain ⟨hstages, hlast⟩ := Assembly.forall_stages hsteps
    (sound_builtInSteps settings resolver faults) (fun step hstep => .user (huser.steps step hstep))
    (fun step hstep => .user (huser.replacements step hstep)) h
  exact ⟨hstages, hlast⟩

/-- The pipelines of outgoing messages are made of such stages. -/
structure Outward (sending : Assembly.SendingSide) (serializer : Serializer)
    (capabilities : Capabilities) : Prop where
  routing : Lined none .routing sending.routing (Outgoing.dispatchLast capabilities)
  physical : Lined none .physical sending.physical (Outgoing.toRouting sending.routing)
  outgoing : Lined none .outgoing sending.outgoing
    (Outgoing.serialize serializer sending.physical)
  fault : Lined none .fault sending.fault (Outgoing.faultToRouting sending.routing)

/-- The pipelines of outgoing messages end in the built-in stages, whatever discreet steps stand in
front. -/
theorem sendingSide_lined (hsteps : Assembly.mainSteps settings resolver user none = .ok steps)
    (huser : Discreet user) {serializer : Serializer} {capabilities : Capabilities}
    {sending : Assembly.SendingSide}
    (h : Assembly.sendingSide steps serializer capabilities = .ok sending) :
    Outward sending serializer capabilities := by
  obtain ⟨hrouting, hphysical, houtgoing, hfault⟩ := Assembly.sendingSide_eq_ok h
  exact ⟨lined_of_build hsteps huser hrouting, lined_of_build hsteps huser hphysical,
    lined_of_build hsteps huser houtgoing, lined_of_build hsteps huser hfault⟩

/-- The pipeline of received messages is made of such stages, down to the handlers. -/
inductive Inward (faults : Option (Chain FaultContext)) (parts : EndpointParts)
    (sender : Operations) (pipeline : Chain ReceiveContext) : Prop where
  | intro {invocation : Chain Invocation} {incoming : Chain IncomingContext}
      (hinvocation : Lined faults .invocation invocation Incoming.invokeHandler)
      (hincoming : Lined faults .incoming incoming
        (Incoming.loadHandlers parts.handlers sender invocation))
      (hreceive : Lined faults .receive pipeline
        (Incoming.deserialize parts.serializer incoming)) :
      Inward faults parts sender pipeline

/-- So does the pipeline of received messages. -/
theorem receivePipeline_lined
    (hsteps : Assembly.mainSteps settings resolver user faults = .ok steps)
    (huser : Discreet user) {parts : EndpointParts} {sender : Operations}
    {pipeline : Chain ReceiveContext}
    (h : Assembly.receivePipeline steps parts sender = .ok pipeline) :
    Inward faults parts sender pipeline := by
  simp only [Assembly.receivePipeline, bind, Except.bind] at h
  split at h
  · cases h
  · next incoming hbuilt =>
    obtain ⟨invocation, hinvocation, hincoming⟩ := Assembly.incomingPipeline_eq_ok hbuilt
    exact ⟨lined_of_build hsteps huser hinvocation, lined_of_build hsteps huser hincoming,
      lined_of_build hsteps huser h⟩

end Messaging.Conversation
