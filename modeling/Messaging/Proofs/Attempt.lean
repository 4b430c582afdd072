import Messaging.Proofs.Sending

/-!
# One attempt to process a message

The pipeline of received messages of an endpoint without steps of the user, from the handlers up to
the step that forwards failed messages.

- `Converses` says of user code that it sends through what it is given, and of everything else that
  there is does nothing to staged operations.
- `Inbound` is what the built-in stages are told, and `Inbound.pipeline` the pipeline of them.
- `Concluded` says what an attempt has sent when it ends, and `Inbound.pipeline_concludes` that
  every attempt ends so.
-/

namespace Messaging.Redelivery

/-! ### Handlers -/

/-- User code that is given ways to send and a scope: it sends, publishes, answers and forwards
through contexts with these, and its other requests send nothing and have nothing to do with staged
operations. It may end in any way. -/
inductive Converses (operations : Operations) (scope : ScopeId) : {α : Type} → Act α → Prop where
  /-- It ends. -/
  | done {α : Type} (result : α) : Converses operations scope (.done result)
  /-- It panics. -/
  | panic {α : Type} (payload : Panic) : Converses operations scope (.panic payload : Act α)
  /-- It makes another request. -/
  | aside {effect : Effect} (heffect : IsAside effect) : Converses operations scope (Act.ask effect)
  /-- It sends a command. -/
  | send {context : HandlerContext} (hoperations : context.operations = operations)
      (hscope : context.scope = scope) (payload : Payload) (options : SendOptions) :
      Converses operations scope (context.send payload options)
  /-- It publishes an event. -/
  | publish {context : HandlerContext} (hoperations : context.operations = operations)
      (hscope : context.scope = scope) (payload : Payload) :
      Converses operations scope (context.publish payload)
  /-- It answers the sender. -/
  | reply {context : HandlerContext} (hoperations : context.operations = operations)
      (hscope : context.scope = scope) (payload : Payload) :
      Converses operations scope (context.reply payload)
  /-- It forwards the message. -/
  | forward {context : HandlerContext} (hoperations : context.operations = operations)
      (hscope : context.scope = scope) (destination : String) :
      Converses operations scope (context.forward destination)
  /-- It does one thing after another. -/
  | bind {α β : Type} {program : Act α} {f : α → Act β}
      (hprogram : Converses operations scope program)
      (hf : ∀ result, program.Yields result → Converses operations scope (f result)) :
      Converses operations scope (program.bind f)
  /-- It catches a panic. -/
  | attempt {α : Type} {program : Act α} (hprogram : Converses operations scope program) :
      Converses operations scope program.attempt

/-- Handlers that send through what they are given. -/
def Conversing (handlers : Incoming.Handlers) : Prop :=
  ∀ messageType, ∀ handler ∈ handlers.getD messageType [], ∀ content context,
    Converses context.operations context.scope (handler.handle content context)

variable {staging : StagingId} {s t : Moment} {α : Type}

/-- User code stages what it sends. -/
theorem Converses.stages (outbound : Outbound) {endpointName : String}
    {localAddress : Option String} {scope : ScopeId} {program : Act α}
    (h : Converses (outbound.operations endpointName localAddress) scope program)
    (hs : Pending staging s) (hscope : Sees staging scope s) :
    Stages staging (fun _ => True) program s := by
  -- by induction on what the code does; only sending and forwarding reach the list
  induction h generalizing s with
  | done result => exact .done hs trivial
  | panic payload => exact .panic payload hs
  | aside heffect => exact .aside heffect hs
  | @send context hoperations hcontext payload options =>
    subst hcontext
    rw [HandlerContext.send, hoperations]
    exact outbound.dispatch_stages hs hscope
  | @publish context hoperations hcontext payload =>
    subst hcontext
    rw [HandlerContext.publish, hoperations]
    exact outbound.dispatch_stages hs hscope
  | @reply context hoperations hcontext payload =>
    subst hcontext
    rw [HandlerContext.reply]
    split
    · exact .done hs trivial
    · rw [hoperations]
      exact outbound.dispatch_stages hs hscope
  | @forward context hoperations hcontext destination =>
    subst hcontext
    rw [HandlerContext.forward]
    refine .ask hs nofun fun t ht => ?_
    have hu := ht.pending.aside (.readSlot context.scope .received) trivial
    refine ⟨hu, ?_⟩
    split
    · exact .done hu.pending trivial
    · rw [hoperations]
      exact outbound.forward_stages hu.pending (hu.sees _ (ht.sees _ hscope))
  | bind _ _ ih ihf =>
    exact (ih hs hscope).yields.bind fun value t hvalue ht =>
      ihf value hvalue ht.pending (ht.sees _ hscope)
  | attempt _ ih => exact (ih hs hscope).attempt

/-- A result of the stages around handlers: the message was processed, or it failed. -/
def Decided : StageResult → Prop
  | .ok outcome => outcome = .completed
  | .error _ => True

/-- A handler that is called stages what it sends. -/
theorem invokeHandler_stages (outbound : Outbound) {endpointName : String}
    {localAddress : Option String} {context : Invocation}
    (hoperations : context.operations = outbound.operations endpointName localAddress)
    (hhandler : ∀ content context',
      Converses context'.operations context'.scope (context.handler.handle content context'))
    (hs : Pending staging s) (hscope : Sees staging context.scope s) :
    Stages staging (fun ended => Decided ended.1) (Incoming.invokeHandler context) s := by
  rw [Incoming.invokeHandler]
  split
  · exact .done hs trivial
  · next content hcontent =>
    have hconverses := hhandler content context.toHandlerContext
    rw [hoperations] at hconverses
    -- what the handler has staged stays, however it ends
    refine (hconverses.stages outbound hs hscope).attempt.bind fun ended t _ ht => ?_
    cases ended with
    | error payload => exact .done ht.pending trivial
    | ok ended =>
      obtain ⟨ending, after⟩ := ended
      cases ending with
      | returned => exact .done ht.pending rfl
      | failed failure => exact .done ht.pending trivial
      | panicked payload => exact .done ht.pending trivial

/-- The pipeline of invocations without steps of the user. -/
def invocationPipeline : Chain Invocation :=
  { name := mainPipeline, steps := [], terminator := Incoming.invokeHandler }

/-- Handlers that are called one after another stage what they send. -/
theorem runHandlers_stages (outbound : Outbound) {endpointName : String}
    {localAddress : Option String} {context : IncomingContext} {handlers : List Handler}
    (hhandlers : ∀ handler ∈ handlers, ∀ content context,
      Converses context.operations context.scope (handler.handle content context))
    (hs : Pending staging s) (hscope : Sees staging context.scope s) :
    Stages staging Decided
      (Incoming.runHandlers (outbound.operations endpointName localAddress) invocationPipeline
        context handlers) s := by
  -- each handler runs in a scope below that of the message
  induction handlers generalizing s with
  | nil => exact .done hs rfl
  | cons handler rest ih =>
    obtain ⟨hhandler, hrest⟩ := List.forall_mem_cons.1 hhandlers
    refine .childScope hs hscope fun scope t ht hscope' => ?_
    refine (invokeHandler_stages outbound rfl hhandler ht.pending hscope').bind
      fun ended u hdecided hu => ?_
    obtain ⟨result, after⟩ := ended
    cases result with
    | error failure => exact .done hu.pending trivial
    | ok outcome =>
      cases hdecided
      dsimp only
      split
      · exact .done hu.pending rfl
      · exact ih hrest hu.pending (hu.sees _ (ht.sees _ hscope))

/-! ### The pipeline of received messages -/

/-- What the built-in stages of received messages are told. -/
structure Inbound extends Outbound where
  /-- The handlers. -/
  handlers : Incoming.Handlers
  /-- The name of the endpoint. -/
  endpointName : String
  /-- The input queue. -/
  localAddress : String
  /-- The queue that failed messages go to. -/
  errorQueue : String
  /-- How often a failed message is retried at once. -/
  maxRetries : Nat

namespace Inbound

variable (inbound : Inbound)

/-- The pipeline of read messages with built-in stages only. -/
def incoming : Chain IncomingContext where
  name := mainPipeline
  steps := []
  terminator := Incoming.loadHandlers inbound.handlers
    (inbound.operations inbound.endpointName (some inbound.localAddress)) invocationPipeline

/-- What the step that forwards failed messages is told. -/
def faultSettings : Recovery.FaultSettings where
  pipeline := mainPipeline
  faults := some inbound.sending.fault
  errorQueue := inbound.errorQueue
  localAddress := inbound.localAddress

/-- The pipeline of received messages with built-in stages only. -/
def pipeline : Chain ReceiveContext where
  name := mainPipeline
  steps := [
    (Recovery.moveFaultsStep, Recovery.moveFaults inbound.faultSettings),
    (Recovery.firstLevelRetriesStep,
      Recovery.firstLevelRetries ⟨.ofNat inbound.maxRetries⟩ mainPipeline)]
  terminator := Incoming.deserialize inbound.serializer inbound.incoming

/-- The handlers of a message that was read stage what they send. -/
theorem incoming_stages (hhandlers : Conversing inbound.handlers) (context : IncomingContext)
    (hs : Pending staging s) (hscope : Sees staging context.scope s) :
    Stages staging Decided (inbound.incoming.result context) s := by
  have hload : Stages staging (fun ended => Decided ended.1)
      (Incoming.loadHandlers inbound.handlers
        (inbound.operations inbound.endpointName (some inbound.localAddress)) invocationPipeline
        context) s := by
    rw [Incoming.loadHandlers]
    split
    · exact .done hs trivial
    · next list hlist =>
      have hlist := hhandlers context.message.messageType
      exact (runHandlers_stages inbound.toOutbound hlist hs hscope).bind
        fun result t hdecided ht => .done ht.pending hdecided
  exact hload.bind fun ended t hdecided ht => .done ht.pending hdecided

end Inbound

/-! ### What an attempt has sent -/

/-- The batch of operations that are dispatched together, if there are any. -/
def wholeBatch (operations : List Operation) : List Batch :=
  if operations.isEmpty then [] else [.ofList operations]

/-- A message that stands for another, possibly with other headers. -/
def IsCopy (copy message : Message) : Prop := copy.id = message.id ∧ copy.body = message.body

/-- What was sent when an attempt to process a message ends. -/
def HasSent (errorQueue : String) (message : Message) (log : List Exchange) :
    Except Panic StageResult → Prop
  | .ok (.ok .completed) => sent log = wholeBatch (staged log)
  | .ok (.ok (.movedToErrorQueue _)) =>
    ∃ copy, IsCopy copy message ∧ sent log = [faultBatch errorQueue copy]
  | _ => sent log = []

/-- How an attempt to process a message has ended. -/
structure Concluded (errorQueue : String) (message : Message) (ending : Except Panic StageResult)
    (log : List Exchange) : Prop where
  /-- What was staged is to be dispatched together. -/
  together : ∀ operation ∈ staged log, operation.isolated = false
  /-- What was sent fits how the attempt has ended. -/
  hasSent : HasSent errorQueue message log ending

variable {errorQueue : String} {message : Message}

/-- A failure, a retry or a panic before anything was sent. -/
theorem Pending.concluded (hs : Pending staging s) {ending : Except Panic StageResult}
    (hending : HasSent errorQueue message s.log ending ↔ sent s.log = []) :
    Concluded errorQueue message ending s.log := ⟨hs.together, hending.2 hs.unsent⟩

/-- Where nothing is staged or sent any more, an attempt ends as before. -/
theorem Concluded.of_quiet {ending : Except Panic StageResult}
    (h : Concluded errorQueue message ending s.log) (hst : Quiet s t) :
    Concluded errorQueue message ending t.log := by
  obtain ⟨htogether, hsent⟩ := h
  refine ⟨by rwa [hst.staged], ?_⟩
  match ending, hsent with
  | .ok (.ok .completed), hsent => exact (hst.sent.trans hsent).trans (by rw [hst.staged])
  | .ok (.ok (.movedToErrorQueue _)), ⟨copy, hcopy, hsent⟩ =>
    exact ⟨copy, hcopy, hst.sent.trans hsent⟩
  | .ok (.ok .retryRequested), hsent => exact hst.sent.trans hsent
  | .ok (.error _), hsent => exact hst.sent.trans hsent
  | .error _, hsent => exact hst.sent.trans hsent

/-- What a stage of received messages comes to: the message is still the one that was received, and
an attempt that ended here would be concluded. -/
def StageConcluded (errorQueue : String) (message : Message)
    (ended : Except Panic (StageResult × ReceiveContext)) (t : Moment) : Prop :=
  (∀ result context, ended = .ok (result, context) → IsCopy context.message message) ∧
    Concluded errorQueue message (ended.map Prod.fst) t.log

/-- An attempt that is concluded is at the end of a stage if the message is still the same. -/
theorem Concluded.stage {result : StageResult} {context : ReceiveContext}
    (h : Concluded errorQueue message (.ok result) s.log) (hcopy : IsCopy context.message message) :
    StageConcluded errorQueue message (.ok (result, context)) s := by
  refine ⟨?_, h⟩
  rintro _ _ ⟨⟩
  exact hcopy

/-- So it is when a stage has panicked. -/
theorem Concluded.stagePanicked {payload : Panic}
    (h : Concluded errorQueue message (.error payload) s.log) :
    StageConcluded errorQueue message (.error payload) s := ⟨nofun, h⟩

variable (errorQueue message) in
/-- Staged operations are dispatched in one batch once the message was processed. -/
theorem finishReceive_concludes (htogether : ∀ operation ∈ staged s.log, operation.isolated = false)
    (hunsent : sent s.log = []) :
    Assured terms (fun result t => Concluded errorQueue message result t.log)
      (Incoming.finishReceive (staged s.log) .completed) s := by
  have hcommits : ¬ (!Outcome.completed.commits) = true := Bool.false_ne_true
  rw [Incoming.finishReceive, if_neg hcommits]
  split
  · next hempty =>
    refine ⟨htogether, hunsent.trans ?_⟩
    rw [wholeBatch, if_pos hempty]
  · next hsome =>
    refine assured_ask nofun fun t hspared => ?_
    -- to dispatch stages nothing, so what is sent is what was staged before
    have hstaged : staged (t.after (.dispatch (.ofList (staged s.log)))).log = staged s.log :=
      ((t.staged_after _).trans (List.append_nil _)).trans hspared.quiet.staged
    have hsent := t.sent_after (.dispatch (.ofList (staged s.log)))
    rw [hspared.quiet.sent, hunsent, List.nil_append] at hsent
    cases hanswer : (t.world.perform (.dispatch (.ofList (staged s.log)))).1 with
    | ok answer =>
      rw [hanswer] at hsent
      refine ⟨by rwa [hstaged], hsent.trans ?_⟩
      rw [hstaged, wholeBatch, if_neg hsome]
      rfl
    | error error =>
      rw [hanswer] at hsent
      exact ⟨by rwa [hstaged], hsent⟩

/-- Nothing was staged or sent yet. -/
structure Clean (s : Moment) : Prop where
  /-- Nothing was staged. -/
  staged : staged s.log = []
  /-- Nothing was sent. -/
  sent : sent s.log = []

variable {post : Except Panic α → Moment → Prop}

/-- A new list of staged operations holds what was staged: nothing. -/
theorem Clean.openStaging (h : Clean s) {f : StagingId → Act α}
    (hf : ∀ staging t, Pending staging t → Assured terms post (f staging) t) :
    Assured terms post ((Act.ask .openStaging).bind f) s :=
  assured_ask nofun fun t hst => hf _ _ <| by
    have hstaged : Redelivery.staged (t.after .openStaging).log = [] :=
      ((t.staged_after _).trans (List.append_nil _)).trans (hst.quiet.staged.trans h.staged)
    refine ⟨?_, ?_, ?_, ?_⟩
    · rw [Moment.Keeps, Moment.after, List.filterMap_append]
      exact List.mem_append_right _ List.mem_cons_self
    · rw [hstaged]
      exact Array.getElem?_push_size
    · intro operation hoperation
      rw [hstaged] at hoperation
      cases hoperation
    · exact ((t.sent_after _).trans (List.append_nil _)).trans (hst.quiet.sent.trans h.sent)

/-- A new scope that the list is put into leads to it. -/
theorem Pending.openScope (hs : Pending staging s) {parent : ScopeId} {f : ScopeId → Act α}
    (hf : ∀ scope t, Pending staging t → Sees staging scope t → Assured terms post (f scope) t) :
    Assured terms post ((Act.childScope parent).bind fun scope =>
      (Act.ask (.writeSlot scope .staging staging)).bind fun _ => f scope) s :=
  assured_ask nofun fun t hst => assured_ask nofun fun u htu => hf _ _
    (by
      have ht := (hst.onward hs).pending.aside (.openScope (some parent)) trivial
      have hu := (htu.onward ht.pending).pending
      have hstaged (scope : ScopeId) :
          staged (u.after (.writeSlot scope .staging staging)).log = staged u.log :=
        (u.staged_after _).trans (List.append_nil _)
      refine ⟨hu.kept.after _, ?_, ?_, ((u.sent_after _).trans (List.append_nil _)).trans hu.unsent⟩
      · rw [hstaged]
        exact hu.holds
      · rw [hstaged]
        exact hu.together)
    (by
      have howned := htu.owns (t.owns_openScope (some parent))
      exact ⟨howned.after _, ScopeForest.get?_set_self _ _ _ howned.2⟩)

/-- The list is taken with everything that was staged. -/
theorem Pending.takeStaged (hs : Pending staging s) {f : List Operation → Act α}
    (hf : ∀ t, (∀ operation ∈ staged t.log, operation.isolated = false) → sent t.log = [] →
      Assured terms post (f (staged t.log)) t) :
    Assured terms post ((Act.ask (.takeStaged staging)).bind f) s :=
  assured_ask nofun fun t hst => by
    have ht := (hst.onward hs).pending
    have htaken : (t.world.perform (.takeStaged staging)).1 = staged t.log :=
      congrArg (Option.getD · []) ht.holds
    have hquiet : Quiet t (t.after (.takeStaged staging)) :=
      ⟨(t.staged_after _).trans (List.append_nil _), (t.sent_after _).trans (List.append_nil _)⟩
    rw [htaken, ← hquiet.staged]
    refine hf _ ?_ (hquiet.sent.trans ht.unsent)
    rw [hquiet.staged]
    exact ht.together

namespace Inbound

variable (inbound : Inbound)

/-- A message that was read is processed, or nothing is sent. -/
theorem deserialize_concludes (hhandlers : Conversing inbound.handlers) (context : ReceiveContext)
    (hs : Clean s) :
    Assured terms (StageConcluded inbound.errorQueue context.message)
      (Incoming.deserialize inbound.serializer inbound.incoming context) s := by
  have hcopy : IsCopy context.message context.message := ⟨rfl, rfl⟩
  have htogether : ∀ operation ∈ staged s.log, operation.isolated = false := by
    rw [hs.staged]
    exact nofun
  rw [Incoming.deserialize]
  split
  · refine Concluded.stage ⟨htogether, hs.sent.trans ?_⟩ hcopy
    rw [hs.staged]
    rfl
  · split
    · exact Concluded.stage ⟨htogether, hs.sent⟩ hcopy
    · refine hs.openStaging fun staging t ht => ht.openScope fun scope u hu hscope => ?_
      -- the handlers are called in a scope that leads to a list of their own
      have hincoming (message : LogicalMessage) (v : Moment) (hv : Onward staging u v) :=
        inbound.incoming_stages hhandlers
          { messageId := context.message.id, headers := context.message.headers, message, scope }
          hv.pending (hv.sees _ hscope)
      refine assured_ask nofun fun v huv => ?_
      have hv := huv.onward hu
      have hw := hv.trans
        (hv.pending.aside (.writeSlot scope .received context.message) nofun)
      refine Assured.bind (Assured.imp (hincoming _ _ hw) fun result x hx => ?_)
      obtain ⟨hdecided, hx⟩ := hx
      -- unless the handlers complete, the list is never taken
      match result, hdecided with
      | .error payload, _ => exact (hx.pending.concluded Iff.rfl).stagePanicked
      | .ok (.error failure), _ => exact (hx.pending.concluded Iff.rfl).stage hcopy
      | .ok (.ok outcome), hdecided =>
        cases hdecided _ rfl
        refine hx.pending.takeStaged fun y hy hunsent => ?_
        have hfinish := finishReceive_concludes inbound.errorQueue context.message hy hunsent
        refine Assured.bind (Assured.imp hfinish fun result z hz => ?_)
        cases result with
        | ok result => exact hz.stage hcopy
        | error payload => exact hz.stagePanicked

end Inbound

/-! ### Recovery -/

theorem IsCopy.trans {first second third : Message} (h : IsCopy second first)
    (h' : IsCopy third second) : IsCopy third first := ⟨h'.1.trans h.1, h'.2.trans h.2⟩

/-- An attempt that failed might as well be retried. -/
theorem Concluded.retried {failure : Failure}
    (h : Concluded errorQueue message (.ok (.error failure)) s.log) :
    Concluded errorQueue message (.ok (.ok .retryRequested)) s.log := ⟨h.together, h.hasSent⟩

/-- The accounting of retries sends nothing. -/
theorem settleRetries_concludes (policy : RetryPolicy) (pipeline messageId : String)
    {result : StageResult} {context : ReceiveContext} (hcopy : IsCopy context.message message)
    (hs : Concluded errorQueue message (.ok result) s.log) :
    Assured terms (StageConcluded errorQueue message)
      (Recovery.settleRetries policy pipeline messageId (result, context)) s := by
  cases result with
  | ok outcome =>
    exact assured_aside (.clearFailures ..) trivial fun _ t ht => (hs.of_quiet ht).stage hcopy
  | error failure =>
    rw [Recovery.settleRetries]
    split
    · exact hs.stage hcopy
    · -- failures are counted beside what was staged
      refine assured_aside (.countFailure ..) trivial fun failures t ht => ?_
      split
      · refine assured_aside (.publish _) trivial fun _ u hu => ?_
        exact (hs.of_quiet (ht.trans hu)).retried.stage hcopy
      · refine assured_aside (.clearFailures ..) trivial fun _ u hu => ?_
        exact (hs.of_quiet (ht.trans hu)).stage hcopy

namespace Inbound

variable (inbound : Inbound)

/-- Forwarding a failed message hands a copy to the transport in a batch of its own. -/
theorem forwardFault_tries (failure : Failure) (context : ReceiveContext) (s : Moment) :
    Assured terms
      (fun ended t => ∃ result after, ended = .ok (Operations.unitResult result, after) ∧
        IsCopy after.message context.message ∧
          Tried (faultBatch inbound.errorQueue after.message) s t result)
      (Recovery.forwardFault inbound.faultSettings failure context) s := by
  rw [Recovery.forwardFault, faultSettings]
  refine Assured.bind (assured_aside .clock trivial fun now t ht => ?_)
  refine assured_aside (.openScope (some context.scope)) trivial fun scope u hu => ?_
  refine Assured.bind (Assured.imp (inbound.fault_tries _ u) ?_)
  rintro ended v ⟨result, rfl, htried⟩
  exact ⟨result, _, rfl, ⟨rfl, rfl⟩, htried.of_quiet (ht.trans hu)⟩

/-- A failed message is forwarded to the error queue, or nothing is sent. -/
theorem settleFault_concludes {result : StageResult} {context : ReceiveContext}
    (hcopy : IsCopy context.message message)
    (hs : Concluded inbound.errorQueue message (.ok result) s.log) :
    Assured terms (StageConcluded inbound.errorQueue message)
      (Recovery.settleFault inbound.faultSettings (result, context)) s := by
  cases result with
  | ok outcome => exact hs.stage hcopy
  | error failure =>
    refine Assured.bind (Assured.imp (inbound.forwardFault_tries failure context s) ?_)
    rintro ended t ⟨result, after, rfl, hafter, htried⟩
    have hcopy := hcopy.trans hafter
    cases htried with
    | taken hstaged hsent =>
      -- once the copy was taken nothing else is sent
      refine assured_aside (.clearFailures ..) trivial fun _ u hu => ?_
      refine assured_aside .clock trivial fun now v hv => ?_
      refine assured_aside (.publish _) trivial fun _ w hw => ?_
      have hquiet := (hu.trans hv).trans hw
      refine Concluded.stage ⟨?_, after.message, hcopy, ?_⟩ hcopy
      · rw [hquiet.staged, hstaged]
        exact hs.together
      -- the copy is all that the attempt has sent, as a failed pipeline has sent nothing
      · rw [hquiet.sent, hsent, show sent s.log = [] from hs.hasSent]
        rfl
    | refused hquiet =>
      refine assured_aside (.countFailure ..) trivial fun failures u hu => ?_
      have hu := hs.of_quiet (hquiet.trans hu)
      split
      · refine assured_aside (.raiseCritical ..) trivial fun _ v hv => ?_
        exact (hu.of_quiet hv).stage hcopy
      · exact hu.stage hcopy

/-- The pipeline of received messages concludes an attempt. -/
theorem pipeline_concludes (hhandlers : Conversing inbound.handlers) (context : ReceiveContext)
    (hs : Clean s) :
    Assured terms
      (fun ending t => Concluded inbound.errorQueue context.message ending t.log)
      (inbound.pipeline.result context) s := by
  -- from the inside out: the handlers, the retries, the error queue
  have hretries : Assured terms (StageConcluded inbound.errorQueue context.message)
      (Recovery.firstLevelRetries ⟨.ofNat inbound.maxRetries⟩ mainPipeline
        ⟨1, Incoming.deserialize inbound.serializer inbound.incoming⟩ context) s := by
    refine Assured.bind (Assured.imp (inbound.deserialize_concludes hhandlers context hs) ?_)
    rintro (payload | ⟨result, after⟩) t ⟨hcopy, ht⟩
    · exact ht.stagePanicked
    · exact settleRetries_concludes _ _ _ (hcopy _ _ rfl) ht
  have hfaults : Assured terms (StageConcluded inbound.errorQueue context.message)
      (inbound.pipeline.invoke context) s := by
    refine Assured.bind (Assured.imp hretries ?_)
    rintro (payload | ⟨result, after⟩) t ⟨hcopy, ht⟩
    · exact ht.stagePanicked
    · exact inbound.settleFault_concludes (hcopy _ _ rfl) ht
  refine Assured.bind (Assured.imp hfaults ?_)
  rintro (payload | ⟨result, after⟩) t ⟨hcopy, ht⟩
  · exact ht
  · exact ht

end Inbound

end Messaging.Redelivery
