import Messaging.Proofs.Stamping

/-!
# What is sent while a message is received

Whatever handlers send belongs to the conversation of the message that they were given, and their
answers go to the address that this message names. It holds whatever the surroundings answer, and
with steps of the user that leave conversations alone.

- `Produced` says which operations a run has staged or sent, and `Covers` that all of them are of a
  kind; `Threaded` is the kind that a receive produces.
- `speaks_holds` says so of user code, `invocation_holds` and `incoming_holds` of the pipelines
  around handlers, and `receive_holds` of a whole receive.
- `dispatch_opens` says what a session produces, where the first message names the conversation.
-/

namespace Messaging.Conversation

open Redelivery Deferring

variable {α β : Type} {log : List Exchange} {stamp : Stamp}

/-! ### What a run produces -/

/-- The operations that are taken from a list of staged ones with an exchange. -/
def takenBy : Exchange → List Operation
  | ⟨.takeStaged _, operations⟩ => operations
  | _ => []

/-- The operations that were taken from lists of staged ones. -/
def taken (log : List Exchange) : List Operation := log.flatMap takenBy

/-- `taken` grows with every exchange that takes staged operations. -/
theorem taken_append (log : List Exchange) (exchange : Exchange) :
    taken (log ++ [exchange]) = taken log ++ takenBy exchange := by
  simp [taken]

/-- An operation was staged, or sent without that; failed messages that are sent to the error queue
are isolated. -/
inductive Produced (log : List Exchange) (operation : Operation) : Prop where
  | staged (hstaged : operation ∈ staged log)
  | sent {batch : Batch} (hbatch : batch ∈ sent log) (hmem : operation ∈ batch.toList)
      (hwith : operation.isolated = false) (hnew : operation ∉ taken log)

/-- All operations that were produced are of a kind, which may depend on what was asked. -/
def Covers (Q : List Exchange → Operation → Prop) (log : List Exchange) : Prop :=
  ∀ operation, Produced log operation → Q log operation

section Covers

variable {Q : List Exchange → Operation → Prop}
  (hgrows : ∀ log exchange operation, Q log operation → Q (log ++ [exchange]) operation)
include hgrows

/-- One exchange more keeps `Covers` if what it stages and what it sends alone satisfy `Q`. -/
theorem Covers.append (h : Covers Q log) {exchange : Exchange}
    (hstaged : ∀ operation ∈ stagedBy exchange, Q (log ++ [exchange]) operation)
    (hsent : ∀ batch ∈ sentBy exchange, ∀ operation ∈ batch.toList, operation.isolated = false →
      operation ∉ taken (log ++ [exchange]) → Q (log ++ [exchange]) operation) :
    Covers Q (log ++ [exchange]) := by
  intro operation hproduced
  -- what was produced before is covered still, as `Q` grows
  have hearlier (hbefore : Produced log operation) : Q (log ++ [exchange]) operation :=
    hgrows _ _ _ (h operation hbefore)
  -- what is new was staged or sent by the last exchange
  cases hproduced with
  | staged hmem =>
    rw [staged_append, List.mem_append] at hmem
    exact hmem.elim (fun hbefore => hearlier (.staged hbefore)) (hstaged operation)
  | @sent batch hbatch hmem hwith hnew =>
    rw [sent_append, List.mem_append, Option.mem_toList] at hbatch
    refine hbatch.elim (fun hbefore => hearlier (.sent hbefore hmem hwith fun htaken => hnew ?_))
      fun hlast => hsent batch hlast operation hmem hwith hnew
    rw [taken_append]
    exact List.mem_append_left _ htaken

/-- Whatever is not staged and not sent produces nothing. -/
theorem Covers.append_of_none (h : Covers Q log) {exchange : Exchange}
    (hstaged : stagedBy exchange = []) (hsent : sentBy exchange = none) :
    Covers Q (log ++ [exchange]) := by
  refine h.append hgrows ?_ ?_
  · rw [hstaged]
    exact nofun
  · rw [hsent]
    exact nofun

/-- A batch is sent whose operations are of the kind, were taken or are isolated. -/
theorem Covers.append_dispatch (h : Covers Q log) {operations : List Operation}
    {answer : Except TransportError Unit}
    (hall : ∀ operation ∈ operations, operation.isolated = false → operation ∉ taken log →
      Q (log ++ [⟨.dispatch (.ofList operations), answer⟩]) operation) :
    Covers Q (log ++ [⟨.dispatch (.ofList operations), answer⟩]) := by
  refine h.append hgrows nofun fun batch hbatch operation hmem hwith hnew => ?_
  cases answer with
  | error error => cases hbatch
  | ok _ =>
    cases hbatch
    refine hall operation (Batch.mem_toList_ofList.1 hmem) hwith fun htaken => hnew ?_
    rw [taken_append]
    exact List.mem_append_left _ htaken

/-- Only staging and sending matter for `Covers`. -/
theorem lasts_covers : Lasts (Covers Q) := fun _ _ _ heffect h =>
  h.append_of_none hgrows (stagedBy_aside heffect _) (sentBy_aside heffect _)

/-- Operations of the admitted kind may be staged and sent. -/
theorem admits_covers {P : Operation → Prop}
    (hkind : ∀ log operation, P operation → Q log operation) : Admits P (Covers Q) where
  lasts := lasts_covers hgrows
  stage _ _ _ hall h :=
    h.append hgrows (fun operation hmem => hkind _ _ (hall operation hmem)) nofun
  dispatch _ _ _ hall h :=
    h.append_dispatch hgrows fun operation hmem _ _ => hkind _ _ (hall operation hmem)

end Covers

/-! ### What a session produces -/

/-- What the first message of a conversation carries: the conversation goes by its id. -/
def opening (id : String) (sender : Operations) : Stamp where
  messageId := some id
  correlation := some id
  replyTo := sender.localAddress
  answerTo := none

/-- All that was produced carries the id of one message as its own and for the conversation. -/
def Opened (sender : Operations) (log : List Exchange) : Prop :=
  ∃ id, Covers (fun _ => (opening id sender).On) log

/-- A send that is not a reply and whose headers name no thread opens a new one. -/
theorem dispatch_opens {sending : Assembly.SendingSide} {serializer : Serializer}
    {capabilities : Capabilities} (houtward : Outward sending serializer capabilities)
    {sender : Operations} (hsender : sender.outgoing = sending.outgoing) {intent : Intent}
    (hintent : intent ≠ .reply) (parent : ScopeId) (payload : Payload) {options : SendOptions}
    (hfree : Unthreaded options.headers) (hnothing : ∀ operation, ¬ Produced log operation) :
    Assured anyAnswers (fun _ after => Opened sender after)
      (sender.dispatch parent intent payload options) log := by
  have hdraft (id : String) (content : Json) :=
    draft_stamps houtward (admits_covers (P := (opening id sender).On) (fun _ _ _ h => h)
      fun _ _ h => h) hsender parent payload content (fun _ hid => Option.some_inj.1 hid)
      (by rw [hfree.correlation]; rfl) hfree.replyTo rfl fun hreply => absurd hreply hintent
  have hstart (id : String) : Covers (fun _ => (opening id sender).On) log :=
    fun operation hproduced => (hnothing operation hproduced).elim
  rw [Operations.dispatch]
  split
  · exact ⟨"", hstart ""⟩
  · next content _ =>
    -- the id is given or drawn; it is that of the message and of the conversation
    cases options.messageId with
    | some id => exact (hdraft id content log (hstart id)).imp fun _ _ h => ⟨id, h⟩
    | none =>
      refine assured_ask fun id => (hdraft id content _ ?_).imp fun _ _ h => ⟨id, h⟩
      exact (hstart id).append_of_none (fun _ _ _ h => h) rfl rfl

/-! ### What a receive produces -/

/-- The message that is found as the received one with an exchange. -/
def foundBy : Exchange → Option Message
  | ⟨.readSlot _ .received, found⟩ => found
  | _ => none

/-- The messages that were found as the received one. -/
def found (log : List Exchange) : List Message := log.filterMap foundBy

/-- `found` are the messages that were read from a scope so far. -/
theorem found_append (log : List Exchange) (exchange : Exchange) :
    found (log ++ [exchange]) = found log ++ (foundBy exchange).toList := by
  cases h : foundBy exchange <;> simp [found, h]

/-- A message passes for one that was found as the received one: it is forwarded. -/
def Forwarded (log : List Exchange) (message : Message) : Prop :=
  ∃ received ∈ found log, PassesFor received message

/-- What was `Forwarded` or carried before one exchange more still is. -/
theorem Forwarded.append {message : Message} (h : Forwarded log message) (exchange : Exchange) :
    Forwarded (log ++ [exchange]) message := by
  obtain ⟨received, hmem, hfor⟩ := h
  refine ⟨received, ?_, hfor⟩
  rw [found_append]
  exact List.mem_append_left _ hmem

/-- An operation carries a stamp, unless its message was forwarded. -/
def CarriesOrForwards (stamp : Stamp) (log : List Exchange) (operation : Operation) : Prop :=
  stamp.On operation ∨ Forwarded log operation.message

theorem CarriesOrForwards.append {exchange : Exchange} {operation : Operation}
    (h : CarriesOrForwards stamp log operation) :
    CarriesOrForwards stamp (log ++ [exchange]) operation :=
  h.imp_right (·.append exchange)

/-- What was produced carries a stamp, unless it was forwarded. -/
def Threaded (stamp : Stamp) : List Exchange → Prop := Covers (CarriesOrForwards stamp)

/-- `Threaded` is kept by all that the stages ask for, and admits what bears the stamp. -/
theorem lasts_threaded (stamp : Stamp) : Lasts (Threaded stamp) :=
  lasts_covers fun _ _ _ => .append

theorem admits_threaded (stamp : Stamp) : Admits stamp.On (Threaded stamp) :=
  admits_covers (fun _ _ _ => .append) fun _ _ => .inl

/-- Once the received message was found, messages that pass for it are forwarded. -/
theorem admits_forwarded (stamp : Stamp) (message : Message) :
    Admits (fun operation => PassesFor message operation.message)
      (fun log => Threaded stamp log ∧ message ∈ found log) := by
  have hstays (log : List Exchange) (exchange : Exchange) (h : message ∈ found log) :
      message ∈ found (log ++ [exchange]) := by
    rw [found_append]
    exact List.mem_append_left _ h
  refine ⟨fun log effect answer heffect h => ⟨?_, hstays _ _ h.2⟩,
    fun log staging operations hall h => ⟨?_, hstays _ _ h.2⟩,
    fun log operations answer hall h => ⟨?_, hstays _ _ h.2⟩⟩
  · exact lasts_threaded stamp log effect answer heffect h.1
  · exact h.1.append (fun _ _ _ => .append)
      (fun operation hmem => .inr ⟨message, hstays _ _ h.2, hall operation hmem⟩) nofun
  · exact h.1.append_dispatch (fun _ _ _ => .append)
      fun operation hmem _ _ => .inr ⟨message, hstays _ _ h.2, hall operation hmem⟩

/-- A request that neither stages nor sends. -/
theorem threaded_bind_ask (effect : Effect) {f : effect.Answer → Act α}
    (hstaged : ∀ answer, stagedBy ⟨effect, answer⟩ = [])
    (hsent : ∀ answer, sentBy ⟨effect, answer⟩ = none)
    (hf : ∀ answer, Holds (Threaded stamp) (f answer)) :
    Holds (Threaded stamp) ((Act.ask effect).bind f) :=
  Holds.bind (.ask fun _ answer hlog =>
    hlog.append_of_none (fun _ _ _ => .append) (hstaged answer) (hsent answer))
    fun answer _ => hf answer

/-- In the end the staged operations are sent, which produces no others. -/
theorem finishReceive_holds (staging : StagingId) (outcome : Outcome) (f : StageResult → α) :
    Holds (Threaded stamp) ((Act.ask (.takeStaged staging)).bind fun operations =>
      (Incoming.finishReceive operations outcome).bind fun result => .done (f result)) := by
  intro log hlog
  refine assured_ask fun operations => ?_
  have hlog : Threaded stamp (log ++ [⟨.takeStaged staging, operations⟩]) :=
    hlog.append_of_none (fun _ _ _ => .append) rfl rfl
  rw [Incoming.finishReceive]
  split
  · exact hlog
  · split
    · exact hlog
    · refine assured_ask fun answer => ?_
      -- all of the batch was taken, so that none of it counts as new
      have hsent : Threaded stamp (log ++ [⟨.takeStaged staging, operations⟩] ++
          [⟨.dispatch (.ofList operations), answer⟩]) :=
        hlog.append_dispatch (fun _ _ _ => .append) fun operation hmem _ hnew => by
          rw [taken_append] at hnew
          exact (hnew (List.mem_append_right _ hmem)).elim
      cases answer <;> exact hsent

section Receiving

variable {sending : Assembly.SendingSide} {serializer : Serializer} {capabilities : Capabilities}
  (houtward : Outward sending serializer capabilities) {sender : Operations}
  (houtgoing : sender.outgoing = sending.outgoing) (hrouting : sender.routing = sending.routing)
  {root : String} {answerTo : Option String}
include houtward houtgoing hrouting

/-- What messages carry that are sent through a context. -/
def answering (root : String) (sender : Operations) (answerTo : Option String) : Stamp where
  correlation := some root
  replyTo := sender.localAddress
  answerTo := answerTo

/-- A context that user code sends through: it names the conversation and where answers go. -/
structure Sends (root : String) (answerTo : Option String) (sender : Operations)
    (context : HandlerContext) : Prop where
  marks : Marks (some root) answerTo context.headers
  operations : context.operations = sender

omit houtward houtgoing hrouting in
/-- A handler context that differs in its scope only sends alike. -/
theorem Sends.of_sameContext {received context : HandlerContext}
    (h : Sends root answerTo sender received) (hsame : SameContext received context) :
    Sends root answerTo sender context :=
  ⟨h.marks.of_sameThread hsame.thread, hsame.operations.trans h.operations⟩

omit hrouting in
/-- What is sent through a context belongs to its conversation. -/
theorem correlated_holds {context : HandlerContext} (h : Sends root answerTo sender context)
    {intent : Intent} (payload : Payload) {options : SendOptions}
    (hfree : Unthreaded options.headers)
    (hreply : intent = .reply → options.destination = answerTo ∧
      ∀ constraint ∈ options.constraints, constraint.isDelay = false) :
    Holds (Threaded (answering root sender answerTo))
      (sender.dispatch context.scope intent payload (context.correlated options)) := by
  -- user code names no conversation, so the one of the received message is filled in
  have hcorrelation :
      (context.correlated options).headers.get? Header.correlationId = some root := by
    refine (Table.get?_insertIfNew ..).trans ?_
    rw [if_pos rfl, Table.getD, hfree.correlation, HandlerContext.correlationId, Table.getD,
      h.marks.correlation]
    rfl
  have hnone : (context.correlated options).headers.get? Header.replyToAddress = none := by
    refine (Table.get?_insertIfNew ..).trans ?_
    rw [if_neg (by decide)]
    exact hfree.replyTo
  exact dispatch_stamps houtward (admits_threaded _) houtgoing _ _ rfl hcorrelation rfl hnone rfl
    hreply

omit houtgoing in
/-- A message that is forwarded through a context passes for the received one. -/
theorem forwardCurrent_holds {context : HandlerContext} (hsender : context.operations = sender)
    (destination : String) : Holds (Threaded stamp) (context.forward destination) := by
  rw [HandlerContext.forward]
  intro log hlog
  refine assured_ask fun found => ?_
  have hasked := lasts_threaded stamp log (.readSlot context.scope .received) found trivial hlog
  -- nothing is forwarded unless a received message is found
  cases found with
  | none => exact hasked
  | some message =>
    dsimp only
    rw [hsender]
    have hforward := forward_holds houtward hrouting (admits_forwarded stamp message) context.scope
      destination
    refine (hforward _ ⟨hasked, ?_⟩).imp fun _ _ hafter => hafter.1
    rw [found_append]
    exact List.mem_append_right _ (List.mem_singleton_self _)

/-- User code produces messages of the conversation of its context, and its answers go where the
context says. -/
theorem speaks_holds {received : HandlerContext} {program : Act α}
    (h : Speaks received program) (hreceived : Sends root answerTo sender received) :
    Holds (Threaded (answering root sender answerTo)) program := by
  have hno {intent : Intent} (hintent : intent ≠ .reply) {options : SendOptions}
      (hreply : intent = .reply) : options.destination = answerTo ∧
        ∀ constraint ∈ options.constraints, constraint.isDelay = false := absurd hreply hintent
  -- by induction on what the code does, which may use any context with the same thread
  induction h with
  | done result => exact .done result
  | panic payload => exact .panic payload
  | aside heffect => exact (lasts_threaded _).ask _ heffect
  | send hsame payload hfree =>
    have hcontext := hreceived.of_sameContext hsame
    rw [HandlerContext.send, hcontext.operations]
    exact correlated_holds houtward houtgoing hcontext payload hfree (hno (by decide))
  | publish hsame payload =>
    have hcontext := hreceived.of_sameContext hsame
    rw [HandlerContext.publish, hcontext.operations]
    exact correlated_holds houtward houtgoing hcontext payload ⟨rfl, rfl⟩ (hno (by decide))
  | reply hsame payload =>
    have hcontext := hreceived.of_sameContext hsame
    rw [HandlerContext.reply]
    split
    · exact .done _
    · next address hfound =>
      rw [hcontext.operations]
      refine correlated_holds houtward houtgoing hcontext payload ⟨rfl, rfl⟩
        fun _ => ⟨?_, fun _ hmem => (List.not_mem_nil hmem).elim⟩
      exact hfound.symm.trans hcontext.marks.replyTo
  | forward hsame destination =>
    exact forwardCurrent_holds houtward hrouting (hreceived.of_sameContext hsame).operations _
  | bind _ _ ih ihf => exact ih.bind ihf
  | attempt _ ih => exact ih.attempt

variable {faults : Option (Chain FaultContext)} {parts : EndpointParts}

/-- What a handler is called with, and the handler sends through it. -/
structure Given (root : String) (answerTo : Option String) (sender : Operations)
    (context : Invocation) : Prop where
  sends : Sends root answerTo sender context.toHandlerContext
  speaking : Speaking context.handler

/-- From the inside out: a handler, its pipeline, all handlers, and the pipeline of read messages
keep the operations `Threaded`. -/
theorem invokeHandler_holds {context : Invocation} (h : Given root answerTo sender context) :
    Holds (Threaded (answering root sender answerTo)) (Incoming.invokeHandler context) := by
  rw [Incoming.invokeHandler]
  split
  · exact .done _
  · next content _ =>
    have hspeaks := speaks_holds houtward houtgoing hrouting
      (h.speaking content context.toHandlerContext) h.sends
    refine hspeaks.attempt.bind fun ended _ => ?_
    obtain payload | ⟨ending, after⟩ := ended
    · exact .done _
    · cases ending <;> exact .done _

theorem invocation_holds {invocation : Chain Invocation}
    (hinvocation : Lined faults .invocation invocation Incoming.invokeHandler)
    (context : Invocation) (h : Given root answerTo sender context) :
    Holds (Threaded (answering root sender answerTo)) (invocation.invoke context) := by
  refine chain_holds hinvocation (fun stage hstage => ?_)
    (fun context h => invokeHandler_holds houtward houtgoing hrouting h) context h
  cases hstage with
  | user hkeeps =>
    refine hkeeps.forwards (lasts_threaded _) ?_ fun context h β program hspeaks =>
      speaks_holds houtward houtgoing hrouting hspeaks h.sends
    rintro context context' ⟨hsame, hhandler⟩ h
    exact ⟨h.sends.of_sameContext hsame, hhandler h.speaking⟩

theorem runHandlers_holds {invocation : Chain Invocation}
    (hinvocation : Lined faults .invocation invocation Incoming.invokeHandler)
    {context : IncomingContext} (hmarks : Marks (some root) answerTo context.headers)
    {handlers : List Handler} (hhandlers : ∀ handler ∈ handlers, Speaking handler) :
    Holds (Threaded (answering root sender answerTo))
      (Incoming.runHandlers sender invocation context handlers) := by
  induction handlers with
  | nil => exact .done _
  | cons handler rest ih =>
    obtain ⟨hhandler, hrest⟩ := List.forall_mem_cons.1 hhandlers
    refine (lasts_threaded _).bind_ask (.openScope _) trivial fun scope => ?_
    refine (invocation_holds houtward houtgoing hrouting hinvocation _
      ⟨⟨hmarks, rfl⟩, hhandler⟩).bind fun ended _ => ?_
    obtain ⟨failure | outcome, after⟩ := ended
    · exact .done _
    · -- the next handler is called only if this one completed and did not stop the others
      cases outcome with
      | completed =>
        dsimp only
        split
        · exact .done _
        · exact ih hrest
      | retryRequested => exact .done _
      | movedToErrorQueue failure => exact .done _

/-- The handlers of an endpoint send through what they are given. -/
def Spoken (handlers : Incoming.Handlers) : Prop :=
  ∀ messageType, ∀ handler ∈ handlers.getD messageType [], Speaking handler

theorem incoming_holds {invocation : Chain Invocation}
    (hinvocation : Lined faults .invocation invocation Incoming.invokeHandler)
    {incoming : Chain IncomingContext} {handlers : Incoming.Handlers}
    (hincoming : Lined faults .incoming incoming
      (Incoming.loadHandlers handlers sender invocation)) (hhandlers : Spoken handlers)
    (context : IncomingContext) (hmarks : Marks (some root) answerTo context.headers) :
    Holds (Threaded (answering root sender answerTo)) (incoming.invoke context) := by
  refine chain_holds hincoming
    (P := fun context => Marks (some root) answerTo context.headers)
    (fun stage hstage => ?_) (fun context hmarks => ?_) context hmarks
  · -- a stage of the user hands headers of the same thread on
    cases hstage with
    | user hkeeps =>
      exact hkeeps.forwards (lasts_threaded _) (fun _ _ hbears h => h.of_sameThread hbears)
        fun _ _ _ _ h => h.elim
  · rw [Incoming.loadHandlers]
    split
    · exact .done _
    · next list hlist =>
      have hlist := hhandlers context.message.messageType
      exact (runHandlers_holds houtward houtgoing hrouting hinvocation hmarks hlist).bind
        fun _ _ => .done _

omit houtgoing hrouting in
/-- A message for the error queue is sent apart from the receive. -/
theorem fault_holds (context : FaultContext) :
    Holds (Threaded stamp) (sending.fault.result context) := by
  refine .result (chain_holds houtward.fault (P := fun _ => True) (fun stage hstage => ?_)
    (fun context _ => ?_) context trivial)
  · cases hstage with
    | user hkeeps =>
      exact hkeeps.forwards (lasts_threaded stamp) (fun _ _ _ h => h) fun _ _ _ _ h => h.elim
  · refine (lasts_threaded stamp).bind_ask (.openScope _) trivial fun scope =>
      Holds.bind (.result ?_) fun _ _ => .done _
    refine routing_holds houtward.routing (Q := fun context => context.isolated = true)
      (lasts_threaded stamp) (fun _ _ hbears h => hbears.2.trans h) (fun _ _ _ _ _ h => h)
      (fun context h => dispatchLast_holds_of_isolated ?_ context h) _ rfl
    -- the copy for the error queue is isolated, also behind the stages of the user
    refine fun log operations answer hall h => h.append_dispatch (fun _ _ _ => .append) ?_
    intro operation hmem hwith
    cases (hall operation hmem).symm.trans hwith

/-- A read message is handled, and what was staged is sent. -/
theorem deserialize_holds {invocation : Chain Invocation}
    (hinvocation : Lined faults .invocation invocation Incoming.invokeHandler)
    {incoming : Chain IncomingContext} {handlers : Incoming.Handlers}
    (hincoming : Lined faults .incoming incoming
      (Incoming.loadHandlers handlers sender invocation)) (hhandlers : Spoken handlers)
    (context : ReceiveContext) (hmarks : Marks (some root) answerTo context.message.headers) :
    Holds (Threaded (answering root sender answerTo))
      (Incoming.deserialize serializer incoming context) := by
  rw [Incoming.deserialize]
  split
  · exact .done _
  · split
    · exact .done _
    · -- the four requests before the pipeline stage nothing
      refine threaded_bind_ask .openStaging (fun _ => rfl) (fun _ => rfl) fun staging => ?_
      refine threaded_bind_ask (.openScope _) (fun _ => rfl) (fun _ => rfl) fun scope => ?_
      refine threaded_bind_ask (.writeSlot ..) (fun _ => rfl) (fun _ => rfl) fun _ => ?_
      refine threaded_bind_ask (.writeSlot ..) (fun _ => rfl) (fun _ => rfl) fun _ => ?_
      -- the handlers stage, and what was staged follows or is dropped
      refine Holds.bind (.result ?_) fun result _ => ?_
      · exact incoming_holds houtward houtgoing hrouting hinvocation hincoming hhandlers _ hmarks
      · cases result with
        | error failure => exact .done _
        | ok outcome => exact finishReceive_holds staging outcome _

end Receiving

/-- What the step of immediate retries does once the stages behind it have ended sends nothing. -/
theorem settleRetries_holds (hlasts : Lasts ok) (policy : RetryPolicy)
    (pipeline messageId : String) (ended : StageResult × ReceiveContext) :
    Holds ok (Recovery.settleRetries policy pipeline messageId ended) := by
  obtain ⟨result, context⟩ := ended
  cases result with
  | ok outcome => exact hlasts.bind_ask (.clearFailures ..) trivial fun _ => .done _
  | error failure =>
    rw [Recovery.settleRetries]
    split
    · exact .done _
    · refine hlasts.bind_ask (.countFailure ..) trivial fun failures => ?_
      split
      · exact hlasts.bind_ask (.publish _) trivial fun _ => .done _
      · exact hlasts.bind_ask (.clearFailures ..) trivial fun _ => .done _

/-- The step that forwards failed messages keeps what the fault pipeline keeps on messages for its
error queue. -/
theorem settleFault_lasts {ok : List Exchange → Prop} (hlasts : Lasts ok)
    {settings : Recovery.FaultSettings} {faults : Chain FaultContext}
    (hfaults : settings.faults = some faults)
    (hresult : ∀ context : FaultContext, context.errorQueue = settings.errorQueue →
      Holds ok (faults.result context)) (ended : StageResult × ReceiveContext) :
    Holds ok (Recovery.settleFault settings ended) := by
  obtain ⟨result, context⟩ := ended
  cases result with
  | ok outcome => exact .done _
  | error failure =>
    -- the copy is described and goes through the pipeline of faults
    have hforward : Holds ok (Recovery.forwardFault settings failure context) := by
      rw [Recovery.forwardFault, hfaults]
      refine Holds.bind (hlasts.bind_ask .clock trivial fun now => .done _) fun message _ => ?_
      refine hlasts.bind_ask (.openScope _) trivial fun scope => ?_
      exact (hresult _ rfl).bind fun _ _ => .done _
    refine hforward.bind fun forwarded _ => ?_
    -- what is counted and raised after it has nothing to do with sending
    obtain ⟨forwardFailure | _, context⟩ := forwarded
    · refine hlasts.bind_ask (.countFailure ..) trivial fun failures => ?_
      split
      · exact hlasts.bind_ask (.raiseCritical ..) trivial fun _ => .done _
      · exact .done _
    · refine hlasts.bind_ask (.clearFailures ..) trivial fun _ => ?_
      refine hlasts.bind_ask .clock trivial fun now => ?_
      exact hlasts.bind_ask (.publish _) trivial fun _ => .done _

/-- A message that is forwarded to the error queue leaves what was staged alone. -/
theorem settleFault_holds {sending : Assembly.SendingSide} {serializer : Serializer}
    {capabilities : Capabilities} (houtward : Outward sending serializer capabilities)
    {settings : Recovery.FaultSettings} (hfaults : settings.faults = some sending.fault)
    (ended : StageResult × ReceiveContext) :
    Holds (Threaded stamp) (Recovery.settleFault settings ended) :=
  settleFault_lasts (lasts_threaded stamp) hfaults (fun _ _ => fault_holds houtward _) ended

/-- What a receive stages belongs to the conversation of the received message, and its answers go
where that says. Messages that are forwarded are apart. -/
theorem receive_holds {sending : Assembly.SendingSide} {capabilities : Capabilities}
    {parts : EndpointParts} {sender : Operations} {pipeline : Chain ReceiveContext}
    (houtward : Outward sending parts.serializer capabilities)
    (houtgoing : sender.outgoing = sending.outgoing) (hrouting : sender.routing = sending.routing)
    (hinward : Inward (some sending.fault) parts sender pipeline)
    (hhandlers : Spoken parts.handlers) {root : String} {answerTo : Option String}
    (context : ReceiveContext) (hmarks : Marks (some root) answerTo context.message.headers) :
    Holds (Threaded (answering root sender answerTo)) (pipeline.invoke context) := by
  obtain ⟨hinvocation, hincoming, hreceive⟩ := hinward
  have hlasts := lasts_threaded (answering root sender answerTo)
  -- the stages outside only hand the message on and settle how the stages behind ended
  refine chain_holds hreceive
    (P := fun context => Marks (some root) answerTo context.message.headers)
    (fun stage hstage => ?_)
    (deserialize_holds houtward houtgoing hrouting hinvocation hincoming hhandlers) context hmarks
  cases hstage with
  | user hkeeps =>
    exact hkeeps.forwards hlasts (fun _ _ hbears h => h.of_sameThread hbears)
      fun _ _ _ _ h => h.elim
  | moveFaults hfaults =>
    intro next hnext context hcontext
    exact (hnext context hcontext).bind fun ended _ => settleFault_holds houtward hfaults ended
  | retries policy name =>
    intro next hnext context hcontext
    exact (hnext context hcontext).bind fun ended _ =>
      settleRetries_holds hlasts policy name context.message.id ended

end Messaging.Conversation
