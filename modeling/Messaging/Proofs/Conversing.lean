import Messaging.Proofs.Correlating
import Messaging.Proofs.Launching
import Messaging.Proofs.Redelivery

/-!
# Conversations

A session sends or publishes a message, endpoints that handle it send others, and these are handled
again. All of these messages go by the id of the first one, and whoever answers one of them answers
the endpoint that sent it.

- `Member` is an endpoint of a conversation, and `Member.wired` says what it is made of.
- `Begins` says what a session leaves, `Handles` what an endpoint produces of a message, and
  `Returns` what a timeout manager makes of one.
- `Belongs` is the tree of the messages of a conversation, each with the endpoint that sent it, and
  `correlated_and_answered` says what holds in it.
-/

namespace Messaging.Conversation

open Redelivery Deferring Timeouts
open Manager.Interleaved.Punctual (parcel message_eq_of_parcel)

variable {running : Running} {message message' : Message} {operation : Operation} {root : String}

/-! ### Members -/

/-- An endpoint that was started on any transport, with steps and handlers that leave conversations
alone. -/
def Member (running : Running) : Prop :=
  ∃ config transport parts, Endpoint.Gives (Endpoint.start config transport parts) running ∧
    Discreet parts.steps ∧ Spoken parts.handlers

/-- The receiver of the input queue of an endpoint; those of a timeout manager come after it. -/
structure Receives (running : Running) (receiver : Receiver) : Prop where
  main : running.settings.localAddress = some receiver.inputQueue
  first : (running.pumps.map (·.1)).head? = some receiver

/-- The pipelines of an endpoint are made of stages that leave conversations alone. -/
structure Wired (running : Running) (parts : EndpointParts) (capabilities : Capabilities)
    (sending : Assembly.SendingSide) : Prop where
  outward : Outward sending parts.serializer capabilities
  outgoing : running.operations.outgoing = sending.outgoing
  routing : running.operations.routing = sending.routing
  localAddress : running.operations.localAddress = running.settings.localAddress
  handlers : Spoken parts.handlers
  inward : ∀ receiver, Receives running receiver →
    Inward (some sending.fault) parts running.operations receiver.pipeline

/-- A member is `Wired` with pipelines that end in the built-in stages. -/
theorem Member.wired (h : Member running) :
    ∃ parts capabilities sending, Wired running parts capabilities sending := by
  obtain ⟨config, transport, parts, hstart, hsteps, hhandlers⟩ := h
  obtain ⟨infrastructure, steps, sending, hlaunched⟩ := Endpoint.launched_of_start hstart
  refine ⟨parts, infrastructure.capabilities, sending, ?_⟩
  have hoperations := hlaunched.operations
  refine ⟨sendingSide_lined hlaunched.collected hsteps hlaunched.built, ?_, ?_, ?_, hhandlers, ?_⟩
  · rw [hoperations]
  · rw [hoperations]
  · rw [hoperations]
  · rintro receiver ⟨hmain, hfirst⟩
    obtain ⟨all, pipeline, hall, hpipeline, hpumps⟩ := hlaunched.receiving _ hmain
    rw [hpumps, Endpoint.receivers, List.head?_cons, Option.some_inj] at hfirst
    rw [← hfirst]
    exact receivePipeline_lined hall hsteps hpipeline

/-! ### What members do -/

/-- What a session begins a conversation with; options name no conversation and no address for
answers. -/
inductive Opens (running : Running) : Act (Except Failure Unit) → Prop where
  | send (payload : Payload) {options : SendOptions} (hfree : Unthreaded options.headers) :
      Opens running (running.send payload options)
  | publish (payload : Payload) : Opens running (running.publish payload)

/-- A session leaves an operation, whatever the surroundings answer and however it ends. -/
inductive Begins (running : Running) (operation : Operation) : Prop where
  | intro {program : Act (Except Failure Unit)} {ended : Except Panic (Except Failure Unit)}
      {log : List Exchange} (hopens : Opens running program)
      (hruns : Runs anyAnswers.serves program.attempt [] ended log)
      (hproduced : Produced log operation) : Begins running operation

/-- An attempt to process a message produces an operation, whatever the surroundings answer and
however it ends. The message may have been forwarded meanwhile, which does not count. -/
inductive Handles (running : Running) (message : Message) (operation : Operation) : Prop where
  | intro {receiver : Receiver} {scope : ScopeId} {ended : Except Panic StageResult}
      {log : List Exchange} (hreceives : Receives running receiver)
      (hruns : Runs anyAnswers.serves (receiver.entry message scope).attempt [] ended log)
      (hproduced : Produced log operation) (hnew : ¬ Forwarded log operation.message) :
      Handles running message operation

/-- A deferred message comes back from a timeout manager, which stored it or sent it on at once. -/
inductive Returns (message message' : Message) : Prop where
  | stored {owner destination : String} {x : Timeout} {isolated : Bool}
      (hstores : Stores owner message x)
      (hsends : SendsOn isolated x (parcel destination message' isolated)) :
      Returns message message'
  | atOnce {owner destination : String} {isolated : Bool}
      (hsends : SendsAtOnce owner message (parcel destination message' isolated)) :
      Returns message message'

/-- What a session leaves names a conversation by its own id. -/
theorem opens_assured (hmember : Member running) {program : Act (Except Failure Unit)}
    (h : Opens running program) :
    Assured anyAnswers (fun _ after => Opened running.operations after) program [] := by
  obtain ⟨parts, capabilities, sending, hwired⟩ := hmember.wired
  -- to open a scope produces nothing
  have hnothing (scope : ScopeId) (operation : Operation) :
      ¬ Produced [⟨.openScope none, scope⟩] operation := by
    rintro (hstaged | ⟨hbatch, -, -, -⟩)
    · cases hstaged
    · cases hbatch
  cases h with
  | send payload hfree =>
    refine Deferring.assured_ask fun scope => ?_
    exact dispatch_opens hwired.outward hwired.outgoing (show Intent.send ≠ .reply from nofun) scope
      payload hfree (hnothing scope)
  | publish payload =>
    refine Deferring.assured_ask fun scope => ?_
    exact dispatch_opens hwired.outward hwired.outgoing (show Intent.publish ≠ .reply from nofun)
      scope payload ⟨rfl, rfl⟩ (hnothing scope)

/-- What an endpoint begins is `opening`: a new conversation with the id of the message. -/
theorem begins_stamped (hmember : Member running) (h : Begins running operation) :
    ∃ id, (opening id running.operations).On operation := by
  obtain ⟨hopens, hruns, hproduced⟩ := h
  have hassured : Assured anyAnswers (fun _ after => Opened running.operations after) _ [] :=
    Assured.attempt (opens_assured hmember hopens)
  obtain ⟨id, hcovers⟩ := hassured.of_runs (fun _ => rfl) hruns
  exact ⟨id, hcovers operation hproduced⟩

/-- What an endpoint sends while it handles a message is `answering`, with the root of that message.
-/
theorem handles_stamped (hmember : Member running) (h : Handles running message operation)
    {answerTo : Option String} (hmarks : Marks (some root) answerTo message.headers) :
    (answering root running.operations answerTo).On operation := by
  obtain ⟨parts, capabilities, sending, hwired⟩ := hmember.wired
  obtain @⟨receiver, scope, ended, log, hreceives, hruns, hproduced, hnew⟩ := h
  have hentry : Holds (Threaded (answering root running.operations answerTo))
      (receiver.entry message scope) :=
    (lasts_threaded _).bind_ask (.openScope _) trivial fun inner => .result
      (receive_holds hwired.outward hwired.outgoing hwired.routing (hwired.inward _ hreceives)
        hwired.handlers ⟨message, inner⟩ hmarks)
  -- at its beginning an attempt has produced nothing
  have hempty : Threaded (answering root running.operations answerTo) [] := by
    rintro operation (hstaged | ⟨hbatch, -, -, -⟩)
    · cases hstaged
    · cases hbatch
  have hthreaded := (hentry.attempt [] hempty).of_runs (fun _ => rfl) hruns
  exact (hthreaded operation hproduced).resolve_right hnew

/-- A message that comes back from the timeout manager has the headers that its thread is read from.
-/
theorem returns_sameThread (h : Returns message message') :
    SameThread message.headers message'.headers := by
  cases h with
  | stored hstores hsends =>
    obtain ⟨due, target, id, -, -, rfl⟩ := stores_iff.1 hstores
    obtain ⟨now, hbatch⟩ := sendsOn_iff.1 hsends
    rw [message_eq_of_parcel hbatch]
    constructor
    · rw [get?_expiredMessage _ _ (by decide) (by decide), if_neg (by decide)]
    · rw [get?_expiredMessage _ _ (by decide) (by decide), if_neg (by decide)]
  | atOnce hsends =>
    obtain ⟨due, target, -, -, hbatch⟩ := sendsAtOnce_iff.1 hsends
    rw [message_eq_of_parcel hbatch]
    exact ⟨rfl, rfl⟩

/-! ### Conversations -/

/-- The messages of a conversation that begins with a message of some id, each with the endpoint
that sent it. A message may be handled again and again, and by several endpoints. -/
inductive Belongs : String → Message → Running → Prop where
  | root {running : Running} {operation : Operation} (hmember : Member running)
      (hbegins : Begins running operation) :
      Belongs operation.message.id operation.message running
  | handled {root : String} {message : Message} {producer running : Running}
      {operation : Operation} (h : Belongs root message producer) (hmember : Member running)
      (hhandles : Handles running message operation) : Belongs root operation.message running
  | deferred {root : String} {message message' : Message} {producer : Running}
      (h : Belongs root message producer) (hreturns : Returns message message') :
      Belongs root message' producer

/-- So every message that `Belongs` to a conversation is marked with its root and with who sent it.
-/
theorem Belongs.marks {producer : Running} (h : Belongs root message producer) :
    Marks (some root) producer.settings.localAddress message.headers := by
  -- by induction on how the message came about: a handler passes the correlation on and gives the
  -- address of its own endpoint, and a timeout manager keeps both
  induction h with
  | root hmember hbegins =>
    obtain ⟨parts, capabilities, sending, hwired⟩ := hmember.wired
    obtain ⟨id, hid, hmarks, -⟩ := begins_stamped hmember hbegins
    rw [hid id rfl, ← hwired.localAddress]
    exact hmarks
  | handled _ hmember hhandles ih =>
    obtain ⟨parts, capabilities, sending, hwired⟩ := hmember.wired
    rw [← hwired.localAddress]
    exact (handles_stamped hmember hhandles ih).marks
  | deferred _ hreturns ih => exact ih.of_sameThread (returns_sameThread hreturns)

/-- Every message of a conversation carries the id of its first message for a correlation and the
address of the endpoint that sent it, and every answer to it goes to that address. -/
theorem correlated_and_answered {producer : Running} (h : Belongs root message producer) :
    message.headers.get? Header.correlationId = some root ∧
      message.headers.get? Header.replyToAddress = producer.settings.localAddress ∧
      ∀ replier answer, Member replier → Handles replier message answer →
        IsReply answer.message.headers →
        ∃ address, producer.settings.localAddress = some address ∧
          answer.route = .unicast address := by
  obtain ⟨hcorrelation, hreplyTo⟩ := h.marks
  refine ⟨hcorrelation, hreplyTo, fun replier answer hmember hhandles hreply => ?_⟩
  exact (handles_stamped hmember hhandles ⟨hcorrelation, hreplyTo⟩).reply hreply

/-! ### An order that is billed later -/

/-- What a program asks of a world, with the answers, if nothing interrupts it. -/
def exchanges {α : Type} : Act α → World → List Exchange
  | .done _, _ | .panic _, _ => []
  | .call effect next, world =>
    ⟨effect, (world.perform effect).1⟩ ::
      exchanges (next (world.perform effect).1) (world.perform effect).2

/-- What `World.run` does is one of the runs that `anyAnswers` allows. -/
theorem runs_attempt {α : Type} (program : Act α) (world : World) (log : List Exchange) :
    Runs anyAnswers.serves program.attempt log (World.run program world).1
      (log ++ exchanges program world) := by
  induction program generalizing world log with
  | done result =>
    rw [exchanges, List.append_nil]
    exact .done _ log
  | panic payload =>
    rw [exchanges, List.append_nil]
    exact .done _ log
  | call effect next ih =>
    -- by induction on the program: the world gives one of the answers that are allowed
    have hnext := ih (world.perform effect).1 (world.perform effect).2
      (log ++ [⟨effect, (world.perform effect).1⟩])
    rw [List.append_assoc] at hnext
    have hserved : anyAnswers.serves log effect (world.perform effect).1
        (log ++ [⟨effect, (world.perform effect).1⟩]) := rfl
    exact .call hserved hnext

/-- The endpoint that starts in memory from a configuration and parts, if it does. -/
def started? (config : Config) (parts : EndpointParts) : Option Running :=
  match (Host.drive 0 (Endpoint.start config Memory.transport parts).run salesHost).1 with
  | .ok (.ok running) => some running
  | _ => none

/-- An endpoint that has started without steps of its own is a `Member`. -/
theorem member_of_started {config : Config} {parts : EndpointParts}
    (hsteps : parts.steps = { name := mainPipeline }) (hhandlers : Spoken parts.handlers)
    (h : started? config parts = some running) : Member running := by
  rw [started?] at h
  split at h
  · next result hdriven =>
    cases h
    refine ⟨config, Memory.transport, parts, yields_of_drive hdriven, ?_, hhandlers⟩
    rw [hsteps]
    exact ⟨nofun, nofun⟩
  · cases h

/-- An endpoint that leaves its delays to a timeout manager. -/
def shop : Running := (started? Deferring.shop {}).get rfl

/-- The two endpoints of the example are started for real. -/
theorem member_shop : Member shop :=
  member_of_started rfl (fun _ _ hmem => (List.not_mem_nil hmem).elim) (Option.some_get _).symm

/-- A handler that answers every message. -/
def clerk : Handler where
  name := "clerk"
  accept := .ok
  handle _ context :=
    (context.reply ⟨"OrderBilled", .ok .null⟩).bind fun _ => .done (.returned, context)

/-- An endpoint whose clerk answers orders. -/
def billingParts : EndpointParts where
  handlers := Table.empty.insert "Order" [clerk]

/-- The endpoint, without a timeout manager. -/
def billing : Running :=
  (started? { endpointName := "billing", timeouts := { enabled := false } } billingParts).get rfl

/-- The clerk answers with the operations of its context. -/
theorem speaking_clerk : Speaking clerk := fun _ _ =>
  .bind (.reply ⟨rfl, rfl, rfl⟩ _) fun _ _ => .done _

theorem member_billing : Member billing := by
  refine member_of_started rfl (fun messageType handler hmem => ?_) (Option.some_get _).symm
  change handler ∈ (Table.empty.insert "Order" [clerk]).getD messageType [] at hmem
  rw [Table.getD, Table.get?_insert] at hmem
  split at hmem
  · obtain rfl := List.mem_singleton.1 hmem
    exact speaking_clerk
  · cases hmem

/-- A world with the queue of a timeout manager. -/
def clockWorld : World := { clock := ⟨0, 0⟩, broker := (({} : Broker).createQueue "clock").2 }

/-- What a session of the shop asks for when it sends an order that is to be billed later. -/
def lateOrderLog : List Exchange :=
  exchanges (shop.send ⟨"Order", .ok .null⟩ inFiveSeconds) clockWorld

/-- The order on its way to the timeout manager. -/
def lateOrder : Operation := ((sent lateOrderLog).flatMap Batch.toList).head (by decide +kernel)

/-- The order that comes back from it. -/
def dueOrder : Message :=
  expiredMessage
    ⟨"t-1", "billing", lateOrder.message.body, ⟨5, 1000⟩, lateOrder.message.headers, "clock"⟩
    (Time.Wire.write ⟨6, 0⟩)

/-- The receiver of the orders. -/
def billingReceiver : Receiver := (billing.pumps.map (·.1)).head (by decide +kernel)

/-- What billing asks for when it processes the order. -/
def billedLog : List Exchange :=
  exchanges (billingReceiver.entry dueOrder 0) { clockWorld with clock := ⟨7, 0⟩, ids := 1 }

/-- The answer to the order. -/
def billedAnswer : Operation := (staged billedLog).head (by decide +kernel)

/-- The order is sent by the shop, it comes back when it is due, and the clerk replies to it. -/
theorem begins_lateOrder : Begins shop lateOrder := by
  have hfree : Unthreaded inFiveSeconds.headers := ⟨rfl, rfl⟩
  refine ⟨.send ⟨"Order", .ok .null⟩ hfree, runs_attempt _ clockWorld [], ?_⟩
  have hhead : lateOrder ∈ (sent lateOrderLog).flatMap Batch.toList := List.head_mem _
  obtain ⟨batch, hbatch, hmem⟩ := List.mem_flatMap.1 hhead
  exact .sent hbatch hmem (by decide +kernel) (by decide +kernel)

theorem returns_dueOrder : Returns lateOrder.message dueOrder := by
  have hread : readDeferred lateOrder.message = .ok (⟨5, 1000⟩, "billing") := by decide +kernel
  have hsends : SendsOn true _ (parcel "billing" dueOrder true) := sendsOn_iff.2 ⟨⟨6, 0⟩, rfl⟩
  exact .stored (stores_iff.2 ⟨_, _, "t-1", hread, ⟨⟨0, 0⟩, by decide⟩, rfl⟩) hsends

theorem handles_dueOrder : Handles billing dueOrder billedAnswer := by
  have hproduced : Produced billedLog billedAnswer := .staged (List.head_mem _)
  refine ⟨⟨by decide +kernel, List.head?_eq_some_head _⟩, runs_attempt _ _ [], hproduced, ?_⟩
  rintro ⟨received, hfound, -⟩
  have hnone : found billedLog = [] := by decide +kernel
  cases hnone ▸ hfound

/-- The reply goes to the shop, correlated with the order that was deferred. -/
theorem correlated_and_answered_order :
    Belongs lateOrder.message.id billedAnswer.message billing ∧
      billedAnswer.message.headers.get? Header.correlationId = some lateOrder.message.id ∧
      billedAnswer.message.headers.get? Header.replyToAddress = some "billing" ∧
      billedAnswer.route = .unicast "shop" := by
  have horder : Belongs lateOrder.message.id dueOrder shop :=
    .deferred (.root member_shop begins_lateOrder) returns_dueOrder
  -- the order comes back from the timeout manager and is answered by the clerk
  have hanswer : Belongs lateOrder.message.id billedAnswer.message billing :=
    .handled horder member_billing handles_dueOrder
  obtain ⟨hcorrelation, hreplyTo, -⟩ := correlated_and_answered hanswer
  obtain ⟨-, -, hanswers⟩ := correlated_and_answered horder
  have hreply : IsReply billedAnswer.message.headers := by
    unfold IsReply
    decide +kernel
  obtain ⟨address, haddress, hroute⟩ :=
    hanswers billing billedAnswer member_billing handles_dueOrder hreply
  have hshop : shop.settings.localAddress = some "shop" := by decide +kernel
  cases hshop.symm.trans haddress
  refine ⟨hanswer, hcorrelation, hreplyTo.trans ?_, hroute⟩
  decide +kernel

end Messaging.Conversation
