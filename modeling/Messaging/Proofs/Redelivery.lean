import Messaging.Proofs.Course
import Messaging.Proofs.Scripts

/-!
# One outcome for every message

An endpoint on the transport in memory, without steps of the user, receives a message that does not
expire.

- `dispatched` are the batches that the attempts to process the message have sent.
- `Processed` and `Forwarded` are the two outcomes.
- `one_outcome` says that a message that was consumed has exactly one of them, and that a message
  that waits has none.
-/

namespace Messaging.Redelivery

open Host Endpoint

variable {errorQueue : String} {id : RunId} {run : PumpRun} {message : Message}
  {attempts : List Ended}

/-! ### Outcomes -/

/-- The batches that the transport took from attempts, first taken first. -/
def dispatched (attempts : List Ended) : List Batch :=
  attempts.flatMap fun attempt => sent attempt.log

/-- A message was processed: its last attempt completed, what was staged in this attempt was taken
by the transport once and as a whole, and nothing else was; in particular no copy of the message was
forwarded to the error queue. -/
structure Processed (errorQueue : String) (attempts : List Ended) : Prop where
  /-- What the last attempt has staged was dispatched in one batch, if there was anything. -/
  completed : ∃ last, attempts.getLast? = some last ∧ last.ending = .ok (.ok .completed) ∧
    dispatched attempts = wholeBatch (staged last.log)
  /-- No message was forwarded to the error queue. -/
  unforwarded : ∀ copy, faultBatch errorQueue copy ∉ dispatched attempts

/-- A message was forwarded: the transport took one copy of it for the error queue and nothing else,
in particular nothing that was staged in any attempt. -/
structure Forwarded (errorQueue : String) (message : Message) (attempts : List Ended) : Prop where
  /-- One copy of the message was taken, for the error queue. -/
  copied : ∃ copy, IsCopy copy message ∧ dispatched attempts = [faultBatch errorQueue copy]
  /-- No staged operation was dispatched. -/
  undispatched : ∀ attempt ∈ attempts, ∀ operation ∈ staged attempt.log,
    ∀ batch ∈ dispatched attempts, operation ∉ batch.toList

/-- An attempt that fails has sent nothing. -/
theorem Fails.unsent {attempt : Ended} (h : Fails errorQueue message attempt) :
    sent attempt.log = [] := by
  obtain ⟨⟨-, hsent⟩, hreturned⟩ := h
  match attempt.ending, hsent, hreturned with
  | .ok (.ok .retryRequested), hsent, _ => exact hsent
  | .ok (.error _), hsent, _ => exact hsent
  | .error _, hsent, _ => exact hsent

/-- While all attempts fail nothing is dispatched. -/
theorem dispatched_of_fails (h : ∀ attempt ∈ attempts, Fails errorQueue message attempt) :
    dispatched attempts = [] :=
  List.flatMap_eq_nil_iff.2 fun attempt hattempt => (h attempt hattempt).unsent

/-- Up to the last attempt nothing is dispatched if those before it fail. -/
theorem dispatched_append {last : Ended}
    (h : ∀ attempt ∈ attempts, Fails errorQueue message attempt) :
    dispatched (attempts ++ [last]) = sent last.log := by
  rw [dispatched, List.flatMap_append, ← dispatched, dispatched_of_fails h, List.nil_append,
    List.flatMap_singleton]

/-- A batch with a copy for the error queue holds no operation that is to be dispatched together
with others. -/
theorem isolated_of_mem_faultBatch {copy : Message} {operation : Operation}
    (h : operation ∈ (faultBatch errorQueue copy).toList) : operation.isolated = true := by
  rw [faultBatch, Batch.mem_toList_ofList, List.mem_singleton] at h
  rw [h]

/-- The batch of staged operations is none with a copy for the error queue. -/
theorem faultBatch_notMem_wholeBatch {operations : List Operation}
    (htogether : ∀ operation ∈ operations, operation.isolated = false) (copy : Message) :
    faultBatch errorQueue copy ∉ wholeBatch operations := by
  intro hmem
  rw [wholeBatch] at hmem
  split at hmem
  · cases hmem
  · have hbatch := List.mem_singleton.1 hmem
    have hfault : (⟨copy, .unicast errorQueue, [], true⟩ : Operation) ∈ operations := by
      rw [← Batch.mem_toList_ofList, ← hbatch, faultBatch, Batch.mem_toList_ofList]
      exact List.mem_cons_self
    cases htogether _ hfault

/-- A message that is consumed was processed or forwarded. -/
theorem processed_or_forwarded {last : Ended}
    (hfails : ∀ attempt ∈ attempts, Fails errorQueue message attempt)
    (hlast : Concluded errorQueue message last.ending last.log)
    (hkept : isReturned last.ending = false) :
    Processed errorQueue (attempts ++ [last]) ∨
      Forwarded errorQueue message (attempts ++ [last]) := by
  obtain ⟨log, ending⟩ := last
  obtain ⟨htogether, hsent⟩ := hlast
  have hdispatched : dispatched (attempts ++ [⟨log, ending⟩]) = sent log := dispatched_append hfails
  -- a message is kept from its queue by two endings only
  match ending, hsent, hkept, hdispatched with
  | .ok (.ok .completed), hsent, _, hdispatched =>
    have hwhole := hdispatched.trans hsent
    refine .inl ⟨⟨_, List.getLast?_concat, rfl, hwhole⟩, fun copy => ?_⟩
    rw [hwhole]
    exact faultBatch_notMem_wholeBatch htogether copy
  | .ok (.ok (.movedToErrorQueue _)), ⟨copy, hcopy, hsent⟩, _, hdispatched =>
    have hfault := hdispatched.trans hsent
    refine .inr ⟨⟨copy, hcopy, hfault⟩, ?_⟩
    intro attempt hattempt operation hoperation batch hbatch hmem
    rw [hfault] at hbatch
    rw [List.mem_singleton.1 hbatch] at hmem
    -- a copy for the error queue is isolated, and what handlers stage never is
    have hisolated := isolated_of_mem_faultBatch hmem
    rcases List.mem_append.1 hattempt with hearlier | hlast
    · rw [(hfails attempt hearlier).concluded.together operation hoperation] at hisolated
      cases hisolated
    · cases List.mem_singleton.1 hlast
      rw [htogether operation hoperation] at hisolated
      cases hisolated

/-- A message that was processed was not forwarded. -/
theorem Processed.not_forwarded (h : Processed errorQueue attempts) :
    ¬ Forwarded errorQueue message attempts := by
  rintro ⟨⟨copy, -, hfault⟩, -⟩
  refine h.unforwarded copy ?_
  rw [hfault]
  exact List.mem_cons_self

/-- A message whose attempts have all failed was not processed. -/
theorem not_processed_of_fails (h : ∀ attempt ∈ attempts, Fails errorQueue message attempt) :
    ¬ Processed errorQueue attempts := by
  rintro ⟨⟨last, hlast, hending, -⟩, -⟩
  have hreturned := (h last (List.mem_of_getLast? hlast)).isReturned
  rw [hending] at hreturned
  cases hreturned

/-- Neither was it forwarded. -/
theorem not_forwarded_of_fails (h : ∀ attempt ∈ attempts, Fails errorQueue message attempt) :
    ¬ Forwarded errorQueue message attempts := by
  rintro ⟨⟨copy, -, hfault⟩, -⟩
  rw [dispatched_of_fails h] at hfault
  cases hfault

/-! ### Every message has one outcome -/

/-- What has become of a message: while it waits in the queue nothing has, and once it was consumed
it was either processed or forwarded. Whatever the tasks of its queue do leads to what becomes of
it, and so does every wait in between; a run with one permission leaves no other task to go on while
the message is processed. -/
structure Outcome (errorQueue : String) (id : RunId) (run : PumpRun) (message : Message)
    (started : Host) (course : Course) : Prop where
  /-- Between two attempts nothing was dispatched, and the message waits in the queue. -/
  waiting : course.phase = .waiting → Waits run message course.host ∧
    dispatched course.attempts = [] ∧ ¬ Processed errorQueue course.attempts ∧
      ¬ Forwarded errorQueue message course.attempts
  /-- A consumed message has one of two outcomes. -/
  consumed : course.phase = .consumed →
    Processed errorQueue course.attempts ∧ ¬ Forwarded errorQueue message course.attempts ∨
      Forwarded errorQueue message course.attempts ∧ ¬ Processed errorQueue course.attempts
  /-- What the receiving task does next belongs to a course of the message. -/
  pollReceiver : ∃ phase, Reached id run message started
    ⟨course.host.pollTask run.receiver, phase, course.attempts⟩
  /-- So does what the task of an attempt does next. -/
  pollTask : ∀ task log, course.phase = .underWay task log → ∃ phase attempts,
    Reached id run message started ⟨course.host.pollTask task, phase, attempts⟩
  /-- With one permission, no other message is processed while this one is. -/
  alone : run.permits = 1 → ∀ task log, course.phase = .underWay task log →
    ∀ other queued rest,
      (course.host.task? other).map Task.job = some (.process id queued rest) → other = task
  /-- What the tasks of other messages do while this one is not under way belongs to a course. -/
  pollOther : (∀ task log, course.phase ≠ .underWay task log) → ∀ task queued rest,
    (course.host.task? task).map Task.job = some (.process id queued rest) →
      Reached id run message started
        ⟨course.host.pollTask task, course.phase, course.attempts⟩
  /-- Time may pass at any moment. -/
  advanceTo : ∀ deadline, Reached id run message started
    ⟨course.host.advanceTo deadline, course.phase, course.attempts⟩
  /-- The tasks that are ready may go on in any order. -/
  alike : ∀ host, Alike course.host host →
    Reached id run message started ⟨host, course.phase, course.attempts⟩

/-- What is known of a course decides what has become of the message. -/
theorem outcome_of_known {started : Host} {course : Course} (hpumps : Pumps id run course.host)
    (hknown : Known errorQueue id run message course)
    (hlimited : Limited id run.permits course.host)
    (hcourse : Reached id run message started course) :
    Outcome errorQueue id run message started course := by
  obtain ⟨host, phase, attempts⟩ := course
  -- first what was reached, by the phase, then what may happen next
  refine ⟨?_, ?_, ?_, ?_, ?_, ?_, ?_, ?_⟩
  · rintro rfl
    obtain ⟨hwaits, hfails⟩ := hknown
    exact ⟨hwaits, dispatched_of_fails hfails, not_processed_of_fails hfails,
      not_forwarded_of_fails hfails⟩
  · rintro rfl
    obtain ⟨earlier, last, rfl, hfails, hlast, hkept⟩ := hknown
    rcases processed_or_forwarded hfails hlast hkept with hprocessed | hforwarded
    · exact .inl ⟨hprocessed, hprocessed.not_forwarded⟩
    · exact .inr ⟨hforwarded, fun hprocessed => hprocessed.not_forwarded hforwarded⟩
  · obtain ⟨phase', hstep⟩ := step_of_pollReceiver hpumps hknown
    exact ⟨phase', .step hcourse hstep⟩
  · rintro task log rfl
    obtain ⟨phase', attempts', hstep⟩ := step_of_pollTask hpumps hknown
    exact ⟨phase', attempts', .step hcourse hstep⟩
  · rintro hone task log rfl other queued rest hother
    rw [hone] at hlimited
    exact alone_of_known hpumps hlimited hknown hother
  · intro hphase task queued rest hjob
    exact .step hcourse (.elsewhere (elsewhere_pollOther hpumps hphase hjob))
  · intro deadline
    exact .step hcourse (.elsewhere (elsewhere_advanceTo hpumps deadline))
  · intro host' halike
    exact .step hcourse (.elsewhere (elsewhere_alike hpumps halike))

/-- **Every message has one outcome.** On a host with an endpoint that was started on the transport
in memory without steps of the user, a message that does not expire and that was put once into the
input queue is processed or forwarded once it was consumed, and not both; until then it is neither,
and between two attempts it waits in the queue. An endpoint that is to process one message at a time
does nothing with others meanwhile. -/
theorem one_outcome {site : SiteId} {config : Config} {parts : EndpointParts} {host started : Host}
    {running : Running} {id : RunId} {run : PumpRun}
    (hsteps : parts.steps = { name := mainPipeline }) (hhandlers : Conversing parts.handlers)
    (horderly : host.Orderly) (hnone : host.pump? ⟨site, 0⟩ = none)
    (hstart : Comes site host (start config Memory.transport parts) running started)
    (hid : (started.pump? ⟨site, 0⟩).bind PumpState.running = some id)
    (hrun : started.run? id = some run) {message : Message} {course : Course}
    (hcourse : Reached id run message started course) :
    running.settings.localAddress = some run.queue ∧
      (running.settings.maxConcurrency = some 1 → run.permits = 1) ∧
        Outcome running.settings.errorQueue id run message started course := by
  obtain ⟨inbound, hinbound, herror, haddress, hpermits, hworks, hpumps, hlimited⟩ :=
    mans_of_start hsteps horderly hnone hstart hid hrun
  rw [← hinbound] at hhandlers
  rw [← herror]
  have hlimited := limited_of_reached hworks hhandlers hpumps hlimited hcourse
  obtain ⟨hpumps, hknown⟩ := known_of_reached hworks hhandlers hpumps hcourse
  refine ⟨haddress, ?_, outcome_of_known hpumps hknown hlimited hcourse⟩
  intro hone
  rw [hpermits, hone]
  rfl

/-- An endpoint that processes one message at a time and has no timeout manager. -/
def salesConfig : Config where
  endpointName := "sales"
  maxConcurrency := some 1
  maxRetries := 0
  timeouts := { enabled := false }

/-- A handler that publishes an event for each order. -/
def salesParts : EndpointParts where
  handlers := Scripted.registerHandlers [{
    name := "orders", label := "orders", key := "orders", messageType := "Order"
    lines := [⟨.publish (Scripted.payload "OrderPlaced" .null), false⟩] }]

/-- A host with the site of one endpoint. -/
def salesHost : Host := (({ world := { clock := ⟨0, 0⟩ } } : Host).addSite {}).2

/-- The host with the started endpoint. -/
def salesStarted : Host :=
  (Host.drive 0 (start salesConfig Memory.transport salesParts).run salesHost).2

/-- The run of its pump. -/
def salesRun : PumpRun := (salesStarted.run? 0).get rfl

/-- An order. -/
def order : Message where
  id := "order"
  headers := Table.insert ∅ Header.enclosedMessageTypes "Order"
  body := Body.ofText "null"

/-- The host once the order was put into the queue and a task was started for it. -/
def salesTaken : Host :=
  (salesStarted.modifyBroker (·.push salesRun.queue (lasting order))).pollTask salesRun.receiver

/-- What the attempt to process the order asks for. -/
def orderLog : List Exchange := nextLog salesRun salesTaken (processing salesRun order)

/-- An order is processed, and an event leaves the endpoint. -/
theorem one_outcome_order : ∃ running course,
    Comes 0 salesHost (start salesConfig Memory.transport salesParts) running salesStarted ∧
      Reached 0 salesRun order salesStarted course ∧ course.phase = .consumed ∧
        Processed running.settings.errorQueue course.attempts ∧
          (dispatched course.attempts).length = 1 := by
  have hstart : ∃ running,
      Comes 0 salesHost (start salesConfig Memory.transport salesParts) running salesStarted :=
    ⟨_, rfl⟩
  obtain ⟨running, hstart⟩ := hstart
  have horderly : salesHost.Orderly := ⟨nofun, List.nodup_nil, nofun⟩
  obtain ⟨-, -, -, -, -, -, hpumps, -⟩ := mans_of_start rfl horderly rfl hstart rfl rfl
  have hput := Reached.step .begin (step_put hpumps rfl order [])
  have htaken : Reached 0 salesRun order salesStarted ⟨salesTaken, .underWay 2 [], []⟩ :=
    .step hput (.take rfl rfl)
  have hjob : Processing 0 order 2 (processing salesRun order) salesTaken := rfl
  have hended : (ending? (World.advance (processing salesRun order)
      (salesTaken.worldAt salesRun.site)).1).isSome := by decide +kernel
  have hgone : (salesTaken.pollTask 2).task? 2 = none :=
    Option.isNone_iff_eq_none.1 (by decide +kernel)
  have hdone : Reached 0 salesRun order salesStarted
      ⟨salesTaken.pollTask 2, .consumed, [⟨orderLog, _⟩]⟩ :=
    .step htaken (.consumed hjob rfl (Option.some_get hended).symm hgone (by decide +kernel))
  have hdispatched (ending : Except Panic StageResult) :
      dispatched [⟨orderLog, ending⟩] = sent orderLog := List.flatMap_singleton _ _
  have houtcome :=
    (one_outcome rfl (conversing_registerHandlers _) horderly rfl hstart rfl rfl hdone).2.2
  refine ⟨running, _, hstart, hdone, rfl, ?_, ?_⟩
  · rcases houtcome.consumed rfl with ⟨hprocessed, -⟩ | ⟨⟨⟨copy, -, hfault⟩, -⟩, -⟩
    · exact hprocessed
    · -- the event is dispatched together with what else was staged
      have htogether : ∀ batch ∈ sent orderLog, ∀ operation ∈ batch.toList,
          operation.isolated = false := by decide +kernel
      rw [← hdispatched, hfault] at htogether
      cases htogether _ List.mem_cons_self _ (Batch.mem_toList_ofList.2 List.mem_cons_self)
  · rw [hdispatched]
    decide +kernel

end Messaging.Redelivery
