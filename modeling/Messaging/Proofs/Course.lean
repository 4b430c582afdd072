import Messaging.Proofs.Advance
import Messaging.Proofs.Starting

/-!
# The course of a message

A message that does not expire is received by a run of a pump again and again until the transport is
done with it.

- `Course` is a host with what has become of the message on it so far, and `Step` what happens next:
  the receiving task goes on, an attempt to process the message goes on, or something else happens
  that leaves both alone, as `Elsewhere` says.
- `elsewhere_pollOther`, `elsewhere_advanceTo` and `elsewhere_inSite` say what happens elsewhere.
- `Known` is what is known of a course in every phase, and `known_step` says that it stays known.
- `alone_of_known` says that a run with one permission processes the message alone.
- `step_of_pollReceiver` and `step_of_pollTask` say that the steps leave nothing out.
-/

namespace Messaging.Redelivery

open Host Endpoint

/-! ### Courses -/

/-- An attempt to process a message that has ended. -/
structure Ended where
  /-- What it has asked for and was answered, first asked first. -/
  log : List Exchange
  /-- How it has ended. -/
  ending : Except Panic StageResult

/-- Where a message is. -/
inductive Phase where
  /-- Nobody has put it into the queue yet. -/
  | absent
  /-- It waits in the queue. -/
  | waiting
  /-- A task processes it and has asked for something so far. -/
  | underWay (task : TaskId) (log : List Exchange)
  /-- It was taken from the queue and not put back. -/
  | consumed

/-- A host and what has become of a message on it. -/
structure Course where
  /-- The host. -/
  host : Host
  /-- Where the message is. -/
  phase : Phase := .absent
  /-- The attempts to process it that have ended, first attempt first. -/
  attempts : List Ended := []

/-- A message as it waits in a queue when it does not expire. -/
def lasting (message : Message) : Queued := ⟨message, none⟩

/-- A message waits in the queue of a run and does not expire. -/
def Waits (run : PumpRun) (message : Message) (host : Host) : Prop :=
  ∃ waiting, queued? run host = some waiting ∧ lasting message ∈ waiting

/-- Something happens on a host that is neither of the run nor of an attempt to process a message:
the message is not taken from the queue, and the attempt finds everything as it left it. -/
structure Elsewhere (id : RunId) (run : PumpRun) (message : Message) (phase : Phase)
    (host host' : Host) : Prop where
  /-- The run still belongs to the host. -/
  pumps : Pumps id run host'
  /-- A message that waits still waits. -/
  waits : phase = .waiting → Waits run message host → Waits run message host'
  /-- The queue is still there. -/
  queue : (queued? run host).isSome → (queued? run host').isSome
  /-- The run may process no more messages than before. -/
  limited : ∀ limit, Limited id limit host → Limited id limit host'
  /-- The task of an attempt does what it did. -/
  job : ∀ task log, phase = .underWay task log →
    (host'.task? task).map Task.job = (host.task? task).map Task.job
  /-- What the attempt relies on was left alone. -/
  spared : ∀ task log, phase = .underWay task log →
    Spared ⟨host.world, log⟩ ⟨host'.world, log⟩

/-- A task processes a message and is about to go on with a program. -/
def Processing (id : RunId) (message : Message) (task : TaskId) (rest : Act StageResult)
    (host : Host) : Prop :=
  (host.task? task).map Task.job = some (.process id (lasting message) rest)

/-- What the program of an attempt asks for when its task goes on. -/
def nextLog (run : PumpRun) (host : Host) (rest : Act StageResult) : List Exchange :=
  (host.worldAt run.site).transcript rest

/-- What happens next. -/
inductive Step (id : RunId) (run : PumpRun) (message : Message) : Course → Course → Prop where
  /-- Somebody puts the message into the queue. -/
  | put {host host' : Host} {attempts : List Ended}
      (helsewhere : Elsewhere id run message .absent host host')
      (hwaits : Waits run message host') :
      Step id run message ⟨host, .absent, attempts⟩ ⟨host', .waiting, attempts⟩
  /-- Something else happens. -/
  | elsewhere {host host' : Host} {phase : Phase} {attempts : List Ended}
      (helsewhere : Elsewhere id run message phase host host') :
      Step id run message ⟨host, phase, attempts⟩ ⟨host', phase, attempts⟩
  /-- The receiving task goes on and does not get to the message. -/
  | receive {host : Host} {phase : Phase} {attempts : List Ended}
      (hwaits : phase = .waiting → Waits run message (host.pollTask run.receiver)) :
      Step id run message ⟨host, phase, attempts⟩ ⟨host.pollTask run.receiver, phase, attempts⟩
  /-- The receiving task goes on and starts a task for the message. -/
  | take {host : Host} {attempts : List Ended} {task : TaskId} (hnew : host.task? task = none)
      (htask : (host.pollTask run.receiver).task? task
        = some (processingTask id run (lasting message) (processing run message))) :
      Step id run message ⟨host, .waiting, attempts⟩
        ⟨host.pollTask run.receiver, .underWay task [], attempts⟩
  /-- The attempt goes on until it sleeps. -/
  | sleep {host : Host} {attempts : List Ended} {task : TaskId} {log : List Exchange}
      {rest rest' : Act StageResult} {millis : Nat} {world : World}
      (hjob : Processing id message task rest host)
      (hadvance : World.advance rest (host.worldAt run.site) = (.asleep millis rest', world)) :
      Step id run message ⟨host, .underWay task log, attempts⟩
        ⟨host.pollTask task, .underWay task (log ++ nextLog run host rest), attempts⟩
  /-- The attempt ends, and the message is the first of its queue again. -/
  | returned {host : Host} {attempts : List Ended} {task : TaskId} {log : List Exchange}
      {rest : Act StageResult} {progress : Progress StageResult} {world : World}
      {ending : Except Panic StageResult} (hjob : Processing id message task rest host)
      (hadvance : World.advance rest (host.worldAt run.site) = (progress, world))
      (hending : ending? progress = some ending)
      (hgone : (host.pollTask task).task? task = none)
      (hqueue : queued? run (host.pollTask task)
        = (world.broker.queue? run.queue).map (lasting message :: ·)) :
      Step id run message ⟨host, .underWay task log, attempts⟩
        ⟨host.pollTask task, .waiting, attempts ++ [⟨log ++ nextLog run host rest, ending⟩]⟩
  /-- The attempt ends, and the message is not put back. -/
  | consumed {host : Host} {attempts : List Ended} {task : TaskId} {log : List Exchange}
      {rest : Act StageResult} {progress : Progress StageResult} {world : World}
      {ending : Except Panic StageResult} (hjob : Processing id message task rest host)
      (hadvance : World.advance rest (host.worldAt run.site) = (progress, world))
      (hending : ending? progress = some ending)
      (hgone : (host.pollTask task).task? task = none)
      (hqueue : queued? run (host.pollTask task) = world.broker.queue? run.queue) :
      Step id run message ⟨host, .underWay task log, attempts⟩
        ⟨host.pollTask task, .consumed, attempts ++ [⟨log ++ nextLog run host rest, ending⟩]⟩

/-- The courses of a message from a host on. -/
inductive Reached (id : RunId) (run : PumpRun) (message : Message) (started : Host) :
    Course → Prop where
  /-- Nothing has happened. -/
  | begin : Reached id run message started ⟨started, .absent, []⟩
  /-- Something happens next. -/
  | step {course course' : Course} (hcourse : Reached id run message started course)
      (hstep : Step id run message course course') : Reached id run message started course'

variable {errorQueue : String} {id : RunId} {run : PumpRun} {message : Message} {host host' : Host}
  {phase : Phase} {attempts : List Ended} {task : TaskId} {log : List Exchange}
  {rest : Act StageResult}

/-! ### What happens elsewhere -/

/-- Nothing happens where tasks, scopes, lists of staged operations and the queue stay the same. -/
theorem elsewhere_steady (hpumps : Pumps id run host) (hsteady : Steady host host')
    (hqueue : queued? run host' = queued? run host) :
    Elsewhere id run message phase host host' where
  pumps := hpumps.of_steady hsteady
  waits := by
    rintro - ⟨waiting, hwaiting, hmem⟩
    exact ⟨waiting, hqueue.trans hwaiting, hmem⟩
  queue hsome := by rwa [hqueue]
  limited _ hlimited := hlimited.congr hsteady.tasks hsteady.runs
  job task log _ := by rw [hsteady.task?]
  spared task log _ := .of_eq hsteady.scopes hsteady.stagings log

/-- Nothing happens when only who goes on is decided. -/
theorem elsewhere_alike (hpumps : Pumps id run host) (halike : Alike host host') :
    Elsewhere id run message phase host host' :=
  elsewhere_steady hpumps (.of_alike halike) (by rw [queued?, halike.world, queued?])

/-- Nothing happens while time passes. -/
theorem elsewhere_advanceTo (hpumps : Pumps id run host) (deadline : Nat) :
    Elsewhere id run message phase host (host.advanceTo deadline) := by
  have halike := advanceTo_alike host deadline
  refine elsewhere_steady hpumps ⟨halike.tasks, halike.nextTask, halike.runs, ?_, ?_⟩ ?_
  · rw [halike.world]
  · rw [halike.world]
  · rw [queued?, halike.world, queued?]

/-- Whoever acts on the world takes no message from the queue, and nothing else happens if it spares
what an attempt under way relies on. -/
theorem elsewhere_inSite (hpumps : Pumps id run host) (site : SiteId) {γ : Type}
    {f : World → γ × World}
    (hextends : Broker.Extends run.queue host.world.broker (f (host.worldAt site)).2.broker)
    (hspared : ∀ task log, phase = .underWay task log →
      Spared ⟨host.world, log⟩ ⟨(f (host.worldAt site)).2, log⟩) :
    Elsewhere id run message phase host (host.inSite site f).2 := by
  have hlimited (limit : Nat) (h : Limited id limit host) := h.inSite site f
  obtain ⟨host', hhost', hleaves, hqueue, htasks⟩ :=
    acting hpumps site (rfl : f (host.worldAt site) = (_, _))
  rw [hhost'] at hlimited ⊢
  refine ⟨hleaves.pumps, ?_, ?_, hlimited, ?_, ?_⟩
  · rintro - ⟨waiting, hwaiting, hmem⟩
    obtain ⟨later, hlater⟩ := hextends waiting hwaiting
    exact ⟨_, hqueue.trans hlater, List.mem_append_left _ hmem⟩
  · -- others delete no queue
    intro hsome
    rw [hqueue]
    exact hextends.isSome hsome
  · intro task log _
    rw [htasks]
  · intro task log hphase
    exact (hspared task log hphase).trans (.of_eq hleaves.scopes hleaves.stagings log)

/-- While the message is not under way, the tasks of the run that process other messages take no
message from the queue. -/
theorem elsewhere_pollOther (hpumps : Pumps id run host)
    (hphase : ∀ task log, phase ≠ .underWay task log) {queued : Queued}
    (hjob : (host.task? task).map Task.job = some (.process id queued rest)) :
    Elsewhere id run message phase host (host.pollTask task) := by
  obtain ⟨hafter, before, hqueue⟩ := pollProcessing_queue hpumps hjob
  have hextends := World.extends_advance run.queue rest (host.worldAt run.site)
  refine ⟨hafter, ?_, ?_, fun _ hlimited => pollProcessing_limited hpumps hlimited hjob,
    fun task log h => absurd h (hphase task log), fun task log h => absurd h (hphase task log)⟩
  · rintro - ⟨waiting, hwaiting, hmem⟩
    obtain ⟨later, hlater⟩ := hextends waiting hwaiting
    -- what is put back stands in front, what was pushed behind, and the message between
    refine ⟨before ++ (waiting ++ later), ?_, ?_⟩
    · rw [hqueue, hlater, Option.map_some]
    · exact List.mem_append_right _ (List.mem_append_left _ hmem)
  · intro hsome
    rw [hqueue, Option.isSome_map]
    exact hextends.isSome hsome

/-- Somebody puts the message into the queue. -/
theorem step_put (hpumps : Pumps id run host) (hqueue : (queued? run host).isSome)
    (message : Message) (attempts : List Ended) :
    Step id run message ⟨host, .absent, attempts⟩
      ⟨host.modifyBroker (·.push run.queue (lasting message)), .waiting, attempts⟩ := by
  have helsewhere : Elsewhere id run message .absent host
      (host.modifyBroker (·.push run.queue (lasting message))) :=
    elsewhere_inSite hpumps _ (.push run.queue _ _ _) nofun
  refine .put helsewhere ?_
  obtain ⟨host', hhost', -, hput, -⟩ := acting hpumps host.sites.size (f := fun world =>
    ((), { world with broker := world.broker.push run.queue (lasting message) })) rfl
  obtain ⟨waiting, hwaiting⟩ := Option.isSome_iff_exists.1 hqueue
  rw [modifyBroker, hhost']
  refine ⟨waiting ++ [lasting message], ?_, List.mem_append_right _ List.mem_cons_self⟩
  rw [hput, Broker.queue?_push]
  exact congrArg (Option.map _) hwaiting

/-! ### What is known of a course -/

/-- An attempt has ended so that the message is put back. -/
structure Fails (errorQueue : String) (message : Message) (attempt : Ended) : Prop where
  /-- What it has sent fits how it has ended. -/
  concluded : Concluded errorQueue message attempt.ending attempt.log
  /-- It has ended so. -/
  isReturned : isReturned attempt.ending = true

/-- What is known of a course in each phase: up to the last attempt all have failed, and one that is
under way is going to be concluded. -/
def Known (errorQueue : String) (id : RunId) (run : PumpRun) (message : Message) : Course → Prop
  | ⟨_, .absent, attempts⟩ => attempts = []
  | ⟨host, .waiting, attempts⟩ =>
    Waits run message host ∧ ∀ attempt ∈ attempts, Fails errorQueue message attempt
  | ⟨host, .underWay task log, attempts⟩ =>
    (∃ rest, Processing id message task rest host ∧
      Assured terms (fun ending t => Concluded errorQueue message ending t.log) rest
        ⟨host.world, log⟩) ∧
      (queued? run host).isSome ∧ ∀ attempt ∈ attempts, Fails errorQueue message attempt
  | ⟨_, .consumed, attempts⟩ =>
    ∃ earlier last, attempts = earlier ++ [last] ∧
      (∀ attempt ∈ earlier, Fails errorQueue message attempt) ∧
        Concluded errorQueue message last.ending last.log ∧ isReturned last.ending = false

/-- What is promised of an attempt stays true while others leave it alone. -/
theorem assured_spared {s t : Moment}
    (h : Assured terms (fun ending t => Concluded errorQueue message ending t.log) rest s)
    (hspared : Spared s t) :
    Assured terms (fun ending t => Concluded errorQueue message ending t.log) rest t := by
  refine h.stable (fun hst htu => Spared.trans hst htu) (fun ending u v huv hu => ?_) hspared
  rw [Spared.log huv]
  exact hu

/-- What is known of a course stays known whatever happens elsewhere. -/
theorem Known.elsewhere (h : Known errorQueue id run message ⟨host, phase, attempts⟩)
    (helsewhere : Elsewhere id run message phase host host') :
    Known errorQueue id run message ⟨host', phase, attempts⟩ := by
  cases phase with
  | absent => exact h
  | waiting => exact ⟨helsewhere.waits rfl h.1, h.2⟩
  | underWay task log =>
    obtain ⟨⟨rest, hjob, hassured⟩, hqueue, hfails⟩ := h
    have hjob' : Processing id message task rest host' := (helsewhere.job task log rfl).trans hjob
    have hspared := assured_spared hassured (helsewhere.spared task log rfl)
    exact ⟨⟨rest, hjob', hspared⟩, helsewhere.queue hqueue, hfails⟩
  | consumed => exact h

/-- When the receiving task goes on, that is elsewhere for a message that it does not get to. -/
theorem elsewhere_receive (hpumps : Pumps id run host)
    (hknown : Known errorQueue id run message ⟨host, phase, attempts⟩)
    (hwaits : phase = .waiting → Waits run message (host.pollTask run.receiver)) :
    Elsewhere id run message phase host (host.pollTask run.receiver) := by
  have hreceives := pollReceiver_receives hpumps
  refine ⟨hreceives.pumps, fun hphase _ => hwaits hphase, ?_,
    fun _ hlimited => pollReceiver_limited hpumps hlimited, ?_, ?_⟩
  · intro hsome
    obtain ⟨messages, hmessages⟩ := Option.isSome_iff_exists.1 hsome
    obtain ⟨taken, left, -, hleft, -⟩ := hreceives.taken messages hmessages
    rw [hleft]
    rfl
  · rintro task log rfl
    obtain ⟨⟨rest, hjob, -⟩, -, -⟩ := hknown
    obtain ⟨state, hstate, hprocess⟩ := Option.map_eq_some_iff.1 hjob
    -- the receiving task changes its own job only
    have hne := hpumps.ne_receiver hstate (by rw [hprocess]; exact nofun)
    rw [hreceives.others task state hne hstate, hstate]
  · intro task log _
    exact .of_eq hreceives.scopes hreceives.stagings log

/-- An attempt begins in scopes of its own, and is going to be concluded. -/
theorem processing_concludes {inbound : Inbound} (hworks : Works inbound run)
    (hhandlers : Conversing inbound.handlers) (message : Message) (world : World) :
    Assured terms (fun ending t => Concluded inbound.errorQueue message ending t.log)
      (processing run message) ⟨world, []⟩ := by
  obtain ⟨receiver, hpipeline, hentry⟩ := hworks
  rw [processing, hentry]
  -- the attempt opens two scopes, one for the message and one for the pipeline
  refine assured_aside (.openScope none) trivial fun scope t ht => ?_
  rw [Receiver.entry, hpipeline]
  refine assured_aside (.openScope (some scope)) trivial fun inner u hu => ?_
  have hquiet := ht.trans hu
  exact inbound.pipeline_concludes hhandlers { message, scope := inner }
    ⟨hquiet.staged, hquiet.sent⟩

/-- Where the program of an attempt stands once its task has gone on. -/
theorem standing_of_known (hassured : Assured terms
      (fun ending t => Concluded errorQueue message ending t.log) rest ⟨host.world, log⟩)
    {progress : Progress StageResult} {world : World}
    (hadvance : World.advance rest (host.worldAt run.site) = (progress, world)) :
    Standing (fun ending t => Concluded errorQueue message ending t.log) progress
      ⟨world, log ++ nextLog run host rest⟩ := by
  -- the site of the endpoint has no part in what the attempt relies on
  have hspared : Spared ⟨host.world, log⟩ ⟨host.worldAt run.site, log⟩ := by
    refine .of_eq ?_ ?_ log
    · rfl
    · rfl
  have hstanding := standing_of_assured (assured_spared hassured hspared)
  rw [Moment.advanced, hadvance] at hstanding
  exact hstanding

/-- The queue is still there once an attempt has gone on. -/
theorem isSome_of_advance (hqueue : (queued? run host).isSome) {progress : Progress StageResult}
    {world : World} (hadvance : World.advance rest (host.worldAt run.site) = (progress, world)) :
    (world.broker.queue? run.queue).isSome := by
  have hsome := (World.extends_advance run.queue rest (host.worldAt run.site)).isSome hqueue
  rw [hadvance] at hsome
  exact hsome

/-- An attempt that has ended is concluded. -/
theorem concluded_of_standing {progress : Progress StageResult} {ending : Except Panic StageResult}
    {t : Moment}
    (h : Standing (fun ending t => Concluded errorQueue message ending t.log) progress t)
    (hending : ending? progress = some ending) : Concluded errorQueue message ending t.log := by
  cases progress with
  | finished result =>
    cases hending
    exact h
  | panicked payload =>
    cases hending
    exact h
  | asleep millis rest => cases hending

/-! ### One step -/

/-- When the receiving task starts a task for the message, an attempt is under way. -/
theorem known_take {inbound : Inbound} (hworks : Works inbound run)
    (hhandlers : Conversing inbound.handlers) (hpumps : Pumps id run host)
    (hknown : Known inbound.errorQueue id run message ⟨host, .waiting, attempts⟩)
    (htask : (host.pollTask run.receiver).task? task
      = some (processingTask id run (lasting message) (processing run message))) :
    Known inbound.errorQueue id run message
      ⟨host.pollTask run.receiver, .underWay task [], attempts⟩ := by
  obtain ⟨hwaits, hfails⟩ := hknown
  obtain ⟨waiting, hwaiting, -⟩ := hwaits
  obtain ⟨taken, left, -, hleft, -⟩ := (pollReceiver_receives hpumps).taken waiting hwaiting
  refine ⟨⟨processing run message, ?_, processing_concludes hworks hhandlers message _⟩, ?_, hfails⟩
  · rw [Processing, htask]
    rfl
  · rw [hleft]
    rfl

/-- When an attempt sleeps, it is still under way. -/
theorem known_sleep (hpumps : Pumps id run host)
    (hknown : Known errorQueue id run message ⟨host, .underWay task log, attempts⟩)
    (hjob : Processing id message task rest host) {rest' : Act StageResult} {millis : Nat}
    {world : World}
    (hadvance : World.advance rest (host.worldAt run.site) = (.asleep millis rest', world)) :
    Pumps id run (host.pollTask task) ∧
      Known errorQueue id run message
        ⟨host.pollTask task, .underWay task (log ++ nextLog run host rest), attempts⟩ := by
  obtain ⟨⟨rest'', hjob', hassured⟩, hqueue, hfails⟩ := hknown
  -- the task is known by what is left of its program
  cases hjob.symm.trans hjob'
  obtain ⟨hleaves, hnext, hsame⟩ := pollProcessing_asleep hpumps hjob hadvance
  have hstanding := standing_of_known hassured hadvance
  have hspared := assured_spared hstanding (.of_eq hleaves.scopes hleaves.stagings _)
  refine ⟨hleaves.pumps, ⟨rest', hnext, hspared⟩, ?_, hfails⟩
  rw [hsame]
  exact isSome_of_advance hqueue hadvance

/-- When an attempt ends, it is concluded, and the message is put back or not. -/
theorem known_ended (hpumps : Pumps id run host)
    (hknown : Known errorQueue id run message ⟨host, .underWay task log, attempts⟩)
    (hjob : Processing id message task rest host) {progress : Progress StageResult} {world : World}
    (hadvance : World.advance rest (host.worldAt run.site) = (progress, world))
    {ending : Except Panic StageResult} (hending : ending? progress = some ending) :
    Pumps id run (host.pollTask task) ∧
      (∀ attempt ∈ attempts, Fails errorQueue message attempt) ∧
      Concluded errorQueue message ending (log ++ nextLog run host rest) ∧
      ∃ waiting, world.broker.queue? run.queue = some waiting ∧
        queued? run (host.pollTask task)
          = some (if isReturned ending then lasting message :: waiting else waiting) := by
  obtain ⟨⟨rest', hjob', hassured⟩, hqueue, hfails⟩ := hknown
  cases hjob.symm.trans hjob'
  obtain ⟨hleaves, -, hleft⟩ := pollProcessing_ended hpumps hjob hadvance hending
  obtain ⟨waiting, hwaiting⟩ :=
    Option.isSome_iff_exists.1 (isSome_of_advance hqueue hadvance)
  -- the program has ended as it was assured
  have hconcluded := concluded_of_standing (standing_of_known hassured hadvance) hending
  refine ⟨hleaves.pumps, hfails, hconcluded, waiting, hwaiting, ?_⟩
  rw [hleft, hwaiting]
  split <;> rfl

/-- What is known of a course stays known. -/
theorem known_step {inbound : Inbound} (hworks : Works inbound run)
    (hhandlers : Conversing inbound.handlers) {course course' : Course}
    (hpumps : Pumps id run course.host)
    (hknown : Known inbound.errorQueue id run message course)
    (hstep : Step id run message course course') :
    Pumps id run course'.host ∧ Known inbound.errorQueue id run message course' := by
  cases hstep with
  | put helsewhere hwaits =>
    refine ⟨helsewhere.pumps, hwaits, ?_⟩
    rw [show _ = [] from hknown]
    exact nofun
  | elsewhere helsewhere => exact ⟨helsewhere.pumps, hknown.elsewhere helsewhere⟩
  | receive hwaits =>
    have helsewhere := elsewhere_receive hpumps hknown hwaits
    exact ⟨helsewhere.pumps, hknown.elsewhere helsewhere⟩
  | take hnew htask =>
    exact ⟨(pollReceiver_receives hpumps).pumps, known_take hworks hhandlers hpumps hknown htask⟩
  | sleep hjob hadvance => exact known_sleep hpumps hknown hjob hadvance
  -- the queue has the message in front, so the attempt has ended in a way that puts it back
  | @returned host attempts task log rest progress world ending hjob hadvance hending _ hqueue =>
    obtain ⟨hafter, hfails, hconcluded, waiting, hwaiting, hleft⟩ :=
      known_ended hpumps hknown hjob hadvance hending
    rw [hleft, hwaiting, Option.map_some, Option.some.injEq] at hqueue
    have hreturned : isReturned ending = true := by
      by_cases hreturned : isReturned ending
      · exact hreturned
      · rw [if_neg hreturned] at hqueue
        exact absurd hqueue.symm (List.cons_ne_self _ _)
    refine ⟨hafter, ⟨_, hleft, ?_⟩, ?_⟩
    · rw [if_pos hreturned]
      exact List.mem_cons_self
    · intro attempt hattempt
      rcases List.mem_append.1 hattempt with hearlier | hlast
      · exact hfails attempt hearlier
      · cases List.mem_singleton.1 hlast
        exact ⟨hconcluded, hreturned⟩
  -- the queue lacks the message, so the attempt has ended in a way that keeps it
  | @consumed host attempts task log rest progress world ending hjob hadvance hending _ hqueue =>
    obtain ⟨hafter, hfails, hconcluded, waiting, hwaiting, hleft⟩ :=
      known_ended hpumps hknown hjob hadvance hending
    rw [hleft, hwaiting, Option.some.injEq] at hqueue
    have hkept : isReturned ending = false := by
      by_cases hreturned : isReturned ending
      · rw [if_pos hreturned] at hqueue
        exact absurd hqueue (List.cons_ne_self _ _)
      · exact Bool.eq_false_iff.2 hreturned
    exact ⟨hafter, attempts, _, rfl, hfails, hconcluded, hkept⟩

/-- What is known of a course holds of every course of a message. -/
theorem known_of_reached {inbound : Inbound} (hworks : Works inbound run)
    (hhandlers : Conversing inbound.handlers) {started : Host} (hpumps : Pumps id run started)
    {course : Course} (hcourse : Reached id run message started course) :
    Pumps id run course.host ∧ Known inbound.errorQueue id run message course := by
  induction hcourse with
  | begin => exact ⟨hpumps, rfl⟩
  | step _ hstep ih => exact known_step hworks hhandlers ih.1 ih.2 hstep

/-! ### One message at a time -/

/-- No step lets the run process more messages at once. -/
theorem limited_step {course course' : Course} {limit : Nat} (hpumps : Pumps id run course.host)
    (hlimited : Limited id limit course.host) (hstep : Step id run message course course') :
    Limited id limit course'.host := by
  cases hstep with
  | put helsewhere => exact helsewhere.limited limit hlimited
  | elsewhere helsewhere => exact helsewhere.limited limit hlimited
  | receive => exact pollReceiver_limited hpumps hlimited
  | take => exact pollReceiver_limited hpumps hlimited
  | sleep hjob => exact pollProcessing_limited hpumps hlimited hjob
  | returned hjob => exact pollProcessing_limited hpumps hlimited hjob
  | consumed hjob => exact pollProcessing_limited hpumps hlimited hjob

/-- However often the message is processed, the run processes no more messages at once than it could
at first. -/
theorem limited_of_reached {inbound : Inbound} (hworks : Works inbound run)
    (hhandlers : Conversing inbound.handlers) {started : Host} (hpumps : Pumps id run started)
    {limit : Nat} (hlimited : Limited id limit started) {course : Course}
    (hcourse : Reached id run message started course) : Limited id limit course.host := by
  induction hcourse with
  | begin => exact hlimited
  | step hcourse hstep ih =>
    exact limited_step (known_of_reached hworks hhandlers hpumps hcourse).1 ih hstep

/-- While a run with one permission processes the message, it processes no other. -/
theorem alone_of_known (hpumps : Pumps id run host) (hlimited : Limited id 1 host)
    (hknown : Known errorQueue id run message ⟨host, .underWay task log, attempts⟩)
    {other : TaskId} {queued : Queued}
    (hother : (host.task? other).map Task.job = some (.process id queued rest)) : other = task := by
  obtain ⟨⟨rest', hjob, -⟩, -, -⟩ := hknown
  exact hlimited.alone hpumps hjob hother

/-! ### The steps leave nothing out -/

/-- Whatever the receiving task does is a step. -/
theorem step_of_pollReceiver (hpumps : Pumps id run host)
    (hknown : Known errorQueue id run message ⟨host, phase, attempts⟩) :
    ∃ phase', Step id run message ⟨host, phase, attempts⟩
      ⟨host.pollTask run.receiver, phase', attempts⟩ := by
  by_cases hphase : phase = .waiting
  · subst hphase
    obtain ⟨⟨waiting, hwaiting, hmem⟩, -⟩ := hknown
    obtain ⟨taken, left, rfl, hleft, htaken⟩ :=
      (pollReceiver_receives hpumps).taken waiting hwaiting
    -- the receiving task takes messages from the front; either the message is among them or not
    rcases List.mem_append.1 hmem with hfirst | hlater
    · obtain ⟨task, hnew, htask⟩ := htaken _ hfirst rfl
      exact ⟨_, .take hnew htask⟩
    · exact ⟨_, .receive fun _ => ⟨left, hleft, hlater⟩⟩
  · exact ⟨_, .receive fun hwaiting => absurd hwaiting hphase⟩

/-- Whatever the task of an attempt does is a step. -/
theorem step_of_pollTask (hpumps : Pumps id run host)
    (hknown : Known errorQueue id run message ⟨host, .underWay task log, attempts⟩) :
    ∃ phase' attempts', Step id run message ⟨host, .underWay task log, attempts⟩
      ⟨host.pollTask task, phase', attempts'⟩ := by
  obtain ⟨⟨rest, hjob, -⟩, -, -⟩ := hknown
  have hended {progress : Progress StageResult} {ending : Except Panic StageResult} {world : World}
      (hadvance : World.advance rest (host.worldAt run.site) = (progress, world))
      (hending : ending? progress = some ending) :
      ∃ phase' attempts', Step id run message ⟨host, .underWay task log, attempts⟩
        ⟨host.pollTask task, phase', attempts'⟩ := by
    obtain ⟨-, hgone, hqueue⟩ := pollProcessing_ended hpumps hjob hadvance hending
    by_cases hreturned : isReturned ending
    · rw [if_pos hreturned] at hqueue
      exact ⟨_, _, .returned hjob hadvance hending hgone hqueue⟩
    · rw [if_neg hreturned] at hqueue
      exact ⟨_, _, .consumed hjob hadvance hending hgone hqueue⟩
  -- how far the program gets decides which step it is
  generalize hadvance : World.advance rest (host.worldAt run.site) = advanced at hended
  obtain ⟨progress, world⟩ := advanced
  cases progress with
  | finished result => exact hended rfl rfl
  | panicked payload => exact hended rfl rfl
  | asleep millis rest' => exact ⟨_, _, .sleep hjob hadvance⟩

end Messaging.Redelivery
