import Messaging.Proofs.Ledger

/-!
# The work of a pump in small steps

A run of a pump takes messages from its queue and processes them. What its tasks do is taken apart
here, so that anything else may happen in between.

- `Closing` is what is left to do for a message once an attempt to process it has ended, and
  `processMessage_eq` says that a task that goes on does all of it.
- `Chronicle` is a host with what has happened to the messages of the queue, and `Step` what happens
  next: the receiving task goes on, an attempt goes on or ends, something is done that is left to
  do, or something happens elsewhere. `Reached` are the chronicles of a pump that was started.
- `Worked` is what is known of a chronicle, whatever the number of permissions, and
  `judged_of_steps` says when messages are dropped.
- `reaches_pollReceiver` and `reaches_pollProcessing` say that the steps leave nothing out.
-/

namespace Messaging.Succession

open Host Redelivery Conservation
open Relation (ReflTransGen)

/-! ### The end of an attempt -/

/-- What is left to do for a message once an attempt to process it has ended. -/
inductive Closing where
  /-- The critical error of a panic is raised, and then the message is put back. -/
  | raising (payload : Panic)
  /-- The message is put back, and then the task ends. -/
  | returning
  /-- The task ends and gives its permission back. -/
  | leaving

namespace Closing

/-- What is left to do first after an end. -/
def start : Except Panic StageResult → Closing
  | .ok (.ok outcome) => if outcome.commits then leaving else returning
  | .ok (.error _) => returning
  | .error payload => raising payload

/-- What is left to do next. -/
def next? : Closing → Option Closing
  | raising _ => some returning
  | returning => some leaving
  | leaving => none

/-- Does one thing. -/
def apply (id : RunId) (run : PumpRun) (task : TaskId) (queued : Queued) (host : Host) :
    Closing → Host
  | raising payload => host.raisePanic run payload
  | returning => host.returnMessage run queued
  | leaving => host.endProcessing task id

/-- Does everything that is left. -/
def conclude (id : RunId) (run : PumpRun) (task : TaskId) (queued : Queued) (host : Host) :
    Closing → Host
  | raising payload =>
    ((host.raisePanic run payload).returnMessage run queued).endProcessing task id
  | returning => (host.returnMessage run queued).endProcessing task id
  | leaving => host.endProcessing task id

end Closing

variable {id : RunId} {run : PumpRun} {host host' : Host} {task : TaskId}
  {rest : Act StageResult} {ending : Except Panic StageResult} {limit : Nat}

/-- A program may end in some way. -/
def Ends (rest : Act StageResult) : Except Panic StageResult → Prop
  | .ok result => Leads rest (.done result)
  | .error payload => Leads rest (.panic payload)

/-- When `World.advance` ends, the program may end so. -/
theorem ends_of_ending? {progress : Progress StageResult} {world world' : World}
    (hadvance : World.advance rest world = (progress, world'))
    (hending : ending? progress = some ending) : Ends rest ending := by
  have hleads := leads_advance rest world
  rw [hadvance] at hleads
  cases progress with
  | finished result => cases hending; exact hleads
  | panicked payload => cases hending; exact hleads
  | asleep millis rest' => cases hending

/-- When the program of an attempt has ended, its task does everything that is left to do. -/
theorem processMessage_eq (h : Pumps id run host) {progress : Progress StageResult}
    (hadvance : host.inSite run.site (World.advance rest) = (progress, host'))
    (hending : ending? progress = some ending) (queued : Queued) :
    host.processMessage task id queued rest
      = (Closing.start ending).conclude id run task queued host' := by
  obtain ⟨run', hrun', hsame⟩ := h.known
  rw [processMessage, hrun']
  dsimp only
  rw [hsame.site, hadvance]
  -- putting back and raising look at the site and the queue of the run alone
  have hreturn (host : Host) : host.returnMessage run' queued = host.returnMessage run queued := by
    rw [returnMessage, hsame.queue, returnMessage]
  have hraise (payload : Panic) : host'.raisePanic run' payload = host'.raisePanic run payload := by
    rw [raisePanic, hsame.site, raisePanic]
  cases progress with
  | asleep millis rest' => cases hending
  | panicked payload =>
    cases hending
    dsimp only
    rw [hreturn, hraise]
    rfl
  | finished result =>
    cases hending
    cases result with
    | error failure => exact congrArg (endProcessing · task id) (hreturn host')
    | ok outcome =>
      cases outcome with
      | retryRequested => exact congrArg (endProcessing · task id) (hreturn host')
      | completed => rfl
      | movedToErrorQueue failure => rfl

/-! ### Chronicles -/

/-- Something that happens to a message of a queue. -/
inductive Event where
  /-- It was taken from the queue, and a task was started to process it. -/
  | began (receipt : Receipt)
  /-- An attempt to process it has ended. -/
  | ended (queued : Queued) (ending : Except Panic StageResult)
  /-- It was taken from the queue and dropped. -/
  | dropped (receipt : Receipt)

/-- The message to which something happens. -/
def Event.queued : Event → Queued
  | began receipt | dropped receipt => receipt.queued
  | ended queued _ => queued

/-- What happens to a message that is taken from the queue. -/
def Event.taken (receipt : Receipt) : Event :=
  if receipt.isDropped then dropped receipt else began receipt

/-- A message is dropped if its time has passed when it is received, and attempted otherwise. -/
def Event.Judged : Event → Prop
  | began receipt => receipt.isDropped = false
  | dropped receipt => receipt.isDropped = true
  | ended _ _ => True

/-- What `Event.taken` says of a receipt is what its time says. -/
theorem Event.judged_taken (receipt : Receipt) : (taken receipt).Judged := by
  rw [taken]
  split
  · next hdropped => exact hdropped
  · next hkept => exact eq_false_of_ne_true hkept

/-- A host and what has happened to the messages of a queue on it. -/
structure Chronicle where
  /-- The host. -/
  host : Host
  /-- The messages that were put into the queue, first put first. -/
  pushed : List Queued
  /-- What has happened to them, first event first. -/
  history : List Event := []
  /-- The attempts that have ended, with what is left to do for their messages. -/
  closing : TaskId → Option (Queued × Closing) := fun _ => none

/-- What happens next. -/
inductive Step (id : RunId) (run : PumpRun) : Chronicle → Chronicle → Prop where
  /-- Something happens that is not of the run: nobody else takes messages from its queue, but
  anybody may put some into it, attempts that are under way included. -/
  | elsewhere {c : Chronicle} {host' : Host} (horderly : host'.Orderly)
      (hextends : Broker.Extends run.queue c.host.world.broker host'.world.broker)
      (huntouched : Untouched id c.host host') :
      Step id run c
        { c with
          host := host'
          pushed := c.pushed ++ arrived run.queue c.host.world.broker host'.world.broker }
  /-- The run is asked to finish. -/
  | cancel {c : Chronicle} : Step id run c { c with host := c.host.cancel run.receiver }
  /-- The receiving task goes on, for as many steps as one likes. -/
  | receive {c : Chronicle} {phase : ReceivePhase} (fuel : Nat)
      (hjob : (c.host.task? run.receiver).map Task.job = some (.receive id phase)) :
      Step id run c
        { c with
          host := receiveMessages run.receiver id fuel phase c.host
          history := c.history ++
            (receipts run.receiver id fuel phase c.host).map Event.taken }
  /-- An attempt goes on, whatever it is answered. -/
  | work {c : Chronicle} {host' : Host} {task : TaskId} {queued : Queued}
      {rest rest' : Act StageResult} (hopen : c.closing task = none)
      (hjob : (c.host.task? task).map Task.job = some (.process id queued rest))
      (hleads : Leads rest rest')
      (halike : Alike (c.host.setJob task (.process id queued rest')) host') :
      Step id run c { c with host := host' }
  /-- An attempt ends, in any way that its program may. -/
  | finish {c : Chronicle} {task : TaskId} {queued : Queued} {rest : Act StageResult}
      {ending : Except Panic StageResult} (hopen : c.closing task = none)
      (hjob : (c.host.task? task).map Task.job = some (.process id queued rest))
      (hends : Ends rest ending) :
      Step id run c
        { c with
          history := c.history ++ [.ended queued ending]
          closing := Function.update c.closing task (some (queued, .start ending)) }
  /-- One thing is done that was left to do after the end of an attempt. -/
  | close {c : Chronicle} {task : TaskId} {queued : Queued} {closing : Closing}
      (hclosing : c.closing task = some (queued, closing)) :
      Step id run c
        { c with
          host := closing.apply id run task queued c.host
          closing := Function.update c.closing task (closing.next?.map (queued, ·)) }

/-- A pump was set up on a queue and does not run. -/
structure Ready (host : Host) (key : PumpKey) (pump : PumpState) : Prop where
  /-- The tasks are in order. -/
  orderly : host.Orderly
  /-- The host has the pump. -/
  known : host.pump? key = some pump
  /-- It does not run. -/
  idle : pump.running = none
  /-- Its queue is there. -/
  hasQueue : (host.world.broker.queue? pump.queue).isSome

/-- The run of a pump that is started on a host. -/
def runOf (host : Host) (key : PumpKey) (pump : PumpState) (concurrency : Concurrency) : PumpRun :=
  startedRun key.site pump.entry pump.queue concurrency host.nextTask

/-- The chronicle of a pump that is started on a host. -/
def Chronicle.start (host : Host) (key : PumpKey) (pump : PumpState) (concurrency : Concurrency) :
    Chronicle where
  host := (host.startPump key concurrency).2
  pushed := waiting pump.queue host.world.broker

/-- The chronicles of a pump that was started on a host. -/
def Reached (host : Host) (key : PumpKey) (pump : PumpState) (concurrency : Concurrency) :
    Chronicle → Prop :=
  ReflTransGen (Step host.runs.size (runOf host key pump concurrency))
    (.start host key pump concurrency)

/-! ### What is known of a chronicle -/

/-- What is known of a chronicle, whatever has happened. -/
structure Worked (id : RunId) (run : PumpRun) (limit : Nat) (c : Chronicle) : Prop where
  /-- The run belongs to the host. -/
  pumps : Pumps id run c.host
  /-- It has no more permissions than it was started with. -/
  limited : Limited id limit c.host
  /-- The queue is there. -/
  hasQueue : (queued? run c.host).isSome
  /-- A task that has something left to do is still there, and so is its permission. -/
  closing : ∀ task queued closing, c.closing task = some (queued, closing) →
    ∃ rest, (c.host.task? task).map Task.job = some (.process id queued rest)

variable {c c' : Chronicle} {queued : Queued}

/-- A task of a run that is left alone still has its job. -/
theorem job_of_untouched (h : Untouched id host host') (horderly : host.Orderly)
    (horderly' : host'.Orderly) {job : Job} (hjob : job.run? = some id)
    (htask : (host.task? task).map Task.job = some job) :
    (host'.task? task).map Task.job = some job := by
  obtain ⟨state, hstate, rfl⟩ := Option.map_eq_some_iff.1 htask
  rw [task?_eq_some_iff horderly, ← h.mem_iff hjob, ← task?_eq_some_iff horderly'] at hstate
  rw [hstate, Option.map_some]

/-- A task that is asked to end still has its job. -/
theorem job_cancelled (state : Task) : ({ state with cancelled := true } : Task).job = state.job :=
  rfl

/-- A `Host.cancel` changes no job, takes no message out of flight and leaves the world alone. -/
theorem job_cancel (host : Host) (task other : TaskId) :
    ((host.cancel task).task? other).map Task.job = (host.task? other).map Task.job := by
  rw [cancel, (wake_alike _ _).task?]
  exact job_modifyTask job_cancelled host task other

theorem flights_cancel (id : RunId) (host : Host) (task : TaskId) :
    flights id (host.cancel task) = flights id host := by
  rw [cancel, flights_congr (wake_alike _ _).tasks]
  exact flights_modifyTask job_cancelled id host task

theorem world_cancel (host : Host) (task : TaskId) : (host.cancel task).world = host.world :=
  (wake_alike _ _).world

/-- A task that processes a message goes on doing so. -/
theorem pumps_setJob (h : Pumps id run host)
    (hjob : (host.task? task).map Task.job = some (.process id queued rest))
    (rest' : Act StageResult) : Pumps id run (host.setJob task (.process id queued rest')) where
  orderly := h.orderly.setJob task (h.started_of_run? rfl)
  known := h.known
  named := h.named
  receiving other hother := by
    obtain ⟨state, hstate, hprocess⟩ := Option.map_eq_some_iff.1 hjob
    have hne : task ≠ run.receiver := h.ne_receiver hstate (by rw [hprocess]; exact nofun)
    rw [setJob, task?_modifyTask] at hother
    obtain ⟨before, hbefore, rfl⟩ := Option.map_eq_some_iff.1 hother
    rw [if_neg (Ne.symm hne)]
    exact h.receiving before hbefore

namespace Closing

/-- What is put back into the queue. -/
def putBack (queued : Queued) : Closing → List Queued
  | returning => [queued]
  | raising _ | leaving => []

variable (closing : Closing)

/-- Until the task ends no task changes. -/
theorem samePumps_apply (id : RunId) (run : PumpRun) (task : TaskId) (queued : Queued)
    (host : Host) {next : Closing} (hnext : closing.next? = some next) :
    SamePumps host (closing.apply id run task queued host) := by
  cases closing with
  | raising payload => exact .inSite ..
  | returning => exact .inSite ..
  | leaving => cases hnext

/-- What is left to do leaves the run on its host, and puts the message back at most. -/
theorem apply_leaves (h : Pumps id run host)
    (hjob : (host.task? task).map Task.job = some (.process id queued rest)) :
    Pumps id run (closing.apply id run task queued host) ∧
      queued? run (closing.apply id run task queued host)
        = (queued? run host).map (closing.putBack queued ++ ·) := by
  obtain ⟨state, hstate, hprocess⟩ := Option.map_eq_some_iff.1 hjob
  have hne : task ≠ run.receiver := h.ne_receiver hstate (by rw [hprocess]; exact nofun)
  have hleaves : Leaves id run host.world host := ⟨h, rfl, rfl⟩
  -- only a message that is returned comes back into the queue
  cases closing with
  | raising payload =>
    obtain ⟨hraised, hqueue⟩ := raisePanic_leaves hleaves run payload
    exact ⟨hraised.pumps, hqueue.trans (Option.map_id_apply ..).symm⟩
  | returning =>
    obtain ⟨hback, hqueue⟩ := returnMessage_leaves hleaves ⟨rfl, rfl, rfl, rfl⟩ queued
    exact ⟨hback.pumps, hqueue⟩
  | leaving =>
    obtain ⟨hend, -, hqueue⟩ := endProcessing_leaves hleaves hne
    exact ⟨hend.pumps, hqueue.trans (Option.map_id_apply ..).symm⟩

end Closing

namespace Worked

/-- A run that is asked to finish is `Worked` as before. -/
theorem cancel (h : Worked id run limit c) :
    Worked id run limit { c with host := c.host.cancel run.receiver } where
  pumps :=
    { orderly := (wake_alike _ _).orderly
        (orderly_modifyTask job_cancelled h.pumps.orderly run.receiver)
      known := by
        rw [Host.cancel, (wake_alike _ _).run?]
        exact h.pumps.known
      named := by
        rw [Host.cancel, (wake_alike _ _).nextTask]
        exact h.pumps.named
      -- the task is told to stop and keeps its job
      receiving := fun state hstate => by
        have hjob := job_cancel c.host run.receiver run.receiver
        rw [hstate] at hjob
        obtain ⟨before, hbefore, hsame⟩ := Option.map_eq_some_iff.1 hjob.symm
        obtain ⟨phase, hphase⟩ := h.pumps.receiving before hbefore
        exact ⟨phase, hsame.symm.trans hphase⟩ }
  limited run' hrun' := by
    rw [Host.cancel, (wake_alike _ _).run?] at hrun'
    have hheld : held id (c.host.cancel run.receiver) = held id c.host := by
      rw [Host.cancel, held, (wake_alike _ _).tasks]
      exact held_modifyTask job_cancelled id c.host run.receiver
    rw [hheld]
    exact h.limited run' hrun'
  hasQueue := by
    rw [queued?, world_cancel]
    exact h.hasQueue
  closing task queued closing hclosing := by
    rw [job_cancel]
    exact h.closing task queued closing hclosing

/-- So it is when something happens that is not of the run. -/
theorem elsewhere (h : Worked id run limit c) (horderly : host'.Orderly)
    (hextends : Broker.Extends run.queue c.host.world.broker host'.world.broker)
    (huntouched : Untouched id c.host host') (pushed : List Queued) :
    Worked id run limit { c with host := host', pushed } where
  pumps := huntouched.pumps h.pumps horderly
  limited run' hrun' := by
    rw [huntouched.run] at hrun'
    rw [huntouched.held]
    exact h.limited run' hrun'
  hasQueue := hextends.isSome h.hasQueue
  closing task queued closing hclosing := by
    obtain ⟨rest, hjob⟩ := h.closing task queued closing hclosing
    exact ⟨rest, job_of_untouched huntouched h.pumps.orderly horderly rfl hjob⟩

/-- What is granted to a receiving task is what it holds while it waits. -/
theorem granted (h : Worked id run limit c) {phase : ReceivePhase}
    (hjob : (c.host.task? run.receiver).map Task.job = some (.receive id phase)) :
    Granted id limit run.receiver phase c.host := by
  obtain ⟨state, hstate, hphase⟩ := Option.map_eq_some_iff.1 hjob
  intro run' hrun'
  have hlimit := h.limited run' hrun'
  rwa [held_eq_of_task? id h.pumps.orderly hstate, hphase] at hlimit

/-- The receiving task stays within its permissions, however far it goes on. -/
theorem receive (h : Worked id run limit c) {phase : ReceivePhase} (fuel : Nat)
    (hjob : (c.host.task? run.receiver).map Task.job = some (.receive id phase))
    (history : List Event) :
    Worked id run limit
      { c with host := receiveMessages run.receiver id fuel phase c.host, history } where
  pumps := (receiveMessages_receives fuel phase h.pumps).pumps
  limited := receiveMessages_limited fuel phase h.pumps (h.granted hjob)
  hasQueue := by
    obtain ⟨messages, hmessages⟩ := Option.isSome_iff_exists.1 h.hasQueue
    obtain ⟨rest, -, hrest⟩ := (receiveMessages_takes fuel phase h.pumps).queue messages hmessages
    exact Option.isSome_of_eq_some hrest
  -- attempts that have ended are of other tasks than the receiving one
  closing task queued closing hclosing := by
    obtain ⟨rest, hprocess⟩ := h.closing task queued closing hclosing
    obtain ⟨state, hstate, hsame⟩ := Option.map_eq_some_iff.1 hprocess
    have hne : task ≠ run.receiver :=
      h.pumps.ne_receiver hstate fun phase hphase => by rw [hsame] at hphase; cases hphase
    have hstays := (receiveMessages_receives fuel phase h.pumps).others task state hne hstate
    exact ⟨rest, by rw [hstays, Option.map_some, hsame]⟩

/-- An attempt that goes on keeps its task and the permission of that. -/
theorem work (h : Worked id run limit c) {rest' : Act StageResult} (hopen : c.closing task = none)
    (hjob : (c.host.task? task).map Task.job = some (.process id queued rest))
    (halike : Alike (c.host.setJob task (.process id queued rest')) host') :
    Worked id run limit { c with host := host' } where
  pumps := (pumps_setJob h.pumps hjob rest').congr halike.tasks halike.nextTask halike.runs
  limited := ((Holds.of_process h.pumps h.limited hjob).sleep queued rest' 0).congr halike.tasks
    halike.runs
  hasQueue := by
    rw [queued?, halike.world]
    exact h.hasQueue
  closing other queued' closing hclosing := by
    obtain ⟨last, hlast⟩ := h.closing other queued' closing hclosing
    -- the attempt that goes on has not ended
    have hne : other ≠ task := by
      rintro rfl
      rw [hopen] at hclosing
      cases hclosing
    refine ⟨last, ?_⟩
    rw [halike.task?, setJob, task?_modifyTask, ← hlast]
    simp only [if_neg hne, Option.map_id']

/-- An attempt that has ended still has its task until everything is done. -/
theorem finish (h : Worked id run limit c)
    (hjob : (c.host.task? task).map Task.job = some (.process id queued rest)) (closing : Closing)
    (history : List Event) :
    Worked id run limit
      { c with history, closing := Function.update c.closing task (some (queued, closing)) } where
  pumps := h.pumps
  limited := h.limited
  hasQueue := h.hasQueue
  closing other queued' closing' hclosing := by
    dsimp only at hclosing
    -- only the closing of this task is new
    by_cases hother : other = task
    · subst hother
      rw [Function.update_self] at hclosing
      cases hclosing
      exact ⟨rest, hjob⟩
    · rw [Function.update_of_ne hother] at hclosing
      exact h.closing other queued' closing' hclosing

/-- Something that was left to do is done; with the last of it the task gives its permission back.
-/
theorem close (h : Worked id run limit c) {closing : Closing}
    (hclosing : c.closing task = some (queued, closing)) :
    Worked id run limit
      { c with
        host := closing.apply id run task queued c.host
        closing := Function.update c.closing task (closing.next?.map (queued, ·)) } := by
  obtain ⟨rest, hjob⟩ := h.closing task queued closing hclosing
  obtain ⟨hpumps, hqueue⟩ := closing.apply_leaves h.pumps hjob
  have hsome : (queued? run (closing.apply id run task queued c.host)).isSome := by
    rw [hqueue, Option.isSome_map]
    exact h.hasQueue
  cases hnext : closing.next? with
  | some next =>
    have hsame := closing.samePumps_apply id run task queued c.host hnext
    refine ⟨hpumps, h.limited.congr hsame.tasks hsame.runs, hsome, fun other queued' closing' => ?_⟩
    intro hother
    dsimp only at hother
    rw [Host.task?, hsame.tasks]
    by_cases hne : other = task
    · subst hne
      simp only [Function.update_self, Option.map_some, Option.some.injEq, Prod.mk.injEq] at hother
      exact ⟨rest, hother.1 ▸ hjob⟩
    · rw [Function.update_of_ne hne] at hother
      exact h.closing other queued' closing' hother
  | none =>
    cases closing with
    | raising payload => cases hnext
    | returning => cases hnext
    | leaving =>
      refine ⟨hpumps, (Holds.of_process h.pumps h.limited hjob).endProcessing, hsome, ?_⟩
      intro other queued' closing' hother
      dsimp only at hother
      -- the task that ends has nothing left to do, and the others stay
      by_cases hne : other = task
      · subst hne
        rw [Function.update_self] at hother
        cases hother
      · rw [Function.update_of_ne hne] at hother
        obtain ⟨last, hlast⟩ := h.closing other queued' closing' hother
        refine ⟨last, ?_⟩
        rw [Host.task?, Closing.apply, endProcessing, release_tasks]
        change ((c.host.finish task).task? other).map Task.job = _
        rw [task?_finish, if_neg hne, hlast]

/-- What is known stays known whatever happens next. -/
theorem step (h : Worked id run limit c) (hstep : Step id run c c') : Worked id run limit c' := by
  cases hstep with
  | elsewhere horderly hextends huntouched => exact h.elsewhere horderly hextends huntouched _
  | cancel => exact h.cancel
  | receive fuel hjob => exact h.receive fuel hjob _
  | work hopen hjob hleads halike => exact h.work hopen hjob halike
  | finish hopen hjob hends => exact h.finish hjob _ _
  | close hclosing => exact h.close hclosing

/-- `Worked.step` along any number of steps. -/
theorem steps (h : Worked id run limit c) (hsteps : ReflTransGen (Step id run) c c') :
    Worked id run limit c' := by
  induction hsteps with
  | refl => exact h
  | tail _ hstep ih => exact ih.step hstep

end Worked

section Starting

variable {key : PumpKey} {pump : PumpState} (h : Ready host key pump) (concurrency : Concurrency)
include h

/-- To start a pump asks nothing of the world. -/
theorem Ready.world_startPump : (host.startPump key concurrency).2.world = host.world := by
  rw [startPump, h.known]
  dsimp only
  rw [h.idle]
  rfl

/-- A pump that was started has nothing in flight. -/
theorem Ready.flights_startPump :
    flights host.runs.size (host.startPump key concurrency).2 = [] := by
  have hmans := mans_startPump h.orderly h.known h.idle concurrency
  have hlength := length_flights_le host.runs.size (host.startPump key concurrency).2
  rw [hmans.unheld] at hlength
  exact List.eq_nil_of_length_eq_zero (Nat.le_zero.1 hlength)

/-- A pump that was started works. -/
theorem Ready.worked_start :
    Worked host.runs.size (runOf host key pump concurrency)
      (concurrency.getD defaultConcurrency) (.start host key pump concurrency) := by
  have hmans := mans_startPump h.orderly h.known h.idle concurrency
  refine ⟨hmans.pumps, hmans.limited, ?_, nofun⟩
  change ((host.startPump key concurrency).2.world.broker.queue? pump.queue).isSome
  rw [h.world_startPump]
  exact h.hasQueue

end Starting

/-- Whether a message is dropped is decided by its time, however many are processed at once. -/
theorem judged_of_steps (h : ∀ event ∈ c.history, event.Judged)
    (hsteps : ReflTransGen (Step id run) c c') : ∀ event ∈ c'.history, event.Judged := by
  induction hsteps with
  | refl => exact h
  | tail _ hstep ih =>
    -- a step adds events only if messages are taken or an attempt ends
    cases hstep with
    | elsewhere => exact ih
    | cancel => exact ih
    | receive fuel hjob =>
      intro event hmem
      rcases List.mem_append.1 hmem with hbefore | htaken
      · exact ih event hbefore
      · obtain ⟨receipt, -, rfl⟩ := List.mem_map.1 htaken
        exact Event.judged_taken receipt
    | work => exact ih
    | finish hopen hjob hends =>
      intro event hmem
      rcases List.mem_append.1 hmem with hbefore | hend
      · exact ih event hbefore
      · cases List.mem_singleton.1 hend
        trivial
    | close => exact ih

/-! ### The steps leave nothing out -/

/-- When the receiving task goes on, that is a step. -/
theorem reaches_pollReceiver (h : Worked id run limit c) {state : Task}
    (hstate : c.host.task? run.receiver = some state) :
    ∃ history, Step id run c { c with host := c.host.pollTask run.receiver, history } := by
  obtain ⟨phase, hphase⟩ := h.pumps.receiving state hstate
  have hpoll : c.host.pollTask run.receiver
      = receiveMessages run.receiver id (c.host.receiveFuel id) phase c.host := by
    rw [pollTask, hstate]
    dsimp only
    rw [hphase]
  rw [hpoll]
  exact ⟨_, .receive _ (by rw [hstate, Option.map_some, hphase])⟩

/-- Everything that is left to do may be done. -/
theorem reaches_conclude {closing : Closing} (hclosing : c.closing task = some (queued, closing)) :
    ∃ c', ReflTransGen (Step id run) c c' ∧
      c'.host = closing.conclude id run task queued c.host := by
  -- by the number of things that are left
  have hleave {c : Chronicle} (hclosing : c.closing task = some (queued, .leaving)) :
      ∃ c', ReflTransGen (Step id run) c c' ∧ c'.host = c.host.endProcessing task id :=
    ⟨_, .single (.close hclosing), rfl⟩
  have hreturn {c : Chronicle} (hclosing : c.closing task = some (queued, .returning)) :
      ∃ c', ReflTransGen (Step id run) c c' ∧
        c'.host = (c.host.returnMessage run queued).endProcessing task id := by
    obtain ⟨c', hsteps, hhost⟩ := hleave (c :=
      { c with
        host := c.host.returnMessage run queued
        closing := Function.update c.closing task (some (queued, .leaving)) })
      (Function.update_self ..)
    exact ⟨c', .head (.close hclosing) hsteps, hhost⟩
  cases closing with
  | leaving => exact hleave hclosing
  | returning => exact hreturn hclosing
  | raising payload =>
    obtain ⟨c', hsteps, hhost⟩ := hreturn (c :=
      { c with
        host := c.host.raisePanic run payload
        closing := Function.update c.closing task (some (queued, .returning)) })
      (Function.update_self ..)
    exact ⟨c', .head (.close hclosing) hsteps, hhost⟩

/-- When a task that processes a message goes on, those are steps: what its program does to the
world, and then a sleep, or the end with all that is left to do. -/
theorem reaches_pollProcessing (h : Worked id run limit c) (hopen : c.closing task = none)
    (hjob : (c.host.task? task).map Task.job = some (.process id queued rest)) :
    ∃ c', ReflTransGen (Step id run) c c' ∧ c'.host = c.host.pollTask task := by
  obtain ⟨run', hrun', hsame⟩ := h.pumps.known
  have hacts := SamePumps.inSite c.host run.site (World.advance rest)
  have hextends := World.extends_advance run.queue rest (c.host.worldAt run.site)
  obtain ⟨host', hhost', -, hqueue, -⟩ :=
    acting h.pumps run.site (rfl : World.advance rest (c.host.worldAt run.site) = (_, _))
  rw [hhost'] at hacts
  -- first the program goes on, which for the run happens elsewhere
  let acted : Chronicle :=
    { c with
      host := host'
      pushed := c.pushed ++ arrived run.queue c.host.world.broker host'.world.broker }
  have hacted : Step id run c acted :=
    .elsewhere (hacts.orderly h.pumps.orderly) (hextends.trans (.of_eq hqueue)) (.of_same hacts id)
  have hjob' : (host'.task? task).map Task.job = some (.process id queued rest) := by
    rw [Host.task?, hacts.tasks]
    exact hjob
  rw [pollTask_processing hjob]
  generalize hadvance : World.advance rest (c.host.worldAt run.site) = advanced at hhost'
  obtain ⟨progress, world⟩ := advanced
  -- if it has ended, the attempt is finished and closed in as many steps as its ending needs
  have hended {ending : Except Panic StageResult} (hending : ending? progress = some ending) :
      ∃ c', ReflTransGen (Step id run) c c' ∧
        c'.host = c.host.processMessage task id queued rest := by
    rw [processMessage_eq h.pumps hhost' hending]
    let finished : Chronicle :=
      { acted with
        history := c.history ++ [.ended queued ending]
        closing := Function.update c.closing task (some (queued, .start ending)) }
    have hfinished : Step id run acted finished :=
      .finish hopen hjob' (ends_of_ending? hadvance hending)
    have hclosing : finished.closing task = some (queued, .start ending) :=
      Function.update_self ..
    obtain ⟨c', hsteps, hhost⟩ : ∃ c', ReflTransGen (Step id run) finished c' ∧
        c'.host = (Closing.start ending).conclude id run task queued host' :=
      reaches_conclude hclosing
    exact ⟨c', .head hacted (.head hfinished hsteps), hhost⟩
  cases progress with
  | finished result => exact hended rfl
  | panicked payload => exact hended rfl
  -- if it sleeps, what is left of it is the new job
  | asleep millis rest' =>
    have hslept : c.host.processMessage task id queued rest
        = (host'.setJob task (.process id queued rest')).sleepFor task millis := by
      rw [processMessage, hrun']
      dsimp only
      rw [hsame.site, hhost']
    rw [hslept]
    refine ⟨_, .head hacted (.single (.work hopen hjob' (leads_of_asleep hadvance) ?_)), rfl⟩
    exact ⟨rfl, rfl, rfl, rfl, rfl, rfl⟩

end Messaging.Succession
