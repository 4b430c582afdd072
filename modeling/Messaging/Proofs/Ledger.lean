import Mathlib.Logic.Relation
import Messaging.Proofs.Advance
import Messaging.Proofs.Flights
import Messaging.Proofs.Starting

/-!
# No message is lost, doubled or changed

A pump is set up, started and stopped, and everything else that happens on its host goes on next to
it.

- `Ledger` is a host with what has become of the messages of a queue on it, and `Step` what happens
  next: the pump is started or asked to stop, its receiving task or a task that processes a message
  goes on, or something happens that leaves its tasks alone, as `Apart` says.
- `Sound` is what is known of a ledger in every stage, and `sound_step` says that it stays known.
- `isDrained_of_stopPump` says what a pump has come to when stopping it succeeds.
- `accounted_for_each` says where each message is that was ever put into the queue.
-/

namespace Messaging.Conservation

open Host Redelivery
open Relation (ReflTransGen)

/-! ### Ledgers -/

/-- Where a pump is in its life. -/
inductive Stage where
  /-- It was set up. -/
  | ready
  /-- It was started. -/
  | running (id : RunId)
  /-- It was asked to stop. -/
  | stopping (id : RunId)
  /-- It has stopped within the time that it was given. -/
  | stopped (id : RunId)

/-- The run of a pump that was started. -/
def Stage.run? : Stage → Option RunId
  | ready => none
  | running id | stopping id | stopped id => some id

/-- A host and what has become of the messages of a queue on it. -/
structure Ledger where
  /-- The host. -/
  host : Host
  /-- Where the pump of the queue is in its life. -/
  stage : Stage := .ready
  /-- The messages that were put into the queue, first put first. -/
  pushed : List Queued
  /-- The messages that the transport is done with, and how their processing has ended. -/
  consumed : List (Queued × Outcome) := []
  /-- The messages that were dropped. -/
  discarded : List Receipt := []

/-- The messages that wait in a queue. -/
def waiting (queue : String) (broker : Broker) : List Queued := (broker.queue? queue).getD []

/-- The messages that the tasks of a pump process. -/
def inFlight (stage : Stage) (host : Host) : List Queued :=
  match stage.run? with
  | some id => flights id host
  | none => []

/-- The messages that were put into a queue that got longer. -/
def arrived (queue : String) (before after : Broker) : List Queued :=
  (waiting queue after).drop (waiting queue before).length

/-- What a pump does with a message: its entry works in a scope of its own. -/
def invocation (entry : PumpEntry) (message : Message) : Act StageResult := do
  let scope ← Act.rootScope
  entry message scope

/-- What the transport is done with when the processing of a message has come to some point. -/
def settled (queued : Queued) : Progress StageResult → List (Queued × Outcome)
  | .finished (.ok outcome) => if outcome.commits then [(queued, outcome)] else []
  | _ => []

/-- Whether a task is part of a run. -/
def isPart (id : RunId) (entry : TaskId × Task) : Bool := entry.2.job.run? = some id

/-- A run and its tasks are left alone. -/
structure Untouched (id : RunId) (host host' : Host) : Prop where
  /-- The run stays. -/
  run : host'.run? id = host.run? id
  /-- So do its tasks. -/
  tasks : host'.tasks.filter (isPart id) = host.tasks.filter (isPart id)
  /-- Names are given in order. -/
  nextTask : host.nextTask ≤ host'.nextTask
  /-- A task stays in its run, and its name is not given again. -/
  names : ∀ entry ∈ host'.tasks, entry.1 < host.nextTask →
    ∃ before ∈ host.tasks, before.1 = entry.1 ∧ before.2.job.run? = entry.2.job.run?

/-- Something happens on a host that a pump has no part in: nobody else takes messages from its
queue, but anybody may put some into it. -/
structure Apart (key : PumpKey) (queue : String) (stage : Stage) (host host' : Host) : Prop where
  /-- The tasks are in order. -/
  orderly : host'.Orderly
  /-- The pump stays as it was. -/
  pump : host'.pump? key = host.pump? key
  /-- The queue gets longer at most. -/
  queue : Broker.Extends queue host.world.broker host'.world.broker
  /-- The run of the pump is left alone. -/
  run : ∀ id, stage.run? = some id → Untouched id host host'

/-- What happens next. -/
inductive Step (key : PumpKey) (queue : String) (concurrency : Concurrency) :
    Ledger → Ledger → Prop where
  /-- Something happens elsewhere; messages may be put into the queue. -/
  | apart {ledger : Ledger} {host' : Host} (h : Apart key queue ledger.stage ledger.host host') :
      Step key queue concurrency ledger
        { ledger with
          host := host'
          pushed := ledger.pushed ++ arrived queue ledger.host.world.broker host'.world.broker }
  /-- The pump is started. -/
  | start {ledger : Ledger} (hready : ledger.stage = .ready) :
      Step key queue concurrency ledger
        { ledger with
          host := (ledger.host.startPump key concurrency).2
          stage := .running ledger.host.runs.size }
  /-- The receiving task goes on, for as many steps as one likes. -/
  | receive {ledger : Ledger} {id : RunId} {run : PumpRun} {phase : ReceivePhase} (fuel : Nat)
      (hid : ledger.stage.run? = some id) (hrun : ledger.host.run? id = some run)
      (hjob : (ledger.host.task? run.receiver).map Task.job = some (.receive id phase)) :
      Step key queue concurrency ledger
        { ledger with
          host := receiveMessages run.receiver id fuel phase ledger.host
          discarded := ledger.discarded ++
            (receipts run.receiver id fuel phase ledger.host).filter (·.isDropped) }
  /-- A task that processes a message goes on. -/
  | process {ledger : Ledger} {id : RunId} {run : PumpRun} {task : TaskId} {queued : Queued}
      {rest : Act StageResult} (hid : ledger.stage.run? = some id)
      (hrun : ledger.host.run? id = some run)
      (hjob : (ledger.host.task? task).map Task.job = some (.process id queued rest)) :
      Step key queue concurrency ledger
        { ledger with
          host := ledger.host.pollTask task
          pushed := ledger.pushed ++ arrived queue ledger.host.world.broker
            (World.advance rest (ledger.host.worldAt run.site)).2.broker
          consumed := ledger.consumed ++
            settled queued (World.advance rest (ledger.host.worldAt run.site)).1 }
  /-- The pump is asked to stop. -/
  | stop {ledger : Ledger} {id : RunId} (hrunning : ledger.stage = .running id) :
      Step key queue concurrency ledger
        { ledger with host := (ledger.host.cancelPump key).2, stage := .stopping id }
  /-- The pump has stopped: it neither receives nor processes any more. -/
  | stopped {ledger : Ledger} {id : RunId} (hstopping : ledger.stage = .stopping id)
      (hdrained : isDrained id ledger.host = true) :
      Step key queue concurrency ledger { ledger with stage := .stopped id }

variable {key : PumpKey} {queue : String} {entry : PumpEntry} {concurrency : Concurrency}
  {id : RunId} {run : PumpRun} {host host' : Host} {task : TaskId} {ledger ledger' : Ledger}
  {α : Type}

/-! ### The queue -/

/-- A queue that gets longer holds what waited in it and what was put into it. -/
theorem waiting_of_extends {before after : Broker} (h : Broker.Extends queue before after)
    (hsome : (before.queue? queue).isSome) :
    waiting queue after = waiting queue before ++ arrived queue before after := by
  obtain ⟨messages, hmessages⟩ := Option.isSome_iff_exists.1 hsome
  obtain ⟨later, hlater⟩ := h messages hmessages
  simp [waiting, arrived, hmessages, hlater]

/-! ### A run that is left alone -/

/-- In a host that is `Orderly` a task has one name. -/
theorem task?_eq_some_iff (horderly : host.Orderly) {state : Task} :
    host.task? task = some state ↔ (task, state) ∈ host.tasks := by
  rw [Host.task?]
  constructor
  · intro h
    obtain ⟨entry, hentry, rfl⟩ := Option.map_eq_some_iff.1 h
    have hname : entry.1 = task := by simpa using List.find?_some hentry
    rw [← hname]
    exact List.mem_of_find?_eq_some hentry
  · intro h
    cases hfound : host.tasks.find? (·.1 = task) with
    | none =>
      rw [List.find?_eq_none] at hfound
      simpa using hfound _ h
    | some entry =>
      have hname : entry.1 = task := by simpa using List.find?_some hfound
      -- two tasks of one name are one task
      have hsame := List.inj_on_of_nodup_map horderly.distinct
        (List.mem_of_find?_eq_some hfound) h hname
      simp [hsame]

/-- What a task of the run processes is in flight. -/
theorem mem_flights {queued : Queued} {rest : Act StageResult}
    (h : (host.task? task).map Task.job = some (.process id queued rest)) :
    queued ∈ flights id host := by
  obtain ⟨state, hstate, hjob⟩ := Option.map_eq_some_iff.1 h
  rw [Host.task?] at hstate
  obtain ⟨entry, hentry, rfl⟩ := Option.map_eq_some_iff.1 hstate
  refine List.mem_filterMap.2 ⟨entry, List.mem_of_find?_eq_some hentry, ?_⟩
  rw [hjob]
  exact if_pos rfl

/-- Only the tasks of a run have messages of it in flight. -/
theorem flightsOf_filter (id : RunId) (tasks : List (TaskId × Task)) :
    flightsOf id (tasks.filter (isPart id)) = flightsOf id tasks := by
  rw [flightsOf, List.filterMap_filter, flightsOf]
  congr 1
  funext entry
  cases hjob : entry.2.job <;> simp [isPart, flightOf, Job.run?, hjob]

/-- Only the tasks of a run hold permissions of it. -/
theorem heldByAll_filter (id : RunId) (tasks : List (TaskId × Task)) :
    heldByAll id (tasks.filter (isPart id)) = heldByAll id tasks := by
  induction tasks with
  | nil => rfl
  | cons entry rest ih =>
    by_cases hpart : isPart id entry
    · rw [List.filter_cons_of_pos hpart, heldByAll, ih, heldByAll]
    · have hjob : entry.2.job.run? ≠ some id := by simpa [isPart] using hpart
      rw [List.filter_cons_of_neg hpart, ih, heldByAll, heldBy_eq_zero hjob, Nat.zero_add]

namespace Untouched

variable (h : Untouched id host host')
include h

theorem mem_iff {entry : TaskId × Task} (hentry : entry.2.job.run? = some id) :
    entry ∈ host'.tasks ↔ entry ∈ host.tasks := by
  have hfilter : entry ∈ host'.tasks.filter (isPart id) ↔
      entry ∈ host.tasks.filter (isPart id) := by
    rw [h.tasks]
  simpa [List.mem_filter, isPart, hentry] using hfilter

theorem flights : Conservation.flights id host' = Conservation.flights id host := by
  rw [Conservation.flights, ← flightsOf_filter, h.tasks, flightsOf_filter, Conservation.flights]

theorem held : Redelivery.held id host' = Redelivery.held id host := by
  rw [Redelivery.held, ← heldByAll_filter, h.tasks, heldByAll_filter, Redelivery.held]

theorem job (horderly : host.Orderly) (horderly' : host'.Orderly) {job : Job}
    (hjob : job.run? = some id) (htask : (host'.task? task).map Task.job = some job) :
    (host.task? task).map Task.job = some job := by
  obtain ⟨state, hstate, rfl⟩ := Option.map_eq_some_iff.1 htask
  rw [task?_eq_some_iff horderly', h.mem_iff hjob, ← task?_eq_some_iff horderly] at hstate
  rw [hstate, Option.map_some]

theorem receiver (hpumps : Pumps id run host) (horderly' : host'.Orderly) {state : Task}
    (hstate : host'.task? run.receiver = some state) :
    host.task? run.receiver = some state := by
  have hmem := (task?_eq_some_iff horderly').1 hstate
  obtain ⟨before, hbefore, hname, hsame⟩ := h.names _ hmem hpumps.named
  obtain ⟨phase, hphase⟩ := hpumps.receiving before.2
    ((task?_eq_some_iff hpumps.orderly).2 (by rwa [← show before.1 = run.receiver from hname]))
  rw [hphase] at hsame
  rw [h.mem_iff hsame.symm] at hmem
  exact (task?_eq_some_iff hpumps.orderly).2 hmem

theorem pumps (hpumps : Pumps id run host) (horderly' : host'.Orderly) : Pumps id run host' where
  orderly := horderly'
  known := by
    rw [h.run]
    exact hpumps.known
  named := Nat.lt_of_lt_of_le hpumps.named h.nextTask
  receiving state hstate := hpumps.receiving state (h.receiver hpumps horderly' hstate)

end Untouched

/-! ### What is known of a ledger -/

/-- What is known of the run of a pump that was started. -/
structure Tended (key : PumpKey) (entry : PumpEntry) (queue : String) (concurrency : Concurrency)
    (stage : Stage) (id : RunId) (receiver : TaskId) (host : Host) : Prop where
  /-- The run belongs to the host. -/
  pumps : Pumps id (startedRun key.site entry queue concurrency receiver) host
  /-- It has no more permissions than it was started with. -/
  limited : Limited id (concurrency.getD defaultConcurrency) host
  /-- It counts the messages in flight. -/
  counted : Counted id host
  /-- What is left to do for a message is left of what the pump does with it. -/
  faithful : ∀ task queued rest,
    (host.task? task).map Task.job = some (.process id queued rest) →
      Leads (invocation entry queued.message) rest
  /-- Until it is asked to stop the pump has the run. -/
  running : stage = .running id → (host.pump? key).bind PumpState.running = some id
  /-- Once it has stopped nobody receives, and nothing is in flight. -/
  stopped : stage = .stopped id → host.task? receiver = none ∧ flights id host = []

/-- What is known of a ledger. -/
structure Sound (key : PumpKey) (entry : PumpEntry) (queue : String) (concurrency : Concurrency)
    (ledger : Ledger) : Prop where
  /-- The tasks are in order. -/
  orderly : ledger.host.Orderly
  /-- The queue is there. -/
  hasQueue : (ledger.host.world.broker.queue? queue).isSome
  /-- Each message is somewhere. -/
  balance : ∀ queued, ledger.pushed.count queued
    = (waiting queue ledger.host.world.broker).count queued
      + (inFlight ledger.stage ledger.host).count queued
      + (ledger.consumed.map (·.1)).count queued + (ledger.discarded.map (·.queued)).count queued
  /-- A dropped message was looked at too late. -/
  discarded : ∀ receipt ∈ ledger.discarded, receipt.isDropped = true
  /-- A consumed message was processed to an end with which the transport is done with it. -/
  consumed : ∀ queued outcome, (queued, outcome) ∈ ledger.consumed →
    outcome.commits = true ∧ (invocation entry queued.message).Yields (.ok outcome)
  /-- A pump that was set up does what it was told. -/
  ready : ledger.stage = .ready → ledger.host.pump? key = some { key, entry, queue }
  /-- A pump that was started has a run. -/
  run : ∀ id, ledger.stage.run? = some id →
    ∃ receiver, Tended key entry queue concurrency ledger.stage id receiver ledger.host

/-- What is `inFlight` for a ledger that has a run are the `flights` of that run. -/
theorem inFlight_eq {stage : Stage} (hid : stage.run? = some id) (host : Host) :
    inFlight stage host = flights id host := by
  rw [inFlight, hid]

/-- What is known stays known when something happens elsewhere. -/
theorem Sound.apart (hs : Sound key entry queue concurrency ledger)
    (h : Apart key queue ledger.stage ledger.host host') :
    Sound key entry queue concurrency
      { ledger with
        host := host'
        pushed := ledger.pushed ++ arrived queue ledger.host.world.broker host'.world.broker } where
  orderly := h.orderly
  hasQueue := h.queue.isSome hs.hasQueue
  balance queued := by
    -- what is in flight stays there, and what arrives in the queue was put into it
    have hflights : inFlight ledger.stage host' = inFlight ledger.stage ledger.host := by
      rw [inFlight, inFlight]
      split
      · next id hid => exact (h.run id hid).flights
      · rfl
    have hbefore := hs.balance queued
    rw [hflights, waiting_of_extends h.queue hs.hasQueue]
    simp only [List.count_append]
    omega
  discarded := hs.discarded
  consumed := hs.consumed
  ready hready := h.pump.trans (hs.ready hready)
  run id hid := by
    obtain ⟨receiver, ht⟩ := hs.run id hid
    have hu := h.run id hid
    refine ⟨receiver, hu.pumps ht.pumps h.orderly, ?_, ?_, ?_, ?_, ?_⟩
    · intro run hrun
      rw [hu.run] at hrun
      rw [hu.held]
      exact ht.limited run hrun
    · intro run hrun
      rw [hu.run] at hrun
      rw [hu.flights]
      exact ht.counted run hrun
    · intro task queued rest hjob
      exact ht.faithful task queued rest (hu.job hs.orderly h.orderly rfl hjob)
    · intro hrunning
      rw [h.pump]
      exact ht.running hrunning
    · intro hstopped
      obtain ⟨hgone, hnone⟩ := ht.stopped hstopped
      refine ⟨?_, hu.flights.trans hnone⟩
      rw [Option.eq_none_iff_forall_ne_some]
      intro state hstate
      exact absurd (hu.receiver ht.pumps h.orderly hstate) (by simp [startedRun, hgone])

/-- Started, a pump that was set up has a run with nothing in flight. -/
theorem Sound.start (hs : Sound key entry queue concurrency ledger)
    (hready : ledger.stage = .ready) :
    Sound key entry queue concurrency
      { ledger with
        host := (ledger.host.startPump key concurrency).2
        stage := .running ledger.host.runs.size } := by
  have hpump := hs.ready hready
  have hmans := mans_startPump hs.orderly hpump rfl concurrency
  have hworld : (ledger.host.startPump key concurrency).2.world = ledger.host.world := by
    unfold startPump
    rw [hpump]
    rfl
  -- a new run holds no permission, so that it has nothing in flight
  have hnone : flights ledger.host.runs.size (ledger.host.startPump key concurrency).2 = [] := by
    have hlength := length_flights_le ledger.host.runs.size
      (ledger.host.startPump key concurrency).2
    rw [hmans.unheld] at hlength
    exact List.eq_nil_of_length_eq_zero (Nat.le_zero.1 hlength)
  refine ⟨hmans.pumps.orderly, ?_, ?_, hs.discarded, hs.consumed, nofun, ?_⟩
  · rw [hworld]
    exact hs.hasQueue
  · intro queued
    have hbefore := hs.balance queued
    rw [hready] at hbefore
    rw [hworld, inFlight_eq rfl, hnone]
    exact hbefore
  · rintro id ⟨⟩
    refine ⟨_, hmans.pumps, hmans.limited, ?_, ?_, fun _ => hmans.running, nofun⟩
    · intro run hrun
      cases hmans.fresh.symm.trans hrun
      rw [hnone]
      rfl
    · intro task queued rest hjob
      have hmem := mem_flights hjob
      rw [hnone] at hmem
      cases hmem

/-- What is taken from the queue is dropped or processed. -/
theorem count_taken (taken : List Receipt) (queued : Queued) :
    (taken.map (·.queued)).count queued = (begun taken).count queued
      + ((taken.filter (·.isDropped)).map (·.queued)).count queued := by
  induction taken with
  | nil => rfl
  | cons receipt rest ih =>
    by_cases hdropped : receipt.isDropped <;>
      simp_all [begun, List.count_cons] <;> omega

/-- The receiving task of the run moves messages from the queue into flight, or drops them. -/
theorem Sound.receive (hs : Sound key entry queue concurrency ledger) {phase : ReceivePhase}
    (fuel : Nat) (hid : ledger.stage.run? = some id) (hrun : ledger.host.run? id = some run)
    (hjob : (ledger.host.task? run.receiver).map Task.job = some (.receive id phase)) :
    Sound key entry queue concurrency
      { ledger with
        host := receiveMessages run.receiver id fuel phase ledger.host
        discarded := ledger.discarded ++
          (receipts run.receiver id fuel phase ledger.host).filter (·.isDropped) } := by
  obtain ⟨receiver, ht⟩ := hs.run id hid
  obtain ⟨run', hrun', hsame⟩ := ht.pumps.known
  cases hrun.symm.trans hrun'
  have hreceiver : run.receiver = receiver := hsame.receiver
  rw [hreceiver] at hjob ⊢
  have htakes : Takes id (startedRun key.site entry queue concurrency receiver) ledger.host
      (receipts receiver id fuel phase ledger.host)
      (receiveMessages receiver id fuel phase ledger.host) :=
    receiveMessages_takes fuel phase ht.pumps
  obtain ⟨messages, hmessages⟩ := Option.isSome_iff_exists.1 hs.hasQueue
  obtain ⟨left, hsplit, hleft⟩ := htakes.queue messages hmessages
  have hleft' : (receiveMessages receiver id fuel phase ledger.host).world.broker.queue? queue
      = some left := hleft
  refine ⟨htakes.pumps.orderly, ?_, ?_, ?_, hs.consumed, ?_, ?_⟩
  · rw [hleft']
    rfl
  -- what was taken was the front of the queue, and is in flight or dropped now
  · intro queued
    have hbefore := hs.balance queued
    have hflights := htakes.flying.count_eq queued
    have htaken := count_taken (receipts receiver id fuel phase ledger.host) queued
    rw [inFlight_eq hid, waiting, hmessages, Option.getD_some, hsplit] at hbefore
    rw [inFlight_eq hid, waiting, hleft', Option.getD_some]
    simp only [List.count_append, List.map_append] at hbefore hflights ⊢
    omega
  · intro receipt hmem
    rcases List.mem_append.1 hmem with hmem | hmem
    · exact hs.discarded receipt hmem
    · exact (List.mem_filter.1 hmem).2
  · intro hready
    rw [hready] at hid
    cases hid
  · intro id' hid'
    cases hid.symm.trans hid'
    obtain ⟨state, hstate, hphase⟩ := Option.map_eq_some_iff.1 hjob
    refine ⟨receiver, htakes.pumps, ?_, htakes.counted ht.counted, ?_, ?_, ?_⟩
    · refine receiveMessages_limited fuel phase ht.pumps fun run' hrun' => ?_
      have hlimit := ht.limited run' hrun'
      rw [held_eq_of_task? id hs.orderly hstate, hphase] at hlimit
      exact hlimit
    · intro task queued rest hprocess
      rcases htakes.fresh task queued rest hprocess with hbefore | rfl
      · exact ht.faithful task queued rest hbefore
      · exact .refl
    · intro hrunning
      rw [pump?, htakes.kept]
      exact ht.running hrunning
    · intro hstopped
      rw [(ht.stopped hstopped).1] at hstate
      cases hstate

/-- The message of a task that has ended may go back to its queue. -/
def returned (queued : Queued) (progress : Progress StageResult) : List Queued :=
  match ending? progress with
  | some ending => if isReturned ending then [queued] else []
  | none => []

/-- A message that lands goes back to its queue, or the transport is done with it. -/
theorem landed_eq (queued : Queued) (progress : Progress StageResult) :
    landed queued progress
      = returned queued progress ++ (settled queued progress).map (·.1) := by
  rcases progress with ((failure | outcome) | payload | ⟨millis, rest⟩)
  · rfl
  · cases outcome <;> rfl
  · rfl
  · rfl

/-- A message is `settled` by its own attempt, with the outcome of that. -/
theorem mem_settled {queued other : Queued} {progress : Progress StageResult} {outcome : Outcome}
    (h : (other, outcome) ∈ settled queued progress) :
    other = queued ∧ outcome.commits = true ∧ progress = .finished (.ok outcome) := by
  unfold settled at h
  split at h
  · split at h
    · next hcommits =>
      cases List.mem_singleton.1 h
      exact ⟨rfl, hcommits, rfl⟩
    · cases h
  · cases h

/-- What waits in the queue when a task that processes a message has gone on. -/
theorem waiting_pollTask (h : Pumps id run host) {queued : Queued} {rest : Act StageResult}
    (hjob : (host.task? task).map Task.job = some (.process id queued rest))
    (hqueue : (queued? run host).isSome) {progress : Progress StageResult} {world : World}
    (hadvance : World.advance rest (host.worldAt run.site) = (progress, world)) :
    ((host.pollTask task).world.broker.queue? run.queue).isSome ∧
      waiting run.queue (host.pollTask task).world.broker
        = returned queued progress ++ waiting run.queue world.broker := by
  have hextends := World.extends_advance run.queue rest (host.worldAt run.site)
  rw [hadvance] at hextends
  obtain ⟨messages, hmessages⟩ := Option.isSome_iff_exists.1 (hextends.isSome hqueue)
  -- a result and a panic end the processing alike
  have hended {ending : Except Panic StageResult} (hending : ending? progress = some ending) :
      ((host.pollTask task).world.broker.queue? run.queue).isSome ∧
        waiting run.queue (host.pollTask task).world.broker
          = returned queued progress ++ waiting run.queue world.broker := by
    obtain ⟨-, -, hafter⟩ := pollProcessing_ended h hjob hadvance hending
    rw [queued?] at hafter
    rw [waiting, hafter, returned, hending, waiting, hmessages]
    dsimp only
    split <;> simp
  cases progress with
  | asleep millis rest' =>
    obtain ⟨-, -, hafter⟩ := pollProcessing_asleep h hjob hadvance
    rw [queued?] at hafter
    rw [waiting, hafter, waiting, hmessages]
    exact ⟨rfl, rfl⟩
  | finished result => exact hended rfl
  | panicked payload => exact hended rfl

/-- A task that processes a message leaves it in flight, settles it or puts it back. -/
theorem Sound.process (hs : Sound key entry queue concurrency ledger) {queued : Queued}
    {rest : Act StageResult} (hid : ledger.stage.run? = some id)
    (hrun : ledger.host.run? id = some run)
    (hjob : (ledger.host.task? task).map Task.job = some (.process id queued rest)) :
    Sound key entry queue concurrency
      { ledger with
        host := ledger.host.pollTask task
        pushed := ledger.pushed ++ arrived queue ledger.host.world.broker
          (World.advance rest (ledger.host.worldAt run.site)).2.broker
        consumed := ledger.consumed ++
          settled queued (World.advance rest (ledger.host.worldAt run.site)).1 } := by
  obtain ⟨receiver, ht⟩ := hs.run id hid
  obtain ⟨run', hrun', hsame⟩ := ht.pumps.known
  cases hrun.symm.trans hrun'
  have hsite : (startedRun key.site entry queue concurrency receiver).site = run.site :=
    hsame.site.symm
  rw [← hsite]
  have hsettles := pollProcessing_settles ht.pumps hjob
  have hlimited := pollProcessing_limited ht.pumps ht.limited hjob
  obtain ⟨hpumps, -⟩ := pollProcessing_queue ht.pumps hjob
  have hextends := World.extends_advance queue rest
    (ledger.host.worldAt (startedRun key.site entry queue concurrency receiver).site)
  obtain ⟨hqueue, hwaiting⟩ := waiting_pollTask ht.pumps hjob hs.hasQueue rfl
  generalize hadvance : World.advance rest (ledger.host.worldAt _) = advanced at *
  obtain ⟨progress, world⟩ := advanced
  have harrived : waiting queue world.broker = waiting queue ledger.host.world.broker ++
      arrived queue ledger.host.world.broker world.broker := waiting_of_extends hextends hs.hasQueue
  have hwaiting : waiting queue (ledger.host.pollTask task).world.broker
      = returned queued progress ++ waiting queue world.broker := hwaiting
  refine ⟨hpumps.orderly, hqueue, ?_, hs.discarded, ?_, ?_, ?_⟩
  -- what has landed waits again or is done with, and the endpoint may have filled its own queue
  · intro other
    have hbefore := hs.balance other
    have hflights := hsettles.flying.count_eq other
    rw [landed_eq] at hflights
    rw [inFlight_eq hid] at hbefore
    rw [inFlight_eq hid, hwaiting, harrived]
    simp only [List.count_append, List.map_append] at hflights ⊢
    omega
  · intro other outcome hmem
    rcases List.mem_append.1 hmem with hmem | hmem
    · exact hs.consumed other outcome hmem
    · obtain ⟨rfl, hcommits, hfinished⟩ := mem_settled hmem
      change progress = _ at hfinished
      rw [hfinished] at hadvance
      exact ⟨hcommits, (ht.faithful task other rest hjob).yields (yields_of_finished hadvance)⟩
  · intro hready
    rw [hready] at hid
    cases hid
  · intro id' hid'
    cases hid.symm.trans hid'
    refine ⟨receiver, hpumps, hlimited, hsettles.counted ht.counted, ?_, ?_, ?_⟩
    · intro other queued' last hlast
      obtain ⟨before, hbefore, hleads⟩ := hsettles.leads other queued' last hlast
      exact (ht.faithful other queued' before hbefore).trans hleads
    · intro hrunning
      rw [pump?, hsettles.kept]
      exact ht.running hrunning
    -- a message is in flight, so that the pump has not stopped yet
    · intro hstopped
      have hmem := mem_flights hjob
      rw [(ht.stopped hstopped).2] at hmem
      cases hmem

section Cancelling

variable {f : Task → Task} (hf : ∀ state, (f state).job = state.job)
include hf

theorem job_modifyTask (host : Host) (task other : TaskId) :
    ((host.modifyTask task f).task? other).map Task.job = (host.task? other).map Task.job := by
  rw [task?_modifyTask, Option.map_map]
  congr 1
  funext state
  by_cases hsame : other = task <;> simp [hsame, hf]

theorem flights_modifyTask (id : RunId) (host : Host) (task : TaskId) :
    flights id (host.modifyTask task f) = flights id host := by
  rw [flights, flightsOf, modifyTask, List.filterMap_map, flights, flightsOf]
  congr 1
  funext entry
  by_cases hsame : entry.1 = task <;> simp [hsame, hf]

theorem held_modifyTask (id : RunId) (host : Host) (task : TaskId) :
    held id (host.modifyTask task f) = held id host := by
  unfold held modifyTask
  dsimp only
  induction host.tasks with
  | nil => rfl
  | cons entry rest ih =>
    rw [List.map_cons, heldByAll, ih, heldByAll]
    by_cases hsame : entry.1 = task <;> simp [hsame, hf]

theorem orderly_modifyTask (h : host.Orderly) (task : TaskId) :
    (host.modifyTask task f).Orderly where
  named entry hentry := by
    obtain ⟨before, hbefore, rfl⟩ := List.mem_map.1 hentry
    split
    · next hname => exact hname ▸ h.named before hbefore
    · exact h.named before hbefore
  distinct := by
    rw [map_fst_modifyTask]
    exact h.distinct
  -- a task keeps the run of its job
  started entry hentry run hrun := by
    obtain ⟨before, hbefore, rfl⟩ := List.mem_map.1 hentry
    refine h.started before hbefore run ?_
    split at hrun
    · rwa [hf] at hrun
    · exact hrun

end Cancelling

/-- To ask a run to stop loses nothing. -/
theorem Sound.stop (hs : Sound key entry queue concurrency ledger)
    (hstage : ledger.stage = .running id) :
    Sound key entry queue concurrency
      { ledger with host := (ledger.host.cancelPump key).2, stage := .stopping id } := by
  have hid : ledger.stage.run? = some id := by rw [hstage]; rfl
  obtain ⟨receiver, ht⟩ := hs.run id hid
  obtain ⟨run, hrun, hsame⟩ := ht.pumps.known
  -- the receiving task is told, and the pump may be started anew
  let told := (ledger.host.modifyPump key fun pump => { pump with running := none }).modifyTask
    run.receiver fun task => { task with cancelled := true }
  have hcancel : (ledger.host.cancelPump key).2 = told.wake run.receiver := by
    have hrun' : (ledger.host.modifyPump key fun pump => { pump with running := none }).run? id
        = some run := hrun
    simp only [cancelPump, ht.running hstage, hrun']
    rfl
  have halike := wake_alike told run.receiver
  rw [hcancel]
  have hkeeps : ∀ state : Task, ({ state with cancelled := true } : Task).job = state.job :=
    fun _ => rfl
  have hjobs (other : TaskId) : ((told.wake run.receiver).task? other).map Task.job
      = (ledger.host.task? other).map Task.job := by
    rw [halike.task?]
    exact job_modifyTask hkeeps _ _ _
  have hflights : flights id (told.wake run.receiver) = flights id ledger.host := by
    rw [flights_congr halike.tasks]
    exact flights_modifyTask hkeeps id _ _
  have hheld : held id (told.wake run.receiver) = held id ledger.host := by
    unfold held
    rw [halike.tasks]
    exact held_modifyTask hkeeps id _ _
  have hmodified : (ledger.host.modifyPump key fun pump => { pump with running := none }).Orderly :=
    hs.orderly.congr rfl rfl (Nat.le_refl _)
  have horderly : (told.wake run.receiver).Orderly :=
    halike.orderly (orderly_modifyTask hkeeps hmodified run.receiver)
  have hruns (other : RunId) : (told.wake run.receiver).run? other = ledger.host.run? other :=
    halike.run? other
  refine ⟨horderly, ?_, ?_, hs.discarded, hs.consumed, nofun, ?_⟩
  · rw [halike.world]
    exact hs.hasQueue
  · intro queued
    have hbefore := hs.balance queued
    rw [inFlight_eq hid] at hbefore
    rw [inFlight_eq rfl, hflights, halike.world]
    exact hbefore
  · rintro id' ⟨⟩
    refine ⟨receiver, ⟨horderly, ?_, ?_, ?_⟩, ?_, ?_, ?_, nofun, nofun⟩
    · exact ⟨run, (hruns id).trans hrun, hsame⟩
    · rw [halike.nextTask]
      exact ht.pumps.named
    · intro state hstate
      have hjob := hjobs receiver
      rw [show (told.wake run.receiver).task? receiver = some state from hstate] at hjob
      obtain ⟨before, hbefore, hbeforeJob⟩ := Option.map_eq_some_iff.1 hjob.symm
      obtain ⟨phase, hphase⟩ := ht.pumps.receiving before hbefore
      exact ⟨phase, hbeforeJob.symm.trans hphase⟩
    · intro run' hrun'
      rw [hheld]
      exact ht.limited run' ((hruns id).symm.trans hrun')
    · intro run' hrun'
      rw [hflights]
      exact ht.counted run' ((hruns id).symm.trans hrun')
    · intro task queued rest hjob
      exact ht.faithful task queued rest ((hjobs task).symm.trans hjob)

/-- A pump that neither receives nor processes has nothing in flight. -/
theorem Sound.stopped (hs : Sound key entry queue concurrency ledger)
    (hstage : ledger.stage = .stopping id) (hdrained : isDrained id ledger.host = true) :
    Sound key entry queue concurrency { ledger with stage := .stopped id } := by
  have hid : ledger.stage.run? = some id := by rw [hstage]; rfl
  obtain ⟨receiver, ht⟩ := hs.run id hid
  obtain ⟨run, hrun, hsame⟩ := ht.pumps.known
  simp only [isDrained, hrun, Bool.and_eq_true, Option.isNone_iff_eq_none, beq_iff_eq] at hdrained
  obtain ⟨hgone, hzero⟩ := hdrained
  -- the run counts what is in flight, and counts none
  have hnone : flights id ledger.host = [] := by
    rw [ht.counted run hrun] at hzero
    exact List.eq_nil_of_length_eq_zero hzero
  refine ⟨hs.orderly, hs.hasQueue, ?_, hs.discarded, hs.consumed, nofun, ?_⟩
  · intro queued
    have hbefore := hs.balance queued
    rw [inFlight_eq hid] at hbefore
    rw [inFlight_eq rfl]
    exact hbefore
  · rintro id' ⟨⟩
    have hgone : ledger.host.task? receiver = none := by rwa [hsame.receiver] at hgone
    exact ⟨receiver, ht.pumps, ht.limited, ht.counted, ht.faithful, nofun,
      fun _ => ⟨hgone, hnone⟩⟩

/-- What is known of a ledger stays known whatever happens next. -/
theorem sound_step (hs : Sound key entry queue concurrency ledger)
    (hstep : Step key queue concurrency ledger ledger') :
    Sound key entry queue concurrency ledger' := by
  cases hstep with
  | apart h => exact hs.apart h
  | start hready => exact hs.start hready
  | receive fuel hid hrun hjob => exact hs.receive fuel hid hrun hjob
  | process hid hrun hjob => exact hs.process hid hrun hjob
  | stop hrunning => exact hs.stop hrunning
  | stopped hstopping hdrained => exact hs.stopped hstopping hdrained

/-- The ledger stays `Sound` along all steps. -/
theorem sound_of_steps (hs : Sound key entry queue concurrency ledger)
    (hsteps : ReflTransGen (Step key queue concurrency) ledger ledger') :
    Sound key entry queue concurrency ledger' := by
  induction hsteps with
  | refl => exact hs
  | tail _ hstep ih => exact sound_step ih hstep

/-- A pump that has stopped is not started again. -/
theorem stage_of_steps (hstage : ledger.stage = .stopped id)
    (hsteps : ReflTransGen (Step key queue concurrency) ledger ledger') :
    ledger'.stage = .stopped id := by
  induction hsteps with
  | refl => exact hstage
  | tail _ hstep ih =>
    cases hstep with
    | apart => exact ih
    | start hready => rw [ih] at hready; cases hready
    | receive => exact ih
    | process => exact ih
    | stop hrunning => rw [ih] at hrunning; cases hrunning
    | stopped hstopping => rw [ih] at hstopping; cases hstopping

/-! ### What happens elsewhere -/

/-- Where pumps and tasks are the same every run is `Untouched`. -/
theorem Untouched.of_same (hsame : SamePumps host host') (id : RunId) :
    Untouched id host host' where
  run := by rw [Host.run?, hsame.runs, Host.run?]
  tasks := by rw [hsame.tasks]
  nextTask := Nat.le_of_eq hsame.nextTask.symm
  names entry hentry _ := ⟨entry, by rwa [hsame.tasks] at hentry, rfl, rfl⟩

/-- An endpoint may act that takes no message from the queue. -/
theorem apart_inSite (horderly : host.Orderly) (stage : Stage) (site : SiteId) {γ : Type}
    {f : World → γ × World}
    (hextends : Broker.Extends queue host.world.broker (f (host.worldAt site)).2.broker) :
    Apart key queue stage host (host.inSite site f).2 := by
  have hsame := SamePumps.inSite host site f
  obtain ⟨host', hhost', halike⟩ := inSite_eq (rfl : f (host.worldAt site) = (_, _))
  refine ⟨hsame.orderly horderly, hsame.pump? key, ?_, fun id _ => .of_same hsame id⟩
  rw [hhost', halike.world]
  exact hextends

/-- Whoever pushes a message touches no run. -/
theorem apart_push (horderly : host.Orderly) (stage : Stage) (queued : Queued) :
    Apart key queue stage host (host.modifyBroker (·.push queue queued)) :=
  apart_inSite horderly stage _ (.push queue _ _ _)

/-! ### Stopping -/

/-- A wait that succeeds ends when its condition holds. -/
theorem of_await {condition : Host → Bool} {deadline : Option Nat} {fuel : Nat}
    (h : await condition deadline fuel host = (true, host')) : condition host' = true := by
  induction fuel generalizing host with
  | zero => cases h
  | succ fuel ih =>
    rw [await] at h
    -- to wait ends well only where the condition was seen to hold
    split at h
    · next hcondition =>
      cases h
      exact hcondition
    · split at h
      · cases h
      · split at h
        · exact ih h
        · split at h
          · next hcondition =>
            cases h
            exact hcondition
          · split at h
            · exact ih h
            · cases h

/-- A pump that was stopped with success neither receives nor processes any more. -/
theorem isDrained_of_stopPump {grace : Time.Span}
    (hrunning : (host.pump? key).bind PumpState.running = some id)
    (hrun : host.run? id = some run) (h : host.stopPump key grace = (.ok (), host')) :
    isDrained id host' = true := by
  have hrun' : (host.modifyPump key fun pump => { pump with running := none }).run? id
      = some run := hrun
  simp only [stopPump, cancelPump, hrunning, hrun'] at h
  split at h
  · next hawait =>
    cases h
    exact of_await hawait
  · cases h

/-! ### Every message is somewhere -/

/-- Where each message is that was ever put into the queue of a pump. -/
structure Accounted (key : PumpKey) (entry : PumpEntry) (queue : String)
    (concurrency : Concurrency) (ledger : Ledger) : Prop where
  /-- It waits, is in flight, was consumed or was dropped, and is nowhere else. -/
  somewhere : ledger.pushed.Perm
    (waiting queue ledger.host.world.broker ++ inFlight ledger.stage ledger.host ++
      ledger.consumed.map (·.1) ++ ledger.discarded.map (·.queued))
  /-- What was consumed was processed to an end with which the transport is done with it. -/
  consumed : ∀ queued outcome, (queued, outcome) ∈ ledger.consumed →
    outcome.commits = true ∧ (invocation entry queued.message).Yields (.ok outcome)
  /-- What was dropped was looked at after its time. -/
  discarded : ∀ receipt ∈ ledger.discarded, ∃ deadline,
    receipt.queued.discardAfter = some deadline ∧ deadline < receipt.time
  /-- What is in flight is processed as it was put into the queue, whatever was made of it
  before. -/
  unaltered : ∀ id task queued rest, ledger.stage.run? = some id →
    (ledger.host.task? task).map Task.job = some (.process id queued rest) →
      queued ∈ ledger.pushed ∧ Leads (invocation entry queued.message) rest
  /-- No more is in flight than is allowed. -/
  bounded : (inFlight ledger.stage ledger.host).length ≤ concurrency.getD defaultConcurrency
  /-- When stopping the pump succeeds, it has come to where it may be taken as stopped. -/
  drained : ∀ id grace host', ledger.stage = .running id →
    ledger.host.stopPump key grace = (.ok (), host') → isDrained id host' = true
  /-- Once the pump has stopped nothing is in flight any more. -/
  stopped : ∀ id ledger', ledger.stage = .stopped id →
    ReflTransGen (Step key queue concurrency) ledger ledger' →
      inFlight ledger'.stage ledger'.host = []

/-- A pump that has stopped has nothing in flight. -/
theorem Sound.inFlight_stopped (hs : Sound key entry queue concurrency ledger)
    (hstage : ledger.stage = .stopped id) : inFlight ledger.stage ledger.host = [] := by
  have hid : ledger.stage.run? = some id := by rw [hstage]; rfl
  obtain ⟨receiver, ht⟩ := hs.run id hid
  rw [inFlight_eq hid]
  exact (ht.stopped hstage).2

/-- What is known of a ledger says where each message is. -/
theorem Sound.accounted (hs : Sound key entry queue concurrency ledger) :
    Accounted key entry queue concurrency ledger where
  somewhere := by
    rw [List.perm_iff_count]
    intro queued
    simp only [List.count_append]
    exact hs.balance queued
  consumed := hs.consumed
  discarded receipt hmem := by
    have hdropped := hs.discarded receipt hmem
    unfold Receipt.isDropped Queued.isExpired at hdropped
    split at hdropped
    · next deadline hdeadline => exact ⟨deadline, hdeadline, by simpa using hdropped⟩
    · cases hdropped
  unaltered id task queued rest hid hjob := by
    obtain ⟨receiver, ht⟩ := hs.run id hid
    refine ⟨?_, ht.faithful task queued rest hjob⟩
    -- what is under way counts among the messages that were pushed
    have hcount := List.count_pos_iff.2 (mem_flights hjob)
    have hbalance := hs.balance queued
    rw [inFlight_eq hid] at hbalance
    exact List.count_pos_iff.1 (by omega)
  bounded := by
    unfold inFlight
    split
    · next id hid =>
      obtain ⟨receiver, ht⟩ := hs.run id hid
      obtain ⟨run, hrun, -⟩ := ht.pumps.known
      have hlimit := ht.limited run hrun
      have hlength := length_flights_le id ledger.host
      omega
    · exact Nat.zero_le _
  drained id grace host' hstage hstop := by
    obtain ⟨receiver, ht⟩ := hs.run id (by rw [hstage]; rfl)
    obtain ⟨run, hrun, -⟩ := ht.pumps.known
    exact isDrained_of_stopPump (ht.running hstage) hrun hstop
  stopped id ledger' hstage hsteps :=
    (sound_of_steps hs hsteps).inFlight_stopped (stage_of_steps hstage hsteps)

/-- What is known of a pump that was set up for the first time. -/
theorem sound_opened {ready : Host} {settings : PumpSettings} (horderly : host.Orderly)
    (hnone : host.pump? key = none)
    (hinit : host.initPump key entry settings = (.ok (), ready)) (hpurge : settings.purge = false) :
    Sound key entry settings.inputQueue concurrency
        { host := ready, pushed := waiting settings.inputQueue host.world.broker } := by
  obtain ⟨hready, hpump⟩ := initPump_ok hinit hnone horderly
  simp only [initPump, hpurge, hnone, Bool.false_eq_true, if_false] at hinit
  split at hinit
  · next hqueue =>
    cases hinit
    refine ⟨hready, hqueue, fun queued => ?_, nofun, nofun, fun _ => hpump, nofun⟩
    simp [inFlight, Stage.run?]
  · cases hinit

/-- **No message is lost, doubled or changed.** A pump is set up on a queue without emptying it, and
is started and stopped at some time; whatever happens, and in whatever order, each message that was
ever put into the queue waits in it, is in flight, was consumed, or was dropped because it was
received too late. -/
theorem accounted_for_each {ready : Host} {settings : PumpSettings} (horderly : host.Orderly)
    (hnone : host.pump? key = none)
    (hinit : host.initPump key entry settings = (.ok (), ready)) (hpurge : settings.purge = false)
    (hsteps : ReflTransGen (Step key settings.inputQueue concurrency)
      { host := ready, pushed := waiting settings.inputQueue host.world.broker } ledger) :
    Accounted key entry settings.inputQueue concurrency ledger :=
  (sound_of_steps (sound_opened horderly hnone hinit hpurge) hsteps).accounted

/-- A pump that is done with letters and wants to have everything else again. -/
def sorting : PumpEntry := fun message _ =>
  .done (.ok (if message.id = "letter" then .completed else .retryRequested))

/-- A host with a queue in which a letter waits, and something that is out of date. -/
def postOffice : Host where
  world :=
    { clock := ⟨60, 0⟩
      broker := (({} : Broker).createQueue "post").2.push "post" ⟨⟨"paper", ∅, []⟩, some ⟨0, 0⟩⟩
        |>.push "post" ⟨⟨"letter", ∅, []⟩, none⟩ }
  sites := #[{}]

/-- The host once the pump of the queue was set up. -/
def postReady : Host :=
  (postOffice.initPump ⟨0, 0⟩ sorting ⟨"post", "error", false, .receiveOnly⟩).2

/-- The host once the pump was started and has received. -/
def postReceived : Host :=
  receiveMessages 0 0 8 .acquiring (postReady.startPump ⟨0, 0⟩ (some 1)).2

/-- A letter is consumed and a paper dropped before the pump stops. -/
theorem accounted_for_each_letter : ∃ ledger,
    Accounted ⟨0, 0⟩ sorting "post" (some 1) ledger ∧ ledger.stage = .stopped 0 ∧
      ledger.pushed.map (·.message.id) = ["paper", "letter"] ∧
      ledger.consumed.map (·.1.message.id) = ["letter"] ∧
      ledger.discarded.map (·.queued.message.id) = ["paper"] := by
  have horderly : postOffice.Orderly := ⟨nofun, List.nodup_nil, nofun⟩
  have hnone : postOffice.pump? ⟨0, 0⟩ = none := rfl
  have hinit : postOffice.initPump ⟨0, 0⟩ sorting ⟨"post", "error", false, .receiveOnly⟩
      = (.ok (), postReady) := rfl
  have hstarted : Step ⟨0, 0⟩ "post" (some 1)
      { host := postReady, pushed := waiting "post" postOffice.world.broker } _ := .start rfl
  have hreceived := (ReflTransGen.single hstarted).tail (.receive 8 rfl rfl rfl)
  have hjob : (postReceived.task? 1).map Task.job = some (.process 0 _ _) := rfl
  have hprocessed := hreceived.tail (.process rfl rfl hjob)
  have hstopping := hprocessed.tail (.stop rfl)
  -- the receiving task ends as it has been asked to
  have hended := hstopping.tail (.receive 1 rfl rfl rfl)
  have hstopped := hended.tail (.stopped rfl (by decide +kernel))
  have haccounted := accounted_for_each horderly hnone hinit rfl hstopped
  exact ⟨_, haccounted, rfl, by decide +kernel, by decide +kernel, by decide +kernel⟩

end Messaging.Conservation
