import Messaging.Proofs.Moving

/-!
# What a pump does with a message

- `Pumps` says that a run of a pump belongs to a host, and that its tasks are in order.
- `Pops` is what becomes of a host when the first message is taken from the queue of the run, and
  `Misses` when there is none.
- `Receives` is what becomes of a host when the receiving task of a run goes on: what it takes from
  the queue is dropped because its time has passed, or it is processed by a new task.
  `receives_of_move` says so of one `Move` and `receiveMessages_receives` of any number of them.
- `Leaves` is what becomes of a host when a task that processes a message goes on: it sleeps, or it
  ends and the message is put back or not, as `isReturned` says.
-/

namespace Messaging.Redelivery

open Host

/-! ### Runs of a pump -/

/-- Runs that differ at most in their permits and in how much is in flight. -/
structure SameRun (run run' : PumpRun) : Prop where
  /-- The sites are the same. -/
  site : run'.site = run.site
  /-- What they do with messages is the same. -/
  entry : run'.entry = run.entry
  /-- The queues are the same. -/
  queue : run'.queue = run.queue
  /-- The receiving tasks are the same. -/
  receiver : run'.receiver = run.receiver

theorem SameRun.trans {first second third : PumpRun} (h : SameRun first second)
    (h' : SameRun second third) : SameRun first third :=
  ⟨h'.site.trans h.site, h'.entry.trans h.entry, h'.queue.trans h.queue,
    h'.receiver.trans h.receiver⟩

/-- A run of a pump belongs to a host. -/
structure Pumps (id : RunId) (run : PumpRun) (host : Host) : Prop where
  /-- The tasks of the host are in order. -/
  orderly : host.Orderly
  /-- The host has the run. -/
  known : ∃ run', host.run? id = some run' ∧ SameRun run run'
  /-- The receiving task has a name. -/
  named : run.receiver < host.nextTask
  /-- The receiving task receives. -/
  receiving : ∀ task, host.task? run.receiver = some task → ∃ phase, task.job = .receive id phase

/-- The messages that wait in the queue of a run. -/
def queued? (run : PumpRun) (host : Host) : Option (List Queued) :=
  host.world.broker.queue? run.queue

/-- What a run does with a message: its entry works in a scope of its own. -/
def processing (run : PumpRun) (message : Message) : Act StageResult := do
  let scope ← Act.rootScope
  run.entry message scope

/-- The task that processes a message of a run. -/
def processingTask (id : RunId) (run : PumpRun) (queued : Queued) (rest : Act StageResult) : Task :=
  { site := run.site, job := .process id queued rest }

/-- What becomes of a host when nothing is taken from the queue of a run. -/
structure Idles (id : RunId) (run : PumpRun) (host host' : Host) : Prop where
  /-- The run still belongs to it. -/
  pumps : Pumps id run host'
  /-- Tasks other than the receiving one do what they did. -/
  others : ∀ task state, task ≠ run.receiver → host.task? task = some state →
    host'.task? task = some state
  /-- No scope changes. -/
  scopes : host'.world.scopes = host.world.scopes
  /-- No list of staged operations changes. -/
  stagings : host'.world.stagings = host.world.stagings
  /-- The queue stays as it is. -/
  queue : queued? run host' = queued? run host

/-- What becomes of a host when the receiving task of a run goes on. -/
structure Receives (id : RunId) (run : PumpRun) (host host' : Host) : Prop where
  /-- The run still belongs to it. -/
  pumps : Pumps id run host'
  /-- Tasks other than the receiving one do what they did. -/
  others : ∀ task state, task ≠ run.receiver → host.task? task = some state →
    host'.task? task = some state
  /-- No scope changes. -/
  scopes : host'.world.scopes = host.world.scopes
  /-- No list of staged operations changes. -/
  stagings : host'.world.stagings = host.world.stagings
  /-- What is taken from the front of the queue is processed by a new task if it never expires. -/
  taken : ∀ messages, queued? run host = some messages → ∃ taken rest, messages = taken ++ rest ∧
    queued? run host' = some rest ∧ ∀ queued ∈ taken, queued.discardAfter = none →
      ∃ task, host.task? task = none ∧
        host'.task? task = some (processingTask id run queued (processing run queued.message))

variable {id : RunId} {run : PumpRun} {host host' host'' : Host}

/-- A task that processes is not the one that receives. -/
theorem Pumps.ne_receiver (h : Pumps id run host) {task : TaskId} {state : Task}
    (htask : host.task? task = some state) (hjob : ∀ phase, state.job ≠ .receive id phase) :
    task ≠ run.receiver := by
  rintro rfl
  obtain ⟨phase, hphase⟩ := h.receiving state htask
  exact hjob phase hphase

theorem Pumps.started (h : Pumps id run host) : id < host.runs.size := by
  obtain ⟨run', hrun', -⟩ := h.known
  exact (Array.getElem?_eq_some_iff.1 hrun').1

/-- So a task may be part of the run. -/
theorem Pumps.started_of_run? (h : Pumps id run host) {job : Job} (hjob : job.run? = some id)
    (other : RunId) (hother : job.run? = some other) : other < host.runs.size := by
  rw [hjob] at hother
  cases hother
  exact h.started

/-- Hosts with the same tasks, runs, scopes and lists of staged operations. -/
structure Steady (host host' : Host) : Prop where
  /-- The tasks are the same. -/
  tasks : host'.tasks = host.tasks
  /-- So is the name of the next one. -/
  nextTask : host'.nextTask = host.nextTask
  /-- So are the runs of pumps. -/
  runs : host'.runs = host.runs
  /-- So are the scopes. -/
  scopes : host'.world.scopes = host.world.scopes
  /-- So are the lists of staged operations. -/
  stagings : host'.world.stagings = host.world.stagings

theorem Steady.of_alike (h : Alike host host') : Steady host host' :=
  ⟨h.tasks, h.nextTask, h.runs, congrArg World.scopes h.world, congrArg World.stagings h.world⟩

/-- What an endpoint does on a host leaves it steady if it leaves scopes and staged operations. -/
theorem Steady.of_acting {world : World} {sites : Array Site}
    (h : Alike { host with world, sites } host') (hscopes : world.scopes = host.world.scopes)
    (hstagings : world.stagings = host.world.stagings) : Steady host host' :=
  ⟨h.tasks, h.nextTask, h.runs, (congrArg World.scopes h.world).trans hscopes,
    (congrArg World.stagings h.world).trans hstagings⟩

theorem Steady.trans (h : Steady host host') (h' : Steady host' host'') : Steady host host'' :=
  ⟨h'.tasks.trans h.tasks, h'.nextTask.trans h.nextTask, h'.runs.trans h.runs,
    h'.scopes.trans h.scopes, h'.stagings.trans h.stagings⟩

/-- It leaves a host steady that a task is told what it was notified of. -/
theorem Steady.unnotified (host : Host) (task : TaskId) : Steady host (host.unnotified task) :=
  ⟨rfl, rfl, rfl, rfl, rfl⟩

theorem Steady.task? (h : Steady host host') (task : TaskId) :
    host'.task? task = host.task? task := by
  rw [Host.task?, h.tasks, Host.task?]

/-- A run belongs to every host with the same tasks and runs. -/
theorem Pumps.congr (h : Pumps id run host) (htasks : host'.tasks = host.tasks)
    (hnext : host'.nextTask = host.nextTask) (hruns : host'.runs = host.runs) :
    Pumps id run host' where
  orderly := h.orderly.congr htasks hnext (Nat.le_of_eq (congrArg Array.size hruns.symm))
  known := by
    rw [run?, hruns]
    exact h.known
  named := by
    rw [hnext]
    exact h.named
  receiving task htask := by
    rw [Host.task?, htasks] at htask
    exact h.receiving task htask

theorem Pumps.of_steady (h : Pumps id run host) (hsteady : Steady host host') :
    Pumps id run host' := h.congr hsteady.tasks hsteady.nextTask hsteady.runs

/-- Hosts with the same tasks and pumps. -/
structure SamePumps (host host' : Host) : Prop where
  /-- The tasks are the same. -/
  tasks : host'.tasks = host.tasks
  /-- So is the name of the next one. -/
  nextTask : host'.nextTask = host.nextTask
  /-- So are the pumps. -/
  pumps : host'.pumps = host.pumps
  /-- So are the runs of pumps. -/
  runs : host'.runs = host.runs

namespace SamePumps

theorem refl (host : Host) : SamePumps host host := ⟨rfl, rfl, rfl, rfl⟩

theorem trans (h : SamePumps host host') (h' : SamePumps host' host'') : SamePumps host host'' :=
  ⟨h'.tasks.trans h.tasks, h'.nextTask.trans h.nextTask, h'.pumps.trans h.pumps,
    h'.runs.trans h.runs⟩

/-- An endpoint that acts changes no pump. -/
theorem inSite (host : Host) (site : SiteId) {γ : Type} (f : World → γ × World) :
    SamePumps host (host.inSite site f).2 := by
  obtain ⟨host', hhost', halike⟩ :=
    Host.inSite_eq (rfl : f (host.worldAt site) = ((f (host.worldAt site)).1, (f _).2))
  rw [hhost']
  exact ⟨halike.tasks, halike.nextTask, halike.pumps, halike.runs⟩

/-- Tasks are in order on a host with the same pumps. -/
theorem orderly (h : SamePumps host host') (horderly : host.Orderly) : host'.Orderly :=
  horderly.congr h.tasks h.nextTask (Nat.le_of_eq (congrArg Array.size h.runs.symm))

theorem pump? (h : SamePumps host host') (key : PumpKey) : host'.pump? key = host.pump? key := by
  rw [Host.pump?, h.pumps, Host.pump?]

end SamePumps

/-- What it leaves of a host to take the first message from the queue of a run. -/
structure Pops (run : PumpRun) (host : Host) (first : Queued) (host' : Host) : Prop where
  /-- Tasks, runs, scopes and staged operations are the same. -/
  steady : Steady host host'
  /-- So are the pumps. -/
  kept : host'.pumps = host.pumps
  /-- The message was the first of the queue. -/
  queue : ∃ rest, queued? run host = some (first :: rest) ∧ queued? run host' = some rest

/-- What it leaves of a host to find no message in the queue of a run. -/
structure Misses (run : PumpRun) (host host' : Host) : Prop where
  /-- Tasks, runs, scopes and staged operations are the same. -/
  steady : Steady host host'
  /-- So are the pumps. -/
  kept : host'.pumps = host.pumps
  /-- So is the queue. -/
  queue : queued? run host' = queued? run host

namespace Idles

/-- A steady host whose queue stays as it is. -/
theorem of_steady (h : Pumps id run host) (hsteady : Steady host host')
    (hqueue : queued? run host' = queued? run host) : Idles id run host host' where
  pumps := h.of_steady hsteady
  others task _ _ hstate := (hsteady.task? task).trans hstate
  scopes := hsteady.scopes
  stagings := hsteady.stagings
  queue := hqueue

theorem of_alike (h : Pumps id run host) (halike : Alike host host') : Idles id run host host' :=
  of_steady h (.of_alike halike) (by rw [queued?, halike.world, queued?])

/-- Nothing is taken twice. -/
theorem trans (h : Idles id run host host') (h' : Idles id run host' host'') :
    Idles id run host host'' where
  pumps := h'.pumps
  others task state hne hstate := h'.others task state hne (h.others task state hne hstate)
  scopes := h'.scopes.trans h.scopes
  stagings := h'.stagings.trans h.stagings
  queue := h'.queue.trans h.queue

/-- The receiving task waits. -/
theorem setJob (h : Pumps id run host) (phase : ReceivePhase) :
    Idles id run host (host.setJob run.receiver (.receive id phase)) where
  pumps :=
    { orderly := h.orderly.setJob _ (h.started_of_run? rfl)
      known := h.known
      named := h.named
      -- the receiving task is the one whose job is set, and it still receives
      receiving := fun task htask => by
        rw [Host.setJob, task?_modifyTask] at htask
        obtain ⟨before, -, rfl⟩ := Option.map_eq_some_iff.1 htask
        rw [if_pos rfl]
        exact ⟨phase, rfl⟩ }
  others task state hne hstate := by
    rw [Host.setJob, task?_modifyTask, hstate, Option.map_some, if_neg hne]
  scopes := rfl
  stagings := rfl
  queue := rfl

/-- The receiving task ends. -/
theorem finish (h : Pumps id run host) : Idles id run host (host.finish run.receiver) where
  pumps :=
    { orderly := h.orderly.finish _
      known := h.known
      named := h.named
      receiving := fun task htask => by
        rw [task?_finish, if_pos rfl] at htask
        cases htask }
  others task state hne hstate := by rw [task?_finish, if_neg hne, hstate]
  scopes := rfl
  stagings := rfl
  queue := rfl

/-- The numbers of the run change. -/
theorem modifyRun (h : Pumps id run host) {f : PumpRun → PumpRun}
    (hf : ∀ run, SameRun run (f run)) : Idles id run host (host.modifyRun id f) where
  pumps :=
    { orderly := h.orderly.congr rfl rfl (Nat.le_of_eq Array.size_modify.symm)
      known := by
        obtain ⟨run', hrun', hsame⟩ := h.known
        refine ⟨f run', ?_, hsame.trans (hf run')⟩
        rw [run?_modifyRun, hrun', Option.map_some, if_pos rfl]
      named := h.named
      receiving := h.receiving }
  others _ _ _ hstate := hstate
  scopes := rfl
  stagings := rfl
  queue := rfl

/-- A permission is given back. -/
theorem release (h : Pumps id run host) : Idles id run host (host.release id) := by
  have hmodify := modifyRun h (f := fun run => { run with permits := run.permits + 1 })
    fun run => ⟨rfl, rfl, rfl, rfl⟩
  unfold Host.release
  dsimp only
  split
  · split
    · exact hmodify.trans (of_alike hmodify.pumps (wake_alike _ _))
    · exact hmodify
  · exact hmodify

/-- A new task begins. -/
theorem spawn (h : Pumps id run host) (site : SiteId) {job : Job}
    (hjob : ∀ run, job.run? = some run → run < host.runs.size) :
    Idles id run host (host.spawn site job).2 where
  pumps :=
    { orderly := h.orderly.spawn site hjob
      known := h.known
      named := Nat.lt_succ_of_lt h.named
      receiving := fun task htask => by
        rw [task?_spawn h.orderly, if_neg (Nat.ne_of_lt h.named)] at htask
        exact h.receiving task htask }
  others task state _ hstate := by
    rw [task?_spawn h.orderly, if_neg (Nat.ne_of_lt (h.orderly.lt hstate)), hstate]
  scopes := rfl
  stagings := rfl
  queue := rfl

/-- A new task processes a message. -/
theorem startProcessing (h : Pumps id run host) {run' : PumpRun} (hsame : SameRun run run')
    (queued : Queued) :
    Idles id run host (host.startProcessing id run' queued) ∧
      host.task? host.nextTask = none ∧
        (host.startProcessing id run' queued).task? host.nextTask
          = some (processingTask id run queued (processing run queued.message)) := by
  have hjob : (Job.process id queued (processing run' queued.message)).run? = some id := rfl
  have hspawn := spawn h run'.site (h.started_of_run? hjob)
  have hmodify := modifyRun hspawn.pumps (f := fun run => { run with inFlight := run.inFlight + 1 })
    fun run => ⟨rfl, rfl, rfl, rfl⟩
  refine ⟨hspawn.trans hmodify, ?_, ?_⟩
  · -- names of tasks are given in order, so the next one is free
    cases hold : host.task? host.nextTask with
    | none => rfl
    | some state => exact absurd (h.orderly.lt hold) (Nat.lt_irrefl _)
  · have htask := task?_spawn h.orderly run'.site
      (.process id queued (processing run' queued.message)) host.nextTask
    rw [if_pos rfl] at htask
    refine htask.trans ?_
    rw [processingTask, processing, processing, hsame.site, hsame.entry]

end Idles

namespace Receives

/-- One may receive nothing. -/
theorem of_idles (h : Idles id run host host') : Receives id run host host' where
  pumps := h.pumps
  others := h.others
  scopes := h.scopes
  stagings := h.stagings
  taken messages hmessages := ⟨[], messages, rfl, h.queue.trans hmessages, nofun⟩

/-- One may receive twice. -/
theorem trans (h : Receives id run host host') (h' : Receives id run host' host'') :
    Receives id run host host'' where
  pumps := h'.pumps
  others task state hne hstate := h'.others task state hne (h.others task state hne hstate)
  scopes := h'.scopes.trans h.scopes
  stagings := h'.stagings.trans h.stagings
  taken messages hmessages := by
    obtain ⟨first, middle, rfl, hmiddle, hfirst⟩ := h.taken messages hmessages
    obtain ⟨second, rest, rfl, hrest, hsecond⟩ := h'.taken middle hmiddle
    refine ⟨first ++ second, rest, (List.append_assoc ..).symm, hrest, fun queued hmem hnever => ?_⟩
    rcases List.mem_append.1 hmem with hmem | hmem
    · obtain ⟨task, hnew, htask⟩ := hfirst queued hmem hnever
      exact ⟨task, hnew, h'.others task _ (h.pumps.ne_receiver htask nofun) htask⟩
    · obtain ⟨task, hnew, htask⟩ := hsecond queued hmem hnever
      refine ⟨task, ?_, htask⟩
      -- a task that is new later is new at first, since tasks other than the receiving one stay
      cases hold : host.task? task with
      | none => rfl
      | some state =>
        rw [h.others task state (h'.pumps.ne_receiver htask nofun) hold] at hnew
        cases hnew

/-- The first message is taken from the queue, and if it never expires a new task processes it. -/
theorem pop {first : Queued} (hpops : Pops run host first host') (h : Idles id run host' host'')
    (hfirst : first.discardAfter = none → ∃ task, host'.task? task = none ∧
      host''.task? task = some (processingTask id run first (processing run first.message))) :
    Receives id run host host'' where
  pumps := h.pumps
  others task state hne hstate :=
    h.others task state hne ((hpops.steady.task? task).trans hstate)
  scopes := h.scopes.trans hpops.steady.scopes
  stagings := h.stagings.trans hpops.steady.stagings
  -- the one message that is gone is processed, if it does not expire
  taken messages hmessages := by
    obtain ⟨rest, hqueue, hrest⟩ := hpops.queue
    rw [hqueue] at hmessages
    cases hmessages
    refine ⟨[first], rest, rfl, h.queue.trans hrest, fun queued hmem hnever => ?_⟩
    cases List.mem_singleton.1 hmem
    obtain ⟨task, hnew, htask⟩ := hfirst hnever
    exact ⟨task, (hpops.steady.task? task).symm.trans hnew, htask⟩

end Receives

/-! ### The receiving task -/

/-- The first message of a queue is taken, or there is none. -/
theorem takeMessage_cases (host : Host) {run' : PumpRun} (hsame : SameRun run run') :
    (∃ first host',
        host.takeMessage run' = (some (first, first.isExpired host.world.clock), host') ∧
          Pops run host first host') ∨
      ∃ host', host.takeMessage run' = (none, host') ∧ Misses run host host' := by
  rw [Host.takeMessage, hsame.queue]
  -- the queue has a first message or none; either way the tasks stay as they are
  rcases popMessage_cases run.queue (host.worldAt run'.site) with
    ⟨first, rest, now, broker, hqueue, hrest, hpop⟩ | hpop
  · obtain ⟨host', htake, halike⟩ := inSite_eq hpop
    refine .inl ⟨first, host', htake, .of_acting halike rfl rfl, halike.pumps, rest, hqueue, ?_⟩
    rw [queued?, halike.world]
    exact hrest
  · obtain ⟨host', htake, halike⟩ := inSite_eq hpop
    refine .inr ⟨host', htake, .of_acting halike rfl rfl, halike.pumps, ?_⟩
    rw [queued?, halike.world]
    rfl

/-- A task that waits for a message waits in line, or there is one already. -/
theorem awaitMessage_alike (host : Host) (task : TaskId) (run : PumpRun) :
    Alike host (host.awaitMessage task run).2 := by
  unfold Host.awaitMessage
  dsimp only
  split <;> exact ⟨rfl, rfl, rfl, rfl, rfl, rfl⟩

namespace Pumps

/-- The run that a host knows by now does what the run did. -/
theorem same (h : Pumps id run host) {run' : PumpRun} (hrun' : host.run? id = some run') :
    SameRun run run' := by
  obtain ⟨known, hknown, hsame⟩ := h.known
  cases hknown.symm.trans hrun'
  exact hsame

/-- A message that a task which `Looks` takes was the first of its queue. -/
theorem pops (h : Pumps id run host) {run' : PumpRun} (hlooks : Looks run.receiver id host run')
    {message : Queued} {expired : Bool}
    (htake : (host.unnotified run.receiver).takeMessage run' = (some (message, expired), host')) :
    Pops run host message host' ∧ message.isExpired host.world.clock = expired := by
  rcases takeMessage_cases (host.unnotified run.receiver) (h.same hlooks.known) with
    ⟨first, popped, hfirst, hsteady, hkept, hqueue⟩ | ⟨missed, hnone, -⟩
  · rw [hfirst] at htake
    cases htake
    exact ⟨⟨(Steady.unnotified host _).trans hsteady, hkept, hqueue⟩, rfl⟩
  · rw [hnone] at htake
    cases htake

/-- A task that finds no message leaves the queue as it is, whether one comes then or not. -/
theorem misses (h : Pumps id run host) {run' : PumpRun} (hlooks : Looks run.receiver id host run')
    {missed : Host} {found : Bool}
    (htake : (host.unnotified run.receiver).takeMessage run' = (none, missed))
    (hawait : missed.awaitMessage run.receiver run' = (found, host')) : Misses run host host' := by
  have halike := awaitMessage_alike missed run.receiver run'
  rw [hawait] at halike
  rcases takeMessage_cases (host.unnotified run.receiver) (h.same hlooks.known) with
    ⟨first, popped, hfirst, -⟩ | ⟨left, hnone, hsteady, hkept, hqueue⟩
  · rw [hfirst] at htake
    cases htake
  · rw [hnone] at htake
    cases htake
    have hleft := (Steady.unnotified host _).trans hsteady
    refine ⟨hleft.trans (.of_alike halike), halike.pumps.trans hkept, ?_⟩
    rw [queued?, halike.world]
    exact hqueue

end Pumps

/-- In one move the receiving task receives. -/
theorem receives_of_move (h : Pumps id run host) {phase : ReceivePhase} {taken : Option Queued}
    {next : Option ReceivePhase} (hmove : Move run.receiver id host phase taken next host') :
    Receives id run host host' := by
  cases hmove with
  | gone | woken => exact .of_idles (.of_alike h (.refl host))
  | ended => exact .of_idles (.finish h)
  | full => exact .of_idles (.setJob h .acquiring)
  | acquired => exact .of_idles (.modifyRun h fun run => ⟨rfl, rfl, rfl, rfl⟩)
  | @stopped run' =>
    have hstop := Idles.of_alike h
      (stopWaiting_alike host run.receiver (canonicalAddress run'.queue))
    have hfinish := hstop.trans (.finish hstop.pumps)
    exact .of_idles (hfinish.trans (.release hfinish.pumps))
  | dropped hlooks htake =>
    obtain ⟨hpops, hexpired⟩ := h.pops hlooks htake
    -- only a message that expires is dropped, so no task is owed for it
    refine .pop hpops (.release (h.of_steady hpops.steady)) fun hnever => ?_
    rw [Queued.isExpired, hnever] at hexpired
    cases hexpired
  | started hlooks htake =>
    obtain ⟨hpops, -⟩ := h.pops hlooks htake
    obtain ⟨hstart, hnew, htask⟩ :=
      Idles.startProcessing (h.of_steady hpops.steady) (h.same hlooks.known) _
    exact .pop hpops hstart fun _ => ⟨_, hnew, htask⟩
  | found hlooks htake hawait =>
    have hmisses := h.misses hlooks htake hawait
    exact .of_idles (.of_steady h hmisses.steady hmisses.queue)
  | waits hlooks htake hawait =>
    have hmisses := h.misses hlooks htake hawait
    have hidles := Idles.of_steady h hmisses.steady hmisses.queue
    exact .of_idles (hidles.trans (.setJob hidles.pumps .receiving))

/-- However far the receiving task goes on, it receives. -/
theorem receiveMessages_receives (fuel : Nat) (phase : ReceivePhase) (h : Pumps id run host) :
    Receives id run host (receiveMessages run.receiver id fuel phase host) := by
  -- by induction on the fuel: the run belongs to the host that a move leaves
  induction fuel generalizing phase host with
  | zero => exact .of_idles (.setJob h phase)
  | succ fuel ih =>
    obtain ⟨taken, next, host', hmove⟩ := exists_move run.receiver id phase host
    have hreceives := receives_of_move h hmove
    rw [hmove.receiveMessages_eq]
    cases next with
    | none => exact hreceives
    | some next => exact hreceives.trans (ih next hreceives.pumps)

/-- When the receiving task goes on, it receives. -/
theorem pollReceiver_receives (h : Pumps id run host) :
    Receives id run host (host.pollTask run.receiver) := by
  rw [pollTask]
  cases hstate : host.task? run.receiver with
  | none => exact .of_idles (.of_alike h (.refl host))
  | some state =>
    obtain ⟨phase, hphase⟩ := h.receiving state hstate
    dsimp only
    rw [hphase]
    exact receiveMessages_receives _ phase h

/-! ### Tasks that process -/

/-- How a program has ended that stands somewhere. -/
def ending? {α : Type} : Progress α → Option (Except Panic α)
  | .finished result => some (.ok result)
  | .panicked payload => some (.error payload)
  | .asleep .. => none

/-- Whether a message goes back to its queue once its processing has ended in some way. -/
def isReturned : Except Panic StageResult → Bool
  | .ok (.ok outcome) => !outcome.commits
  | .ok (.error _) | .error _ => true

/-- A host as an endpoint leaves it that has acted on the world. -/
structure Leaves (id : RunId) (run : PumpRun) (world : World) (host : Host) : Prop where
  /-- The run belongs to it. -/
  pumps : Pumps id run host
  /-- The scopes are those that the endpoint left. -/
  scopes : host.world.scopes = world.scopes
  /-- So are the lists of staged operations. -/
  stagings : host.world.stagings = world.stagings

/-- Where nothing is taken from the queue, a host stays as an endpoint left it. -/
theorem Leaves.of_idles {world : World} (h : Leaves id run world host)
    (hidles : Idles id run host host') : Leaves id run world host' :=
  ⟨hidles.pumps, hidles.scopes.trans h.scopes, hidles.stagings.trans h.stagings⟩

/-- An endpoint acts on the world of a host. -/
theorem acting (h : Pumps id run host) {α : Type} (site : SiteId) {f : World → α × World}
    {value : α} {world : World} (hf : f (host.worldAt site) = (value, world)) :
    ∃ host', host.inSite site f = (value, host') ∧ Leaves id run world host' ∧
      queued? run host' = world.broker.queue? run.queue ∧
        ∀ task, host'.task? task = host.task? task := by
  obtain ⟨host', hhost', halike⟩ := inSite_eq hf
  refine ⟨host', hhost', ⟨?_, ?_, ?_⟩, ?_, halike.task?⟩
  · -- the world and the site change, and pumps live in neither
    have hbefore : Pumps id run { host with
        world := { world with broker := { world.broker with arrivals := [] } }
        sites := host.sites.setIfInBounds site world.site } :=
      h.congr rfl rfl rfl
    exact (Idles.of_alike hbefore halike).pumps
  · rw [halike.world]
  · rw [halike.world]
  · rw [queued?, halike.world]
    rfl

/-- The processing of a message ends. -/
theorem endProcessing_leaves {world : World} (h : Leaves id run world host) {task : TaskId}
    (hne : task ≠ run.receiver) :
    Leaves id run world (host.endProcessing task id) ∧
      (host.endProcessing task id).task? task = none ∧
        queued? run (host.endProcessing task id) = queued? run host := by
  -- the task that ends is not the one that receives
  have hfinish : Pumps id run (host.finish task) :=
    { orderly := h.pumps.orderly.finish task
      known := h.pumps.known
      named := h.pumps.named
      receiving := fun state hstate => by
        rw [task?_finish, if_neg (Ne.symm hne)] at hstate
        exact h.pumps.receiving state hstate }
  have hmodify := Idles.modifyRun hfinish
    (f := fun run => { run with inFlight := run.inFlight - 1 }) fun run => ⟨rfl, rfl, rfl, rfl⟩
  have hend := hmodify.trans (.release hmodify.pumps)
  refine ⟨⟨hend.pumps, hend.scopes.trans h.scopes, hend.stagings.trans h.stagings⟩, ?_, hend.queue⟩
  have hgone : (host.finish task).task? task = none := by rw [task?_finish, if_pos rfl]
  rw [endProcessing, Host.task?, release_tasks]
  exact hgone

/-- A message goes back to the head of its queue. -/
theorem returnMessage_leaves {world : World} (h : Leaves id run world host) {run' : PumpRun}
    (hsame : SameRun run run') (queued : Queued) :
    Leaves id run world (host.returnMessage run' queued) ∧
      queued? run (host.returnMessage run' queued) = (queued? run host).map (queued :: ·) := by
  obtain ⟨host', hhost', hleaves, hqueue, -⟩ := acting h.pumps host.sites.size
    (f := fun world => ((), { world with broker := world.broker.requeue run'.queue queued })) rfl
  rw [returnMessage, modifyBroker, hhost']
  refine ⟨⟨hleaves.pumps, hleaves.scopes.trans h.scopes, hleaves.stagings.trans h.stagings⟩, ?_⟩
  refine hqueue.trans ?_
  rw [hsame.queue]
  exact Broker.queue?_requeue ..

/-- The critical error of a panic is raised. -/
theorem raisePanic_leaves {world : World} (h : Leaves id run world host) (run' : PumpRun)
    (payload : Panic) :
    Leaves id run world (host.raisePanic run' payload) ∧
      queued? run (host.raisePanic run' payload) = queued? run host := by
  obtain ⟨host', hhost', hleaves, hqueue, -⟩ := acting h.pumps run'.site
    (f := World.run (Act.raiseCritical pumpPanicked
      (TransportError.receive ("pipeline panicked: " ++ payload.message)).message)) rfl
  rw [raisePanic, hhost']
  exact ⟨⟨hleaves.pumps, hleaves.scopes.trans h.scopes, hleaves.stagings.trans h.stagings⟩, hqueue⟩

/-- When a task that processes a message goes on, its program does. -/
theorem pollTask_processing {task : TaskId} {queued : Queued} {rest : Act StageResult}
    (htask : (host.task? task).map Task.job = some (.process id queued rest)) :
    host.pollTask task = host.processMessage task id queued rest := by
  obtain ⟨state, hstate, hjob⟩ := Option.map_eq_some_iff.1 htask
  rw [pollTask, hstate]
  dsimp only
  rw [hjob]

/-- A task that processes a message sleeps. -/
theorem pollProcessing_asleep (h : Pumps id run host) {task : TaskId} {queued : Queued}
    {rest : Act StageResult}
    (htask : (host.task? task).map Task.job = some (.process id queued rest)) {millis : Nat}
    {rest' : Act StageResult} {world : World}
    (hadvance : World.advance rest (host.worldAt run.site) = (.asleep millis rest', world)) :
    Leaves id run world (host.pollTask task) ∧
      ((host.pollTask task).task? task).map Task.job = some (.process id queued rest') ∧
        queued? run (host.pollTask task) = world.broker.queue? run.queue := by
  obtain ⟨run', hrun', hsame⟩ := h.known
  obtain ⟨state, hstate, hjob⟩ := Option.map_eq_some_iff.1 htask
  obtain ⟨host', hhost', hleaves, hqueue, htasks⟩ := acting h run.site hadvance
  rw [pollTask_processing htask, processMessage, hrun']
  dsimp only
  rw [hsame.site, hhost']
  have hjob' : ((host'.setJob task (.process id queued rest')).task? task).map Task.job
      = some (.process id queued rest') := by
    rw [setJob, task?_modifyTask, htasks, hstate, Option.map_some, if_pos rfl]
    rfl
  -- the receiver has a job of its own, which setting this one leaves alone
  have hne : task ≠ run.receiver := h.ne_receiver hstate fun phase hphase => by
    rw [hjob] at hphase
    cases hphase
  have hpumps : Pumps id run (host'.setJob task (.process id queued rest')) :=
    { orderly := hleaves.pumps.orderly.setJob _ (hleaves.pumps.started_of_run? rfl)
      known := hleaves.pumps.known
      named := hleaves.pumps.named
      receiving := fun other hother => by
        rw [setJob, task?_modifyTask] at hother
        obtain ⟨before, hbefore, rfl⟩ := Option.map_eq_some_iff.1 hother
        rw [if_neg (Ne.symm hne)]
        exact hleaves.pumps.receiving before hbefore }
  exact ⟨⟨hpumps.congr rfl rfl rfl, hleaves.scopes, hleaves.stagings⟩, hjob', hqueue⟩

/-- A task that processes a message ends, and the message is put back or not. -/
theorem pollProcessing_ended (h : Pumps id run host) {task : TaskId} {queued : Queued}
    {rest : Act StageResult}
    (htask : (host.task? task).map Task.job = some (.process id queued rest))
    {progress : Progress StageResult} {ending : Except Panic StageResult} {world : World}
    (hadvance : World.advance rest (host.worldAt run.site) = (progress, world))
    (hending : ending? progress = some ending) :
    Leaves id run world (host.pollTask task) ∧ (host.pollTask task).task? task = none ∧
      queued? run (host.pollTask task)
        = if isReturned ending then (world.broker.queue? run.queue).map (queued :: ·)
          else world.broker.queue? run.queue := by
  obtain ⟨run', hrun', hsame⟩ := h.known
  obtain ⟨state, hstate, hjob⟩ := Option.map_eq_some_iff.1 htask
  obtain ⟨host', hhost', hleaves, hqueue, htasks⟩ := acting h run.site hadvance
  have hne : task ≠ run.receiver := h.ne_receiver hstate (by rw [hjob]; exact nofun)
  rw [pollTask_processing htask, processMessage, hrun']
  dsimp only
  rw [hsame.site, hhost']
  -- the two ways to end: the message is put back before its task ends, or it is not
  have hreturned (host' : Host) (hleaves : Leaves id run world host')
      (hqueue : queued? run host' = world.broker.queue? run.queue) :
      Leaves id run world ((host'.returnMessage run' queued).endProcessing task id) ∧
        ((host'.returnMessage run' queued).endProcessing task id).task? task = none ∧
          queued? run ((host'.returnMessage run' queued).endProcessing task id)
            = (world.broker.queue? run.queue).map (queued :: ·) := by
    obtain ⟨hback, hfirst⟩ := returnMessage_leaves hleaves hsame queued
    obtain ⟨hend, hgone, hsame⟩ := endProcessing_leaves hback hne
    exact ⟨hend, hgone, hsame.trans (hfirst.trans (by rw [hqueue]))⟩
  have hdone : Leaves id run world (host'.endProcessing task id) ∧
      (host'.endProcessing task id).task? task = none ∧
        queued? run (host'.endProcessing task id) = world.broker.queue? run.queue := by
    obtain ⟨hend, hgone, hsame⟩ := endProcessing_leaves hleaves hne
    exact ⟨hend, hgone, hsame.trans hqueue⟩
  cases progress with
  | asleep millis rest' => cases hending
  | panicked payload =>
    cases hending
    -- after a panic the critical error is raised first
    obtain ⟨hraised, hsame⟩ := raisePanic_leaves hleaves run' payload
    exact hreturned _ hraised (hsame.trans hqueue)
  | finished result =>
    cases hending
    match result with
    | .error failure => exact hreturned host' hleaves hqueue
    | .ok .retryRequested => exact hreturned host' hleaves hqueue
    | .ok .completed => exact hdone
    | .ok (.movedToErrorQueue failure) => exact hdone

/-- Whatever a task that processes a message does, the queue holds what the program has left in it,
behind the message if this is put back. -/
theorem pollProcessing_queue (h : Pumps id run host) {task : TaskId} {queued : Queued}
    {rest : Act StageResult}
    (htask : (host.task? task).map Task.job = some (.process id queued rest)) :
    Pumps id run (host.pollTask task) ∧ ∃ before, queued? run (host.pollTask task)
      = ((World.advance rest (host.worldAt run.site)).2.broker.queue? run.queue).map
          (before ++ ·) := by
  have hended {progress : Progress StageResult} {ending : Except Panic StageResult} {world : World}
      (hadvance : World.advance rest (host.worldAt run.site) = (progress, world))
      (hending : ending? progress = some ending) :
      Pumps id run (host.pollTask task) ∧ ∃ before, queued? run (host.pollTask task)
        = (world.broker.queue? run.queue).map (before ++ ·) := by
    obtain ⟨hleaves, -, hqueue⟩ := pollProcessing_ended h htask hadvance hending
    rw [hqueue]
    split
    -- what is in front of the queue afterwards is the message itself, or nothing
    · exact ⟨hleaves.pumps, [queued], rfl⟩
    · exact ⟨hleaves.pumps, [], (Option.map_id_apply ..).symm⟩
  generalize hadvance : World.advance rest (host.worldAt run.site) = advanced
  obtain ⟨progress, world⟩ := advanced
  cases progress with
  | finished result => exact hended hadvance rfl
  | panicked payload => exact hended hadvance rfl
  | asleep millis rest' =>
    obtain ⟨hleaves, -, hqueue⟩ := pollProcessing_asleep h htask hadvance
    rw [hqueue]
    exact ⟨hleaves.pumps, [], (Option.map_id_apply ..).symm⟩

end Messaging.Redelivery
