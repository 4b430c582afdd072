import Messaging.World.Basic
import Messaging.Effect.Lifecycle

/-!
# Hosts

A host runs endpoints on one thread. Their pumps and background work are tasks: a task runs until it
waits for something, and is woken when that happens.

- `Host` is the world with the sites of several endpoints, the tasks, and what they wait for.
- `wake`, `sleepFor` and `finish` say when a task runs next.
- `inSite` lets a program of an endpoint act on the world; receivers that wait for messages are told
  of those that it sends.
- `Orderly` says that the tasks of a host are in order, and `Alike` of two hosts that they differ at
  most in who goes on when.
-/

namespace Messaging

/-- The number of an endpoint's site. -/
abbrev SiteId := Nat

/-- The name of a task. -/
abbrev TaskId := Nat

/-- The name of a run of a pump. -/
abbrev RunId := Nat

/-- A pump of an endpoint. -/
structure PumpKey where
  /-- The site of the endpoint. -/
  site : SiteId
  /-- The number of the pump. -/
  index : Nat
deriving DecidableEq

/-- What a receiving task waits for. -/
inductive ReceivePhase where
  /-- For the permission to process one message more. -/
  | acquiring
  /-- For a message. -/
  | receiving
deriving DecidableEq

/-- What a task does. -/
inductive Job where
  /-- Receives messages in a run of a pump. -/
  | receive (run : RunId) (phase : ReceivePhase)
  /-- Processes a received message. -/
  | process (run : RunId) (message : Queued) (rest : Act StageResult)
  /-- Does work again and again, with a pause in milliseconds; it starts with work or a pause. -/
  | repeating (pause : Nat) (work : Act Unit) (working : Bool)
  /-- Clears failure counters again and again, after a pause in milliseconds. -/
  | clear (pause : Nat) (counters : List CounterId) (waited : Bool)

/-- The run of a pump that a job is part of. -/
def Job.run? : Job → Option RunId
  | .receive run _ | .process run _ _ => some run
  | .repeating .. | .clear .. => none

/-- A piece of work. -/
structure Task where
  /-- The site of its endpoint. -/
  site : SiteId
  /-- What it does. -/
  job : Job
  /-- Whether it was asked to end. -/
  cancelled : Bool := false

/-- A pump that was set up. -/
structure PumpState where
  /-- Which pump it is. -/
  key : PumpKey
  /-- What it does with messages. -/
  entry : PumpEntry
  /-- Its queue. -/
  queue : String
  /-- The run of it, between start and stop. -/
  running : Option RunId := none

/-- A pump between its start and the end of its last message. -/
structure PumpRun where
  /-- The site of its endpoint. -/
  site : SiteId
  /-- What it does with messages. -/
  entry : PumpEntry
  /-- Its queue. -/
  queue : String
  /-- How many messages more it may process now. -/
  permits : Nat
  /-- The task that receives. -/
  receiver : TaskId
  /-- How many messages are being processed. -/
  inFlight : Nat := 0

/-- When a task is woken. -/
structure Timer where
  /-- The reading of the stopwatch. -/
  deadline : Nat
  /-- The task. -/
  task : TaskId
deriving DecidableEq

/-- Endpoints on one thread. -/
structure Host where
  /-- The world; its site is that of the endpoint that acted last. -/
  world : World
  /-- The sites of the endpoints. -/
  sites : Array Site := #[]
  /-- The tasks. -/
  tasks : List (TaskId × Task) := []
  /-- The name of the next task. -/
  nextTask : TaskId := 0
  /-- The tasks that can go on, first woken first. -/
  ready : List TaskId := []
  /-- The sleeping tasks, first asleep first. -/
  timers : List Timer := []
  /-- The pumps. -/
  pumps : List PumpState := []
  /-- The runs of pumps. -/
  runs : Array PumpRun := #[]
  /-- The queues that tasks wait for a message of, first waiting first. -/
  waiting : List (String × TaskId) := []
  /-- The tasks that were told of a message and have not looked for it. -/
  notified : List TaskId := []
  /-- The queues with a message that nobody waited for. -/
  unheard : List String := []
  /-- The task of the background poller of each endpoint that has one. -/
  pollers : List (SiteId × TaskId) := []
  /-- The task that clears the failure counters of each endpoint that has one. -/
  cleaners : List (SiteId × TaskId) := []

/-- A step of a host. -/
abbrev Hosted := StateM Host

namespace Host

/-! ### Tasks -/

/-- The task with a name. -/
def task? (host : Host) (id : TaskId) : Option Task := (host.tasks.find? (·.1 = id)).map (·.2)

/-- Lets a task go on as the last of those that can. -/
def wake (host : Host) (id : TaskId) : Host :=
  if host.ready.contains id then host else { host with ready := host.ready ++ [id] }

/-- Starts a task. -/
def spawn (host : Host) (site : SiteId) (job : Job) : TaskId × Host :=
  let id := host.nextTask
  (id, { host with
    tasks := host.tasks ++ [(id, { site, job })], nextTask := id + 1, ready := host.ready ++ [id] })

/-- Changes a task. -/
def modifyTask (host : Host) (id : TaskId) (f : Task → Task) : Host :=
  { host with tasks := host.tasks.map fun entry =>
      if entry.1 = id then (id, f entry.2) else entry }

/-- Changes what a task does next. -/
def setJob (host : Host) (id : TaskId) (job : Job) : Host :=
  host.modifyTask id fun task => { task with job }

/-- Asks a task to end. -/
def cancel (host : Host) (id : TaskId) : Host :=
  (host.modifyTask id fun task => { task with cancelled := true }).wake id

/-- Ends a task. -/
def finish (host : Host) (id : TaskId) : Host :=
  { host with
    tasks := host.tasks.filter (·.1 ≠ id), timers := host.timers.filter (·.task ≠ id) }

/-- Wakes a task after a number of milliseconds. -/
def sleepFor (host : Host) (id : TaskId) (millis : Nat) : Host :=
  { host with timers := host.timers ++ [⟨host.world.stopwatch + millis, id⟩] }

/-- The reading of the stopwatch at which the next sleeping task wakes. -/
def nextDeadline? (host : Host) : Option Nat := (host.timers.map (·.deadline)).min?

/-- Puts a timer behind those that are not later. -/
def insertTimer (timer : Timer) : List Timer → List Timer
  | [] => [timer]
  | first :: rest =>
    if timer.deadline < first.deadline then timer :: first :: rest
    else first :: insertTimer timer rest

/-- Lets time pass until a reading of the stopwatch, and wakes the tasks whose time has come. -/
def advanceTo (host : Host) (deadline : Nat) : Host :=
  let due := host.timers.filter (·.deadline ≤ deadline)
  -- tasks that wake at the same time go on in the order in which they fell asleep
  let sorted := due.foldl (fun sorted timer => insertTimer timer sorted) []
  let host :=
    { host with
      world := { host.world with stopwatch := deadline }
      timers := host.timers.filter (deadline < ·.deadline) }
  sorted.foldl (fun host timer => host.wake timer.task) host

/-! ### Queues -/

/-- Tells the task that has waited longest for a queue of a message, or remembers the message. -/
def announce (host : Host) (queue : String) : Host :=
  match host.waiting.find? (·.1 = queue) with
  | some entry =>
    { host with
      waiting := host.waiting.filter (·.2 ≠ entry.2)
      notified := host.notified ++ [entry.2] }.wake entry.2
  | none =>
    if host.unheard.contains queue then host else { host with unheard := host.unheard ++ [queue] }

/-- Lets a task no longer wait for a queue; a message that it was told of is for the next. -/
def stopWaiting (host : Host) (id : TaskId) (queue : String) : Host :=
  let wasTold := host.notified.contains id
  let host :=
    { host with
      waiting := host.waiting.filter (·.2 ≠ id), notified := host.notified.filter (· ≠ id) }
  if wasTold then host.announce queue else host

/-! ### Acting on the world -/

/-- Lets an endpoint act on the world. -/
def inSite {α : Type} (host : Host) (site : SiteId) (f : World → α × World) : α × Host :=
  let (value, world) := f { host.world with site := host.sites[site]?.getD {} }
  let arrivals := world.broker.arrivals
  let world := { world with broker := { world.broker with arrivals := [] } }
  let host := { host with world, sites := host.sites.setIfInBounds site world.site }
  -- receivers hear of the messages after the endpoint has acted
  (value, arrivals.foldl announce host)

/-- Changes the queues. -/
def modifyBroker (host : Host) (f : Broker → Broker) : Host :=
  (host.inSite host.sites.size fun world => ((), { world with broker := f world.broker })).2

/-- Adds an endpoint's site. -/
def addSite (host : Host) (site : Site) : SiteId × Host :=
  (host.sites.size, { host with sites := host.sites.push site })

/-! ### Tasks by their names -/

/-- Changing a task leaves the others. -/
theorem task?_modifyTask (host : Host) (id other : TaskId) (f : Task → Task) :
    (host.modifyTask id f).task? other
      = (host.task? other).map fun task => if other = id then f task else task := by
  unfold modifyTask task?
  dsimp only
  induction host.tasks with
  | nil => rfl
  | cons entry rest ih =>
    rw [List.map_cons, List.find?_cons, List.find?_cons]
    -- by induction on the tasks: the first one of a name is found, before as after
    by_cases hid : entry.1 = id
    · by_cases hother : id = other
      · simp [hid, hother]
      · rw [if_pos hid]
        simp only [hother, decide_false, hid, ih]
    · rw [if_neg hid]
      by_cases hother : entry.1 = other
      · subst hother
        simp [hid]
      · simp only [hother, decide_false, ih]

/-- The end of a task leaves the others. -/
theorem task?_finish (host : Host) (id other : TaskId) :
    (host.finish id).task? other = if other = id then none else host.task? other := by
  unfold finish task?
  dsimp only
  rw [List.find?_filter]
  split
  · next h =>
    subst h
    simp
  · next h =>
    congr 2
    funext entry
    by_cases hentry : entry.1 = other
    · simp [hentry, h]
    · simp [hentry]

/-- The tasks of a host are in order. -/
structure Orderly (host : Host) : Prop where
  /-- Every task was named before the next one. -/
  named : ∀ entry ∈ host.tasks, entry.1 < host.nextTask
  /-- No two tasks have one name. -/
  distinct : (host.tasks.map (·.1)).Nodup
  /-- The runs that tasks are part of have started. -/
  started : ∀ entry ∈ host.tasks, ∀ run, entry.2.job.run? = some run → run < host.runs.size

/-- A task was named before the next one. -/
theorem Orderly.lt {host : Host} (h : host.Orderly) {id : TaskId} {task : Task}
    (htask : host.task? id = some task) : id < host.nextTask := by
  unfold task? at htask
  obtain ⟨entry, hentry, -⟩ := Option.map_eq_some_iff.1 htask
  have hid : entry.1 = id := by simpa using List.find?_some hentry
  rw [← hid]
  exact h.named entry (List.mem_of_find?_eq_some hentry)

/-- Changing a task leaves the names. -/
theorem map_fst_modifyTask (host : Host) (id : TaskId) (f : Task → Task) :
    (host.modifyTask id f).tasks.map (·.1) = host.tasks.map (·.1) := by
  rw [modifyTask, List.map_map]
  apply List.map_congr_left
  intro entry _
  by_cases hid : entry.1 = id
  · simp [hid]
  · simp [hid]

/-- What a task does next changes no name. -/
theorem Orderly.setJob {host : Host} (h : host.Orderly) (id : TaskId) {job : Job}
    (hjob : ∀ run, job.run? = some run → run < host.runs.size) : (host.setJob id job).Orderly where
  named entry hentry := by
    obtain ⟨before, hbefore, rfl⟩ := List.mem_map.1 hentry
    split
    · next hid => exact hid ▸ h.named before hbefore
    · exact h.named before hbefore
  distinct := by
    rw [Host.setJob, map_fst_modifyTask]
    exact h.distinct
  started entry hentry run hrun := by
    obtain ⟨before, hbefore, rfl⟩ := List.mem_map.1 hentry
    split at hrun
    · exact hjob run hrun
    · exact h.started before hbefore run hrun

/-- The end of a task leaves the other names. -/
theorem Orderly.finish {host : Host} (h : host.Orderly) (id : TaskId) :
    (host.finish id).Orderly where
  named entry hentry := h.named entry (List.mem_filter.1 hentry).1
  distinct := h.distinct.sublist (List.filter_sublist.map _)
  started entry hentry := h.started entry (List.mem_filter.1 hentry).1

/-- A new task has the next name. -/
theorem Orderly.spawn {host : Host} (h : host.Orderly) (site : SiteId) {job : Job}
    (hjob : ∀ run, job.run? = some run → run < host.runs.size) :
    (host.spawn site job).2.Orderly where
  named entry hentry := by
    rcases List.mem_append.1 hentry with hmem | hmem
    · exact Nat.lt_succ_of_lt (h.named entry hmem)
    · cases List.mem_singleton.1 hmem
      exact Nat.lt_succ_self _
  distinct := by
    rw [Host.spawn, List.map_append, List.nodup_append]
    refine ⟨h.distinct, List.pairwise_singleton _ _, ?_⟩
    -- the new name is none of the names before
    intro name hname new hnew
    obtain ⟨entry, hentry, rfl⟩ := List.mem_map.1 hname
    cases List.mem_singleton.1 hnew
    exact Nat.ne_of_lt (h.named entry hentry)
  started entry hentry run hrun := by
    rcases List.mem_append.1 hentry with hmem | hmem
    · exact h.started entry hmem run hrun
    · cases List.mem_singleton.1 hmem
      exact hjob run hrun

/-- Tasks are in order on a host with the same tasks and at least as many runs. -/
theorem Orderly.congr {host host' : Host} (h : host.Orderly) (htasks : host'.tasks = host.tasks)
    (hnext : host'.nextTask = host.nextTask) (hruns : host.runs.size ≤ host'.runs.size) :
    host'.Orderly where
  named := by
    rw [htasks, hnext]
    exact h.named
  distinct := by
    rw [htasks]
    exact h.distinct
  started entry hentry run hrun := by
    rw [htasks] at hentry
    exact Nat.lt_of_lt_of_le (h.started entry hentry run hrun) hruns

/-- A new task leaves the others. -/
theorem task?_spawn {host : Host} (h : host.Orderly) (site : SiteId) (job : Job) (id : TaskId) :
    (host.spawn site job).2.task? id
      = if id = host.nextTask then some { site, job } else host.task? id := by
  unfold spawn task?
  dsimp only
  rw [List.find?_append]
  split
  · next hid =>
    subst hid
    -- the next name was not given yet
    have hnone : host.tasks.find? (·.1 = host.nextTask) = none := by
      rw [List.find?_eq_none]
      intro entry hentry
      simpa using Nat.ne_of_lt (h.named entry hentry)
    rw [hnone]
    simp
  · next hid =>
    have hother : host.nextTask ≠ id := Ne.symm hid
    simp [hother]

/-! ### What only decides who goes on -/

/-- Hosts that differ at most in which tasks go on and which wait. -/
structure Alike (host host' : Host) : Prop where
  /-- The worlds are the same. -/
  world : host'.world = host.world
  /-- So are the sites. -/
  sites : host'.sites = host.sites
  /-- So are the tasks. -/
  tasks : host'.tasks = host.tasks
  /-- So is the name of the next task. -/
  nextTask : host'.nextTask = host.nextTask
  /-- So are the pumps. -/
  pumps : host'.pumps = host.pumps
  /-- So are the runs of pumps. -/
  runs : host'.runs = host.runs

/-- A host differs in nothing from itself. -/
theorem Alike.refl (host : Host) : Alike host host := ⟨rfl, rfl, rfl, rfl, rfl, rfl⟩

/-- Such hosts know the same tasks. -/
theorem Alike.task? {host host' : Host} (h : Alike host host') (id : TaskId) :
    host'.task? id = host.task? id := by
  rw [Host.task?, h.tasks, Host.task?]

/-- Where names are in order they are in such a host. -/
theorem Alike.orderly {host host' : Host} (h : Alike host host') (ho : host.Orderly) :
    host'.Orderly :=
  ho.congr h.tasks h.nextTask (Nat.le_of_eq (congrArg Array.size h.runs.symm))

/-- Two such differences are one. -/
theorem Alike.trans {first second third : Host} (h : Alike first second)
    (h' : Alike second third) : Alike first third :=
  ⟨h'.world.trans h.world, h'.sites.trans h.sites, h'.tasks.trans h.tasks,
    h'.nextTask.trans h.nextTask, h'.pumps.trans h.pumps, h'.runs.trans h.runs⟩

/-- Waking a task decides only when it goes on. -/
theorem wake_alike (host : Host) (id : TaskId) : Alike host (host.wake id) := by
  unfold wake
  split <;> exact ⟨rfl, rfl, rfl, rfl, rfl, rfl⟩

/-- Telling of a message decides only who goes on. -/
theorem announce_alike (host : Host) (queue : String) : Alike host (host.announce queue) := by
  unfold announce
  split
  · refine Alike.trans ?_ (wake_alike _ _)
    exact ⟨rfl, rfl, rfl, rfl, rfl, rfl⟩
  · split <;> exact ⟨rfl, rfl, rfl, rfl, rfl, rfl⟩

/-- So does telling of several. -/
theorem announceAll_alike (host : Host) (queues : List String) :
    Alike host (queues.foldl announce host) := by
  induction queues generalizing host with
  | nil => exact .refl host
  | cons queue rest ih => exact (announce_alike host queue).trans (ih _)

/-- While time passes only the stopwatch goes on. -/
theorem advanceTo_alike (host : Host) (deadline : Nat) :
    Alike { host with world := { host.world with stopwatch := deadline } }
      (host.advanceTo deadline) := by
  have hwakeAll (timers : List Timer) (host : Host) :
      Alike host (timers.foldl (fun host timer => host.wake timer.task) host) := by
    induction timers generalizing host with
    | nil => exact .refl host
    | cons timer rest ih => exact (wake_alike host timer.task).trans (ih _)
  unfold advanceTo
  refine Alike.trans ?_ (hwakeAll _ _)
  exact ⟨rfl, rfl, rfl, rfl, rfl, rfl⟩

/-- Waiting no longer decides only who goes on. -/
theorem stopWaiting_alike (host : Host) (id : TaskId) (queue : String) :
    Alike host (host.stopWaiting id queue) := by
  unfold stopWaiting
  dsimp only
  split
  · refine Alike.trans ?_ (announce_alike _ _)
    exact ⟨rfl, rfl, rfl, rfl, rfl, rfl⟩
  · exact ⟨rfl, rfl, rfl, rfl, rfl, rfl⟩

/-- How a program of an endpoint finds the world. -/
def worldAt (host : Host) (site : SiteId) : World :=
  { host.world with site := host.sites[site]?.getD {} }

/-- An endpoint that acts changes the world and its site, and who goes on. -/
theorem inSite_eq {α : Type} {host : Host} {site : SiteId} {f : World → α × World} {value : α}
    {world : World} (hf : f (host.worldAt site) = (value, world)) :
    ∃ host', host.inSite site f = (value, host') ∧
      Alike { host with
        world := { world with broker := { world.broker with arrivals := [] } }
        sites := host.sites.setIfInBounds site world.site } host' := by
  rw [worldAt] at hf
  rw [inSite, hf]
  exact ⟨_, rfl, announceAll_alike _ _⟩

end Host

end Messaging
