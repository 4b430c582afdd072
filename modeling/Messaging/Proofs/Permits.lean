import Messaging.Proofs.Pumping

/-!
# Permissions to process messages

A run of a pump has a number of permissions and gives one of them away for each message that it
processes or looks for.

- `held` counts the permissions that the tasks of a host hold, and `Limited` says that there are no
  more than some number, those that the run still has included.
- `Granted` is what the receiving task may hold in each of its phases; a `Move` after which it goes
  on grants it what goes with the next one.
- `pollReceiver_limited` and `pollProcessing_limited` say that no task of a run adds one.
- `Limited.alone` is what follows for a run with one permission: it processes one message at a time.
-/

namespace Messaging.Redelivery

open Host

/-- How many permissions of a run a job holds: one while it processes a message or looks for one. -/
def heldBy (id : RunId) : Job → Nat
  | .receive run .receiving | .process run _ _ => if run = id then 1 else 0
  | .receive _ .acquiring | .repeating .. | .clear .. => 0

/-- How many permissions of a run some tasks hold. -/
def heldByAll (id : RunId) : List (TaskId × Task) → Nat
  | [] => 0
  | entry :: rest => heldBy id entry.2.job + heldByAll id rest

/-- How many permissions of a run the tasks of a host hold. -/
def held (id : RunId) (host : Host) : Nat := heldByAll id host.tasks

/-- The permissions that a run has and those that its tasks hold are not more than a number. -/
def Limited (id : RunId) (limit : Nat) (host : Host) : Prop :=
  ∀ run, host.run? id = some run → run.permits + held id host ≤ limit

variable {id : RunId} {run : PumpRun} {host host' : Host} {task : TaskId} {limit : Nat}

/-! ### Counting -/

/-- A job holds one permission at most. -/
theorem heldBy_le_one (id : RunId) (job : Job) : heldBy id job ≤ 1 := by
  unfold heldBy
  split
  · split <;> simp
  · split <;> simp
  all_goals exact Nat.zero_le _

/-- A job that is no part of a run holds no permission of it. -/
theorem heldBy_eq_zero {job : Job} (h : job.run? ≠ some id) : heldBy id job = 0 := by
  unfold heldBy
  split
  · exact if_neg fun hrun => h (congrArg some hrun)
  · exact if_neg fun hrun => h (congrArg some hrun)
  all_goals rfl

/-- Some tasks and others hold what they hold together. -/
theorem heldByAll_append (tasks others : List (TaskId × Task)) :
    heldByAll id (tasks ++ others) = heldByAll id tasks + heldByAll id others := by
  induction tasks with
  | nil => exact (Nat.zero_add _).symm
  | cons entry rest ih => rw [List.cons_append, heldByAll, heldByAll, ih, Nat.add_assoc]

/-- Tasks of which each holds nothing hold nothing together. -/
theorem heldByAll_eq_zero {tasks : List (TaskId × Task)}
    (h : ∀ entry ∈ tasks, heldBy id entry.2.job = 0) : heldByAll id tasks = 0 := by
  induction tasks with
  | nil => rfl
  | cons entry rest ih =>
    obtain ⟨hentry, hrest⟩ := List.forall_mem_cons.1 h
    rw [heldByAll, hentry, ih hrest]

/-- Among tasks with different names one holds what the others do not. -/
theorem heldByAll_eq_of_find? {tasks : List (TaskId × Task)} (hdistinct : (tasks.map (·.1)).Nodup)
    {entry : TaskId × Task} (hentry : tasks.find? (·.1 = task) = some entry) :
    heldByAll id tasks = heldBy id entry.2.job + heldByAll id (tasks.filter (·.1 ≠ task)) := by
  induction tasks with
  | nil => cases hentry
  | cons first rest ih =>
    obtain ⟨hnew, hrest⟩ := List.nodup_cons.1 hdistinct
    by_cases hfirst : first.1 = task
    · -- the entry is the first one, and no other has its name
      rw [List.find?_cons_of_pos (by simpa using hfirst)] at hentry
      cases hentry
      have hothers : rest.filter (·.1 ≠ task) = rest := by
        rw [List.filter_eq_self]
        intro other hother
        simp only [ne_eq, decide_not, Bool.not_eq_eq_eq_not, Bool.not_true, decide_eq_false_iff_not]
        intro hname
        exact hnew (List.mem_map.2 ⟨other, hother, hname.trans hfirst.symm⟩)
      rw [List.filter_cons_of_neg (by simpa using hfirst), hothers, heldByAll]
    · rw [List.find?_cons_of_neg (by simpa using hfirst)] at hentry
      rw [List.filter_cons_of_pos (by simpa using hfirst), heldByAll, ih hrest hentry, heldByAll]
      omega

/-- A permission is held by a task or by one of the others. -/
theorem held_eq_of_task? (id : RunId) (horderly : host.Orderly) {state : Task}
    (htask : host.task? task = some state) :
    held id host = heldBy id state.job + held id (host.finish task) := by
  unfold Host.task? at htask
  obtain ⟨entry, hentry, rfl⟩ := Option.map_eq_some_iff.1 htask
  exact heldByAll_eq_of_find? horderly.distinct hentry

/-- A task that does not exist holds nothing. -/
theorem held_finish_of_none (htask : host.task? task = none) :
    held id (host.finish task) = held id host := by
  unfold held Host.finish
  dsimp only
  rw [List.filter_eq_self.2]
  intro entry hentry
  simp only [decide_eq_true_eq]
  intro hname
  unfold Host.task? at htask
  rw [Option.map_eq_none_iff, List.find?_eq_none] at htask
  exact htask entry hentry (by simpa using hname)

/-- What a task does next does not matter once it has ended. -/
theorem tasks_finish_setJob (host : Host) (task : TaskId) (job : Job) :
    ((host.setJob task job).finish task).tasks = (host.finish task).tasks := by
  unfold Host.setJob Host.modifyTask Host.finish
  dsimp only
  induction host.tasks with
  | nil => rfl
  | cons entry rest ih =>
    by_cases hentry : entry.1 = task
    · simpa [hentry] using ih
    · simpa [hentry] using ih

/-- What a task holds depends on what it does next. -/
theorem held_setJob_le (h : Pumps id run host) (task : TaskId) (job : Job)
    (hjob : job.run? = some id) :
    held id (host.setJob task job) ≤ heldBy id job + held id (host.finish task) := by
  have hothers : held id ((host.setJob task job).finish task) = held id (host.finish task) := by
    rw [held, tasks_finish_setJob, ← held]
  cases hset : (host.setJob task job).task? task with
  | none =>
    -- a task that is not there gets no job
    rw [← held_finish_of_none hset, hothers]
    exact Nat.le_add_left _ _
  | some state =>
    have hstate : state.job = job := by
      rw [Host.setJob, task?_modifyTask] at hset
      obtain ⟨before, -, rfl⟩ := Option.map_eq_some_iff.1 hset
      rw [if_pos rfl]
    have hheld := held_eq_of_task? id (h.orderly.setJob task (h.started_of_run? hjob)) hset
    rw [hothers, hstate] at hheld
    exact Nat.le_of_eq hheld

/-- A new task holds what its job does. -/
theorem held_spawn (id : RunId) (host : Host) (site : SiteId) (job : Job) :
    held id (host.spawn site job).2 = held id host + heldBy id job :=
  heldByAll_append host.tasks [(host.nextTask, { site, job })]

/-- Nobody holds a permission of a run that has not started. -/
theorem held_eq_zero (horderly : host.Orderly) (hid : host.runs.size ≤ id) : held id host = 0 := by
  have hnone : ∀ entry ∈ host.tasks, heldBy id entry.2.job = 0 := by
    intro entry hentry
    refine heldBy_eq_zero fun hrun => ?_
    exact Nat.lt_irrefl _ (Nat.lt_of_lt_of_le (horderly.started entry hentry id hrun) hid)
  exact heldByAll_eq_zero hnone

/-- A new task holds what its job does, whoever else ends. -/
theorem held_finish_spawn (id : RunId) (site : SiteId) (job : Job) (hne : task ≠ host.nextTask) :
    held id ((host.spawn site job).2.finish task)
      = held id (host.finish task) + heldBy id job := by
  have hnew : host.nextTask ≠ task := Ne.symm hne
  simp [held, Host.spawn, Host.finish, List.filter_append, hnew, heldByAll_append, heldByAll]

/-- A run that was changed is the change of one. -/
theorem of_run?_modifyRun {f : PumpRun → PumpRun} {run : PumpRun}
    (h : (host.modifyRun id f).run? id = some run) :
    ∃ before, host.run? id = some before ∧ f before = run := by
  rw [run?_modifyRun] at h
  obtain ⟨before, hbefore, hf⟩ := Option.map_eq_some_iff.1 h
  rw [if_pos rfl] at hf
  exact ⟨before, hbefore, hf⟩

/-- A run that gets a permission back has one more. -/
theorem of_run?_release {run : PumpRun} (h : (host.release id).run? id = some run) :
    ∃ before, host.run? id = some before ∧
      run = { before with permits := before.permits + 1 } := by
  have hmodify : (host.modifyRun id fun run => { run with permits := run.permits + 1 }).run? id
      = some run := by
    unfold Host.release at h
    dsimp only at h
    split at h
    · split at h
      · rwa [(wake_alike _ _).run?] at h
      · exact h
    · exact h
  obtain ⟨before, hbefore, rfl⟩ := of_run?_modifyRun hmodify
  exact ⟨before, hbefore, rfl⟩

namespace Limited

/-- The permissions are the same on a host with the same tasks and runs. -/
theorem congr (h : Limited id limit host) (htasks : host'.tasks = host.tasks)
    (hruns : host'.runs = host.runs) : Limited id limit host' := by
  intro run hrun
  rw [Host.run?, hruns] at hrun
  rw [held, htasks]
  exact h run hrun

theorem of_alike (h : Limited id limit host) (halike : Alike host host') :
    Limited id limit host' := h.congr halike.tasks halike.runs

theorem inSite (h : Limited id limit host) (site : SiteId) {γ : Type} (f : World → γ × World) :
    Limited id limit (host.inSite site f).2 :=
  have hsame := SamePumps.inSite host site f
  h.congr hsame.tasks hsame.runs

/-- A permission may be given back that nobody holds any more. -/
theorem release
    (h : ∀ run, host.run? id = some run → run.permits + 1 + held id host ≤ limit) :
    Limited id limit (host.release id) := by
  intro run hrun
  obtain ⟨before, hbefore, rfl⟩ := of_run?_release hrun
  rw [held, release_tasks, ← held]
  exact h before hbefore

end Limited

/-! ### The receiving task -/

/-- The permissions are limited when the receiving task is about to go on in a phase. -/
def Granted (id : RunId) (limit : Nat) (task : TaskId) (phase : ReceivePhase) (host : Host) :
    Prop :=
  ∀ run, host.run? id = some run →
    run.permits + (heldBy id (.receive id phase) + held id (host.finish task)) ≤ limit

namespace Granted

variable {phase : ReceivePhase}

/-- A host with the same tasks and runs grants the same. -/
theorem congr (h : Granted id limit task phase host) (htasks : host'.tasks = host.tasks)
    (hruns : host'.runs = host.runs) : Granted id limit task phase host' := by
  intro run hrun
  rw [Host.run?, hruns] at hrun
  rw [held, Host.finish, htasks]
  exact h run hrun

/-- What is granted is held once the task waits in its phase. -/
theorem setJob (h : Granted id limit task phase host) (hpumps : Pumps id run host) :
    Limited id limit (host.setJob task (.receive id phase)) := by
  intro run hrun
  have hheld := held_setJob_le hpumps task (.receive id phase) rfl
  exact Nat.le_trans (Nat.add_le_add_left hheld _) (h run hrun)

/-- What is granted to a task that is not there is held by nobody. -/
theorem of_none (h : Granted id limit task phase host) (htask : host.task? task = none) :
    Limited id limit host := by
  intro run hrun
  have hlimit := h run hrun
  rw [held_finish_of_none htask] at hlimit
  omega

/-- A task that has looked for a message holds no more than what was granted to it. -/
theorem of_receiving (h : Granted id limit task .receiving host) (horderly : host.Orderly)
    {state : Task} (htask : host.task? task = some state) : Limited id limit host := by
  intro run hrun
  have hlimit := h run hrun
  have hone := heldBy_le_one id state.job
  rw [held_eq_of_task? id horderly htask]
  simp only [heldBy, if_true] at hlimit
  omega

/-- The task ends before it looks for a message. -/
theorem finish (h : Granted id limit task .acquiring host) : Limited id limit (host.finish task) :=
  fun run hrun => Nat.le_trans (Nat.add_le_add_left (Nat.le_add_left _ _) _) (h run hrun)

/-- The task takes a permission. -/
theorem acquire (h : Granted id limit task .acquiring host) (hrun : host.run? id = some run)
    (hfree : run.permits ≠ 0) :
    Granted id limit task .receiving
      (host.modifyRun id fun run => { run with permits := run.permits - 1 }) := by
  intro after hafter
  obtain ⟨before, hbefore, rfl⟩ := of_run?_modifyRun hafter
  cases hrun.symm.trans hbefore
  have hlimit := h run hrun
  change run.permits - 1 + (heldBy id (.receive id .receiving) + held id (host.finish task)) ≤ limit
  simp only [heldBy, if_true] at hlimit ⊢
  omega

/-- The task ends instead of looking for a message, and gives its permission back. -/
theorem finish_release (h : Granted id limit task .receiving host) :
    Limited id limit ((host.finish task).release id) := by
  refine Limited.release fun run hrun => ?_
  have hlimit := h run hrun
  simp only [heldBy, if_true] at hlimit
  omega

/-- The task drops a message and gives its permission back. -/
theorem release (h : Granted id limit task .receiving host) :
    Granted id limit task .acquiring (host.release id) := by
  intro run hrun
  obtain ⟨before, hbefore, rfl⟩ := of_run?_release hrun
  have hlimit := h before hbefore
  rw [held, Host.finish, release_tasks]
  change before.permits + 1 + (0 + held id (host.finish task)) ≤ limit
  simp only [heldBy, if_true] at hlimit
  omega

/-- The task leaves its permission to a new one that processes a message. -/
theorem startProcessing (h : Granted id limit task .receiving host) (hne : task ≠ host.nextTask)
    (run' : PumpRun) (queued : Queued) :
    Granted id limit task .acquiring (host.startProcessing id run' queued) := by
  intro after hafter
  obtain ⟨before, hbefore, rfl⟩ := of_run?_modifyRun hafter
  have hlimit := h before hbefore
  have hheld := held_finish_spawn id run'.site (.process id queued (processing run' queued.message))
    hne
  change before.permits + (0 + held id ((host.spawn run'.site _).2.finish task)) ≤ limit
  simp only [heldBy, if_true] at hlimit hheld
  refine Nat.le_trans (Nat.add_le_add_left ?_ _) hlimit
  rw [Nat.zero_add, Nat.add_comm 1]
  exact Nat.le_of_eq hheld

end Granted

/-- A move after which the receiving task goes on grants it what goes with the next phase. -/
theorem granted_of_move {phase next : ReceivePhase} {taken : Option Queued} (h : Pumps id run host)
    (hgranted : Granted id limit run.receiver phase host)
    (hmove : Move run.receiver id host phase taken (some next) host') :
    Granted id limit run.receiver next host' := by
  cases hmove with
  | acquired hworks hfree => exact hgranted.acquire hworks.known hfree
  | dropped hlooks htake =>
    obtain ⟨⟨hsteady, -, -⟩, -⟩ := h.pops hlooks htake
    exact (hgranted.congr hsteady.tasks hsteady.runs).release
  | started hlooks htake =>
    obtain ⟨⟨hsteady, -, -⟩, -⟩ := h.pops hlooks htake
    have hnamed := (h.of_steady hsteady).named
    exact (hgranted.congr hsteady.tasks hsteady.runs).startProcessing (Nat.ne_of_lt hnamed) _ _
  | found hlooks htake hawait =>
    have hsteady := (h.misses hlooks htake hawait).steady
    exact hgranted.congr hsteady.tasks hsteady.runs

/-- A move after which the receiving task waits or ends leaves no more permissions than before. -/
theorem limited_of_move {phase : ReceivePhase} {taken : Option Queued} (h : Pumps id run host)
    (hgranted : Granted id limit run.receiver phase host)
    (hmove : Move run.receiver id host phase taken none host') : Limited id limit host' := by
  cases hmove with
  | gone hgone =>
    -- the run is known, so it is the task that is gone
    obtain ⟨run', hrun', -⟩ := h.known
    exact hgranted.of_none (hgone.resolve_left (by simp [hrun']))
  | ended => exact hgranted.finish
  | full => exact hgranted.setJob h
  | @stopped run' =>
    have hstop := stopWaiting_alike host run.receiver (canonicalAddress run'.queue)
    exact (hgranted.congr hstop.tasks hstop.runs).finish_release
  | woken hworks =>
    -- the task was woken for another reason and changes nothing
    obtain ⟨state, hstate, -⟩ := hworks.told
    exact hgranted.of_receiving h.orderly hstate
  | waits hlooks htake hawait =>
    have hsteady := (h.misses hlooks htake hawait).steady
    exact (hgranted.congr hsteady.tasks hsteady.runs).setJob (h.of_steady hsteady)

/-- However far the receiving task goes on, it adds no permission. -/
theorem receiveMessages_limited (fuel : Nat) (phase : ReceivePhase) (h : Pumps id run host)
    (hgranted : Granted id limit run.receiver phase host) :
    Limited id limit (receiveMessages run.receiver id fuel phase host) := by
  -- by induction on the fuel, with the permission that goes with each phase
  induction fuel generalizing phase host with
  | zero => exact hgranted.setJob h
  | succ fuel ih =>
    obtain ⟨taken, next, host', hmove⟩ := exists_move run.receiver id phase host
    rw [hmove.receiveMessages_eq]
    cases next with
    | none => exact limited_of_move h hgranted hmove
    | some next =>
      exact ih next (receives_of_move h hmove).pumps (granted_of_move h hgranted hmove)

/-- When the receiving task goes on, it adds no permission. -/
theorem pollReceiver_limited (h : Pumps id run host) (hlimited : Limited id limit host) :
    Limited id limit (host.pollTask run.receiver) := by
  rw [pollTask]
  cases hstate : host.task? run.receiver with
  | none => exact hlimited
  | some state =>
    obtain ⟨phase, hphase⟩ := h.receiving state hstate
    dsimp only
    rw [hphase]
    -- what the task holds between two turns is what is granted to the phase it waits in
    refine receiveMessages_limited _ phase h fun run' hrun' => ?_
    rw [← hphase, ← held_eq_of_task? id h.orderly hstate]
    exact hlimited run' hrun'

/-! ### Tasks that process -/

/-- A task holds one of the permissions of a run. -/
structure Holds (id : RunId) (run : PumpRun) (limit : Nat) (task : TaskId) (host : Host) :
    Prop where
  /-- The run belongs to the host. -/
  pumps : Pumps id run host
  /-- There are no more permissions than the limit. -/
  limited : Limited id limit host
  /-- The task holds one of them. -/
  holds : ∃ state, host.task? task = some state ∧ heldBy id state.job = 1

namespace Holds

/-- A task that processes a message of the run holds one. -/
theorem of_process (hpumps : Pumps id run host) (hlimited : Limited id limit host) {queued : Queued}
    {rest : Act StageResult}
    (htask : (host.task? task).map Task.job = some (.process id queued rest)) :
    Holds id run limit task host := by
  refine ⟨hpumps, hlimited, ?_⟩
  obtain ⟨state, hstate, hjob⟩ := Option.map_eq_some_iff.1 htask
  refine ⟨state, hstate, ?_⟩
  rw [hjob]
  exact if_pos rfl

/-- It still does after an endpoint has acted. -/
theorem inSite (h : Holds id run limit task host) (site : SiteId) {γ : Type}
    (f : World → γ × World) : Holds id run limit task (host.inSite site f).2 := by
  have hsame := SamePumps.inSite host site f
  obtain ⟨state, hstate, hheld⟩ := h.holds
  refine ⟨h.pumps.congr hsame.tasks hsame.nextTask hsame.runs, h.limited.inSite site f, state, ?_,
    hheld⟩
  rw [Host.task?, hsame.tasks]
  exact hstate

/-- It holds its permission while it sleeps. -/
theorem sleep (h : Holds id run limit task host) (queued : Queued) (rest : Act StageResult)
    (millis : Nat) :
    Limited id limit ((host.setJob task (.process id queued rest)).sleepFor task millis) := by
  intro run' hrun'
  obtain ⟨state, hstate, hheld⟩ := h.holds
  have hlimit := h.limited run' hrun'
  rw [held_eq_of_task? id h.pumps.orderly hstate, hheld] at hlimit
  have hset := held_setJob_le h.pumps task (.process id queued rest) rfl
  simp only [heldBy, if_true] at hset
  exact Nat.le_trans (Nat.add_le_add_left hset _) hlimit

/-- It gives its permission back when it ends. -/
theorem endProcessing (h : Holds id run limit task host) :
    Limited id limit (host.endProcessing task id) := by
  obtain ⟨state, hstate, hheld⟩ := h.holds
  refine Limited.release fun run' hrun' => ?_
  obtain ⟨before, hbefore, rfl⟩ := of_run?_modifyRun hrun'
  have hlimit := h.limited before hbefore
  rw [held_eq_of_task? id h.pumps.orderly hstate, hheld] at hlimit
  change before.permits + 1 + held id (host.finish task) ≤ limit
  omega

end Holds

/-- When a task that processes a message goes on, it adds no permission. -/
theorem pollProcessing_limited (h : Pumps id run host) (hlimited : Limited id limit host)
    {queued : Queued} {rest : Act StageResult}
    (htask : (host.task? task).map Task.job = some (.process id queued rest)) :
    Limited id limit (host.pollTask task) := by
  obtain ⟨run', hrun', -⟩ := h.known
  have hholds := (Holds.of_process h hlimited htask).inSite run'.site (World.advance rest)
  rw [pollTask_processing htask, processMessage, hrun']
  dsimp only
  generalize host.inSite run'.site (World.advance rest) = acted at hholds ⊢
  obtain ⟨progress, host'⟩ := acted
  cases progress with
  | asleep millis rest' => exact hholds.sleep queued rest' millis
  | panicked payload => exact ((hholds.inSite ..).inSite ..).endProcessing
  | finished result =>
    cases result with
    | error failure => exact (hholds.inSite ..).endProcessing
    | ok outcome =>
      cases outcome with
      | retryRequested => exact (hholds.inSite ..).endProcessing
      | completed => exact hholds.endProcessing
      | movedToErrorQueue failure => exact hholds.endProcessing

/-! ### One permission -/

/-- With one permission no two messages are processed at once. -/
theorem Limited.alone (h : Limited id 1 host) (hpumps : Pumps id run host) {other : TaskId}
    {queued queued' : Queued} {rest rest' : Act StageResult}
    (htask : (host.task? task).map Task.job = some (.process id queued rest))
    (hother : (host.task? other).map Task.job = some (.process id queued' rest')) :
    other = task := by
  by_cases hsame : other = task
  · exact hsame
  · exfalso
    obtain ⟨state, hstate, hheld⟩ := (Holds.of_process hpumps h htask).holds
    obtain ⟨state', hstate', hheld'⟩ := (Holds.of_process hpumps h hother).holds
    have hlast : (host.finish task).task? other = some state' := by
      rw [task?_finish, if_neg hsame, hstate']
    -- each of the two holds one permission, and there is one in all
    have hfirst := held_eq_of_task? id hpumps.orderly hstate
    have hrest := held_eq_of_task? id (hpumps.orderly.finish task) hlast
    obtain ⟨run', hrun', -⟩ := hpumps.known
    have hlimit := h run' hrun'
    omega

end Messaging.Redelivery
