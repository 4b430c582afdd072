import Mathlib.Data.List.Nodup
import Messaging.Proofs.Permits

/-!
# What a run of a pump has in flight

- `flights` are the messages that the tasks of a run process, and `Counted` says that the run counts
  them.
- `receipts` are the messages that the receiving task takes from the queue on its way, each with the
  time at which it was looked at; `receipts_of_move` says what one `Move` adds to them.
- `Takes` is what becomes of the queue and of the messages in flight when the receiving task goes
  on, and `Settles` what becomes of them when a task that processes a message goes on.
  `takes_of_move` is the first for one move, and `receiveMessages_takes` for any number of them.
- `Leads` says that a program is what is left of another one.
-/

namespace Messaging.Conservation

open Host Redelivery
open Time (Instant)

/-! ### What is left of a program -/

/-- Some answers to the requests of a program lead to another one. -/
inductive Leads {S : Signature} {α : Type} (program : Program S α) : Program S α → Prop where
  /-- Nothing was asked for. -/
  | refl : Leads program program
  /-- One request more was answered. -/
  | answer {request : S.Request} {next : S.Answer request → Program S α}
      (hleads : Leads program (.call request next)) (answer : S.Answer request) :
      Leads program (next answer)

namespace Leads

variable {S : Signature} {α : Type} {program rest last : Program S α}

/-- What some answers lead to leads further with more of them. -/
theorem trans (h : Leads program rest) (h' : Leads rest last) : Leads program last := by
  induction h' with
  | refl => exact h
  | answer _ answer ih => exact ih.answer answer

/-- What the rest of a program comes to the program comes to. -/
theorem yields (h : Leads program rest) {result : α} (hrest : rest.Yields result) :
    program.Yields result := by
  induction h with
  | refl => exact hrest
  | answer _ answer ih => exact ih (.call hrest)

end Leads

variable {α : Type}

/-- What is left of a program that stands somewhere. -/
def remainder : Progress α → Act α
  | .finished result => .done result
  | .panicked payload => .panic payload
  | .asleep _ rest => rest

/-- `World.advance` answers some requests and leaves the `remainder`. -/
theorem leads_advance (program : Act α) (world : World) :
    Leads program (remainder (World.advance program world).1) := by
  induction program generalizing world with
  | done => exact .refl
  | panic => exact .refl
  | call effect next ih =>
    have hnext (answer : effect.Answer) :
        Leads (Program.call (S := Effect.signature) effect next) (next answer) :=
      .answer (S := Effect.signature) .refl answer
    -- only a sleep that takes time leaves something to do later
    by_cases hsleep : ∃ millis, effect = .sleep millis
    · obtain ⟨millis, rfl⟩ := hsleep
      rw [World.advance_sleep]
      split
      · exact (hnext ()).trans (ih () world)
      · exact hnext ()
    · rw [World.advance_call _ _ _ fun millis h => hsleep ⟨millis, h⟩]
      exact (hnext _).trans (ih _ _)

/-- So it does with a program that falls asleep. -/
theorem leads_of_asleep {program rest : Act α} {world world' : World} {millis : Nat}
    (h : World.advance program world = (.asleep millis rest, world')) : Leads program rest := by
  have hleads := leads_advance program world
  rwa [h] at hleads

/-- A program that has finished has one of its results. -/
theorem yields_of_finished {program : Act α} {result : α} {world world' : World}
    (h : World.advance program world = (.finished result, world')) : program.Yields result := by
  induction program generalizing world with
  | done => cases h; exact .done _
  | panic => cases h
  | call effect next ih =>
    by_cases hsleep : ∃ millis, effect = .sleep millis
    · obtain ⟨millis, rfl⟩ := hsleep
      rw [World.advance_sleep] at h
      split at h
      · exact .call (ih () h)
      · cases h
    · rw [World.advance_call _ _ _ fun millis h => hsleep ⟨millis, h⟩] at h
      exact .call (ih _ h)

/-! ### Messages in flight -/

/-- The message that a job of a run processes. -/
def flightOf (id : RunId) : Job → Option Queued
  | .process run queued _ => if run = id then some queued else none
  | .receive .. | .repeating .. | .clear .. => none

/-- The messages that some tasks of a run process. -/
def flightsOf (id : RunId) (tasks : List (TaskId × Task)) : List Queued :=
  tasks.filterMap fun entry => flightOf id entry.2.job

/-- The messages that the tasks of a run process. -/
def flights (id : RunId) (host : Host) : List Queued := flightsOf id host.tasks

/-- A run counts the messages that its tasks process. -/
def Counted (id : RunId) (host : Host) : Prop :=
  ∀ run, host.run? id = some run → run.inFlight = (flights id host).length

variable {id : RunId} {run : PumpRun} {host host' host'' : Host} {task : TaskId}

/-- A message in flight takes one of the permissions that are held. -/
theorem length_flights_le (id : RunId) (host : Host) : (flights id host).length ≤ held id host := by
  rw [flights, held]
  -- a task that processes counts on both sides, one that receives at most on the right
  induction host.tasks with
  | nil => exact Nat.le_refl _
  | cons entry rest ih =>
    rw [flightsOf, List.filterMap_cons, heldByAll, ← flightsOf]
    cases hjob : entry.2.job with
    | process other queued program =>
      by_cases hother : other = id
      · simp only [flightOf, heldBy, hother, if_true, List.length_cons]
        omega
      · simp only [flightOf, heldBy, hother, if_false]
        omega
    | receive other phase => simp only [flightOf]; omega
    | repeating pause work working => simp only [flightOf]; omega
    | clear pause counters waited => simp only [flightOf]; omega

/-- A new task brings a message into flight if it is one that processes. -/
theorem flights_spawn (id : RunId) (host : Host) (site : SiteId) (job : Job) :
    flights id (host.spawn site job).2 = flights id host ++ (flightOf id job).toList := by
  rw [flights, spawn, flightsOf, List.filterMap_append]
  cases hflight : flightOf id job <;> simp [hflight, flights, flightsOf]

/-- A message in flight is that of one task, or that of another one. -/
theorem flights_of_task? (id : RunId) (horderly : host.Orderly) {state : Task}
    (htask : host.task? task = some state) :
    (flights id host).Perm ((flightOf id state.job).toList ++ flights id (host.finish task)) := by
  unfold Host.task? at htask
  obtain ⟨entry, hentry, rfl⟩ := Option.map_eq_some_iff.1 htask
  have hname : entry.1 = task := by simpa using List.find?_some hentry
  obtain ⟨before, after, htasks⟩ := List.append_of_mem (List.mem_of_find?_eq_some hentry)
  have hdistinct := horderly.distinct
  rw [htasks, List.map_append, List.map_cons, List.nodup_middle, List.nodup_cons] at hdistinct
  -- the other tasks have other names
  have hothers : (host.finish task).tasks = before ++ after := by
    have hne : ∀ other ∈ before ++ after, other.1 ≠ task := by
      rintro other hother rfl
      refine hdistinct.1 ?_
      rw [hname, ← List.map_append]
      exact List.mem_map_of_mem hother
    rw [List.forall_mem_append] at hne
    simp only [finish, htasks, List.filter_append, List.filter_cons, hname]
    rw [List.filter_eq_self.2 (by simpa using hne.1), List.filter_eq_self.2 (by simpa using hne.2)]
    simp
  rw [flights, flights, htasks, hothers]
  simp only [flightsOf, List.filterMap_append, List.filterMap_cons]
  cases flightOf id entry.2.job with
  | none => exact .refl _
  | some queued => exact List.perm_middle

/-- A message in flight is that of the task with another job, or that of another task. -/
theorem flights_setJob (h : Pumps id run host) {state : Task}
    (htask : host.task? task = some state) (job : Job) (hjob : job.run? = some id) :
    (flights id (host.setJob task job)).Perm
      ((flightOf id job).toList ++ flights id (host.finish task)) := by
  have hset : (host.setJob task job).task? task = some { state with job } := by
    rw [setJob, task?_modifyTask, htask, Option.map_some, if_pos rfl]
  have hflights := flights_of_task? id (h.orderly.setJob task (h.started_of_run? hjob)) hset
  rwa [flights, flights, tasks_finish_setJob] at hflights

theorem ne_of_task? (htask : host.task? task = none) : ∀ entry ∈ host.tasks, entry.1 ≠ task := by
  rw [Host.task?, Option.map_eq_none_iff, List.find?_eq_none] at htask
  simpa using htask

/-- Nothing is in flight elsewhere than before on a host with the same tasks. -/
theorem flights_congr (htasks : host'.tasks = host.tasks) : flights id host' = flights id host := by
  rw [flights, htasks, flights]

/-- Giving a permission back changes no pump. -/
theorem release_pumps (host : Host) (id : RunId) : (host.release id).pumps = host.pumps := by
  unfold Host.release
  dsimp only
  split
  · split
    · exact (wake_alike _ _).pumps
    · rfl
  · rfl

/-! ### Messages that are taken -/

/-- A message that was taken from a queue. -/
structure Receipt where
  /-- The message. -/
  queued : Queued
  /-- When it was looked at. -/
  time : Instant

/-- Whether a message that was taken is dropped. -/
def Receipt.isDropped (receipt : Receipt) : Bool := receipt.queued.isExpired receipt.time

/-- The messages that the receiving task takes from the queue in `fuel` steps at most, as
`receiveMessages` does. -/
def receipts (task : TaskId) (id : RunId) : Nat → ReceivePhase → Host → List Receipt
  | 0, _, _ => []
  | fuel + 1, phase, host =>
    match host.run? id, host.task? task with
    | some run, some state =>
      match phase with
      | .acquiring =>
        -- nothing is taken without a permission, or after the task was told to stop
        if state.cancelled then []
        else if run.permits = 0 then []
        else
          receipts task id fuel .receiving
            (host.modifyRun id fun run => { run with permits := run.permits - 1 })
      | .receiving =>
        if state.cancelled then []
        else if host.waiting.any (·.2 = task) then []
        else
          let host := { host with notified := host.notified.filter (· ≠ task) }
          match host.takeMessage run with
          | (some (message, expired), after) =>
            ⟨message, host.world.clock⟩ ::
              if expired then receipts task id fuel .acquiring (after.release id)
              else receipts task id fuel .acquiring (after.startProcessing id run message)
          | (none, after) =>
            match after.awaitMessage task run with
            | (true, after) => receipts task id fuel .receiving after
            | (false, _) => []
    | _, _ => []

/-- The receipt for the message that the receiving task takes from a host in one move, if it takes
one. -/
def receiptFor (host : Host) (taken : Option Queued) : List Receipt :=
  (taken.map fun queued => ⟨queued, host.world.clock⟩).toList

/-- `receipts` has what a move takes in front of what is taken after it. -/
theorem receipts_of_move {phase : ReceivePhase} {taken : Option Queued}
    {next : Option ReceivePhase} (hmove : Move task id host phase taken next host') (fuel : Nat) :
    receipts task id (fuel + 1) phase host
      = receiptFor host taken ++ next.elim [] fun next => receipts task id fuel next host' := by
  rw [receipts]
  cases hmove with
  | gone hgone =>
    rcases hgone with hrun | htask
    · rw [hrun]
      rfl
    · rw [htask]
      cases host.run? id <;> rfl
  | ended hworks | stopped hworks =>
    obtain ⟨state, hstate, hcancelled⟩ := hworks.told
    simp [hworks.known, hstate, hcancelled, receiptFor]
  | full hworks hpermits | acquired hworks hpermits =>
    obtain ⟨state, hstate, hcancelled⟩ := hworks.told
    simp [hworks.known, hstate, hcancelled, hpermits, receiptFor]
  | woken hworks hwaiting =>
    obtain ⟨state, hstate, hcancelled⟩ := hworks.told
    simp only [hworks.known, hstate, hcancelled, hwaiting, if_true, Bool.false_eq_true, if_false]
    rfl
  | dropped hlooks htake | started hlooks htake =>
    obtain ⟨state, hstate, hcancelled⟩ := hlooks.told
    rw [unnotified] at htake
    simp only [hlooks.known, hstate, hcancelled, hlooks.awake, htake, if_true, Bool.false_eq_true,
      if_false]
    rfl
  | found hlooks htake hawait | waits hlooks htake hawait =>
    obtain ⟨state, hstate, hcancelled⟩ := hlooks.told
    rw [unnotified] at htake
    simp only [hlooks.known, hstate, hcancelled, hlooks.awake, htake, hawait, Bool.false_eq_true,
      if_false]
    rfl

/-- The messages of some that were taken that are processed. -/
def begun (taken : List Receipt) : List Queued :=
  (taken.filter fun receipt => !receipt.isDropped).map (·.queued)

/-- What becomes of a host when the receiving task of a run takes some messages. -/
structure Takes (id : RunId) (run : PumpRun) (host : Host) (taken : List Receipt) (host' : Host) :
    Prop where
  /-- The run still belongs to the host. -/
  pumps : Pumps id run host'
  /-- The messages were the first of the queue. -/
  queue : ∀ waiting, queued? run host = some waiting →
    ∃ rest, waiting = taken.map (·.queued) ++ rest ∧ queued? run host' = some rest
  /-- Those that are not dropped are in flight, next to those that were. -/
  flying : (flights id host').Perm (flights id host ++ begun taken)
  /-- The run counts them. -/
  counted : Counted id host → Counted id host'
  /-- Each is processed from the beginning. -/
  fresh : ∀ task queued rest,
    (host'.task? task).map Task.job = some (.process id queued rest) →
      (host.task? task).map Task.job = some (.process id queued rest) ∨
        rest = processing run queued.message
  /-- No pump starts or stops. -/
  kept : host'.pumps = host.pumps

/-- A run of a host has as many messages in flight as one of another host. -/
def SameCount (id : RunId) (host host' : Host) : Prop :=
  ∀ run', host'.run? id = some run' →
    ∃ run, host.run? id = some run ∧ run'.inFlight = run.inFlight

namespace Takes

variable {taken later : List Receipt}

/-- Nothing is taken where the tasks, the queue, and the number of messages in flight stay. -/
theorem of_tasks (hidles : Idles id run host host') (htasks : host'.tasks = host.tasks)
    (hcount : SameCount id host host') (hkept : host'.pumps = host.pumps) :
    Takes id run host [] host' where
  pumps := hidles.pumps
  queue waiting hwaiting := ⟨waiting, rfl, hidles.queue.trans hwaiting⟩
  flying := by simp [flights_congr htasks, begun]
  counted hcounted run' hrun' := by
    obtain ⟨before, hbefore, hsame⟩ := hcount run' hrun'
    rw [hsame, flights_congr htasks, hcounted before hbefore]
  fresh other queued rest hjob := by
    rw [Host.task?, htasks] at hjob
    exact .inl hjob
  kept := hkept

/-- Nothing is taken where hosts are `Alike`. -/
theorem of_alike (h : Pumps id run host) (halike : Alike host host') :
    Takes id run host [] host' := by
  refine .of_tasks (.of_alike h halike) halike.tasks (fun run' hrun' => ?_) halike.pumps
  exact ⟨run', by rw [← halike.run?, hrun'], rfl⟩

/-- `Takes` goes from host to host, with the messages that are taken first in front. -/
theorem trans (h : Takes id run host taken host') (h' : Takes id run host' later host'') :
    Takes id run host (taken ++ later) host'' where
  pumps := h'.pumps
  queue waiting hwaiting := by
    obtain ⟨middle, rfl, hmiddle⟩ := h.queue waiting hwaiting
    obtain ⟨rest, rfl, hrest⟩ := h'.queue middle hmiddle
    exact ⟨rest, by simp, hrest⟩
  flying := by
    refine h'.flying.trans ((h.flying.append_right _).trans (.of_eq ?_))
    simp [begun]
  counted hcounted := h'.counted (h.counted hcounted)
  fresh other queued rest hjob := by
    rcases h'.fresh other queued rest hjob with hbefore | hnew
    · exact h.fresh other queued rest hbefore
    · exact .inr hnew
  kept := h'.kept.trans h.kept

/-- The task that receives processes nothing, so no message lands when it ends. -/
theorem flights_finish (h : Pumps id run host) :
    (flights id (host.finish run.receiver)).Perm (flights id host) := by
  cases htask : host.task? run.receiver with
  | none =>
    have hsame : (host.finish run.receiver).tasks = host.tasks := by
      rw [Host.finish, List.filter_eq_self]
      simpa using ne_of_task? htask
    rw [flights_congr hsame]
  | some state =>
    obtain ⟨phase, hphase⟩ := h.receiving state htask
    have hflights := flights_of_task? id h.orderly htask
    rw [hphase] at hflights
    exact hflights.symm

theorem finish (h : Pumps id run host) : Takes id run host [] (host.finish run.receiver) where
  pumps := (Idles.finish h).pumps
  queue waiting hwaiting := ⟨waiting, rfl, hwaiting⟩
  flying := by simpa [begun] using flights_finish h
  counted hcounted run' hrun' := by
    rw [(flights_finish h).length_eq]
    exact hcounted run' hrun'
  fresh other queued rest hjob := by
    rw [task?_finish] at hjob
    split at hjob
    · cases hjob
    · exact .inl hjob
  kept := rfl

theorem setJob (h : Pumps id run host) (phase : ReceivePhase) :
    Takes id run host [] (host.setJob run.receiver (.receive id phase)) := by
  have hidles := Idles.setJob h phase
  -- the receiver may have ended already, and then there is no job to set
  cases htask : host.task? run.receiver with
  | none =>
    have hsame : (host.setJob run.receiver (.receive id phase)).tasks = host.tasks := by
      rw [Host.setJob, modifyTask]
      refine (List.map_congr_left (g := fun entry => entry) fun entry hentry => ?_).trans
        (List.map_id _)
      exact if_neg (ne_of_task? htask entry hentry)
    exact .of_tasks hidles hsame (fun run' hrun' => ⟨run', hrun', rfl⟩) rfl
  | some state =>
    have hflights := (flights_setJob h htask (.receive id phase) rfl).trans (flights_finish h)
    refine ⟨hidles.pumps, fun waiting hwaiting => ⟨waiting, rfl, hwaiting⟩, ?_, ?_, ?_, rfl⟩
    · simpa [begun] using hflights
    · intro hcounted run' hrun'
      rw [hflights.length_eq]
      exact hcounted run' hrun'
    · intro other queued rest hjob
      rw [Host.setJob, task?_modifyTask, Option.map_map] at hjob
      obtain ⟨before, hbefore, hjob⟩ := Option.map_eq_some_iff.1 hjob
      dsimp only [Function.comp_apply] at hjob
      split at hjob
      · cases hjob
      · exact .inl (Option.map_eq_some_iff.2 ⟨before, hbefore, hjob⟩)

theorem acquire (h : Pumps id run host) :
    Takes id run host []
      (host.modifyRun id fun run => { run with permits := run.permits - 1 }) := by
  refine .of_tasks (.modifyRun h fun _ => ⟨rfl, rfl, rfl, rfl⟩) rfl (fun run' hrun' => ?_) rfl
  obtain ⟨before, hbefore, rfl⟩ := of_run?_modifyRun hrun'
  exact ⟨before, hbefore, rfl⟩

theorem release (h : Pumps id run host) : Takes id run host [] (host.release id) := by
  refine .of_tasks (.release h) (release_tasks host id) (fun run' hrun' => ?_)
    (release_pumps host id)
  obtain ⟨before, hbefore, rfl⟩ := of_run?_release hrun'
  exact ⟨before, hbefore, rfl⟩

/-- The first message of the queue is taken and dropped. -/
theorem drop (h : Pumps id run host) {first : Queued} (hpops : Pops run host first host')
    {time : Instant} (hexpired : first.isExpired time = true) :
    Takes id run host [⟨first, time⟩] host' where
  pumps := h.of_steady hpops.steady
  queue messages hmessages := by
    obtain ⟨rest, hqueue, hrest⟩ := hpops.queue
    exact ⟨rest, Option.some.inj (hmessages.symm.trans hqueue), hrest⟩
  flying := by simp [flights_congr hpops.steady.tasks, begun, Receipt.isDropped, hexpired]
  counted hcounted run' hrun' := by
    rw [Host.run?, hpops.steady.runs] at hrun'
    rw [flights_congr hpops.steady.tasks]
    exact hcounted run' hrun'
  fresh other queued rest hjob := by
    rw [hpops.steady.task?] at hjob
    exact .inl hjob
  kept := hpops.kept

/-- The first message of the queue is taken, and a new task processes it from the beginning. -/
theorem start (h : Pumps id run host) {first : Queued} (hpops : Pops run host first host')
    {time : Instant} (hexpired : first.isExpired time = false) {run' : PumpRun}
    (hsame : SameRun run run') :
    Takes id run host [⟨first, time⟩] (host'.startProcessing id run' first) := by
  have hpumps := h.of_steady hpops.steady
  have hstart := (Idles.startProcessing hpumps hsame first).1
  have hflights : flights id (host'.startProcessing id run' first)
      = flights id host ++ [first] := by
    refine (flights_spawn id host' run'.site _).trans ?_
    rw [flights_congr hpops.steady.tasks]
    simp [flightOf]
  refine ⟨hstart.pumps, ?_, ?_, ?_, ?_, hpops.kept⟩
  · intro messages hmessages
    obtain ⟨rest, hqueue, hrest⟩ := hpops.queue
    exact ⟨rest, Option.some.inj (hmessages.symm.trans hqueue), hstart.queue.trans hrest⟩
  · rw [hflights]
    simp [begun, Receipt.isDropped, hexpired]
  · intro hcounted after hafter
    obtain ⟨before, hbefore, rfl⟩ := of_run?_modifyRun hafter
    have hcount := hcounted before (by rw [← hbefore, Host.run?, ← hpops.steady.runs]; rfl)
    rw [hflights, List.length_append, ← hcount]
    rfl
  · intro other queued rest hjob
    have hspawn := task?_spawn hpumps.orderly run'.site
      (.process id first (processing run' first.message)) other
    rw [startProcessing] at hjob
    change ((host'.spawn run'.site (.process id first (processing run' first.message))).2.task?
      other).map Task.job = _ at hjob
    rw [hspawn] at hjob
    split at hjob
    · cases hjob
      refine .inr ?_
      rw [processing, processing, hsame.entry]
    · rw [hpops.steady.task?] at hjob
      exact .inl hjob

/-- Nothing is taken where there is no message. -/
theorem of_misses (h : Pumps id run host) (hmisses : Misses run host host') :
    Takes id run host [] host' := by
  have hsteady := hmisses.steady
  refine .of_tasks (.of_steady h hsteady hmisses.queue) hsteady.tasks (fun run' hrun' => ?_)
    hmisses.kept
  exact ⟨run', by rw [← hrun', Host.run?, ← hsteady.runs]; rfl, rfl⟩

end Takes

/-- In one move the receiving task takes what `receiptFor` says. -/
theorem takes_of_move {phase : ReceivePhase} {taken : Option Queued} {next : Option ReceivePhase}
    (h : Pumps id run host) (hmove : Move run.receiver id host phase taken next host') :
    Takes id run host (receiptFor host taken) host' := by
  cases hmove with
  | gone | woken => exact .of_alike h (.refl host)
  | ended => exact .finish h
  | full => exact .setJob h .acquiring
  | acquired => exact .acquire h
  | @stopped run' =>
    have hstop := Takes.of_alike h
      (stopWaiting_alike host run.receiver (canonicalAddress run'.queue))
    have hfinish := hstop.trans (.finish hstop.pumps)
    exact hfinish.trans (.release hfinish.pumps)
  | dropped hlooks htake =>
    obtain ⟨hpops, hexpired⟩ := h.pops hlooks htake
    have hdrop := Takes.drop h hpops hexpired
    exact hdrop.trans (.release hdrop.pumps)
  | started hlooks htake =>
    obtain ⟨hpops, hexpired⟩ := h.pops hlooks htake
    exact .start h hpops hexpired (h.same hlooks.known)
  | found hlooks htake hawait => exact .of_misses h (h.misses hlooks htake hawait)
  | waits hlooks htake hawait =>
    have hnone := Takes.of_misses h (h.misses hlooks htake hawait)
    exact hnone.trans (.setJob hnone.pumps .receiving)

/-- However far the receiving task goes on, it takes what `receipts` says. -/
theorem receiveMessages_takes (fuel : Nat) (phase : ReceivePhase) (h : Pumps id run host) :
    Takes id run host (receipts run.receiver id fuel phase host)
      (receiveMessages run.receiver id fuel phase host) := by
  -- by induction on the fuel: what a move takes comes before what is taken after it
  induction fuel generalizing phase host with
  | zero => exact .setJob h phase
  | succ fuel ih =>
    obtain ⟨taken, next, host', hmove⟩ := exists_move run.receiver id phase host
    have htakes := takes_of_move h hmove
    rw [receipts_of_move hmove, hmove.receiveMessages_eq]
    cases next with
    | none => simpa using htakes
    | some next => exact htakes.trans (ih next htakes.pumps)

/-! ### Messages that are processed -/

/-- What becomes of a host when a task that processes a message goes on, and some messages are in
flight no more. -/
structure Settles (id : RunId) (host : Host) (landed : List Queued) (host' : Host) : Prop where
  /-- The others still are. -/
  flying : (flights id host).Perm (landed ++ flights id host')
  /-- The run counts them. -/
  counted : Counted id host → Counted id host'
  /-- What is left of a program comes from what was left before. -/
  leads : ∀ task queued rest,
    (host'.task? task).map Task.job = some (.process id queued rest) →
      ∃ before, (host.task? task).map Task.job = some (.process id queued before) ∧
        Leads before rest
  /-- No pump starts or stops. -/
  kept : host'.pumps = host.pumps

namespace Settles

variable {landed : List Queued}

/-- Whatever an endpoint does before it settles nothing. -/
theorem of_same (hsame : SamePumps host host') (h : Settles id host' landed host'') :
    Settles id host landed host'' where
  flying := by
    rw [← flights_congr hsame.tasks]
    exact h.flying
  counted hcounted := by
    refine h.counted fun run hrun => ?_
    rw [Host.run?, hsame.runs] at hrun
    rw [flights_congr hsame.tasks]
    exact hcounted run hrun
  leads other queued rest hjob := by
    obtain ⟨before, hbefore, hleads⟩ := h.leads other queued rest hjob
    rw [Host.task?, hsame.tasks] at hbefore
    exact ⟨before, hbefore, hleads⟩
  kept := h.kept.trans hsame.pumps

/-- A task that processes a message sleeps. -/
theorem asleep (h : Pumps id run host) {queued : Queued} {rest rest' : Act StageResult}
    (htask : (host.task? task).map Task.job = some (.process id queued rest))
    (hleads : Leads rest rest') (millis : Nat) :
    Settles id host [] ((host.setJob task (.process id queued rest')).sleepFor task millis) := by
  obtain ⟨state, hstate, hjob⟩ := Option.map_eq_some_iff.1 htask
  have hbefore := flights_of_task? id h.orderly hstate
  rw [hjob] at hbefore
  -- the task has another job with the same message
  have hflights := hbefore.trans
    (flights_setJob h hstate (.process id queued rest') rfl).symm
  refine ⟨hflights, fun hcounted run' hrun' => ?_, fun other queued' last hlast => ?_, rfl⟩
  · exact (hcounted run' hrun').trans hflights.length_eq
  · change ((host.setJob task (.process id queued rest')).task? other).map Task.job = _ at hlast
    rw [setJob, task?_modifyTask, Option.map_map] at hlast
    obtain ⟨before, hother, hlast⟩ := Option.map_eq_some_iff.1 hlast
    -- what is left of the program comes from what was left before, and other tasks stay
    by_cases hsame : other = task
    · subst hsame
      simp only [Function.comp_apply, if_true, Job.process.injEq, true_and] at hlast
      obtain ⟨rfl, rfl⟩ := hlast
      exact ⟨rest, htask, hleads⟩
    · simp only [Function.comp_apply, hsame, if_false] at hlast
      exact ⟨last, by rw [hother, Option.map_some, hlast], .refl⟩

/-- The processing of a message ends. -/
theorem ended (h : Pumps id run host) {queued : Queued} {rest : Act StageResult}
    (htask : (host.task? task).map Task.job = some (.process id queued rest)) :
    Settles id host [queued] (host.endProcessing task id) := by
  obtain ⟨state, hstate, hjob⟩ := Option.map_eq_some_iff.1 htask
  have htasks : (host.endProcessing task id).tasks = (host.finish task).tasks :=
    release_tasks _ _
  have hflights := flights_of_task? id h.orderly hstate
  rw [hjob, ← flights_congr htasks] at hflights
  have hflights : (flights id host).Perm
      ([queued] ++ flights id (host.endProcessing task id)) := by
    simpa [flightOf] using hflights
  refine ⟨hflights, fun hcounted run' hrun' => ?_, fun other queued' last hlast => ?_,
    release_pumps _ _⟩
  · -- one message less is in flight, and the run counts one less
    obtain ⟨released, hreleased, rfl⟩ := of_run?_release hrun'
    obtain ⟨before, hbefore, rfl⟩ := of_run?_modifyRun hreleased
    have hcount := hcounted before hbefore
    have hlength := hflights.length_eq
    rw [List.length_append, List.length_singleton] at hlength
    change before.inFlight - 1 = _
    omega
  · rw [Host.task?, htasks, ← Host.task?, task?_finish] at hlast
    split at hlast
    · cases hlast
    · exact ⟨last, hlast, .refl⟩

end Settles

/-- The message of a task that has ended is in flight no more. -/
def landed (queued : Queued) (progress : Progress StageResult) : List Queued :=
  if (ending? progress).isSome then [queued] else []

/-- When a task that processes a message goes on, its message stays in flight or lands. -/
theorem pollProcessing_settles (h : Pumps id run host) {queued : Queued} {rest : Act StageResult}
    (htask : (host.task? task).map Task.job = some (.process id queued rest)) :
    Settles id host (landed queued (World.advance rest (host.worldAt run.site)).1)
      (host.pollTask task) := by
  obtain ⟨run', hrun', hsame⟩ := h.known
  have hsite := SamePumps.inSite host run.site (World.advance rest)
  rw [pollTask_processing htask, processMessage, hrun']
  dsimp only
  rw [hsame.site]
  obtain ⟨acted, hacted, -⟩ := inSite_eq (rfl : World.advance rest (host.worldAt run.site) = (_, _))
  rw [hacted] at hsite ⊢
  generalize hadvance : World.advance rest (host.worldAt run.site) = advanced
  obtain ⟨progress, world⟩ := advanced
  have hpumps := h.congr hsite.tasks hsite.nextTask hsite.runs
  have htask' : (acted.task? task).map Task.job = some (.process id queued rest) := by
    rw [Host.task?, hsite.tasks]
    exact htask
  -- whatever the transport makes of the end, the task is gone and its message with it
  have hended (host' : Host) (hsame' : SamePumps acted host') :
      Settles id host [queued] (host'.endProcessing task id) := by
    have htask' : (host'.task? task).map Task.job = some (.process id queued rest) := by
      rw [Host.task?, hsame'.tasks]
      exact htask'
    have hpumps' := hpumps.congr hsame'.tasks hsame'.nextTask hsame'.runs
    exact .of_same (hsite.trans hsame') (.ended hpumps' htask')
  cases progress with
  | asleep millis rest' =>
    exact .of_same hsite (.asleep hpumps htask' (leads_of_asleep hadvance) millis)
  | panicked payload => exact hended _ ((SamePumps.inSite ..).trans (.inSite ..))
  | finished result =>
    cases result with
    | error failure => exact hended _ (.inSite ..)
    | ok outcome =>
      cases outcome with
      | retryRequested => exact hended _ (.inSite ..)
      | completed => exact hended _ (.refl acted)
      | movedToErrorQueue failure => exact hended _ (.refl acted)

end Messaging.Conservation
