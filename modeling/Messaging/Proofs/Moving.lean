import Messaging.Host.Run

/-!
# Moves of a receiving task

A task that receives messages goes on move by move, until it has to wait or ends.

- `Move` is all that one move may be: the phase in which it finds the task, the message that the
  task takes, the phase in which the task goes on, if it does, and the host that the move leaves.
- `exists_move` says that there always is one, and `Move.receiveMessages_eq` that `receiveMessages`
  goes on from the host that it leaves. What every move keeps `receiveMessages` keeps, by induction
  on its fuel.
-/

namespace Messaging.Host

/-- A task receives for a run of a pump that a host knows. -/
structure Works (task : TaskId) (id : RunId) (host : Host) (run : PumpRun) (cancelled : Bool) :
    Prop where
  /-- The run is known. -/
  known : host.run? id = some run
  /-- So is the task, and whether it was asked to end. -/
  told : ∃ state, host.task? task = some state ∧ state.cancelled = cancelled

/-- A host that has told a task what it was notified of. -/
def unnotified (task : TaskId) (host : Host) : Host :=
  { host with notified := host.notified.filter (· ≠ task) }

/-- A task that `Works` looks for a message and does not wait for one. -/
structure Looks (task : TaskId) (id : RunId) (host : Host) (run : PumpRun) : Prop
    extends Works task id host run false where
  /-- It is not among those that wait. -/
  awake : host.waiting.any (·.2 = task) = false

/-- What a task that receives messages may do in one move. -/
inductive Move (task : TaskId) (id : RunId) (host : Host) :
    ReceivePhase → Option Queued → Option ReceivePhase → Host → Prop where
  /-- There is no such task, or no such run, and nothing happens. -/
  | gone {phase : ReceivePhase} (hgone : host.run? id = none ∨ host.task? task = none) :
      Move task id host phase none none host
  /-- The task was asked to end, and has no permission to give back. -/
  | ended {run : PumpRun} (hworks : Works task id host run true) :
      Move task id host .acquiring none none (host.finish task)
  /-- There is no permission, and the task waits for one. -/
  | full {run : PumpRun} (hworks : Works task id host run false) (hfull : run.permits = 0) :
      Move task id host .acquiring none none (host.setJob task (.receive id .acquiring))
  /-- The task takes a permission and looks for a message next. -/
  | acquired {run : PumpRun} (hworks : Works task id host run false) (hfree : run.permits ≠ 0) :
      Move task id host .acquiring none (some .receiving)
        (host.modifyRun id fun run => { run with permits := run.permits - 1 })
  /-- The task was asked to end, and gives its permission back. -/
  | stopped {run : PumpRun} (hworks : Works task id host run true) :
      Move task id host .receiving none none
        (((host.stopWaiting task (canonicalAddress run.queue)).finish task).release id)
  /-- The task was woken for another reason and goes on waiting for a message. -/
  | woken {run : PumpRun} (hworks : Works task id host run false)
      (hwaiting : host.waiting.any (·.2 = task) = true) :
      Move task id host .receiving none none host
  /-- The task drops a message whose time has passed. -/
  | dropped {run : PumpRun} {message : Queued} {host' : Host} (hlooks : Looks task id host run)
      (htake : (host.unnotified task).takeMessage run = (some (message, true), host')) :
      Move task id host .receiving (some message) (some .acquiring) (host'.release id)
  /-- A new task processes a message. -/
  | started {run : PumpRun} {message : Queued} {host' : Host} (hlooks : Looks task id host run)
      (htake : (host.unnotified task).takeMessage run = (some (message, false), host')) :
      Move task id host .receiving (some message) (some .acquiring)
        (host'.startProcessing id run message)
  /-- There was no message, but one has come in the meantime. -/
  | found {run : PumpRun} {missed host' : Host} (hlooks : Looks task id host run)
      (htake : (host.unnotified task).takeMessage run = (none, missed))
      (hawait : missed.awaitMessage task run = (true, host')) :
      Move task id host .receiving none (some .receiving) host'
  /-- There is no message, and the task waits for one. -/
  | waits {run : PumpRun} {missed host' : Host} (hlooks : Looks task id host run)
      (htake : (host.unnotified task).takeMessage run = (none, missed))
      (hawait : missed.awaitMessage task run = (false, host')) :
      Move task id host .receiving none none (host'.setJob task (.receive id .receiving))

/-- Whatever the phase, a receiving task has a move. -/
theorem exists_move (task : TaskId) (id : RunId) (phase : ReceivePhase) (host : Host) :
    ∃ taken next host', Move task id host phase taken next host' := by
  cases hrun : host.run? id with
  | none => exact ⟨_, _, _, .gone (.inl hrun)⟩
  | some run =>
    cases htask : host.task? task with
    | none => exact ⟨_, _, _, .gone (.inr htask)⟩
    | some state =>
      have hworks (cancelled : Bool) (h : state.cancelled = cancelled) :
          Works task id host run cancelled := ⟨hrun, state, htask, h⟩
      cases phase with
      | acquiring =>
        cases hcancelled : state.cancelled with
        | true => exact ⟨_, _, _, .ended (hworks true hcancelled)⟩
        | false =>
          by_cases hfull : run.permits = 0
          · exact ⟨_, _, _, .full (hworks false hcancelled) hfull⟩
          · exact ⟨_, _, _, .acquired (hworks false hcancelled) hfull⟩
      | receiving =>
        cases hcancelled : state.cancelled with
        | true => exact ⟨_, _, _, .stopped (hworks true hcancelled)⟩
        | false =>
          cases hwaiting : host.waiting.any (·.2 = task) with
          | true => exact ⟨_, _, _, .woken (hworks false hcancelled) hwaiting⟩
          | false =>
            have hlooks : Looks task id host run := ⟨hworks false hcancelled, hwaiting⟩
            -- the queue decides what becomes of a task that looks for a message
            rcases htake : (host.unnotified task).takeMessage run with
              ⟨_ | ⟨message, expired⟩, taken⟩
            · rcases hawait : taken.awaitMessage task run with ⟨found, host'⟩
              cases found with
              | true => exact ⟨_, _, _, .found hlooks htake hawait⟩
              | false => exact ⟨_, _, _, .waits hlooks htake hawait⟩
            · cases expired with
              | true => exact ⟨_, _, _, .dropped hlooks htake⟩
              | false => exact ⟨_, _, _, .started hlooks htake⟩

variable {task : TaskId} {id : RunId} {host host' : Host} {phase : ReceivePhase}
  {taken : Option Queued} {next : Option ReceivePhase}

/-- `receiveMessages` makes a move and goes on in the phase that follows, if there is one. -/
theorem Move.receiveMessages_eq (hmove : Move task id host phase taken next host') (fuel : Nat) :
    receiveMessages task id (fuel + 1) phase host
      = next.elim host' fun next => receiveMessages task id fuel next host' := by
  rw [receiveMessages]
  cases hmove with
  | gone hgone =>
    rcases hgone with hrun | htask
    · rw [hrun]
      rfl
    · rw [htask]
      cases host.run? id <;> rfl
  | ended hworks | stopped hworks =>
    obtain ⟨state, hstate, hcancelled⟩ := hworks.told
    simp [hworks.known, hstate, hcancelled]
  | full hworks hpermits | acquired hworks hpermits =>
    obtain ⟨state, hstate, hcancelled⟩ := hworks.told
    simp [hworks.known, hstate, hcancelled, hpermits]
  | woken hworks hwaiting =>
    obtain ⟨state, hstate, hcancelled⟩ := hworks.told
    simp only [hworks.known, hstate, hcancelled, hwaiting, if_true, Bool.false_eq_true, if_false]
    rfl
  | dropped hlooks htake | started hlooks htake =>
    obtain ⟨state, hstate, hcancelled⟩ := hlooks.told
    rw [unnotified] at htake
    simp only [hlooks.known, hstate, hcancelled, hlooks.awake, htake, if_true, Bool.false_eq_true,
      if_false]
    rfl
  | found hlooks htake hawait | waits hlooks htake hawait =>
    obtain ⟨state, hstate, hcancelled⟩ := hlooks.told
    rw [unnotified] at htake
    simp only [hlooks.known, hstate, hcancelled, hlooks.awake, htake, hawait, Bool.false_eq_true,
      if_false]
    rfl

end Messaging.Host
