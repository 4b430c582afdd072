import Messaging.Host.Basic

/-!
# Receiving

- A run of a pump has one task that receives messages, and one for each message that is processed.
- `receiveMessages` takes messages as long as there are any and the concurrency allows it; a message
  whose time has passed is dropped.
- `processMessage` runs the pipeline on a message. When it asks for a retry, fails or panics, the
  message goes back to the head of its queue.
-/

namespace Messaging.Host

/-- The run with a name. -/
def run? (host : Host) (id : RunId) : Option PumpRun := host.runs[id]?

/-- Changes a run. -/
def modifyRun (host : Host) (id : RunId) (f : PumpRun → PumpRun) : Host :=
  { host with runs := host.runs.modify id f }

/-- Changing a run leaves the others. -/
theorem run?_modifyRun (host : Host) (id other : RunId) (f : PumpRun → PumpRun) :
    (host.modifyRun id f).run? other
      = (host.run? other).map fun run => if other = id then f run else run := by
  rw [run?, modifyRun, Array.getElem?_modify, ← run?]
  by_cases hid : id = other
  · rw [if_pos hid]
    simp only [hid.symm, if_true]
  · rw [if_neg hid]
    simp only [Ne.symm hid, if_false, Option.map_id']

/-- Hosts that differ only in who goes on have the same runs. -/
theorem Alike.run? {host host' : Host} (h : Alike host host') (id : RunId) :
    host'.run? id = host.run? id := congrArg (·[id]?) h.runs

/-- Whether the task that receives in a run waits for a permission. -/
def isAcquiring (host : Host) (run : PumpRun) : Bool :=
  match host.task? run.receiver with
  | some { job := .receive _ .acquiring, .. } => true
  | _ => false

/-- Gives a permission back. -/
def release (host : Host) (id : RunId) : Host :=
  let host := host.modifyRun id fun run => { run with permits := run.permits + 1 }
  match host.run? id with
  | some run => if host.isAcquiring run then host.wake run.receiver else host
  | none => host

/-- Giving a permission back changes no task. -/
theorem release_tasks (host : Host) (id : RunId) : (host.release id).tasks = host.tasks := by
  unfold release
  dsimp only
  split
  · split
    · exact (wake_alike _ _).tasks
    · rfl
  · rfl

/-- Takes the first message of a queue and says whether it is to be dropped. -/
def popMessage (queue : String) (world : World) : Option (Queued × Bool) × World :=
  let (message, broker) := world.broker.pop queue
  let world := { world with broker }
  match message with
  | none => (none, world)
  | some message =>
    let (now, world) := world.readClock
    (some (message, message.isExpired now), world)

/-- The first message of a queue is taken, or there is none. -/
theorem popMessage_cases (queue : String) (world : World) :
    (∃ first rest now broker, world.broker.queue? queue = some (first :: rest) ∧
        broker.queue? queue = some rest ∧
          popMessage queue world = (some (first, first.isExpired world.clock),
            { world with broker, clock := now })) ∨
      popMessage queue world = (none, world) := by
  have hcases := world.broker.queue?_pop queue
  rw [popMessage]
  generalize world.broker.pop queue = popped at hcases ⊢
  obtain ⟨message, broker⟩ := popped
  -- the queue has a first message, or it is empty or missing
  rcases hcases with ⟨first, rest, hqueue, hfirst, hrest⟩ | ⟨hnone, hsame⟩
  · cases hfirst
    exact .inl ⟨first, rest, _, broker, hqueue, hrest, rfl⟩
  · cases hnone
    cases hsame
    exact .inr rfl

/-- Takes the first message of the queue of a run. -/
def takeMessage (host : Host) (run : PumpRun) : Option (Queued × Bool) × Host :=
  host.inSite run.site (popMessage run.queue)

/-- Starts the task that processes a message. -/
def startProcessing (host : Host) (id : RunId) (run : PumpRun) (message : Queued) : Host :=
  let work : Act StageResult := do
    let scope ← Act.rootScope
    run.entry message.message scope
  let (_, host) := host.spawn run.site (.process id message work)
  host.modifyRun id fun run => { run with inFlight := run.inFlight + 1 }

/-- Lets a task wait for a message of its queue, unless one came that nobody waited for. -/
def awaitMessage (host : Host) (task : TaskId) (run : PumpRun) : Bool × Host :=
  let queue := canonicalAddress run.queue
  if host.unheard.contains queue then
    (true, { host with unheard := host.unheard.filter (· ≠ queue) })
  else (false, { host with waiting := host.waiting ++ [(queue, task)] })

/-- Receives messages, in `fuel` steps at most. -/
def receiveMessages (task : TaskId) (id : RunId) : Nat → ReceivePhase → Host → Host
  | 0, phase, host => host.setJob task (.receive id phase)
  | fuel + 1, phase, host =>
    match host.run? id, host.task? task with
    | some run, some state =>
      match phase with
      | .acquiring =>
        -- a run that is asked to finish takes no further message
        if state.cancelled then host.finish task
        else if run.permits = 0 then host.setJob task (.receive id .acquiring)
        else
          receiveMessages task id fuel .receiving
            (host.modifyRun id fun run => { run with permits := run.permits - 1 })
      | .receiving =>
        if state.cancelled then
          ((host.stopWaiting task (canonicalAddress run.queue)).finish task).release id
        -- woken for another reason, the task keeps its place among those that wait
        else if host.waiting.any (·.2 = task) then host
        else
          let host := { host with notified := host.notified.filter (· ≠ task) }
          match host.takeMessage run with
          | (some (message, expired), host) =>
            -- a dropped message needs no permission any more
            if expired then receiveMessages task id fuel .acquiring (host.release id)
            else receiveMessages task id fuel .acquiring (host.startProcessing id run message)
          | (none, host) =>
            match host.awaitMessage task run with
            | (true, host) => receiveMessages task id fuel .receiving host
            | (false, host) => host.setJob task (.receive id .receiving)
    | _, _ => host

/-- How many steps a receiving task needs at most before it waits. -/
def receiveFuel (host : Host) (id : RunId) : Nat :=
  match host.run? id with
  | some run => 2 * host.world.broker.depth run.queue + 4
  | none => 0

/-- The text of the critical error of a pipeline that panicked. -/
def pumpPanicked : String := "Message pump task panicked while processing a message"

/-- Puts a message back to the head of its queue. -/
def returnMessage (host : Host) (run : PumpRun) (message : Queued) : Host :=
  host.modifyBroker (·.requeue run.queue message)

/-- Raises the critical error of a pipeline that panicked. -/
def raisePanic (host : Host) (run : PumpRun) (payload : Panic) : Host :=
  let cause : TransportError := .receive ("pipeline panicked: " ++ payload.message)
  (host.inSite run.site (World.run (Act.raiseCritical pumpPanicked cause.message))).2

/-- Ends the processing of a message. -/
def endProcessing (host : Host) (task : TaskId) (id : RunId) : Host :=
  ((host.finish task).modifyRun id fun run => { run with inFlight := run.inFlight - 1 }).release id

/-- Goes on with the processing of a message. -/
def processMessage (host : Host) (task : TaskId) (id : RunId) (message : Queued)
    (rest : Act StageResult) : Host :=
  match host.run? id with
  | none => host.finish task
  | some run =>
    match host.inSite run.site (World.advance rest) with
    | (.asleep millis rest, host) =>
      (host.setJob task (.process id message rest)).sleepFor task millis
    -- the message is back in its queue before the permission for the next one is
    | (.finished (.ok .retryRequested), host) | (.finished (.error _), host) =>
      (host.returnMessage run message).endProcessing task id
    | (.finished (.ok _), host) => host.endProcessing task id
    | (.panicked payload, host) =>
      ((host.raisePanic run payload).returnMessage run message).endProcessing task id

/-! ### Starting and stopping -/

/-- The pump with a key. -/
def pump? (host : Host) (key : PumpKey) : Option PumpState := host.pumps.find? (·.key = key)

/-- Changes a pump. -/
def modifyPump (host : Host) (key : PumpKey) (f : PumpState → PumpState) : Host :=
  { host with pumps := host.pumps.map fun pump => if pump.key = key then f pump else pump }

/-- Changing a pump leaves the others. -/
theorem pump?_modifyPump (host : Host) (key other : PumpKey) {f : PumpState → PumpState}
    (hf : ∀ pump, (f pump).key = pump.key) :
    (host.modifyPump key f).pump? other
      = (host.pump? other).map fun pump => if other = key then f pump else pump := by
  unfold modifyPump pump?
  dsimp only
  induction host.pumps with
  | nil => rfl
  | cons pump rest ih =>
    -- a change of a pump keeps its key
    have hkey : (if pump.key = key then f pump else pump).key = pump.key := by
      split
      · exact hf pump
      · rfl
    rw [List.map_cons, List.find?_cons, List.find?_cons, hkey]
    by_cases hother : pump.key = other
    · simp only [hother, decide_true, Option.map_some]
    · simp only [hother, decide_false, ih]

/-- Changing a pump leaves another one as it is. -/
theorem pump?_modifyPump_of_ne (host : Host) {key other : PumpKey} (hne : other ≠ key)
    {f : PumpState → PumpState} (hf : ∀ pump, (f pump).key = pump.key) :
    (host.modifyPump key f).pump? other = host.pump? other := by
  rw [host.pump?_modifyPump key other hf]
  cases host.pump? other with
  | none => rfl
  | some pump => rw [Option.map_some, if_neg hne]

/-- Sets a pump up on a queue that exists. -/
def initPump (host : Host) (key : PumpKey) (entry : PumpEntry) (settings : PumpSettings) :
    Except TransportError Unit × Host :=
  let queue := settings.inputQueue
  if host.world.broker.queueExists queue then
    let host := if settings.purge then host.modifyBroker (·.purge queue) else host
    match host.pump? key with
    -- set up anew, a pump that runs keeps its run
    | some _ => (.ok (), host.modifyPump key fun pump => { pump with entry, queue })
    | none => (.ok (), { host with pumps := host.pumps ++ [{ key, entry, queue }] })
  else (.error (.queueNotFound (canonicalAddress queue)), host)

/-- How many messages a pump without a setting processes at once. -/
def defaultConcurrency : Nat := 8

/-- Starts a pump that was set up; one that runs goes on. -/
def startPump (host : Host) (key : PumpKey) (concurrency : Concurrency) :
    Except TransportError Unit × Host :=
  match host.pump? key with
  | none => (.error .notInitialized, host)
  | some pump =>
    match pump.running with
    | some _ => (.ok (), host)
    | none =>
      let id := host.runs.size
      let (receiver, host) := host.spawn key.site (.receive id .acquiring)
      let run : PumpRun :=
        { site := key.site, entry := pump.entry, queue := pump.queue, receiver
          permits := concurrency.getD defaultConcurrency }
      (.ok (), { host with runs := host.runs.push run }.modifyPump key fun pump =>
        { pump with running := some id })

/-- Asks a running pump to finish. -/
def cancelPump (host : Host) (key : PumpKey) : Option RunId × Host :=
  match (host.pump? key).bind PumpState.running with
  | none => (none, host)
  | some id =>
    -- from here on the pump may be started again, while the old run drains
    let host := host.modifyPump key fun pump => { pump with running := none }
    match host.run? id with
    | some run => (some id, host.cancel run.receiver)
    | none => (none, host)

/-- Whether a run neither receives nor processes any more. -/
def isDrained (id : RunId) (host : Host) : Bool :=
  match host.run? id with
  | some run => (host.task? run.receiver).isNone && run.inFlight == 0
  | none => true

end Messaging.Host
