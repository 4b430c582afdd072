import Messaging.Host.Receive
import Messaging.Timeout.Poller

/-!
# Running a host

- `pollTask` lets one task go on until it waits again.
- `await` lets the tasks run until a condition holds or a time is over. Time passes only when no
  task can go on, and then up to the next task that wakes or to the end of the wait.
- `drive` runs a program that starts or stops an endpoint.
-/

namespace Messaging.Host

open Time (Span)

/-! ### Tasks -/

/-- Lets a task that repeats work go on. -/
def repeatWork (host : Host) (task : TaskId) (state : Task) (pause : Nat) (work : Act Unit)
    (working : Bool) : Host :=
  if state.cancelled && !working then host.finish task
  else
    -- a round that has begun is finished, also by a task that is asked to end
    let (_, host) := host.inSite state.site (World.run work)
    if state.cancelled then host.finish task
    else (host.setJob task (.repeating pause work false)).sleepFor task pause

/-- Lets a task that clears failure counters go on. -/
def clearAgain (host : Host) (task : TaskId) (state : Task) (pause : Nat)
    (counters : List CounterId) (waited : Bool) : Host :=
  if state.cancelled then host.finish task
  else
    let cleared (world : World) : Unit × World :=
      ((), world.modifySite fun site => counters.foldl Site.clearCounter site)
    -- the first pass only waits
    let host := if waited then (host.inSite state.site cleared).2 else host
    (host.setJob task (.clear pause counters true)).sleepFor task pause

/-- Lets a task go on until it waits or ends. -/
def pollTask (host : Host) (id : TaskId) : Host :=
  match host.task? id with
  | none => host
  | some task =>
    match task.job with
    | .receive run phase => receiveMessages id run (host.receiveFuel run) phase host
    | .process run message rest => host.processMessage id run message rest
    | .repeating pause work working => host.repeatWork id task pause work working
    | .clear pause counters waited => host.clearAgain id task pause counters waited

/-- How many tasks go on before a waiting program looks again. -/
def batchSize : Nat := 61

/-- Lets at most a number of tasks go on, and says whether none was left to go on. -/
def pollReady : Nat → Host → Bool × Host
  | 0, host => (false, host)
  | n + 1, host =>
    match host.ready with
    | [] => (true, host)
    | id :: rest => pollReady n ({ host with ready := rest }.pollTask id)

/-- The earlier of the next time that a task wakes and a given one. -/
def nextEvent? (host : Host) (deadline : Option Nat) : Option Nat :=
  match host.nextDeadline?, deadline with
  | some a, some b => some (min a b)
  | some a, none => some a
  | none, b => b

/-- Lets the tasks run until a condition holds or the stopwatch reaches a deadline, and says whether
the condition holds; `fuel` bounds the number of rounds. -/
def await (condition : Host → Bool) (deadline : Option Nat) : Nat → Host → Bool × Host
  | 0, host => (false, host)
  | fuel + 1, host =>
    if condition host then (true, host)
    else if deadline.any (· ≤ host.world.stopwatch) then (false, host)
    else
      match pollReady batchSize host with
      | (false, host) => await condition deadline fuel host
      | (true, host) =>
        if condition host then (true, host)
        else
          -- nothing can go on, so time passes
          match host.nextEvent? deadline with
          | some event => await condition deadline fuel (host.advanceTo event)
          -- nothing will ever go on
          | none => (false, host)

/-- The number of rounds of a wait. -/
def patience : Nat := 1000000

/-- Lets the tasks run for a number of milliseconds. -/
def idle (host : Host) (millis : Nat) : Host :=
  (await (fun _ => false) (some (host.world.stopwatch + millis)) patience host).2

/-- Lets the tasks run until one of them has ended. -/
def join (host : Host) (task : TaskId) : Host :=
  (await (fun host => (host.task? task).isNone) none patience host).2

/-! ### Starting and stopping -/

/-- Stops a pump and waits for its messages in flight, for a limited time. -/
def stopPump (host : Host) (key : PumpKey) (grace : Span) : Except TransportError Unit × Host :=
  match host.cancelPump key with
  | (none, host) => (.ok (), host)
  | (some run, host) =>
    match await (isDrained run) (some (host.world.stopwatch + grace.millis)) patience host with
    | (true, host) => (.ok (), host)
    | (false, host) => (.error (.stopTimeout grace), host)

/-- Starts a background poller; `text` is the critical error of a lost storage. -/
def startPoller (host : Host) (site : SiteId) (address text : String) : Host :=
  let work := Timeouts.round address text
  let (task, host) := host.spawn site (.repeating Timeouts.pollingPause work true)
  { host with pollers := host.pollers.filter (·.1 ≠ site) ++ [(site, task)] }

/-- Starts to clear failure counters, unless there is no pause between two clearings. -/
def startCleaner (host : Host) (site : SiteId) (interval : Span) (counters : List CounterId) :
    Host :=
  if interval.nanos = 0 then host
  else
    let (task, host) := host.spawn site (.clear interval.millis counters false)
    { host with cleaners := host.cleaners.filter (·.1 ≠ site) ++ [(site, task)] }

/-- Stops a background task of an endpoint. -/
def stopTask (host : Host) (site : SiteId) (tasks : List (SiteId × TaskId)) : Host :=
  match tasks.find? (·.1 = site) with
  | some entry => (host.cancel entry.2).join entry.2
  | none => host

/-- Stops the background poller of an endpoint. -/
def stopPoller (host : Host) (site : SiteId) : Host :=
  { host.stopTask site host.pollers with pollers := host.pollers.filter (·.1 ≠ site) }

/-- Stops to clear the failure counters of an endpoint. -/
def stopCleaner (host : Host) (site : SiteId) : Host :=
  { host.stopTask site host.cleaners with cleaners := host.cleaners.filter (·.1 ≠ site) }

/-- Answers a request of an endpoint that starts or stops. -/
def serve (host : Host) (site : SiteId) : (request : Lifecycle) → request.Answer × Host
  | .act effect => host.inSite site fun world => world.perform effect
  | .initPump index entry settings => host.initPump ⟨site, index⟩ entry settings
  | .startPump index concurrency => host.startPump ⟨site, index⟩ concurrency
  | .stopPump index grace => host.stopPump ⟨site, index⟩ grace
  | .startPoller address => ((), host.startPoller site address Timeouts.storageLost)
  | .stopPoller => ((), host.stopPoller site)
  | .startCleaner interval counters => ((), host.startCleaner site interval counters)
  | .stopCleaner => ((), host.stopCleaner site)

/-- Runs a program that starts or stops an endpoint. -/
def drive {α : Type} (site : SiteId) : Life α → Host → Except Panic α × Host
  | .done result, host => (.ok result, host)
  | .panic payload, host => (.error payload, host)
  | .call request next, host =>
    let (answer, host) := host.serve site request
    drive site (next answer) host

/-- Runs a program of an endpoint that nothing interrupts. -/
def act {α : Type} (host : Host) (site : SiteId) (program : Act α) : Except Panic α × Host :=
  host.inSite site (World.run program)

end Messaging.Host
