import Messaging.Exercise.Recovery
import Messaging.Timeout.Poller

/-!
# Exercises on timeouts

- `satellites` leads messages through the side queues of a timeout manager.
- `poller` polls a storage, once at a time or in the background.
-/

namespace Messaging.Exercise

open JsonForm Scripted
open Time (Instant)

/-- The result of a spin. -/
def ofSpin : Except Timeouts.PollError Unit → Json
  | .ok () => ok
  | .error error =>
    let kind :=
      match error with
      | .storage _ => "Storage"
      | .dispatch .. => "Dispatch"
    .ofMembers [("error", .string kind), ("message", .string error.message),
      ("source", .string error.source)]

/-- The site of a timeout manager with a circuit breaker. -/
def timeoutSite (script : Json) (breaker : Breaker) : Reading Site := do
  let storage ← readStorage (script.getD "storage")
  let now ← readClock
  pure { watchedSite (recorderOf script) with
    storage := storage.storage, breaker, schedule := .initial now }

/-- Notes that a timeout was stored. -/
def register (site : SiteId) (due : Instant) : Exercise Unit := do
  let _ ← run site (Act.ask (.changeSchedule (Timeouts.registered due)))

/-- The time of the next query. -/
def nextRetrieval (site : SiteId) : Exercise Json := do
  let schedule := (← siteOf site).schedule
  pure (ofTime (← now) schedule.next)

/-- A side queue of a script. -/
def satelliteOf (script : Json) (name : String) (last : LastStage ReceiveContext) :
    Chain ReceiveContext where
  name := name
  steps :=
    if asFlag (script.getD "no_recoverability") then []
    else Assembly.satelliteSteps name "error" ("sales." ++ name)
  terminator := last

/-- Leads a message through a side queue. -/
def satelliteStep (site : SiteId) (chain : Chain ReceiveContext) (value : Json) :
    Exercise Json := do
  let message ← decode (readMessage value)
  let result ← perform site ofResult do
    let (result, _) ← receiveProgram chain message
    pure result
  let state ← siteOf site
  let next ← nextRetrieval site
  shown site result
    [("stored", ofStore (← now) state.storage.store), ("next_retrieval", next),
      ("failures", .ofNat ((state.counters .satellites).get chain.name message.id).toNat)]

/-- The side queues of a timeout manager. -/
def satellites (script : Json) : Exercise Json := do
  let site ← addSite (← decode (timeoutSite script { name := "B", wait := .ofSeconds 2 }))
  let owner := (asText? (script.getD "owner")).getD "Sales"
  let store := satelliteOf script Timeouts.storageSatellite (Timeouts.storeLast owner)
  let dispatch := satelliteOf script Timeouts.dispatchSatellite
    (Timeouts.dispatchLast (readMode (script.getD "mode")))
  match ← decode (readTime? (script.getD "planned")) with
  | some due => register site due
  | none => pure ()
  steps script fun kind argument =>
    match kind with
    | "store" => satelliteStep site store argument
    | "dispatch" => satelliteStep site dispatch argument
    | _ => do
      let result ← perform site ofSpin (Timeouts.spin "sales.TimeoutsDispatcher")
      shown site result

/-- Changes the storage itself, behind its scripted faults. -/
def changeStore {α : Type} (site : SiteId) (f : TimeoutStore → α × TimeoutStore) : Exercise α :=
  changeSite site fun site =>
    let (value, store) := f site.storage.store
    (value, { site with storage := { site.storage with store } })

/-- Adds a timeout to the storage itself. -/
def addStored (site : SiteId) (timeout : Timeout) : Exercise (Except StorageError Unit) :=
  changeStore site fun store =>
    match store.add timeout with
    | .ok store => (.ok (), store)
    | .error error => (.error error, store)

/-- A step of a poller. -/
def pollerStep (site : SiteId) (address kind : String) (argument : Json) : Exercise Json := do
  match kind with
  | "spin" => perform site ofSpin (Timeouts.spin address)
  | "register" => do
    register site (← decode (readTime argument))
    pure ok
  | "add" => do
    let result ← addStored site (← decode (readTimeout argument))
    pure (ofUnit ofStorageError result)
  | "remove" => do
    let found ← changeStore site (·.remove (asText argument))
    pure (.bool found)
  | "start" => do
    modify (·.startPoller site address breakerTriggered)
    pure ok
  | "sleep_ms" => do
    idle (asNat argument)
    pure ok
  | _ => do
    modify (·.stopPoller site)
    pure ok

/-- A poller of a storage. -/
def poller (script : Json) : Exercise Json := do
  let wait := script.getD "wait_ms"
  let breaker := readBreaker Endpoint.breakerName (if isNull wait then .integer 2000 else wait)
  let site ← addSite (← decode (timeoutSite script breaker))
  let address := (asText? (script.getD "address")).getD "sales.TimeoutsDispatcher"
  steps script fun kind argument => do
    let result ← pollerStep site address kind argument
    let queries := (← siteOf site).storage.calls .nextChunk
    let next ← nextRetrieval site
    shown site result [("next_retrieval", next), ("queries", .ofNat queries)]

/-- A storage in memory. -/
def storage (script : Json) : Exercise Json := do
  let site ← addSite {}
  steps script fun kind argument => do
    let store := (← siteOf site).storage.store
    let result ←
      match kind with
      | "add" => do
        let result ← addStored site (← decode (readTimeout argument))
        pure (ofUnit ofStorageError result)
      | "peek" => do
        let now ← now
        pure (((store.peek? (asText argument)).map (ofTimeout now)).getD .null)
      | "remove" => do
        let found ← changeStore site (·.remove (asText argument))
        pure (.bool found)
      | "chunk" => do
        let start ← decode (readTime argument)
        let chunk := store.nextChunk start (← decode readClock)
        pure (ofChunk (← now) chunk)
      | _ => pure (.ofStrings store.timeouts.keys)
    let size := (← siteOf site).storage.store.timeouts.size
    pure (.ofMembers [("result", result), ("len", .ofNat size), ("empty", .bool (size = 0))])

end Messaging.Exercise
