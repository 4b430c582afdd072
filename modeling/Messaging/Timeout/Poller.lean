import Messaging.Timeout.Satellites

/-!
# Polling the timeout storage

- `spin` asks the storage for due timeouts when that is due itself, requests the dispatch of each,
  and plans the next query.
- `round` is a spin of the background poller, which also tells the circuit breaker about failures
  of the storage.
-/

namespace Messaging.Timeouts

open Time (Instant Span)

/-- The longest time between two queries. -/
def maxQueryDelay : Span := .ofSeconds 60

/-- The pause of the background poller between two rounds, in milliseconds. -/
def pollingPause : Nat := 1000

/-- Why a spin stopped early. -/
inductive PollError where
  /-- The storage did not answer. -/
  | storage (error : StorageError)
  /-- The dispatch of a timeout could not be requested. -/
  | dispatch (id : String) (error : TransportError)
deriving DecidableEq, Repr

/-- The text of a spin that stopped early. -/
def PollError.message : PollError → String
  | storage error => "failed to fetch timeouts from the timeout storage: " ++ error.message
  | dispatch id error =>
    "failed to request dispatch of timeout '" ++ id ++ "': " ++ error.message

/-- The text of what made a spin stop early. -/
def PollError.source : PollError → String
  | storage error => error.message
  | dispatch _ error => error.message

/-- The headers of a request to dispatch a timeout. -/
def requestHeaders (id : String) : Headers :=
  Table.ofList [(Header.controlMessage, "true"), (Header.messageIntent, Intent.send.name),
    (Header.timeoutIdToDispatch, id)]

/-- Requests the dispatch of a timeout. -/
def requestDispatch (address id : String) : Act (Except TransportError Unit) := do
  let requestId ← Act.freshId
  sendTo address ⟨requestId, requestHeaders id, []⟩ false

/-- The schedule after the dispatch of a timeout was requested. -/
def requested (due : Instant) (schedule : Schedule) : Schedule :=
  { schedule with start := schedule.start.max due }

/-- The schedule after the dispatch of a timeout could not be requested: the timeout is still to be
asked for. -/
def notRequested (due : Instant) (schedule : Schedule) : Schedule :=
  { schedule with start := schedule.start.min (due.minus ⟨1⟩) }

/-- Requests the dispatch of timeouts in order, up to the first that fails. -/
def requestAll (address : String) : List DueTimeout → Act (Except PollError Unit)
  | [] => pure (.ok ())
  | entry :: rest => do
    match ← requestDispatch address entry.id with
    | .error error => do
      -- the timeout is asked for again by the next query
      Act.ask (.changeSchedule (notRequested entry.due))
      pure (.error (.dispatch entry.id error))
    | .ok () => do
      Act.ask (.changeSchedule (requested entry.due))
      requestAll address rest

/-- The schedule after a query that was answered with a time to ask again, at most `latest`. A
timeout stored meanwhile may have asked for an earlier query. -/
def planned (next latest : Instant) (schedule : Schedule) : Schedule :=
  -- a timeout that was stored since the query may be due before the answer says
  let chosen := if !schedule.pushed || next < schedule.next then next else schedule.next
  { schedule with next := chosen.min latest, pushed := false }

/-- Asks the storage for due timeouts, if that is due, and requests their dispatch. -/
def spin (address : String) : Act (Except PollError Unit) := do
  let schedule ← Act.ask .readSchedule
  let now ← Act.clock
  if now < schedule.next then pure (.ok ())
  else
    match ← Act.ask (.nextChunk schedule.start) with
    | .error error => pure (.error (.storage error))
    | .ok chunk => do
      -- the storage has answered, whatever becomes of the dispatches
      Act.ask .querySucceeded
      match ← requestAll address chunk.due with
      | .error error => pure (.error error)
      | .ok () => do
        let now ← Act.clock
        Act.ask (.changeSchedule (planned chunk.next (now.later maxQueryDelay)))
        pure (.ok ())

/-- The text of the critical error of a storage that does not come back. -/
def storageLost : String :=
  "Repeated failures when fetching timeouts from storage, endpoint will be terminated."

/-- Tells the circuit breaker about a failure of the storage. -/
def storageFailed (text : String) (error : StorageError) : Act Unit := do
  if ← Act.ask .queryFailed then Act.raiseCritical text error.message

/-- One round of the background poller; `text` is the critical error of a lost storage. -/
def round (address text : String) : Act Unit := do
  match ← spin address with
  | .error (.storage error) => storageFailed text error
  | _ => pure ()

end Messaging.Timeouts
