import Messaging.Incoming.Context
import Messaging.Recovery.Faults
import Messaging.Timeout.Deferral
import Messaging.Transport.Mode

/-!
# The side queues of the timeout manager

- `storeLast` takes a deferred message: it is stored until it is due, or sent on at once when it is
  due within a second.
- `dispatchLast` takes a request to send a stored message on, and removes it from storage
  afterwards.
- `recover` hands failed messages of both queues back a number of times and then moves them to the
  error queue.
-/

namespace Messaging.Timeouts

open Time (Span)

/-- The qualifier of the queue that stores messages. -/
def storageSatellite : String := "Timeouts"

/-- The qualifier of the queue that sends stored messages on. -/
def dispatchSatellite : String := "TimeoutsDispatcher"

/-- A message due within this time is sent on at once. -/
def immediateWithin : Span := .ofSeconds 1

/-- Sends a message to one address. -/
def sendTo (address : String) (message : Message) (isolated : Bool) :
    Act (Except TransportError Unit) :=
  Act.dispatch (.ofList [{ message, route := .unicast address, isolated }])

/-! ### Storing -/

/-- The refusal of a message without a due time. -/
def notDeferred : String := "Non timeout message arrived at the timeout manager"

/-- The refusal of a message whose due time cannot be read. -/
def badExpiry (text : String) (fault : Time.Fault) : String :=
  "invalid timeout expiry '" ++ text ++ "': " ++ fault.message

/-- The refusal of a message that does not say where it goes. -/
def noDestination : String := "deferred message has no destination"

/-- The due time and destination of a deferred message. -/
def readDeferred (message : Message) : Except String (Time.Instant × String) :=
  match message.header? Header.timeoutExpire with
  | none => .error notDeferred
  | some text =>
    match Time.Wire.read text with
    | .error fault => .error (badExpiry text fault)
    | .ok due =>
      match (message.header? Header.timeoutRouteExpiredTo).or message.replyTo? with
      | none => .error noDestination
      | some destination => .ok (due, destination)

/-- The schedule after a timeout was stored: a query no later than its due time. -/
def registered (due : Time.Instant) (schedule : Schedule) : Schedule :=
  { schedule with next := schedule.next.min due, pushed := true }

/-- Stores a deferred message of an endpoint, or sends it on if it is due. -/
def store (owner : String) (message : Message) : Act StageResult := do
  match readDeferred message with
  | .error reason => pure (.error (.invalidMessage message.id reason))
  | .ok (due, destination) => do
    let now ← Act.clock
    -- a message that is nearly due is not worth storing
    if due ≤ now.later immediateWithin then
      match ← sendTo destination message false with
      | .ok () => pure (.ok .completed)
      | .error error => pure (.error (.transport error))
    else do
      let id ← Act.freshId
      match ← Act.ask (.addTimeout
        { id, destination, body := message.body, due, headers := message.headers, owner }) with
      | .error error => pure (.error (.storage error))
      | .ok () => do
        Act.ask (.changeSchedule (registered due))
        pure (.ok .completed)

/-- The last stage of the queue that stores messages. -/
def storeLast (owner : String) : LastStage ReceiveContext := fun context => do
  let result ← store owner context.message
  pure (result, context)

/-! ### Sending on -/

/-- The refusal of a request that names no timeout. -/
def noTimeoutId : String := "dispatch request carries no timeout id"

/-- The refusal of a timeout that somebody else removed. -/
def removedElsewhere (id : String) : String :=
  "timeout '" ++ id ++ "' was removed concurrently while being dispatched"

/-- Whether messages are sent on apart from the receive of the request. -/
def isolatedUnder : TransactionMode → Bool
  | .transactionScope => false
  | .none | .receiveOnly | .sendsAtomicWithReceive => true

/-- The message of a stored timeout as it is sent on. -/
def expiredMessage (timeout : Timeout) (timeSent : String) : Message :=
  let headers := (((timeout.headers.erase Header.timeoutExpire).erase
    Header.timeoutRouteExpiredTo).insert Header.timeSent timeSent).insert
    Header.relatedToTimeoutId timeout.id
  ⟨headers.getD Header.messageId timeout.id, headers, timeout.body⟩

/-- Sends the stored message that a request names on, and removes it. -/
def dispatchStored (isolated : Bool) (request : Message) : Act StageResult := do
  match request.header? Header.timeoutIdToDispatch with
  | none => pure (.error (.invalidMessage request.id noTimeoutId))
  | some id =>
    match ← Act.ask (.peekTimeout id) with
    | .error error => pure (.error (.storage error))
    -- somebody else has sent the message on already
    | .ok none => pure (.ok .completed)
    | .ok (some timeout) => do
      let now ← Act.clock
      let message := expiredMessage timeout (Time.Wire.write now)
      match ← sendTo timeout.destination message isolated with
      | .error error => pure (.error (.transport error))
      | .ok () =>
        -- sent first and removed afterwards, the message may arrive twice but is never lost
        match ← Act.ask (.removeTimeout id) with
        | .error error => pure (.error (.storage error))
        | .ok true => pure (.ok .completed)
        | .ok false => pure (.error (.storage (.other (removedElsewhere id))))

/-- The last stage of the queue that sends stored messages on. -/
def dispatchLast (mode : TransactionMode) : LastStage ReceiveContext := fun context => do
  let result ← dispatchStored (isolatedUnder mode) context.message
  pure (result, context)

/-! ### Failures -/

/-- The id of the step that recovers from failures. -/
def recoverStep : String := "TimeoutRecoverability"

/-- How often a failed message is handed back. -/
def maxRetries : UInt32 := 4

/-- The text of the critical error of a message that cannot be moved. -/
def forwardingFailed : String := "Failed to forward failed timeout message to error queue"

/-- Hands failed messages of a side queue back, and moves them to the error queue when they have
failed too often. -/
def recover (pipeline errorQueue localAddress : String) : Stage ReceiveContext :=
  fun next context => do
    let (result, context) ← next.run context
    match result with
    | .ok outcome => pure (.ok outcome, context)
    | .error failure => do
      let messageId := context.message.id
      let failures ← Act.ask (.countFailure .satellites pipeline messageId)
      if failures ≤ maxRetries then pure (.ok .retryRequested, context)
      else do
        let message ← Recovery.describeFailure failure localAddress context.message
        let context := { context with message }
        match ← sendTo errorQueue message false with
        | .ok () => do
          -- a message that comes back from the error queue starts with no failures
          Act.ask (.clearFailures .satellites pipeline messageId)
          pure (.ok (.movedToErrorQueue failure), context)
        | .error error => do
          Act.raiseCritical forwardingFailed error.message
          pure (.error (.transport error), context)

end Messaging.Timeouts
