import Messaging.Failure
import Messaging.JsonForm.Basic
import Messaging.Pipeline.Outcome

/-!
# Failures in JSON forms

- An error is read from a tag, its variant, with the argument of the variant. It is written as its
  kind and its text.
- `readResult` and `ofResult` are the forms of stage results.
-/

namespace Messaging.JsonForm

/-- The transaction mode with a name, if there is one. -/
def readMode? (value : Json) : Option TransactionMode := TransactionMode.ofName? (asText value)

/-- A transaction mode. -/
def readMode (value : Json) : TransactionMode := (readMode? value).getD .receiveOnly

/-! ### Reading -/

/-- Reads a transport's refusal. -/
def readTransportError (value : Json) : TransportError :=
  match asTagged value with
  | ("QueueNotFound", text) => .queueNotFound (asText text)
  | ("Receive", text) => .receive (asText text)
  | ("NotInitialized", _) => .notInitialized
  | ("StopTimeout", n) => .stopTimeout (.ofMillis (asNat n))
  | ("Unsupported", text) => .unsupported (asText text)
  | (_, text) => .dispatch (asText text)

/-- Reads a storage's refusal. -/
def readStorageError (value : Json) : StorageError :=
  match asTagged value with
  | ("Duplicate", text) => .duplicate (asText text)
  | ("Other", text) => .other (asText text)
  | (_, text) => .unavailable (asText text)

/-- Reads a missing route. -/
def readRoutingError (value : Json) : RoutingError :=
  match asTagged value with
  | ("NoDestination", text) => .noDestination (asText text)
  | ("NoReplyToAddress", text) => .noReplyTo (asText text)
  | ("PublishNotSupported", text) => .publishNotSupported (asText text)
  | ("SubscriptionsNotSupported", _) => .subscriptionsNotSupported
  | ("DelayedDeliveryRequiresUnicast", text) => .delayRequiresUnicast (asText text)
  | _ => .noLocalAddress

/-- Reads a refused configuration. -/
def readConfigError (value : Json) : ConfigError :=
  match asTagged value with
  | ("UnsupportedTransactionMode", modes) =>
    .unsupportedMode (readMode (item modes 0)) (readMode (item modes 1))
  | ("UnsupportedDeliveryConstraint", kind) =>
    .unsupportedConstraint ((Constraint.Kind.ofName? (asText kind)).getD .discardAfter)
  | ("DuplicateStep", text) => .duplicateStep (asText text)
  | ("UnknownStep", pair) => .unknownStep (asPair pair).1 (asPair pair).2
  | ("ReplaceUnknownStep", text) => .replaceUnknownStep (asText text)
  | ("CycleDetected", text) => .cycle (asText text)
  | ("PreStartupCheckFailed", text) => .preStartupCheck (asText text)
  | ("InvalidSetting", pair) => .invalidSetting (asPair pair).1 (asPair pair).2
  | _ => .receiveNotSupported

/-- The text and causes of an error of user code: a text, or a list that starts with it. -/
def readChain : Json → String × List String
  | .array (first :: rest) => (asText first, rest.map asText)
  | other => (asText other, [])

/-- Reads a failure that wraps no other from its tag and argument. -/
def readPlainFailure (tag : String) (argument : Json) : Failure :=
  let (first, second) := asPair argument
  match tag with
  | "Handler" => .handler (readChain argument).1 (readChain argument).2
  | "HandlerMessage" => .handler (asText argument) []
  | "Deserialization" => .deserialization first second
  | "NoHandlers" => .noHandlers (asText argument)
  | "InvalidMessage" => .invalidMessage first second
  | "Serialization" => .serialization (asText argument)
  | "Routing" => .routing (readRoutingError argument)
  | "Transport" => .transport (readTransportError argument)
  | "Storage" => .storage (readStorageError argument)
  | _ => .config (readConfigError argument)

/-- Reads a failure. -/
def readFailure : Json → Failure
  | .object ((tag, argument) :: _) =>
    if tag = "HandlerWrapping" then .wrapped (readFailure argument)
    else readPlainFailure tag argument
  | other => readPlainFailure (asText other) .null

/-- Reads a stage result. -/
def readResult (value : Json) : StageResult :=
  match asTagged value with
  | ("RetryRequested", _) => .ok .retryRequested
  | ("MovedToErrorQueue", error) => .ok (.movedToErrorQueue (readFailure error))
  | ("fail", error) => .error (readFailure error)
  | _ => .ok .completed

/-! ### Writing -/

/-- An error by its kind and text. -/
def ofError (kind message : String) : Json :=
  .ofMembers [("error", .string kind), ("message", .string message)]

/-- A transport's refusal. -/
def ofTransportError (error : TransportError) : Json :=
  let kind :=
    match error with
    | .queueNotFound _ => "QueueNotFound"
    | .dispatch _ => "Dispatch"
    | .receive _ => "Receive"
    | .notInitialized => "NotInitialized"
    | .stopTimeout _ => "StopTimeout"
    | .unsupported _ => "Unsupported"
  ofError kind error.message

/-- A storage's refusal. -/
def ofStorageError (error : StorageError) : Json :=
  let kind :=
    match error with
    | .unavailable _ => "Unavailable"
    | .duplicate _ => "Duplicate"
    | .other _ => "Other"
  ofError kind error.message

/-- A refused configuration. -/
def ofConfigError (error : ConfigError) : Json :=
  let kind :=
    match error with
    | .unsupportedMode .. => "UnsupportedTransactionMode"
    | .unsupportedConstraint _ => "UnsupportedDeliveryConstraint"
    | .duplicateStep _ => "DuplicateStep"
    | .unknownStep .. => "UnknownStep"
    | .replaceUnknownStep _ => "ReplaceUnknownStep"
    | .cycle _ => "CycleDetected"
    | .preStartupCheck _ => "PreStartupCheckFailed"
    | .receiveNotSupported => "ReceiveNotSupported"
    | .invalidSetting .. => "InvalidSetting"
  ofError kind error.message

/-- A failure. -/
def ofFailure (failure : Failure) : Json := ofError failure.kind failure.message

/-- A result without a value. -/
def ofUnit {ε : Type} (ofError : ε → Json) : Except ε Unit → Json
  | .ok () => .string "ok"
  | .error error => ofError error

/-- The name of an outcome. -/
def outcomeName : Outcome → String
  | .completed => "Completed"
  | .retryRequested => "RetryRequested"
  | .movedToErrorQueue _ => "MovedToErrorQueue"

/-- A stage result. -/
def ofResult : StageResult → Json
  | .error failure => ofFailure failure
  | .ok outcome =>
    let cause :=
      match outcome with
      | .movedToErrorQueue failure => [("cause", ofFailure failure)]
      | _ => []
    .ofMembers ([("outcome", .string (outcomeName outcome)),
      ("commit", .bool outcome.commits)] ++ cause)

/-- What monitoring is told about a failure. -/
def ofInfo (info : FailureInfo) : Json :=
  .ofMembers [("exception_type", .string info.typeName), ("message", .string info.message),
    ("stack_trace", .string info.trace)]

end Messaging.JsonForm
