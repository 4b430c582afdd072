import Messaging.Delivery
import Messaging.Header
import Messaging.Transport.Mode

/-!
# Failures

Why an endpoint does not start, an operation is refused, or a message is not processed.

- `ConfigError`, `TransportError`, `StorageError` and `RoutingError` are the causes by origin;
  `message` is the text of each.
- `Failure` is why the processing of a message failed. A handler fails with a text and a chain of
  causes, or passes on a failure that it met.
- `Failure.causes` is the chain of causes and `Failure.trace` shows it.
- `Failure.describeOn` writes a failure into the headers of the failed message.
-/

namespace Messaging

open Time (Instant Span)

/-- Why a configuration is refused. -/
inductive ConfigError where
  /-- The transport offers only a weaker transaction mode. -/
  | unsupportedMode (requested supported : TransactionMode)
  /-- The transport does not keep a kind of delivery constraint. -/
  | unsupportedConstraint (kind : Constraint.Kind)
  /-- Two steps have one id. -/
  | duplicateStep (step : String)
  /-- A step is ordered relative to one that does not exist. -/
  | unknownStep (step reference : String)
  /-- A replacement names a step that does not exist. -/
  | replaceUnknownStep (step : String)
  /-- The order of the steps runs in a circle. -/
  | cycle (step : String)
  /-- A check before the start failed. -/
  | preStartupCheck (reason : String)
  /-- The endpoint receives and the transport does not. -/
  | receiveNotSupported
  /-- A setting has a value that cannot be used. -/
  | invalidSetting (name reason : String)
deriving DecidableEq, Repr

/-- The text of a refused configuration. -/
def ConfigError.message : ConfigError → String
  | unsupportedMode requested supported =>
    "Requested transaction mode `" ++ requested.text ++
      "` can't be satisfied since the transport only supports `" ++ supported.text ++ "`"
  | unsupportedConstraint kind =>
    "delivery constraint `" ++ kind.text ++ "` is not supported by the transport"
  | duplicateStep step => "step '" ++ step ++ "' is registered more than once"
  | unknownStep step reference =>
    "step '" ++ step ++ "' references unknown step '" ++ reference ++ "'"
  | replaceUnknownStep step =>
    "cannot replace step '" ++ step ++ "': no step with that id is registered"
  | cycle step => "pipeline ordering cycle: " ++ step
  | preStartupCheck reason => "Pre start-up check failed: " ++ reason
  | receiveNotSupported => "transport does not support receiving, but the endpoint is not send-only"
  | invalidSetting name reason => "invalid setting '" ++ name ++ "': " ++ reason

/-- Why a transport refuses. -/
inductive TransportError where
  /-- There is no queue at an address. -/
  | queueNotFound (address : String)
  /-- A batch was not sent. -/
  | dispatch (reason : String)
  /-- A message was not received. -/
  | receive (reason : String)
  /-- A pump was started before it was initialised. -/
  | notInitialized
  /-- A pump had messages in flight for longer than it may. -/
  | stopTimeout (grace : Span)
  /-- An operation that the transport does not have. -/
  | unsupported (operation : String)
deriving DecidableEq, Repr

/-- The text of a transport's refusal. -/
def TransportError.message : TransportError → String
  | queueNotFound address => "queue '" ++ address ++ "' does not exist"
  | dispatch reason => "dispatch failed: " ++ reason
  | receive reason => "receive failed: " ++ reason
  | notInitialized => "message pump is not initialized"
  | stopTimeout grace =>
    "message pump failed to stop within the time allowed (" ++ grace.describe ++ ")"
  | unsupported operation => "transport operation not supported: " ++ operation

/-- Why a timeout storage refuses. -/
inductive StorageError where
  /-- The storage cannot be reached. -/
  | unavailable (reason : String)
  /-- The id is taken. -/
  | duplicate (id : String)
  /-- Any other reason. -/
  | other (reason : String)
deriving DecidableEq, Repr

/-- The text of a storage's refusal. -/
def StorageError.message : StorageError → String
  | unavailable reason => "timeout storage is unavailable: " ++ reason
  | duplicate id => "timeout '" ++ id ++ "' already exists"
  | other reason => "timeout storage failed: " ++ reason

/-- Why an outgoing message has no route. -/
inductive RoutingError where
  /-- No route leads from the message type to an endpoint. -/
  | noDestination (messageType : String)
  /-- The message to reply to names no address. -/
  | noReplyTo (messageId : String)
  /-- The endpoint has no queue of its own. -/
  | noLocalAddress
  /-- Nobody keeps the subscribers of an event. -/
  | publishNotSupported (messageType : String)
  /-- Nobody takes subscriptions. -/
  | subscriptionsNotSupported
  /-- A deferred message can only be sent to one address. -/
  | delayRequiresUnicast (messageType : String)
deriving DecidableEq, Repr

/-- The text of a missing route. -/
def RoutingError.message : RoutingError → String
  | noDestination messageType =>
    "no destination specified for message '" ++ messageType ++
      "': add a route or set an explicit destination"
  | noReplyTo messageId => "message '" ++ messageId ++ "' has no reply-to address to reply to"
  | noLocalAddress => "cannot route to this endpoint: send-only endpoints have no input queue"
  | publishNotSupported messageType =>
    "publishing '" ++ messageType ++
      "' requires a transport with native multicast or a subscriber lookup"
  | subscriptionsNotSupported => "the transport does not support native subscriptions"
  | delayRequiresUnicast messageType =>
    "delayed delivery through the timeout manager needs exactly one unicast destination (message '"
      ++ messageType ++ "')"

/-- Why the processing of a message failed. -/
inductive Failure where
  /-- The body holds no message of the expected type. -/
  | deserialization (messageId reason : String)
  /-- A handler failed with a text and the causes behind it, nearest first. -/
  | handler (text : String) (causes : List String)
  /-- A handler passed on a failure that it met. -/
  | wrapped (inner : Failure)
  /-- No handler takes the message type. -/
  | noHandlers (messageType : String)
  /-- The message lacks what its stage needs. -/
  | invalidMessage (messageId reason : String)
  /-- An outgoing message cannot be written. -/
  | serialization (reason : String)
  /-- An outgoing message has no route. -/
  | routing (error : RoutingError)
  /-- The transport refused. -/
  | transport (error : TransportError)
  /-- The timeout storage refused. -/
  | storage (error : StorageError)
  /-- The configuration is refused. -/
  | config (error : ConfigError)
deriving DecidableEq, Repr, Inhabited

namespace Failure

/-- The name of the kind of a failure. -/
def kind : Failure → String
  | deserialization .. => "Deserialization"
  | handler .. | wrapped _ => "Handler"
  | noHandlers _ => "NoHandlers"
  | invalidMessage .. => "InvalidMessage"
  | serialization _ => "Serialization"
  | routing _ => "Routing"
  | transport _ => "Transport"
  | storage _ => "Storage"
  | config _ => "Configuration"

/-- Whether the body could not be read. -/
def isDeserialization : Failure → Bool
  | deserialization .. => true
  | _ => false

/-- The text of a failure. -/
def message : Failure → String
  | deserialization messageId reason =>
    "failed to deserialize message '" ++ messageId ++ "': " ++ reason
  | handler text _ => text
  | wrapped inner => inner.message
  | noHandlers messageType =>
    "no handlers could be found for message type '" ++ messageType ++ "'"
  | invalidMessage messageId reason => reason ++ " (message '" ++ messageId ++ "')"
  | serialization reason => "failed to serialize outgoing message: " ++ reason
  | routing error => error.message
  | transport error => error.message
  | storage error => error.message
  | config error => error.message

/-- The texts of the causes behind a failure, nearest first. -/
def causes : Failure → List String
  | handler _ causes => causes
  | wrapped inner => inner.causes
  | _ => []

/-- The nearest cause behind a failure. -/
def innerCause? (failure : Failure) : Option String := failure.causes.head?

/-- The failure and its causes, one a line. -/
def trace (failure : Failure) : String :=
  failure.causes.foldl (fun trace cause => trace ++ "\ncaused by: " ++ cause) failure.message

/-- The kind of a failure as headers name it. -/
def typeName (failure : Failure) : String := "courier::ProcessingError::" ++ failure.kind

/-- The headers of a failed message: the failure, the queue and the time, in the place of those of
an earlier failure. -/
def describeOn (failure : Failure) (queue time : String) (headers : Headers) : Headers :=
  let headers := (((headers.insert Header.exceptionType failure.typeName).insert
    Header.exceptionMessage failure.message).insert
    Header.exceptionSource failure.kind).insert
    Header.exceptionStackTrace failure.trace
  let headers :=
    match failure.innerCause? with
    | some cause => headers.insert Header.innerExceptionType cause
    | none => headers.erase Header.innerExceptionType
  (headers.insert Header.failedQueue queue).insert Header.timeOfFailure time

end Failure

/-- What monitoring is told about a failure. -/
structure FailureInfo where
  /-- The kind of the failure. -/
  typeName : String
  /-- Its text. -/
  message : String
  /-- The failure and its causes. -/
  trace : String
deriving DecidableEq, Repr

/-- What monitoring is told about a failure. -/
def Failure.info (failure : Failure) : FailureInfo :=
  ⟨failure.typeName, failure.message, failure.trace⟩

end Messaging
