import Messaging.Table

/-!
# Headers

The keys of the headers that every endpoint on the bus understands.

- `Headers` is the header table of a message.
- The constants of the namespace `Header` are the keys.
-/

namespace Messaging

/-- The headers of a message. -/
abbrev Headers := Table String

namespace Header

/-- The id of the message, the same on every attempt. -/
def messageId : String := "NServiceBus.MessageId"

/-- The id that ties replies to the message that caused them. -/
def correlationId : String := "NServiceBus.CorrelationId"

/-- The address that replies go to. -/
def replyToAddress : String := "NServiceBus.ReplyToAddress"

/-- The message types of the body, separated by semicolons. -/
def enclosedMessageTypes : String := "NServiceBus.EnclosedMessageTypes"

/-- The media type of the body. -/
def contentType : String := "NServiceBus.ContentType"

/-- Why the message was sent. -/
def messageIntent : String := "NServiceBus.MessageIntent"

/-- When the message was sent. -/
def timeSent : String := "NServiceBus.TimeSent"

/-- The endpoint that sent the message. -/
def originatingEndpoint : String := "NServiceBus.OriginatingEndpoint"

/-- The endpoint that processed the message. -/
def processingEndpoint : String := "NServiceBus.ProcessingEndpoint"

/-- Marks a message without a logical body. -/
def controlMessage : String := "NServiceBus.ControlMessage"

/-- Marks a message that was deferred by a timeout manager. -/
def isDeferredMessage : String := "NServiceBus.IsDeferredMessage"

/-! ### Failed messages -/

/-- How many immediate retries were made before the message was given up. -/
def firstLevelRetries : String := "NServiceBus.FLRetries"

/-- The queue in which the message failed. -/
def failedQueue : String := "NServiceBus.FailedQ"

/-- When the message failed. -/
def timeOfFailure : String := "NServiceBus.TimeOfFailure"

/-- The kind of the failure. -/
def exceptionType : String := "NServiceBus.ExceptionInfo.ExceptionType"

/-- The first cause of the failure. -/
def innerExceptionType : String := "NServiceBus.ExceptionInfo.InnerExceptionType"

/-- The text of the failure. -/
def exceptionMessage : String := "NServiceBus.ExceptionInfo.Message"

/-- Where the failure arose. -/
def exceptionSource : String := "NServiceBus.ExceptionInfo.Source"

/-- The failure with its causes, one a line. -/
def exceptionStackTrace : String := "NServiceBus.ExceptionInfo.StackTrace"

/-! ### Timeouts -/

/-- When a deferred message is due. -/
def timeoutExpire : String := "NServiceBus.Timeout.Expire"

/-- Where a deferred message goes once it is due. -/
def timeoutRouteExpiredTo : String := "NServiceBus.Timeout.RouteExpiredTimeoutTo"

/-- The id of the timeout that a dispatched message was stored under. -/
def relatedToTimeoutId : String := "NServiceBus.RelatedToTimeoutId"

/-- The id of the timeout that is to be dispatched. -/
def timeoutIdToDispatch : String := "Timeout.Id"

/-- The destination of the timeout that is to be dispatched. -/
def timeoutDestination : String := "Timeout.Destination"

end Header

end Messaging
