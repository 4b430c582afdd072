import Messaging.Outgoing.Operations

/-!
# Contexts of received messages

- `ReceiveContext` is a message as the transport hands it over, `IncomingContext` after its body
  was read.
- `HandlerContext` is what a handler sees and sends through; `Handler` is user code, and
  `Invocation` pairs the two.
-/

namespace Messaging

/-- A message as the transport hands it over. -/
structure ReceiveContext where
  /-- The message. -/
  message : Message
  /-- The scope. -/
  scope : ScopeId

/-- A received message whose body was read. -/
structure IncomingContext where
  /-- The id of the message. -/
  messageId : String
  /-- Its headers. -/
  headers : Headers
  /-- Its type and content. -/
  message : LogicalMessage
  /-- The scope. -/
  scope : ScopeId

/-- What a handler sees. -/
structure HandlerContext where
  /-- The id of the message. -/
  messageId : String
  /-- Its headers. -/
  headers : Headers
  /-- Its type and content. -/
  message : LogicalMessage
  /-- The name of the handler. -/
  handlerName : String
  /-- The ways to send messages. -/
  operations : Operations
  /-- Whether the handlers after this one are left out. -/
  stopped : Bool := false
  /-- The scope. -/
  scope : ScopeId

/-- How a handler ended. -/
inductive HandlerEnd where
  /-- It returned. -/
  | returned
  /-- It failed. -/
  | failed (failure : Failure)
  /-- It panicked. -/
  | panicked (payload : Panic)
deriving DecidableEq

/-- User code that takes messages of a type. -/
structure Handler where
  /-- The name of the code. -/
  name : String
  /-- Reads the content of a message, or says why it is none of the type. -/
  accept : Json → Except String Json
  /-- Takes a message; the context that comes back is the one it leaves behind, however it ends. -/
  handle : Json → HandlerContext → Act (HandlerEnd × HandlerContext)

/-- One handler with what it sees. -/
structure Invocation extends HandlerContext where
  /-- The handler. -/
  handler : Handler

namespace HandlerContext

/-- The address that replies go to. -/
def replyTo? (context : HandlerContext) : Option String :=
  context.headers.get? Header.replyToAddress

/-- The correlation of everything that the handler sends. -/
def correlationId (context : HandlerContext) : String :=
  context.headers.getD Header.correlationId context.messageId

/-- Options with the correlation of the received message, unless they have one. -/
def correlated (context : HandlerContext) (options : SendOptions) : SendOptions :=
  { options with
    headers := options.headers.insertIfNew Header.correlationId context.correlationId }

/-- Sends a command. -/
def send (context : HandlerContext) (payload : Payload) (options : SendOptions) :
    Act (Except Failure Unit) :=
  context.operations.send context.scope payload (context.correlated options)

/-- Sends a command to the endpoint itself. -/
def sendLocal (context : HandlerContext) (payload : Payload) : Act (Except Failure Unit) :=
  context.send payload { toSelf := true }

/-- Publishes an event. -/
def publish (context : HandlerContext) (payload : Payload) : Act (Except Failure Unit) :=
  context.operations.publish context.scope payload (context.correlated {})

/-- Answers the sender of the received message. -/
def reply (context : HandlerContext) (payload : Payload) : Act (Except Failure Unit) :=
  match context.replyTo? with
  | none => pure (.error (.routing (.noReplyTo context.messageId)))
  | some address =>
    context.operations.reply context.scope payload
      (context.correlated { destination := some address })

/-- The refusal to forward a message that is not at hand. -/
def notAtHand : String := "the physical message is not available for forwarding"

/-- Forwards the received message as it is. -/
def forward (context : HandlerContext) (destination : String) : Act (Except Failure Unit) := do
  match ← Act.ask (.readSlot context.scope .received) with
  | none => pure (.error (.invalidMessage context.messageId notAtHand))
  | some message => context.operations.forward context.scope message destination

end HandlerContext

end Messaging
