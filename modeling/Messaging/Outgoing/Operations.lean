import Messaging.Outgoing.Context
import Messaging.Time.Wire

/-!
# Sending

- `SendOptions` is what user code may say about a message that it sends.
- `Operations` leads into the pipelines of outgoing messages; `send`, `publish` and `reply` put a
  new message on its way, `forward` one that is written already.
-/

namespace Messaging

/-- What user code may say about a message. -/
structure SendOptions where
  /-- The address to send to, in the place of the routes. -/
  destination : Option String := none
  /-- Whether the message goes to the endpoint itself. -/
  toSelf : Bool := false
  /-- The requirements on its delivery. -/
  constraints : List Constraint := []
  /-- Further headers. -/
  headers : Headers := ∅
  /-- The id to use in the place of a new one. -/
  messageId : Option String := none

/-- The ways into the pipelines of outgoing messages. -/
structure Operations where
  /-- The pipeline of messages that are not yet written. -/
  outgoing : Chain OutgoingContext
  /-- The pipeline of messages with routes. -/
  routing : Chain RoutingContext
  /-- The name of the endpoint. -/
  endpointName : String
  /-- The address of the endpoint, unless it only sends. -/
  localAddress : Option String

namespace Operations

/-- The result of a pipeline without its outcome. -/
def unitResult : StageResult → Except Failure Unit
  | .ok _ => .ok ()
  | .error failure => .error failure

/-- The headers of a new message. -/
def newHeaders (operations : Operations) (intent : Intent) (messageId timeSent : String)
    (headers : Headers) : Headers :=
  let headers := ((headers.insert Header.messageIntent intent.name).insert
    Header.originatingEndpoint operations.endpointName).insert Header.timeSent timeSent
  -- the first message of a conversation gives it its name
  let headers := headers.insertIfNew Header.correlationId messageId
  match operations.localAddress with
  | some address => headers.insertIfNew Header.replyToAddress address
  | none => headers

/-- Puts a new message on its way, in a scope below `parent`. -/
def dispatch (operations : Operations) (parent : ScopeId) (intent : Intent) (payload : Payload)
    (options : SendOptions) : Act (Except Failure Unit) :=
  match payload.body with
  | .error reason => pure (.error (.serialization reason))
  | .ok body => do
    let messageId ← match options.messageId with
      | some id => pure id
      | none => Act.freshId
    let now ← Act.clock
    let scope ← Act.childScope parent
    let result ← operations.outgoing.result {
      messageId, intent
      message := ⟨payload.messageType, body⟩
      headers := operations.newHeaders intent messageId (Time.Wire.write now) options.headers
      destination := options.destination
      toSelf := options.toSelf
      constraints := options.constraints
      routes := []
      scope }
    pure (unitResult result)

/-- Sends a command. -/
def send (operations : Operations) (parent : ScopeId) (payload : Payload) (options : SendOptions) :
    Act (Except Failure Unit) :=
  operations.dispatch parent .send payload options

/-- Publishes an event. -/
def publish (operations : Operations) (parent : ScopeId) (payload : Payload)
    (options : SendOptions) : Act (Except Failure Unit) :=
  operations.dispatch parent .publish payload options

/-- Sends an answer. -/
def reply (operations : Operations) (parent : ScopeId) (payload : Payload) (options : SendOptions) :
    Act (Except Failure Unit) :=
  operations.dispatch parent .reply payload options

/-- Sends a written message to an address. -/
def forward (operations : Operations) (parent : ScopeId) (message : Message)
    (destination : String) : Act (Except Failure Unit) := do
  let scope ← Act.childScope parent
  let result ← operations.routing.result { message, routes := [.unicast destination], scope }
  pure (unitResult result)

end Operations

end Messaging
