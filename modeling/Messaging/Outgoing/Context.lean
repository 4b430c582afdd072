import Messaging.Effect.Basic
import Messaging.Intent
import Messaging.Pipeline.Chain
import Messaging.Serializer

/-!
# Contexts of outgoing messages

- `OutgoingContext` is a message before it is written, `PhysicalContext` after that,
  `RoutingContext` with its routes, and `FaultContext` a failed message for the error queue.
-/

namespace Messaging

/-- A message on its way out before it is written. -/
structure OutgoingContext where
  /-- The id of the message. -/
  messageId : String
  /-- Why it is sent. -/
  intent : Intent
  /-- Its type and content. -/
  message : LogicalMessage
  /-- Its headers. -/
  headers : Headers
  /-- The address that it is sent to explicitly. -/
  destination : Option String
  /-- Whether it is sent to the endpoint itself. -/
  toSelf : Bool
  /-- The requirements on its delivery. -/
  constraints : List Constraint
  /-- Its routes; none until they are resolved. -/
  routes : List Route
  /-- The scope. -/
  scope : ScopeId

/-- A message on its way out after it was written. -/
structure PhysicalContext where
  /-- The id of the message. -/
  messageId : String
  /-- Its headers. -/
  headers : Headers
  /-- Its body. -/
  body : Body
  /-- Its routes. -/
  routes : List Route
  /-- The requirements on its delivery. -/
  constraints : List Constraint
  /-- The scope. -/
  scope : ScopeId

/-- A message with its routes. -/
structure RoutingContext where
  /-- The message. -/
  message : Message
  /-- Its routes. -/
  routes : List Route
  /-- The requirements on its delivery. -/
  constraints : List Constraint := []
  /-- Whether it is dispatched apart from the receive that caused it. -/
  isolated : Bool := false
  /-- The scope. -/
  scope : ScopeId

/-- A failed message for the error queue. -/
structure FaultContext where
  /-- The message. -/
  message : Message
  /-- The address of the error queue. -/
  errorQueue : String
  /-- The scope. -/
  scope : ScopeId

/-- The chain of stages of an endpoint for a kind of contexts. -/
abbrev Chain (C : Type) := Pipeline Effect.signature C

/-- A stage of an endpoint. -/
abbrev Stage (C : Type) := Behavior Effect.signature C

/-- A last stage of an endpoint. -/
abbrev LastStage (C : Type) := Terminator Effect.signature C

end Messaging
