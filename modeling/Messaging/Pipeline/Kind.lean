import Messaging.Incoming.Context
import Messaging.Pipeline.Cache
import Messaging.Pipeline.Steps

/-!
# The kinds of contexts of an endpoint

- `ContextKind` names the seven kinds of contexts, and `ContextKind.Context` is the family of them.
- `EndpointStep`, `EndpointSteps` and `EndpointCache` are steps, step sets and built pipelines over
  that family.
-/

namespace Messaging

/-- A kind of contexts. -/
inductive ContextKind where
  /-- A message as the transport hands it over. -/
  | receive
  /-- A received message whose body was read. -/
  | incoming
  /-- One handler and a message. -/
  | invocation
  /-- A message before it is written. -/
  | outgoing
  /-- A message after it was written. -/
  | physical
  /-- A message with its routes. -/
  | routing
  /-- A failed message for the error queue. -/
  | fault
deriving DecidableEq, Repr

/-- The contexts of a kind. -/
abbrev ContextKind.Context : ContextKind → Type
  | receive => ReceiveContext
  | incoming => IncomingContext
  | invocation => Invocation
  | outgoing => OutgoingContext
  | physical => PhysicalContext
  | routing => RoutingContext
  | fault => FaultContext

/-- The name of a kind in diagnostic texts. -/
def ContextKind.typeName (kind : ContextKind) : String :=
  "courier_core::pipeline::contexts::" ++
    match kind with
    | receive => "TransportReceiveContext"
    | incoming => "IncomingLogicalContext"
    | invocation => "InvokeHandlerContext"
    | outgoing => "OutgoingLogicalContext"
    | physical => "OutgoingPhysicalContext"
    | routing => "RoutingContext"
    | fault => "FaultContext"

/-- A step of an endpoint. -/
abbrev EndpointStep := Step Effect.signature ContextKind.Context

/-- The steps of a pipeline of an endpoint. -/
abbrev EndpointSteps := StepSet Effect.signature ContextKind.Context

/-- The built pipelines of an endpoint. -/
abbrev EndpointCache := PipelineCache Effect.signature ContextKind.Context

end Messaging
