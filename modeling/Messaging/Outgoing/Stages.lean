import Messaging.Outgoing.Context
import Messaging.Routing.Resolver
import Messaging.Transport.Capabilities

/-!
# Stages of outgoing messages

From the message that user code hands over to the batch that the transport takes.

- `resolveRoutes` finds routes for messages that have none.
- `serialize`, `toRouting` and `faultToRouting` lead from one kind of context to the next.
- `dispatchLast` hands operations to the transport, or stages them while a message is received.
-/

namespace Messaging.Outgoing

/-- The id of the step that finds routes. -/
def resolveRoutesStep : String := "ResolveRouting"

/-- Finds routes for messages that have none. -/
def resolveRoutes (resolver : Resolver) : Stage OutgoingContext := fun next context =>
  if context.routes.isEmpty then
    match resolver.resolve context.intent context.message.messageType context.messageId
        context.destination context.toSelf with
    | .ok routes => next.run { context with routes }
    | .error error => pure (.error (.routing error), context)
  else next.run context

/-- Writes the body and runs the stages of written messages. -/
def serialize (serializer : Serializer) (physical : Chain PhysicalContext) :
    LastStage OutgoingContext := fun context =>
  match serializer.write context.message.body with
  | .error reason => pure (.error (.serialization reason), context)
  | .ok body => do
    let headers := (context.headers.insert Header.contentType serializer.contentType).insert
      Header.enclosedMessageTypes context.message.messageType
    let scope ← Act.childScope context.scope
    let result ← physical.result {
      messageId := context.messageId, headers, body, routes := context.routes
      constraints := context.constraints, scope }
    pure (result, context)

/-- Makes the message for the transport and runs the stages of routed messages. -/
def toRouting (routing : Chain RoutingContext) : LastStage PhysicalContext := fun context => do
  let message : Message :=
    ⟨context.messageId, context.headers.insert Header.messageId context.messageId, context.body⟩
  let scope ← Act.childScope context.scope
  let result ← routing.result {
    message, routes := context.routes, constraints := context.constraints, scope }
  -- the body has moved on into the message
  pure (result, { context with body := [] })

/-- Routes a failed message to the error queue, apart from the receive that it failed in. -/
def faultToRouting (routing : Chain RoutingContext) : LastStage FaultContext := fun context => do
  let scope ← Act.childScope context.scope
  let result ← routing.result {
    message := context.message, routes := [.unicast context.errorQueue], isolated := true, scope }
  pure (result, context)

/-- The operations of a routed message, one for each route. -/
def operations (context : RoutingContext) : List Operation :=
  context.routes.map fun route =>
    { message := context.message, route, constraints := context.constraints
      isolated := context.isolated }

/-- Hands a batch to the transport and ends. -/
def dispatchNow (batch : Batch) : Act StageResult := do
  match ← Act.dispatch batch with
  | .ok () => pure (.ok .completed)
  | .error error => pure (.error (.transport error))

/-- Hands the operations of a routed message to the transport. While a message is received they are
staged instead, unless they are isolated. A constraint that the transport does not keep is
refused. -/
def dispatchLast (capabilities : Capabilities) : LastStage RoutingContext := fun context => do
  match context.constraints.find? fun constraint => !capabilities.supports constraint.kind with
  | some constraint => pure (.error (.config (.unsupportedConstraint constraint.kind)), context)
  | none =>
    -- an event without subscribers goes nowhere
    if context.routes.isEmpty then pure (.ok .completed, context)
    else if context.isolated then
      let result ← dispatchNow (.ofList (operations context))
      pure (result, context)
    else
      -- while a message is received its scope holds a list of staged operations
      match ← Act.ask (.readSlot context.scope .staging) with
      | some staging => do
        Act.ask (.stage staging (operations context))
        pure (.ok .completed, context)
      | none => do
        let result ← dispatchNow (.ofList (operations context))
        pure (result, context)

end Messaging.Outgoing
