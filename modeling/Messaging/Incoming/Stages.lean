import Messaging.Incoming.Context
import Messaging.Outgoing.Stages

/-!
# Stages of received messages

- `deserialize` reads the body of a received message, runs the stages of read messages and then
  dispatches what they staged, in one batch.
- `Handlers` is the list of handlers of each message type, and `loadHandlers` runs the stages of
  invocations once for each handler of the message.
- `invokeHandler` calls one handler; its panic becomes a failure.
-/

namespace Messaging.Incoming

/-- The refusal of a message that does not name its type. -/
def typeMissing : String := "the enclosed message types header is missing"

/-- The message type and content of a received message. -/
def logicalMessage (serializer : Serializer) (message : Message) : Except Failure LogicalMessage :=
  match message.enclosedType? with
  | none => .error (.deserialization message.id typeMissing)
  | some messageType =>
    match serializer.read message.body with
    | .ok body => .ok ⟨messageType, body⟩
    | .error reason => .error (.deserialization message.id reason)

/-- Dispatches staged operations after the stages behind ended with an outcome. -/
def finishReceive (staged : List Operation) (outcome : Outcome) : Act StageResult :=
  if !outcome.commits then pure (.ok outcome)
  else if staged.isEmpty then pure (.ok outcome)
  else do
    match ← Act.dispatch (.ofList staged) with
    | .ok () => pure (.ok outcome)
    | .error error => pure (.error (.transport error))

/-- Reads the body of a received message and runs the stages of read messages. A message without a
logical body is done at once. -/
def deserialize (serializer : Serializer) (incoming : Chain IncomingContext) :
    LastStage ReceiveContext := fun context => do
  if context.message.isControl then pure (.ok .completed, context)
  else
    match logicalMessage serializer context.message with
    | .error failure => pure (.error failure, context)
    | .ok message => do
      let staging ← Act.ask .openStaging
      let scope ← Act.childScope context.scope
      -- what handlers send is found through the scope, and so is the message that they may forward
      Act.ask (.writeSlot scope .staging staging)
      Act.ask (.writeSlot scope .received context.message)
      let result ← incoming.result {
        messageId := context.message.id, headers := context.message.headers, message, scope }
      match result with
      | .error failure => pure (.error failure, context)
      | .ok outcome => do
        -- only now anything that was staged leaves the endpoint
        let staged ← Act.ask (.takeStaged staging)
        let result ← finishReceive staged outcome
        pure (result, context)

/-- The handlers of each message type in the order of their registration. -/
abbrev Handlers := Table (List Handler)

/-- Adds a handler for a message type. -/
def addHandler (handlers : Handlers) (messageType : String) (handler : Handler) : Handlers :=
  handlers.insert messageType (handlers.getD messageType [] ++ [handler])

/-- Runs the stages of invocations for each of a list of handlers, until one does not complete or
stops the dispatch. -/
def runHandlers (operations : Operations) (invocation : Chain Invocation)
    (context : IncomingContext) : List Handler → Act StageResult
  | [] => pure (.ok .completed)
  | handler :: rest => do
    let scope ← Act.childScope context.scope
    let (result, after) ← invocation.invoke {
      messageId := context.messageId, headers := context.headers, message := context.message
      handlerName := handler.name, operations, scope, handler }
    match result with
    | .error failure => pure (.error failure)
    | .ok .completed =>
      -- the handlers that are left out count as done
      if after.stopped then pure (.ok .completed)
      else runHandlers operations invocation context rest
    | .ok outcome => pure (.ok outcome)

/-- Runs the stages of invocations once for each handler of the message. -/
def loadHandlers (handlers : Handlers) (operations : Operations) (invocation : Chain Invocation) :
    LastStage IncomingContext := fun context => do
  match handlers.getD context.message.messageType [] with
  | [] => pure (.error (.noHandlers context.message.messageType), context)
  | list => do
    let result ← runHandlers operations invocation context list
    pure (result, context)

/-- The failure of a handler that panicked. -/
def panicFailure (name : String) (payload : Panic) : Failure :=
  .handler ("handler '" ++ name ++ "' panicked: " ++ payload.message) []

/-- Calls the handler of an invocation. -/
def invokeHandler : LastStage Invocation := fun context =>
  match context.handler.accept context.message.body with
  | .error reason => pure (.error (.deserialization context.messageId reason), context)
  | .ok body => do
    -- user code may panic, the receive goes on
    match ← (context.handler.handle body context.toHandlerContext).attempt with
    | .error payload => pure (.error (panicFailure context.handler.name payload), context)
    | .ok (ending, after) =>
      let context := { context with toHandlerContext := after }
      match ending with
      | .returned => pure (.ok .completed, context)
      | .failed failure => pure (.error failure, context)
      | .panicked payload => pure (.error (panicFailure context.handler.name payload), context)

end Messaging.Incoming
