import Messaging.Incoming.Context
import Messaging.Time.Wire

/-!
# The error queue

- `moveFaults` forwards a message whose processing failed to the error queue, with the failure in
  its headers. While that fails too, the failure stands; the endpoint gives up after a number of
  failed forwards of one message.
- `settleFault` is what it does once the stages behind it have ended.
-/

namespace Messaging.Recovery

/-- The id of the step that forwards failed messages. -/
def moveFaultsStep : String := "MoveFaultsToErrorQueue"

/-- How many forwards of a message may fail before the endpoint gives up. -/
def forwardingFailureLimit : UInt32 := 4

/-- What the step that forwards failed messages is told. -/
structure FaultSettings where
  /-- The name of the pipeline. -/
  pipeline : String
  /-- The pipeline for messages to the error queue, if there is one. -/
  faults : Option (Chain FaultContext)
  /-- The address of the error queue. -/
  errorQueue : String
  /-- The address of the queue that messages are received from. -/
  localAddress : String

/-- A message with its failure in its headers. -/
def describeFailure (failure : Failure) (queue : String) (message : Message) : Act Message := do
  let now ← Act.clock
  pure { message with
    headers := failure.describeOn queue (Time.Wire.write now) message.headers }

/-- The refusal to forward without a pipeline for it. -/
def noFaultPipeline (pipeline : String) : String :=
  "no fault pipeline is registered for '" ++ pipeline ++ "'"

/-- Forwards a failed message; the context that comes back holds the message with its failure. -/
def forwardFault (settings : FaultSettings) (failure : Failure) (context : ReceiveContext) :
    Act (Except Failure Unit × ReceiveContext) :=
  match settings.faults with
  | none =>
    pure (.error (.invalidMessage context.message.id (noFaultPipeline settings.pipeline)), context)
  | some faults => do
    let message ← describeFailure failure settings.localAddress context.message
    let scope ← Act.childScope context.scope
    let result ← faults.result { message, errorQueue := settings.errorQueue, scope }
    pure (Operations.unitResult result, { context with message })

/-- The text of the critical error of a message that cannot be forwarded. -/
def forwardingFailed : String := "Failed to forward message to error queue"

/-- What the stages behind ended with, after a failed message was forwarded. -/
def settleFault (settings : FaultSettings) :
    StageResult × ReceiveContext → Act (StageResult × ReceiveContext)
  | (.ok outcome, context) => pure (.ok outcome, context)
  | (.error failure, context) => do
    let messageId := context.message.id
    let (forwarded, context) ← forwardFault settings failure context
    match forwarded with
    | .ok () => do
      -- a later failure of the message is counted from the start again
      Act.ask (.clearFailures .forwards settings.pipeline messageId)
      let now ← Act.clock
      Act.publish (.movedToErrorQueue messageId settings.errorQueue context.message.headers
        context.message.body failure.info now)
      pure (.ok (.movedToErrorQueue failure), context)
    | .error forwardFailure => do
      -- only the first failure beyond the limit is critical, later ones are the same trouble
      let failures ← Act.ask (.countFailure .forwards settings.pipeline messageId)
      if failures = forwardingFailureLimit + 1 then
        Act.raiseCritical forwardingFailed forwardFailure.message
      pure (.error failure, context)

/-- Forwards messages whose processing failed to the error queue. -/
def moveFaults (settings : FaultSettings) : Stage ReceiveContext := fun next context => do
  let ended ← next.run context
  settleFault settings ended

end Messaging.Recovery
