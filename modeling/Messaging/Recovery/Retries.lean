import Messaging.Incoming.Context

/-!
# Immediate retries

- `firstLevelRetries` hands a failed message back for another attempt until its retries are used
  up; then the failure goes on to the stage outside. A message that cannot be read is never retried.
- `settleRetries` is what it does once the stages behind it have ended.
-/

namespace Messaging.Recovery

/-- The id of the step of immediate retries. -/
def firstLevelRetriesStep : String := "FirstLevelRetries"

/-- What the stages behind ended with, after the failures of the message were counted. -/
def settleRetries (policy : RetryPolicy) (pipeline messageId : String) :
    StageResult × ReceiveContext → Act (StageResult × ReceiveContext)
  | (.ok outcome, context) => do
    Act.ask (.clearFailures .retries pipeline messageId)
    pure (.ok outcome, context)
  | (.error failure, context) =>
    -- a body that cannot be read once cannot be read the next time either
    if failure.isDeserialization then pure (.error failure, context)
    else do
      let failures ← Act.ask (.countFailure .retries pipeline messageId)
      -- the count includes this failure, so that the first retry has number zero
      if policy.shouldRetry failures then do
        Act.publish (.retried messageId (failures - 1) failure.info)
        pure (.ok .retryRequested, context)
      else do
        Act.ask (.clearFailures .retries pipeline messageId)
        -- the counter forgets the message, so that it has all its retries when it is sent again
        let message := context.message.setHeader Header.firstLevelRetries
          (toString (failures - 1).toNat)
        pure (.error failure, { context with message })

/-- Retries failed messages of a pipeline. -/
def firstLevelRetries (policy : RetryPolicy) (pipeline : String) : Stage ReceiveContext :=
  fun next context => do
    let ended ← next.run context
    settleRetries policy pipeline context.message.id ended

end Messaging.Recovery
