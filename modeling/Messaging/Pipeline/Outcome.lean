import Messaging.Failure

/-!
# Results of stages

- `Outcome` is how a receive ended that did not fail, and `StageResult` adds the failures.
- `Outcome.commits` says whether the transport is done with the message.
-/

namespace Messaging

/-- How a receive ended that did not fail. -/
inductive Outcome where
  /-- The message was processed. -/
  | completed
  /-- The message is to be received again. -/
  | retryRequested
  /-- The message failed and stands in the error queue. -/
  | movedToErrorQueue (failure : Failure)
deriving DecidableEq, Repr, Inhabited

/-- Whether the transport is done with the message. -/
def Outcome.commits : Outcome → Bool
  | retryRequested => false
  | completed | movedToErrorQueue _ => true

/-- What a stage, and everything behind it, ends with. -/
abbrev StageResult := Except Failure Outcome

end Messaging
