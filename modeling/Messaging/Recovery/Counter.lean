import Messaging.Table

/-!
# Failure counters

- `FailureCounter` counts the failures of messages, for each pipeline apart, in words of 32 bits;
  `FailureCounter.find?_increment` and `FailureCounter.find?_clear` say what a change leaves alone.
- `RetryPolicy.shouldRetry` decides from a count whether a message is tried again.
-/

namespace Messaging

/-- Failure counts by pipeline and message. -/
structure FailureCounter where
  /-- The counts of each pipeline by message id. -/
  counts : Table (Table UInt32) := ∅
deriving DecidableEq

namespace FailureCounter

/-- The count of a message, if one is kept. -/
def find? (counter : FailureCounter) (pipeline messageId : String) : Option UInt32 :=
  (counter.counts.getD pipeline ∅).get? messageId

/-- The count of a message; zero without an entry. -/
def get (counter : FailureCounter) (pipeline messageId : String) : UInt32 :=
  (counter.find? pipeline messageId).getD 0

/-- Counts one failure more and gives the new count. -/
def increment (counter : FailureCounter) (pipeline messageId : String) : UInt32 × FailureCounter :=
  let count := counter.get pipeline messageId + 1
  let messages := counter.counts.getD pipeline ∅
  (count, ⟨counter.counts.insert pipeline (messages.insert messageId count)⟩)

/-- Forgets the count of a message. -/
def clear (counter : FailureCounter) (pipeline messageId : String) : FailureCounter :=
  match counter.counts.get? pipeline with
  | some messages => ⟨counter.counts.insert pipeline (messages.erase messageId)⟩
  | none => counter

/-- No message has a count at first. -/
@[simp] theorem find?_new (pipeline messageId : String) :
    ({} : FailureCounter).find? pipeline messageId = none := rfl

/-- Counting a failure changes the count of its message only. -/
theorem find?_increment (counter : FailureCounter) (pipeline messageId other id : String) :
    (counter.increment pipeline messageId).2.find? other id
      = if other = pipeline ∧ id = messageId then some (counter.get pipeline messageId + 1)
        else counter.find? other id := by
  by_cases hpipeline : other = pipeline
  · subst hpipeline
    by_cases hid : id = messageId
    · simp [increment, find?, Table.getD, hid]
    · simp [increment, find?, Table.getD, Table.get?_insert, hid]
  · simp [increment, find?, Table.getD, Table.get?_insert, hpipeline]

/-- Forgetting a count leaves those of other messages. -/
theorem find?_clear (counter : FailureCounter) (pipeline messageId other id : String) :
    (counter.clear pipeline messageId).find? other id
      = if other = pipeline ∧ id = messageId then none else counter.find? other id := by
  unfold clear
  split
  · next messages hmessages =>
    by_cases hpipeline : other = pipeline
    · subst hpipeline
      simp [find?, Table.getD, Table.get?_erase, hmessages]
    · simp [find?, Table.getD, Table.get?_insert, hpipeline]
  · next hmessages =>
    by_cases hpipeline : other = pipeline
    · subst hpipeline
      simp [find?, Table.getD, hmessages]
    · simp [hpipeline]

/-- How many messages have a count. -/
def size (counter : FailureCounter) : Nat :=
  counter.counts.toList.foldl (fun total entry => total + entry.2.size) 0

/-- Whether no message has a count. -/
def isEmpty (counter : FailureCounter) : Bool := counter.size == 0

end FailureCounter

/-- How often a failed message is tried again at once. -/
structure RetryPolicy where
  /-- The number of retries. -/
  maxRetries : UInt32
deriving DecidableEq

/-- Whether a message that has failed a number of times is tried again. -/
def RetryPolicy.shouldRetry (policy : RetryPolicy) (failures : UInt32) : Bool :=
  failures ≤ policy.maxRetries

end Messaging
