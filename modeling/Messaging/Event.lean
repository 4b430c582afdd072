import Messaging.Failure
import Messaging.Message

/-!
# Events of recoverability

- `Event` tells monitoring about a retry or a message given up.
- `Broadcast` is the channel that events travel on: every receiver sees what is published after it
  subscribed, but a slow one loses the oldest beyond the capacity of the channel.
-/

namespace Messaging

open Time (Instant)

/-- What happened to a failed message. -/
inductive Event where
  /-- It was handed back for another attempt; the first retry has number zero. -/
  | retried (messageId : String) (attempt : UInt32) (failure : FailureInfo)
  /-- It was moved to the error queue. -/
  | movedToErrorQueue (messageId errorQueue : String) (headers : Headers) (body : Body)
      (failure : FailureInfo) (time : Instant)
deriving DecidableEq

/-- The id of the message that an event is about. -/
def Event.messageId : Event → String
  | retried messageId .. => messageId
  | movedToErrorQueue messageId .. => messageId

universe u

/-- A channel from publishers to any number of receivers. -/
structure Broadcast (α : Type u) where
  /-- How many values the channel keeps for a slow receiver. -/
  capacity : Nat
  /-- What was published while somebody listened, oldest first. -/
  sent : List α := []
  /-- For each receiver the number of values that it has passed. -/
  positions : List Nat := []

namespace Broadcast

variable {α : Type u}

/-- The least power of two that is at least a number. -/
def powerAbove (n : Nat) : Nat := if n ≤ 1 then 1 else Nat.pow 2 ((n - 1).log2 + 1)

/-- A channel that keeps at least a number of values. -/
def ofCapacity (n : Nat) : Broadcast α := { capacity := powerAbove n }

/-- The capacity of a channel for which none is given. -/
def defaultCapacity : Nat := 256

/-- Adds a receiver. -/
def subscribe (channel : Broadcast α) : Broadcast α :=
  { channel with positions := channel.positions ++ [channel.sent.length] }

/-- Publishes a value; without a receiver it is gone at once. -/
def publish (channel : Broadcast α) (value : α) : Broadcast α :=
  if channel.positions.isEmpty then channel else { channel with sent := channel.sent ++ [value] }

/-- What a receiver gets until there is no more or it learns that it lost values. -/
def drain (channel : Broadcast α) (receiver : Nat) : List α × Broadcast α :=
  match channel.positions[receiver]? with
  | none => ([], channel)
  | some position =>
    let total := channel.sent.length
    -- the receiver learns of its loss before it gets the oldest value that is kept
    if channel.capacity < total - position then
      ([], { channel with positions := channel.positions.set receiver (total - channel.capacity) })
    else
      (channel.sent.drop position,
        { channel with positions := channel.positions.set receiver total })

end Broadcast

end Messaging
