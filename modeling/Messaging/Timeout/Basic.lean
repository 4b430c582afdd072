import Messaging.Failure
import Messaging.Message

/-!
# Stored timeouts

- `Timeout` is a deferred message that waits in storage.
- `Chunk` answers a storage query: the timeouts that are due and when to ask again.
- `TimeoutStore` is the storage in memory, with `add`, `peek?`, `remove` and `nextChunk`; what the
  first three do to a look-up is said by `peek?_add` and `peek?_remove`.
-/

namespace Messaging

open Time (Instant Span)

/-- A deferred message that waits in storage. -/
structure Timeout where
  /-- The key in storage. -/
  id : String
  /-- Where the message goes once it is due. -/
  destination : String
  /-- The body of the message. -/
  body : Body
  /-- When the message is due. -/
  due : Instant
  /-- The headers of the message. -/
  headers : Headers
  /-- The endpoint whose timeout manager stored the message. -/
  owner : String
deriving DecidableEq

/-- A timeout that is due. -/
structure DueTimeout where
  /-- The key in storage. -/
  id : String
  /-- When the timeout was due. -/
  due : Instant
deriving DecidableEq

/-- The answer to a storage query. -/
structure Chunk where
  /-- The timeouts that are due. -/
  due : List DueTimeout
  /-- When to ask again. -/
  next : Instant
deriving DecidableEq

/-- The timeouts in memory by their keys. -/
structure TimeoutStore where
  /-- The stored timeouts. -/
  timeouts : Table Timeout := ∅
deriving DecidableEq

namespace TimeoutStore

/-- How many seconds may pass until the next query when nothing more is stored. -/
def emptyQueryDelay : Span := .ofSeconds 60

/-- Adds a timeout under a new key. -/
def add (store : TimeoutStore) (timeout : Timeout) : Except StorageError TimeoutStore :=
  if store.timeouts.contains timeout.id then .error (.duplicate timeout.id)
  else .ok ⟨store.timeouts.insert timeout.id timeout⟩

/-- The timeout under a key. -/
def peek? (store : TimeoutStore) (id : String) : Option Timeout := store.timeouts.get? id

/-- Whether there was a timeout under a key, and the storage without it. -/
def remove (store : TimeoutStore) (id : String) : Bool × TimeoutStore :=
  (store.timeouts.contains id, ⟨store.timeouts.erase id⟩)

/-- A timeout that was added is stored under its key, which was free. -/
theorem peek?_add {store store' : TimeoutStore} {timeout : Timeout}
    (hadd : store.add timeout = .ok store') :
    store.peek? timeout.id = none ∧
      ∀ id, store'.peek? id = if id = timeout.id then some timeout else store.peek? id := by
  rw [add] at hadd
  split at hadd
  · cases hadd
  · rename_i hfree
    cases hadd
    refine ⟨?_, fun id => Table.get?_insert _ _ _ _⟩
    simpa [peek?, Table.contains] using hfree

/-- A removal touches the timeout under its key only. -/
theorem peek?_remove (store : TimeoutStore) (id other : String) :
    (store.remove id).2.peek? other = if other = id then none else store.peek? other :=
  Table.get?_erase _ _ _

/-- Every stored timeout. -/
def toList (store : TimeoutStore) : List Timeout := store.timeouts.toList.map (·.2)

/-- The stored timeouts are those that stand under some key. -/
theorem mem_toList {store : TimeoutStore} {timeout : Timeout} :
    timeout ∈ store.toList ↔ ∃ id, store.peek? id = some timeout := by
  simp only [toList, peek?, Table.get?_eq_some_iff, List.mem_map, Prod.exists, exists_eq_right]

/-- The due timeouts in the order of their due times; those due at one time stay as they are. -/
def sortDue (entries : List DueTimeout) : List DueTimeout := entries.mergeSort (·.due ≤ ·.due)

/-- The earliest of some instants. -/
def earliest? : List Instant → Option Instant
  | [] => none
  | t :: rest =>
    match earliest? rest with
    | some u => some (t.min u)
    | none => some t

/-- The timeouts due after `start` and not after `now`, and the next due time after `now`. Where
nothing is to come, the next query is `emptyQueryDelay` after `now`. In the last minute that
instants cover there is no such time: to add the delay to a clock that reads so late is a panic, and
here it is `Instant.last`, by `Instant.later`. -/
def nextChunk (store : TimeoutStore) (start now : Instant) : Chunk :=
  let due := store.toList.filter fun t => start < t.due && t.due ≤ now
  let waiting := store.toList.filter fun t => now < t.due
  -- with nothing to wait for, the next query comes after a fixed delay
  { due := sortDue (due.map fun t => ⟨t.id, t.due⟩)
    next := (earliest? (waiting.map (·.due))).getD (now.later emptyQueryDelay) }

/-- Nothing is due in an empty storage. -/
@[simp] theorem nextChunk_empty (start now : Instant) :
    ({} : TimeoutStore).nextChunk start now = ⟨[], now.later emptyQueryDelay⟩ := by
  have hnone : ({} : TimeoutStore).toList = [] := rfl
  simp [nextChunk, sortDue, hnone, earliest?]

end TimeoutStore

end Messaging
