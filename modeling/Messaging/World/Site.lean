import Messaging.Effect.Basic
import Messaging.Memory.Broker

/-!
# The surroundings of one endpoint

- `Recorder` is a way out for batches that keeps what it accepts and refuses what it is told to.
- `Storage` is the timeout storage in memory behind faults that are fixed in advance.
- `Critical` keeps the critical errors that were raised.
- `Site` is everything that belongs to one endpoint.
-/

namespace Messaging

open Time (Instant Span)

/-- A way out for batches that keeps what it accepts. -/
structure Recorder where
  /-- Why a batch is refused, given how many were handed over with it. -/
  refuse : Nat → Batch → Option TransportError := fun _ _ => none
  /-- How many batches were handed over. -/
  calls : Nat := 0
  /-- The accepted batches, first accepted first. -/
  accepted : List Batch := []

/-- Takes a batch. -/
def Recorder.take (recorder : Recorder) (batch : Batch) : Except TransportError Unit × Recorder :=
  let calls := recorder.calls + 1
  match recorder.refuse calls batch with
  | some error => (.error error, { recorder with calls })
  | none => (.ok (), { recorder with calls, accepted := recorder.accepted ++ [batch] })

/-- Where an endpoint's batches go. -/
inductive Outlet where
  /-- To the queues of the broker. -/
  | broker
  /-- To a recorder. -/
  | recorder (recorder : Recorder)

/-- The operations of a timeout storage. -/
inductive Storage.Method where
  /-- Adding a timeout. -/
  | add
  /-- Looking a timeout up. -/
  | peek
  /-- Removing a timeout. -/
  | remove
  /-- Asking for due timeouts. -/
  | nextChunk
deriving DecidableEq, Repr

/-- The timeout storage in memory behind faults that are fixed in advance. -/
structure Storage where
  /-- The stored timeouts. -/
  store : TimeoutStore := {}
  /-- Why a call of a method fails, given how many calls there were with it. -/
  refuse : Storage.Method → Nat → Option StorageError := fun _ _ => none
  /-- Whether a call of `remove` does nothing. -/
  loses : Nat → Bool := fun _ => false
  /-- The answer to a query, unless the stored timeouts give it. -/
  scripted : Nat → Option Chunk := fun _ => none
  /-- How often each method was called. -/
  calls : Storage.Method → Nat := fun _ => 0

namespace Storage

/-- Counts a call. -/
def counted (storage : Storage) (method : Method) : Storage :=
  { storage with
    calls := fun other => if other = method then storage.calls method + 1 else storage.calls other }

/-- Adds a timeout. -/
def add (storage : Storage) (timeout : Timeout) : Except StorageError Unit × Storage :=
  let storage := storage.counted .add
  match storage.refuse .add (storage.calls .add) with
  | some error => (.error error, storage)
  | none =>
    match storage.store.add timeout with
    | .ok store => (.ok (), { storage with store })
    | .error error => (.error error, storage)

/-- Looks a timeout up. -/
def peek (storage : Storage) (id : String) : Except StorageError (Option Timeout) × Storage :=
  let storage := storage.counted .peek
  match storage.refuse .peek (storage.calls .peek) with
  | some error => (.error error, storage)
  | none => (.ok (storage.store.peek? id), storage)

/-- Removes a timeout. -/
def remove (storage : Storage) (id : String) : Except StorageError Bool × Storage :=
  let storage := storage.counted .remove
  match storage.refuse .remove (storage.calls .remove) with
  | some error => (.error error, storage)
  | none =>
    -- a lost removal looks like one that somebody else made first
    if storage.loses (storage.calls .remove) then (.ok false, storage)
    else
      let (found, store) := storage.store.remove id
      (.ok found, { storage with store })

/-- Asks for the timeouts that are due after `start` and not after `now`. -/
def nextChunk (storage : Storage) (start now : Instant) : Except StorageError Chunk × Storage :=
  let storage := storage.counted .nextChunk
  let call := storage.calls .nextChunk
  match storage.refuse .nextChunk call with
  | some error => (.error error, storage)
  | none =>
    match storage.scripted call with
    | some chunk => (.ok chunk, storage)
    | none => (.ok (storage.store.nextChunk start now), storage)

/-- Looking a timeout up changes nothing that is stored. -/
theorem peek_store (storage : Storage) (id : String) :
    (storage.peek id).2.store = storage.store ∧
      (storage.peek id).2.scripted = storage.scripted := by
  simp only [peek]
  split <;> exact ⟨rfl, rfl⟩

/-- A removal is refused or lost, or it removes the timeout. -/
theorem remove_store (storage : Storage) (id : String) :
    ((storage.remove id).2.store = storage.store ∨
        (storage.remove id).2.store = (storage.store.remove id).2) ∧
      (storage.remove id).2.scripted = storage.scripted := by
  simp only [remove]
  split
  · exact ⟨.inl rfl, rfl⟩
  · split
    · exact ⟨.inl rfl, rfl⟩
    · exact ⟨.inr rfl, rfl⟩

/-- An addition is refused, or it adds the timeout under a free key. -/
theorem add_store (storage : Storage) (timeout : Timeout) :
    ((∃ error, (storage.add timeout).1 = .error error) ∧
        (storage.add timeout).2.store = storage.store ∨
      (storage.add timeout).1 = .ok () ∧
        storage.store.add timeout = .ok (storage.add timeout).2.store) ∧
      (storage.add timeout).2.scripted = storage.scripted := by
  simp only [add]
  split
  · exact ⟨.inl ⟨⟨_, rfl⟩, rfl⟩, rfl⟩
  · split
    · next store hadd => exact ⟨.inr ⟨rfl, hadd⟩, rfl⟩
    · exact ⟨.inl ⟨⟨_, rfl⟩, rfl⟩, rfl⟩

/-- A timeout that is looked up is one that is stored. -/
theorem peek_answer (storage : Storage) (id : String) :
    (∃ error, (storage.peek id).1 = .error error) ∨
      (storage.peek id).1 = .ok (storage.store.peek? id) := by
  simp only [peek]
  split
  · exact .inl ⟨_, rfl⟩
  · exact .inr rfl

/-- A query that is not answered by a script fails or finds what is stored. -/
theorem nextChunk_answer (storage : Storage) (start now : Instant)
    (hscripted : ∀ call, storage.scripted call = none) :
    (∃ error, (storage.nextChunk start now).1 = .error error) ∨
      (storage.nextChunk start now).1 = .ok (storage.store.nextChunk start now) := by
  simp only [nextChunk]
  split
  · exact .inl ⟨_, rfl⟩
  · have hnone : ∀ call, (storage.counted .nextChunk).scripted call = none := hscripted
    rw [hnone]
    exact .inr rfl

/-- A query changes nothing that is stored. -/
theorem nextChunk_store (storage : Storage) (start now : Instant) :
    (storage.nextChunk start now).2.store = storage.store ∧
      (storage.nextChunk start now).2.scripted = storage.scripted := by
  simp only [nextChunk]
  split
  · exact ⟨rfl, rfl⟩
  · split <;> exact ⟨rfl, rfl⟩

end Storage

/-- The critical errors of an endpoint. -/
structure Critical where
  /-- Whether the errors are kept, and not only counted. -/
  keeps : Bool := true
  /-- How many were raised. -/
  count : Nat := 0
  /-- The kept ones with their causes, first raised first. -/
  raised : List (String × String) := []
deriving DecidableEq

/-- Raises a critical error. -/
def Critical.raise (critical : Critical) (message cause : String) : Critical :=
  { critical with
    count := critical.count + 1
    raised := if critical.keeps then critical.raised ++ [(message, cause)] else critical.raised }

/-- What belongs to one endpoint. -/
structure Site where
  /-- Where batches go. -/
  outlet : Outlet := .broker
  /-- The timeout storage. -/
  storage : Storage := {}
  /-- The failure counters. -/
  counters : CounterId → FailureCounter := fun _ => {}
  /-- The critical errors. -/
  critical : Critical := {}
  /-- The events for monitoring. -/
  events : Broadcast Event := .ofCapacity Broadcast.defaultCapacity
  /-- The schedule of storage queries. -/
  schedule : Schedule := .initial ⟨0, 0⟩
  /-- The circuit breaker of storage queries. -/
  breaker : Breaker := { name := "", wait := ⟨0⟩ }
  /-- What user code wrote down, first written first. -/
  journal : List Json := []
  /-- How often user code was asked, by key. -/
  tallies : Table Nat := ∅

namespace Site

/-- Changes a failure counter. -/
def modifyCounter (site : Site) (counter : CounterId) (f : FailureCounter → FailureCounter) :
    Site :=
  { site with
    counters := fun other => if other = counter then f (site.counters counter)
      else site.counters other }

/-- Clears a failure counter. -/
def clearCounter (site : Site) (counter : CounterId) : Site :=
  site.modifyCounter counter fun _ => {}

end Site

end Messaging
