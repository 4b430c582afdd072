import Messaging.Effect.Program
import Messaging.Event
import Messaging.Recovery.Counter
import Messaging.Scope
import Messaging.Timeout.Basic
import Messaging.Timeout.Breaker
import Messaging.Transport.Operation

/-!
# Effects

What the parts of an endpoint ask of their surroundings.

- `Effect` lists the requests and `Effect.Answer` the answers; each is one indivisible step.
- `Act` is a program over these requests, and the functions of the namespace `Act` are the programs
  of one request.
-/

namespace Messaging

open Time (Instant Span)

/-- The name of a failure counter. -/
abbrev CounterId := Nat

/-- The counter of immediate retries. -/
def CounterId.retries : CounterId := 0

/-- The counter of failed forwards to the error queue. -/
def CounterId.forwards : CounterId := 1

/-- The counter of failures in the side queues of the timeout manager. -/
def CounterId.satellites : CounterId := 2

/-- When the timeout storage is asked next, and for what. -/
structure Schedule where
  /-- When the next query is made. -/
  next : Instant
  /-- Timeouts that are due up to this time have been asked for. -/
  start : Instant
  /-- Whether a timeout was stored since the last query. -/
  pushed : Bool
deriving DecidableEq

/-- For how far back the first storage query asks. -/
def Schedule.lookBack : Span := .ofSeconds (3650 * 86400)

/-- The schedule of a timeout manager that is set up at a time. -/
def Schedule.initial (now : Instant) : Schedule :=
  { next := now, start := now.minus lookBack, pushed := false }

/-- A request to the surroundings of an endpoint. -/
inductive Effect where
  /-- The time of day. -/
  | clock
  /-- An id that was never given before. -/
  | freshId
  /-- A new scope. -/
  | openScope (parent : Option ScopeId)
  /-- The nearest value of a kind, seen from a scope. -/
  | readSlot (scope : ScopeId) (slot : Slot)
  /-- A value for a scope. -/
  | writeSlot (scope : ScopeId) (slot : Slot) (value : slot.Value)
  /-- The number of scopes above a scope. -/
  | scopeDepth (scope : ScopeId)
  /-- A new list of staged operations. -/
  | openStaging
  /-- Operations for such a list. -/
  | stage (staging : StagingId) (operations : List Operation)
  /-- The operations of such a list, which is empty afterwards. -/
  | takeStaged (staging : StagingId)
  /-- A batch for the transport. -/
  | dispatch (batch : Batch)
  /-- A timeout for the storage. -/
  | addTimeout (timeout : Timeout)
  /-- A stored timeout. -/
  | peekTimeout (id : String)
  /-- A timeout that is to leave the storage. -/
  | removeTimeout (id : String)
  /-- The timeouts that are due after a time. -/
  | nextChunk (start : Instant)
  /-- One failure more. -/
  | countFailure (counter : CounterId) (pipeline messageId : String)
  /-- No failures any more. -/
  | clearFailures (counter : CounterId) (pipeline messageId : String)
  /-- A condition that the endpoint cannot recover from. -/
  | raiseCritical (message cause : String)
  /-- An event for monitoring. -/
  | publish (event : Event)
  /-- The schedule of storage queries. -/
  | readSchedule
  /-- A change of that schedule. -/
  | changeSchedule (change : Schedule → Schedule)
  /-- A circuit breaker for the storage queries. -/
  | installBreaker (breaker : Breaker)
  /-- A storage query that succeeded. -/
  | querySucceeded
  /-- A storage query that failed; the answer says whether this is one too many. -/
  | queryFailed
  /-- A queue of the broker; the answer says whether it is new. -/
  | createQueue (address : String)
  /-- A subscription with the broker. -/
  | subscribe (messageType address : String)
  /-- The end of a subscription with the broker. -/
  | unsubscribe (messageType address : String)
  /-- A number of milliseconds without work. -/
  | sleep (millis : Nat)
  /-- An entry in the journal of the endpoint. -/
  | note (entry : Json)
  /-- How often this has been asked under a key, this time included. -/
  | tally (key : String)

/-- The answer to a request. -/
abbrev Effect.Answer : Effect → Type
  | clock => Instant
  | freshId => String
  | openScope _ => ScopeId
  | readSlot _ slot => Option slot.Value
  | scopeDepth _ => Nat
  | openStaging => StagingId
  | takeStaged _ => List Operation
  | dispatch _ => Except TransportError Unit
  | addTimeout _ => Except StorageError Unit
  | peekTimeout _ => Except StorageError (Option Timeout)
  | removeTimeout _ => Except StorageError Bool
  | nextChunk _ => Except StorageError Chunk
  | countFailure .. => UInt32
  | readSchedule => Schedule
  | queryFailed => Bool
  | createQueue _ => Bool
  | tally _ => Nat
  | writeSlot .. | stage .. | clearFailures .. | raiseCritical .. | publish _ | changeSchedule _
  | installBreaker _ | querySucceeded | subscribe .. | unsubscribe .. | sleep _ | note _ => Unit

/-- The requests of the parts of an endpoint. -/
abbrev Effect.signature : Signature := ⟨Effect, Effect.Answer⟩

/-- A program over the requests of the parts of an endpoint. -/
abbrev Act (α : Type) := Program Effect.signature α

/-- The program of one request. -/
def Act.ask (effect : Effect) : Act effect.Answer :=
  Program.call (S := Effect.signature) effect Program.done

namespace Act

/-- The time of day. -/
def clock : Act Instant := ask .clock

/-- An id that was never given before. -/
def freshId : Act String := ask .freshId

/-- A new scope below another. -/
def childScope (parent : ScopeId) : Act ScopeId := ask (.openScope (some parent))

/-- A new scope of its own. -/
def rootScope : Act ScopeId := ask (.openScope none)

/-- Hands a batch to the transport. -/
def dispatch (batch : Batch) : Act (Except TransportError Unit) := ask (.dispatch batch)

/-- Tells monitoring of an event. -/
def publish (event : Event) : Act Unit := ask (.publish event)

/-- Raises a condition that the endpoint cannot recover from. -/
def raiseCritical (message cause : String) : Act Unit := ask (.raiseCritical message cause)

/-- Writes an entry into the journal. -/
def note (entry : Json) : Act Unit := ask (.note entry)

/-- Breaks off. -/
def panic {α : Type} (payload : Panic) : Act α := Program.panic payload

end Act

end Messaging
