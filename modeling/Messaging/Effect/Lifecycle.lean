import Messaging.Effect.Basic
import Messaging.Pipeline.Outcome
import Messaging.Time.Span
import Messaging.Transport.Mode

/-!
# Starting and stopping

- `Lifecycle` lists what an endpoint asks for while it starts and stops: the requests of its parts
  and those that start and stop work in the background.
- `Life` is a program over these requests.
-/

namespace Messaging

open Time (Span)

/-- What a pump is told when it is set up. -/
structure PumpSettings where
  /-- The queue to receive from. -/
  inputQueue : String
  /-- The queue that failed messages go to. -/
  errorQueue : String
  /-- Whether waiting messages are dropped first. -/
  purge : Bool
  /-- The transaction mode of receives. -/
  mode : TransactionMode
deriving DecidableEq

/-- What a pump does with a message, in a scope of its own. -/
abbrev PumpEntry := Message → ScopeId → Act StageResult

/-- How many messages a pump processes at once; none stands for the number of processors. -/
abbrev Concurrency := Option Nat

/-- The concurrency of a setting, which is one at least. -/
def Concurrency.ofSetting (setting : Nat) : Concurrency := some (max setting 1)

/-- A request of an endpoint that starts or stops. -/
inductive Lifecycle where
  /-- A request of one of its parts. -/
  | act (effect : Effect)
  /-- Sets up a pump on a queue of the broker. -/
  | initPump (pump : Nat) (entry : PumpEntry) (settings : PumpSettings)
  /-- Lets a pump receive. -/
  | startPump (pump : Nat) (concurrency : Concurrency)
  /-- Lets a pump finish, for no longer than a time. -/
  | stopPump (pump : Nat) (grace : Span)
  /-- Starts the background poller, which requests dispatches at an address. -/
  | startPoller (address : String)
  /-- Stops the background poller. -/
  | stopPoller
  /-- Starts to clear failure counters again and again. -/
  | startCleaner (interval : Span) (counters : List CounterId)
  /-- Stops clearing them. -/
  | stopCleaner

/-- The answer to a request. -/
abbrev Lifecycle.Answer : Lifecycle → Type
  | act effect => effect.Answer
  | initPump .. | startPump .. | stopPump .. => Except TransportError Unit
  | startPoller _ | stopPoller | startCleaner .. | stopCleaner => Unit

/-- The requests of an endpoint that starts or stops. -/
abbrev Lifecycle.signature : Signature := ⟨Lifecycle, Lifecycle.Answer⟩

/-- A program over the requests of an endpoint that starts or stops. -/
abbrev Life (α : Type) := Program Lifecycle.signature α

namespace Life

/-- The program of one request. -/
def ask (request : Lifecycle) : Life request.Answer :=
  Program.call (S := Lifecycle.signature) request Program.done

/-- A program of a part of the endpoint. -/
def act {α : Type} (program : Act α) : Life α :=
  program.embed (T := Lifecycle.signature) Lifecycle.act fun _ answer => answer

end Life

end Messaging
