import Messaging.Time.Span

/-!
# Circuit breakers

- `Breaker` turns failures that go on, without a success between them, for a given time into one
  trigger; a success sets it back.
-/

namespace Messaging

open Time (Span)

/-- The state of a circuit breaker. -/
inductive Breaker.State where
  /-- No failure since the last success. -/
  | disarmed
  /-- Failing since a time, given in milliseconds, with a number of failures. -/
  | armed (since failures : Nat)
  /-- The trigger has been pulled. -/
  | triggered
deriving DecidableEq, Repr

/-- A circuit breaker. -/
structure Breaker where
  /-- Its name. -/
  name : String
  /-- For how long failures go on before it triggers. -/
  wait : Span
  /-- Its state. -/
  state : Breaker.State := .disarmed
deriving DecidableEq, Repr

namespace Breaker

/-- A success. -/
def success (breaker : Breaker) : Breaker := { breaker with state := .disarmed }

/-- A failure at a time; the answer says whether it triggers. -/
def failure (breaker : Breaker) (now : Nat) : Bool × Breaker :=
  match breaker.state with
  | .disarmed => (false, { breaker with state := .armed now 1 })
  | .armed since failures =>
    -- the first failure only starts the wait, however short that is
    if breaker.wait.nanos ≤ (Span.ofMillis (now - since)).nanos then
      (true, { breaker with state := .triggered })
    else (false, { breaker with state := .armed since (failures + 1) })
  | .triggered => (false, breaker)

end Breaker

end Messaging
