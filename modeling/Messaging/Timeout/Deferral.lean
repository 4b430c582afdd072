import Messaging.Outgoing.Context
import Messaging.Time.Wire

/-!
# Deferring messages

- `routeDeferred` sends a message that is to be delayed to the timeout manager in the place of its
  destination, which travels in the headers together with the due time.
-/

namespace Messaging.Timeouts

open Time (Instant)

/-- The id of the step that defers messages. -/
def routeDeferredStep : String := "RouteDeferredMessageToTimeoutManager"

/-- The due time of the first constraint that has one. -/
def dueAt? (constraints : List Constraint) (now : Instant) : Option Instant :=
  constraints.findSome? fun constraint => constraint.dueAt? now

/-- The one address that a message goes to. -/
def oneAddress? : List Route → Option String
  | [.unicast address] => some address
  | _ => none

/-- The headers of a deferred message. -/
def deferredHeaders (destination : String) (due : Instant) (headers : Headers) : Headers :=
  ((headers.insert Header.timeoutRouteExpiredTo destination).insert
    Header.timeoutExpire (Time.Wire.write due)).insert Header.isDeferredMessage "true"

/-- Sends messages that are to be delayed to a timeout manager. -/
def routeDeferred (manager : String) : Stage RoutingContext := fun next context => do
  let now ← Act.clock
  match dueAt? context.constraints now with
  | none => next.run context
  | some due =>
    match oneAddress? context.routes with
    | none => pure (.error (.routing (.delayRequiresUnicast context.message.id)), context)
    | some destination =>
      next.run { context with
        message := { context.message with
          headers := deferredHeaders destination due context.message.headers }
        routes := [.unicast manager]
        -- the due time travels in the headers now, so nothing on the way has to wait
        constraints := context.constraints.filter fun constraint => !constraint.isDelay }

end Messaging.Timeouts
