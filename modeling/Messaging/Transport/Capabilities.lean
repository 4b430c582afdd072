import Messaging.Delivery
import Messaging.Routing.Route
import Messaging.Transport.Mode

/-!
# Capabilities of a transport

- `Capabilities` is what a transport declares to offer once it is initialised.
-/

namespace Messaging

/-- What a transport offers. -/
structure Capabilities where
  /-- The strongest transaction mode. -/
  mode : TransactionMode
  /-- How operations reach their receivers. -/
  policy : RoutingPolicy
  /-- The kinds of delivery constraints that it keeps. -/
  constraints : List Constraint.Kind
deriving DecidableEq

namespace Capabilities

/-- Whether the transport keeps constraints of a kind. -/
def supports (capabilities : Capabilities) (kind : Constraint.Kind) : Bool :=
  capabilities.constraints.contains kind

/-- Whether the transport defers deliveries by itself. -/
def supportsDelay (capabilities : Capabilities) : Bool := capabilities.supports .delayBy

end Capabilities

end Messaging
