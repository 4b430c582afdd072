import Messaging.Config.Basic
import Messaging.Effect.Lifecycle
import Messaging.Routing.Address
import Messaging.Transport.Capabilities
import Messaging.Transport.Queues

/-!
# Transports

- `Transport` is a queueing technology: how it writes addresses and what it provides.
- `Infrastructure` is what it provides once it is initialised: ways to send, to receive, and to
  subscribe.
- `negotiateMode` settles the transaction mode.
-/

namespace Messaging

/-- A receiver of messages from one queue. -/
structure Pump where
  /-- Sets it up. -/
  init : PumpEntry → PumpSettings → Life (Except TransportError Unit)
  /-- Lets it receive from its queue. -/
  start : String → Concurrency → Life (Except TransportError Unit)
  /-- Lets it finish with its queue. -/
  stop : String → Life (Except TransportError Unit)

/-- The sending side of a transport. -/
structure SendSide where
  /-- The check before the start: the reason of a failure. -/
  check : Option String := none

/-- The receiving side of a transport. -/
structure ReceiveSide where
  /-- The check before the start: the reason of a failure. -/
  check : Option String := none
  /-- The pumps, in the order in which they are asked for. -/
  pump : Nat → Pump
  /-- Creates the queues of an endpoint. -/
  createQueues : Bindings → String → Act (Except TransportError Unit)

/-- Native subscriptions. -/
structure Subscriptions where
  /-- Subscribes to a message type. -/
  subscribe : String → ScopeId → Act (Except TransportError Unit)
  /-- Ends the subscription to a message type. -/
  unsubscribe : String → ScopeId → Act (Except TransportError Unit)

/-- What a transport provides. -/
structure Infrastructure where
  /-- What it offers. -/
  capabilities : Capabilities
  /-- Connects the sending side. -/
  connectSend : Option String → Act SendSide
  /-- Connects the receiving side, if there is one. -/
  connectReceive : Option (Option String → Act ReceiveSide) := none
  /-- Native subscriptions, if there are any. -/
  subscriptions : Option Subscriptions := none

/-- A queueing technology. -/
structure Transport where
  /-- Its name. -/
  name : String
  /-- Adds to an instance what the transport knows about it. -/
  bindLocal : Instance → Instance := id
  /-- The transport address of a logical one. -/
  address : LogicalAddress → String
  /-- The form in which addresses are compared. -/
  canonical : String → String := id
  /-- What the transport provides for a configuration. -/
  provide : Config → Except ConfigError Infrastructure

/-- The transaction mode to run in: the strongest that is supported unless another is asked for,
which has to be supported. -/
def negotiateMode (supported : TransactionMode) (requested : Option TransactionMode) :
    Except ConfigError TransactionMode :=
  match requested with
  | none => .ok supported
  | some mode =>
    if supported.strength < mode.strength then .error (.unsupportedMode mode supported)
    else .ok mode

/-- The result of a check before the start. -/
def checkResult : Option String → Except ConfigError Unit
  | none => .ok ()
  | some reason => .error (.preStartupCheck reason)

end Messaging
