import Messaging.Memory.Broker
import Messaging.Transport.Definition

/-!
# The in-memory transport

- `Memory.transport` carries messages between the endpoints of one process. Failed receives are
  repeated, events reach their subscribers natively, and the only delivery constraint that is kept
  is the time within which a message is to be received.
-/

namespace Messaging.Memory

open Time (Span)

/-- What the transport offers. -/
def capabilities : Capabilities where
  mode := .receiveOnly
  policy := ⟨.unicast, .multicast, .unicast⟩
  constraints := [.discardAfter]

/-- The address of the input queue of a configured endpoint. -/
def inputQueue (config : Config) : String :=
  LogicalAddress.text
    { owner := { endpoint := config.endpointName, discriminator := config.discriminator } }

/-- A pump with a number. -/
def pump (grace : Span) (index : Nat) : Pump where
  init entry settings := Life.ask (.initPump index entry settings)
  start _ concurrency := Life.ask (.startPump index concurrency)
  stop _ := Life.ask (.stopPump index grace)

/-- Creates the queues of a list that do not exist. -/
def createAll : List String → Act Unit
  | [] => pure ()
  | address :: rest => do
    let _ ← Act.ask (.createQueue address)
    createAll rest

/-- Creates every bound queue that does not exist. -/
def createQueues (bindings : Bindings) (_identity : String) : Act (Except TransportError Unit) := do
  createAll (bindings.receiving ++ bindings.sending)
  pure (.ok ())

/-- The subscriptions of an input queue. -/
def subscriptions (address : String) : Subscriptions where
  subscribe messageType _ := do
    Act.ask (.subscribe messageType address)
    pure (.ok ())
  unsubscribe messageType _ := do
    Act.ask (.unsubscribe messageType address)
    pure (.ok ())

/-- What the transport provides for a configuration. -/
def provide (config : Config) : Infrastructure :=
  let receives : ReceiveSide :=
    { pump := pump (.ofSeconds config.stopGracePeriodSecs), createQueues }
  { capabilities
    connectSend := fun _ => pure {}
    -- an endpoint that only sends has no input queue that could subscribe
    connectReceive := if config.sendOnly then none else some fun _ => pure receives
    subscriptions := if config.sendOnly then none else some (subscriptions (inputQueue config)) }

/-- The in-memory transport. -/
def transport : Transport where
  name := "in-memory"
  address := LogicalAddress.text
  canonical := canonicalAddress
  provide config := .ok (provide config)

end Messaging.Memory
