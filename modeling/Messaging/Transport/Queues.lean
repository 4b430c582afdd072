/-!
# Queue bindings

- `Bindings` collects the queues that an endpoint receives from and sends to, each once.
-/

namespace Messaging

/-- The queues of an endpoint. -/
structure Bindings where
  /-- The queues that it receives from, first bound first. -/
  receiving : List String := []
  /-- The queues that it sends to, first bound first. -/
  sending : List String := []
deriving DecidableEq

namespace Bindings

/-- Adds an address at the end unless it is there. -/
def addNew (addresses : List String) (address : String) : List String :=
  if addresses.contains address then addresses else addresses ++ [address]

/-- Binds a queue to receive from. -/
def receive (bindings : Bindings) (address : String) : Bindings :=
  { bindings with receiving := addNew bindings.receiving address }

/-- Binds a queue to send to. -/
def send (bindings : Bindings) (address : String) : Bindings :=
  { bindings with sending := addNew bindings.sending address }

end Bindings

end Messaging
