import Messaging.Json.Basic

/-!
# Logical addresses

- `Instance` is one of the processes that make up an endpoint.
- `LogicalAddress` names a queue of an instance; a qualifier tells its side queues apart.
-/

namespace Messaging

/-- One instance of an endpoint. -/
structure Instance where
  /-- The name of the endpoint. -/
  endpoint : String
  /-- What tells the instance from the others of the endpoint. -/
  discriminator : Option String := none
  /-- What a transport needs to know about the instance, such as its machine. -/
  properties : Table String := ∅
deriving DecidableEq

namespace Instance

/-- The text of an instance. -/
def text (instance_ : Instance) : String :=
  match instance_.discriminator with
  | some discriminator => instance_.endpoint ++ "-" ++ discriminator
  | none => instance_.endpoint

/-- The instance with a property set. -/
def setProperty (instance_ : Instance) (key value : String) : Instance :=
  { instance_ with properties := instance_.properties.insert key value }

/-- An instance in JSON. -/
def toJson (instance_ : Instance) : Json :=
  .ofMembers [("endpoint", .string instance_.endpoint),
    ("discriminator", .ofString? instance_.discriminator),
    ("properties", .ofTable instance_.properties)]

end Instance

/-- The transport-independent address of a queue. -/
structure LogicalAddress where
  /-- The instance that owns the queue. -/
  owner : Instance
  /-- What tells the queue from the main queue of the instance. -/
  qualifier : Option String := none
deriving DecidableEq

namespace LogicalAddress

/-- The main queue of a remote endpoint. -/
def remote (endpoint : String) : LogicalAddress := ⟨{ endpoint }, none⟩

/-- The queue of the same instance under a qualifier. -/
def qualified (address : LogicalAddress) (qualifier : String) : LogicalAddress :=
  { address with qualifier := some qualifier }

/-- The text of an address. -/
def text (address : LogicalAddress) : String :=
  match address.qualifier with
  | some qualifier => address.owner.text ++ "." ++ qualifier
  | none => address.owner.text

/-- An address in JSON. -/
def toJson (address : LogicalAddress) : Json :=
  .ofMembers [("instance", address.owner.toJson), ("qualifier", .ofString? address.qualifier)]

end LogicalAddress

end Messaging
