import Messaging.Intent
import Messaging.Json.Schema

/-!
# Routes

- `Route` says how one message reaches its receivers: one address, or every subscriber of a type.
- `RoutingPolicy` says which of the two a transport offers for sends, publishes and replies.
-/

namespace Messaging

/-- How a message reaches its receivers. -/
inductive Route where
  /-- One address. -/
  | unicast (address : String)
  /-- Every subscriber of a message type. -/
  | multicast (messageType : String)
deriving DecidableEq, Repr

namespace Route

/-- The text of a route. -/
def text : Route → String
  | unicast address => "unicast:" ++ address
  | multicast messageType => "multicast:" ++ messageType

/-- The one address of a route. -/
def address? : Route → Option String
  | unicast address => some address
  | multicast _ => none

/-- A route in JSON. -/
def toJson : Route → Json
  | unicast address => .ofMembers [("type", .string "unicast"), ("destination", .string address)]
  | multicast messageType =>
    .ofMembers [("type", .string "multicast"), ("message_type", .string messageType)]

/-- Reads a route; its kind stands under its name or first in a list. -/
def ofJson? (value : Json) : Option Route := do
  let (tag, content) ← match value with
    | .object members => (lookupEntry "type" members).map (·, value)
    | .array (tag :: rest) => some (tag, .array rest)
    | _ => none
  match ← tag.text? with
  | "unicast" => do
    let fields ← content.fieldValues ["destination"]
    (Json.required Json.text? fields[0]?.join).map unicast
  | "multicast" => do
    let fields ← content.fieldValues ["message_type"]
    (Json.required Json.text? fields[0]?.join).map multicast
  | _ => none

end Route

/-- What a transport offers for one kind of operation. -/
inductive RoutingKind where
  /-- One operation for every receiver. -/
  | unicast
  /-- One operation that the transport fans out. -/
  | multicast
deriving DecidableEq, Repr, Inhabited

/-- The name of a routing kind. -/
def RoutingKind.name : RoutingKind → String
  | unicast => "unicast"
  | multicast => "multicast"

/-- What a transport offers for sends, publishes and replies. -/
structure RoutingPolicy where
  /-- The kind of sends. -/
  sends : RoutingKind
  /-- The kind of publishes. -/
  publishes : RoutingKind
  /-- The kind of replies. -/
  replies : RoutingKind
deriving DecidableEq, Repr, Inhabited

namespace RoutingPolicy

/-- Every operation goes to one address. -/
def allUnicast : RoutingPolicy := ⟨.unicast, .unicast, .unicast⟩

/-- The kind that applies to an intent. -/
def forIntent (policy : RoutingPolicy) : Intent → RoutingKind
  | .publish => policy.publishes
  | .reply => policy.replies
  | .send | .subscribe | .unsubscribe => policy.sends

end RoutingPolicy

end Messaging
