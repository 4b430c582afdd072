import Messaging.Config.Basic
import Messaging.Failure
import Messaging.Intent
import Messaging.Routing.Address
import Messaging.Routing.Route

/-!
# Resolving routes

- `RouteTable` names the endpoint that is responsible for each message type.
- `Resolver` holds what decides the routes of outgoing messages, and its functions `send`, `reply`
  and `publish` decide them.
-/

namespace Messaging

/-- The endpoint that is responsible for each message type. -/
abbrev RouteTable := Table String

/-- The routes of a configuration; of several for one message type the last counts. -/
def RouteTable.ofConfig (routes : List RouteConfig) : RouteTable :=
  Table.ofList (routes.map fun route => (route.messageType, route.endpoint))

/-- What decides the routes of outgoing messages. -/
structure Resolver where
  /-- The address that each message type is sent to. -/
  routes : Table String
  /-- The address of the endpoint itself, unless it only sends. -/
  localAddress : Option String
  /-- How operations reach their receivers. -/
  policy : RoutingPolicy
  /-- The subscribers of each message type, where somebody keeps them. -/
  subscribers : Option (Table (List String)) := none

/-- Subscribers in the order in which they were added. -/
def addSubscriber (table : Table (List String)) (messageType address : String) :
    Table (List String) :=
  table.insert messageType (table.getD messageType [] ++ [address])

namespace Resolver

/-- A resolver for a table of routes; `address` is the transport address of a logical one. -/
def ofTable (table : RouteTable) (address : LogicalAddress → String)
    (localAddress : Option String) (policy : RoutingPolicy) : Resolver :=
  { routes := Table.ofList (table.toList.map fun entry => (entry.1, address (.remote entry.2)))
    localAddress, policy }

/-- The routes of a command: an explicit destination, then the endpoint itself, then the table. -/
def send (resolver : Resolver) (messageType : String) (destination : Option String)
    (toSelf : Bool) : Except RoutingError (List Route) :=
  match destination with
  | some address => .ok [.unicast address]
  | none =>
    if toSelf then
      match resolver.localAddress with
      | some address => .ok [.unicast address]
      | none => .error .noLocalAddress
    else
      match resolver.routes.get? messageType with
      | some address => .ok [.unicast address]
      | none => .error (.noDestination messageType)

/-- The routes of a reply. -/
def reply (messageId : String) (replyTo : Option String) : Except RoutingError (List Route) :=
  match replyTo with
  | some address => .ok [.unicast address]
  | none => .error (.noReplyTo messageId)

/-- The addresses of a list, each at its first place only. -/
def distinct (addresses : List String) : List String :=
  addresses.foldl (fun seen address => if seen.contains address then seen else seen ++ [address]) []

/-- The routes of an event: the transport fans it out, or every subscriber gets one of its own. -/
def publish (resolver : Resolver) (messageType : String) : Except RoutingError (List Route) :=
  if resolver.policy.publishes = .multicast then .ok [.multicast messageType]
  else
    match resolver.subscribers with
    | none => .error (.publishNotSupported messageType)
    | some table => .ok ((distinct (table.getD messageType [])).map .unicast)

/-- The routes of a message by its intent. -/
def resolve (resolver : Resolver) (intent : Intent) (messageType messageId : String)
    (destination : Option String) (toSelf : Bool) : Except RoutingError (List Route) :=
  match intent with
  | .publish => resolver.publish messageType
  | .reply => reply messageId destination
  | .send | .subscribe | .unsubscribe => resolver.send messageType destination toSelf

end Resolver

end Messaging
