import Messaging.Endpoint.Settings
import Messaging.JsonForm.Failure
import Messaging.Routing.Resolver

/-!
# Settings in JSON forms

- `readConfig`, `readCapabilities` and `readRoutesConfig` read what an endpoint is told.
- `ofSettings` writes the settings of an endpoint.
-/

namespace Messaging.JsonForm

/-- Reads a configuration. -/
def readConfig (value : Json) : Config :=
  if isNull value then {} else (Config.ofJson? isNull value).getD {}

/-- Reads a kind of routing. -/
def readRoutingKind (value : Json) : RoutingKind :=
  if asText value = RoutingKind.multicast.name then .multicast else .unicast

/-- Reads a routing policy. -/
def readPolicy (value : Json) : RoutingPolicy :=
  ⟨readRoutingKind (value.getD "sends"), readRoutingKind (value.getD "publishes"),
    readRoutingKind (value.getD "replies")⟩

/-- Reads what a transport offers. -/
def readCapabilities (value : Json) : Capabilities where
  mode := readMode (value.getD "mode")
  policy := readPolicy (value.getD "policy")
  constraints := (asTexts (value.getD "constraints")).filterMap Constraint.Kind.ofName?

/-- Reads routes from pairs of a message type and an endpoint. -/
def readRouteConfigs (value : Json) : List RouteConfig :=
  (asPairs value).map fun pair => ⟨pair.1, pair.2⟩

/-- Reads subscribers from pairs of a message type and an address. -/
def readSubscribers (value : Json) : Option (Table (List String)) :=
  optional (fun value =>
    (asPairs value).foldl (fun table pair => addSubscriber table pair.1 pair.2) ∅) value

/-- A number that may be missing. -/
def ofNat? : Option Nat → Json
  | some n => .ofNat n
  | none => .null

/-- The settings of a timeout manager. -/
def ofTimeoutSettings (timeouts : TimeoutSettings) : Json :=
  .ofMembers [("storage_address", .string timeouts.storageAddress),
    ("dispatcher_address", .string timeouts.dispatcherAddress),
    ("critical_error_wait_secs", .ofNat timeouts.criticalErrorWait.seconds),
    ("max_concurrency", .ofNat timeouts.maxConcurrency)]

/-- The settings of an endpoint. -/
def ofSettings (settings : Settings) : Json :=
  .ofMembers [("endpoint_name", .string settings.endpointName),
    ("instance", settings.host.toJson),
    ("local_address", .ofString? settings.localAddress),
    ("error_queue", .string settings.errorQueue), ("send_only", .bool settings.sendOnly),
    ("transaction_mode", .string settings.transactionMode.name),
    ("max_concurrency", ofNat? settings.maxConcurrency),
    ("max_retries", .ofNat settings.maxRetries),
    ("purge_on_startup", .bool settings.purgeOnStartup),
    ("failure_cleanup_interval_secs", .ofNat settings.cleanupInterval.seconds),
    ("timeout_manager_address", .ofString? settings.timeoutManagerAddress),
    ("timeout_manager", (settings.timeouts.map ofTimeoutSettings).getD .null)]

end Messaging.JsonForm
