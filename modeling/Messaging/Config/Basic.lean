import Messaging.Json.Schema
import Messaging.Transport.Mode

/-!
# Endpoint configuration

- `Config` holds what an endpoint is told before it starts; every field has a value for its absence.
- `Config.toJson` writes a configuration and `Config.ofJson?` reads one: records stand as objects
  or, by position, as lists, and members that are no field are passed over.
-/

namespace Messaging

/-- All sends of a message type go to an endpoint. -/
structure RouteConfig where
  /-- The message type. -/
  messageType : String
  /-- The endpoint. -/
  endpoint : String
deriving DecidableEq, Repr

/-- What the timeout manager of an endpoint is told. -/
structure TimeoutConfig where
  /-- Whether the timeout manager may run. -/
  enabled : Bool := true
  /-- The timeout manager of another endpoint that is to be used instead. -/
  alternateAddress : Option String := none
  /-- For how many seconds the storage may fail before the endpoint gives up. -/
  criticalErrorWaitSecs : Nat := 2
  /-- How many messages each side queue processes at once. -/
  maxConcurrency : Nat := 1
deriving DecidableEq, Repr

/-- What an endpoint is told before it starts. -/
structure Config where
  /-- The name of the endpoint. -/
  endpointName : String := ""
  /-- What tells the instance from the others of the endpoint. -/
  discriminator : Option String := none
  /-- The queue that failed messages go to. -/
  errorQueue : String := "error"
  /-- Whether the endpoint receives nothing. -/
  sendOnly : Bool := false
  /-- How often a failed message is retried at once. -/
  maxRetries : Nat := 5
  /-- How many messages are processed at once. -/
  maxConcurrency : Option Nat := none
  /-- The transaction mode to run in. -/
  transactionMode : Option TransactionMode := none
  /-- Whether the input queue is emptied at the start. -/
  purgeOnStartup : Bool := false
  /-- What the transport is told about its connection. -/
  connectionString : Option String := none
  /-- For how many seconds a stop waits for messages in flight. -/
  stopGracePeriodSecs : Nat := 30
  /-- The seconds between two clearings of the failure counters. -/
  failureCleanupIntervalSecs : Nat := 300
  /-- Where message types are sent to. -/
  routes : List RouteConfig := []
  /-- What the timeout manager is told. -/
  timeouts : TimeoutConfig := {}
deriving DecidableEq, Repr

/-- A route in JSON. -/
def RouteConfig.toJson (route : RouteConfig) : Json :=
  .ofMembers [("message_type", .string route.messageType), ("endpoint", .string route.endpoint)]

/-- Reads a route. -/
def RouteConfig.ofJson? (value : Json) : Option RouteConfig := do
  match ← value.fieldValues ["message_type", "endpoint"] with
  | [messageType, endpoint] =>
    some ⟨← Json.required Json.text? messageType, ← Json.required Json.text? endpoint⟩
  | _ => none

/-- The settings of a timeout manager in JSON. -/
def TimeoutConfig.toJson (config : TimeoutConfig) : Json :=
  .ofMembers [("enabled", .bool config.enabled),
    ("alternate_address", .ofString? config.alternateAddress),
    ("critical_error_wait_secs", .ofNat config.criticalErrorWaitSecs),
    ("max_concurrency", .ofNat config.maxConcurrency)]

/-- Reads the settings of a timeout manager. -/
def TimeoutConfig.ofJson? (value : Json) : Option TimeoutConfig := do
  match ← value.fieldValues
    ["enabled", "alternate_address", "critical_error_wait_secs", "max_concurrency"] with
  | [enabled, alternateAddress, criticalErrorWaitSecs, maxConcurrency] =>
    some {
      enabled := ← Json.optional true Json.bool? enabled
      alternateAddress := ← Json.optional none (Json.nullable? Json.text?) alternateAddress
      criticalErrorWaitSecs := ← Json.optional 2 (Json.natural? 64) criticalErrorWaitSecs
      maxConcurrency := ← Json.optional 1 (Json.natural? 64) maxConcurrency }
  | _ => none

/-- Reads a transaction mode: its name, or an object with the name as its only member, of a value
that says nothing. -/
def TransactionMode.ofJson? (isUnit : Json → Bool) : Json → Option TransactionMode
  | .string name => TransactionMode.ofName? name
  | .object [(name, value)] => if isUnit value then TransactionMode.ofName? name else none
  | _ => none

namespace Config

/-- A configuration in JSON. -/
def toJson (config : Config) : Json :=
  .ofMembers [("endpoint_name", .string config.endpointName),
    ("discriminator", .ofString? config.discriminator),
    ("error_queue", .string config.errorQueue),
    ("send_only", .bool config.sendOnly),
    ("max_retries", .ofNat config.maxRetries),
    ("max_concurrency", (config.maxConcurrency.map Json.ofNat).getD .null),
    ("transaction_mode", .ofString? (config.transactionMode.map TransactionMode.name)),
    ("purge_on_startup", .bool config.purgeOnStartup),
    ("connection_string", .ofString? config.connectionString),
    ("stop_grace_period_secs", .ofNat config.stopGracePeriodSecs),
    ("failure_cleanup_interval_secs", .ofNat config.failureCleanupIntervalSecs),
    ("routes", .array (config.routes.map RouteConfig.toJson)),
    ("timeouts", config.timeouts.toJson)]

/-- The names of the fields in their order. -/
def fieldNames : List String :=
  ["endpoint_name", "discriminator", "error_queue", "send_only", "max_retries", "max_concurrency",
    "transaction_mode", "purge_on_startup", "connection_string", "stop_grace_period_secs",
    "failure_cleanup_interval_secs", "routes", "timeouts"]

/-- Reads a configuration; `isUnit` tells the values that say nothing. -/
def ofJson? (isUnit : Json → Bool) (value : Json) : Option Config := do
  match ← value.fieldValues fieldNames with
  | [endpointName, discriminator, errorQueue, sendOnly, maxRetries, maxConcurrency, transactionMode,
      purgeOnStartup, connectionString, stopGracePeriodSecs, failureCleanupIntervalSecs, routes,
      timeouts] =>
    some {
      endpointName := ← Json.optional "" Json.text? endpointName
      discriminator := ← Json.optional none (Json.nullable? Json.text?) discriminator
      errorQueue := ← Json.optional "error" Json.text? errorQueue
      sendOnly := ← Json.optional false Json.bool? sendOnly
      maxRetries := ← Json.optional 5 (Json.natural? 32) maxRetries
      maxConcurrency := ← Json.optional none (Json.nullable? (Json.natural? 64)) maxConcurrency
      transactionMode :=
        ← Json.optional none (Json.nullable? (TransactionMode.ofJson? isUnit)) transactionMode
      purgeOnStartup := ← Json.optional false Json.bool? purgeOnStartup
      connectionString := ← Json.optional none (Json.nullable? Json.text?) connectionString
      stopGracePeriodSecs := ← Json.optional 30 (Json.natural? 64) stopGracePeriodSecs
      failureCleanupIntervalSecs :=
        ← Json.optional 300 (Json.natural? 64) failureCleanupIntervalSecs
      routes := ← Json.optional [] (Json.list? RouteConfig.ofJson?) routes
      timeouts := ← Json.optional {} TimeoutConfig.ofJson? timeouts }
  | _ => none

end Config

end Messaging
