import Messaging.Timeout.Satellites
import Messaging.Transport.Definition

/-!
# Settings of an endpoint

- `Feature` is an optional part of an endpoint with the conditions for it, and `timeoutManager` is
  the one feature there is.
- `Settings.resolve` turns a configuration into settings, for a transport that is initialised.
-/

namespace Messaging

open Time (Span)

/-! ### Features -/

/-- A condition for an optional part. -/
structure Prerequisite where
  /-- What the condition says, seen from its failure. -/
  description : String
  /-- Whether it holds. -/
  holds : Config → Capabilities → Bool

/-- An optional part of an endpoint. -/
structure Feature where
  /-- Its name. -/
  name : String
  /-- The conditions for it. -/
  prerequisites : List Prerequisite

/-- The first condition that does not hold, if there is one. -/
def Feature.missing? (feature : Feature) (config : Config) (capabilities : Capabilities) :
    Option String :=
  (feature.prerequisites.find? fun p => !p.holds config capabilities).map (·.description)

/-- The timeout manager, for transports that do not defer deliveries by themselves. -/
def Feature.timeoutManager : Feature where
  name := "TimeoutManager"
  prerequisites := [
    { description := "The timeout manager has been disabled"
      holds := fun config _ => config.timeouts.enabled },
    { description :=
        "Send only endpoints can't use the timeout manager since it requires receive capabilities"
      holds := fun config _ => !config.sendOnly },
    { description :=
        "A user configured timeout manager address has been found and this endpoint will send " ++
          "timeouts to that endpoint"
      holds := fun config _ => config.timeouts.alternateAddress.isNone },
    { description := "The selected transport supports delayed delivery natively"
      holds := fun _ capabilities => !capabilities.supportsDelay }]

/-! ### Settings -/

/-- The settings of a timeout manager that runs. -/
structure TimeoutSettings where
  /-- The queue that stores messages. -/
  storageAddress : String
  /-- The queue that sends stored messages on. -/
  dispatcherAddress : String
  /-- For how long the storage may fail. -/
  criticalErrorWait : Span
  /-- How many messages each queue processes at once. -/
  maxConcurrency : Nat
deriving DecidableEq

/-- The settings of an endpoint. -/
structure Settings where
  /-- The name of the endpoint. -/
  endpointName : String
  /-- The instance. -/
  host : Instance
  /-- The input queue, unless the endpoint only sends. -/
  localAddress : Option String
  /-- The queue that failed messages go to. -/
  errorQueue : String
  /-- Whether the endpoint receives nothing. -/
  sendOnly : Bool
  /-- The transaction mode. -/
  transactionMode : TransactionMode
  /-- How many messages are processed at once, if that is set. -/
  maxConcurrency : Option Nat
  /-- How often a failed message is retried at once. -/
  maxRetries : Nat
  /-- Whether the input queue is emptied at the start. -/
  purgeOnStartup : Bool
  /-- The time between two clearings of the failure counters. -/
  cleanupInterval : Span
  /-- Where deferred messages are sent, unless the transport defers by itself. -/
  timeoutManagerAddress : Option String
  /-- The timeout manager of the endpoint itself, if it runs one. -/
  timeouts : Option TimeoutSettings
deriving DecidableEq

namespace Settings

/-- Refuses names that are blank and a concurrency of zero. -/
def validate (config : Config) : Except ConfigError Unit :=
  if Text.isAllBlank config.endpointName then
    .error (.invalidSetting "endpoint_name" "an endpoint needs a name")
  else if Text.isAllBlank config.errorQueue then
    .error (.invalidSetting "error_queue" "an error queue is required")
  else if config.maxConcurrency = some 0 then
    .error (.invalidSetting "max_concurrency" "must be at least 1")
  else .ok ()

/-- The settings of the timeout manager, if the endpoint runs one. -/
def timeoutSettings (config : Config) (transport : Transport) (capabilities : Capabilities)
    (main : LogicalAddress) : Option TimeoutSettings :=
  match Feature.timeoutManager.missing? config capabilities with
  | some _ => none
  | none => some {
      storageAddress := transport.address (main.qualified Timeouts.storageSatellite)
      dispatcherAddress := transport.address (main.qualified Timeouts.dispatchSatellite)
      criticalErrorWait := .ofSeconds config.timeouts.criticalErrorWaitSecs
      maxConcurrency := max config.timeouts.maxConcurrency 1 }

/-- Where deferred messages are sent: to the endpoint's own timeout manager, or to another's where
the transport does not defer by itself. -/
def managerAddress (config : Config) (transport : Transport) (capabilities : Capabilities)
    (timeouts : Option TimeoutSettings) : Option String :=
  match timeouts with
  | some timeouts => some timeouts.storageAddress
  | none =>
    -- a transport that defers by itself needs no detour
    if capabilities.supportsDelay then none
    else config.timeouts.alternateAddress.map transport.canonical

/-- The settings of a configuration. -/
def resolve (config : Config) (transport : Transport) (capabilities : Capabilities) :
    Except ConfigError Settings := do
  validate config
  let transactionMode ← negotiateMode capabilities.mode config.transactionMode
  let owner := transport.bindLocal
    { endpoint := config.endpointName, discriminator := config.discriminator }
  let main : LogicalAddress := { owner }
  let timeouts := timeoutSettings config transport capabilities main
  .ok {
    endpointName := config.endpointName
    host := owner
    localAddress := if config.sendOnly then none else some (transport.address main)
    errorQueue := transport.canonical config.errorQueue
    sendOnly := config.sendOnly
    transactionMode
    maxConcurrency := config.maxConcurrency
    maxRetries := config.maxRetries
    purgeOnStartup := config.purgeOnStartup
    -- clearing without a pause would never end
    cleanupInterval := .ofSeconds (max config.failureCleanupIntervalSecs 1)
    timeoutManagerAddress := managerAddress config transport capabilities timeouts
    timeouts }

end Settings

end Messaging
