import Messaging.Endpoint.Settings
import Messaging.Incoming.Stages
import Messaging.Outgoing.Stages
import Messaging.Pipeline.Kind
import Messaging.Recovery.Faults
import Messaging.Recovery.Retries
import Messaging.Timeout.Poller

/-!
# The pipelines of an endpoint

- `builtInSteps` are the steps of the main pipeline that every endpoint has; the steps of the user
  are registered after them.
- `sendingSide` builds the pipelines of outgoing messages, `receivePipeline` that of received ones,
  and `satellites` those of the timeout manager.
- `Receiver` is an input queue with its pipeline.

The step that forwards failed messages runs a pipeline that is built from the same steps, so the
steps are given the built pipelines of outgoing messages; their order does not depend on them.
-/

namespace Messaging

/-- The name of the main pipeline. -/
def mainPipeline : String := "Main"

/-- What an endpoint is made of before it starts. -/
structure EndpointParts where
  /-- The format of message bodies. -/
  serializer : Serializer := .json
  /-- The handlers. -/
  handlers : Incoming.Handlers := ∅
  /-- The steps of the user. -/
  steps : EndpointSteps := { name := mainPipeline }
  /-- Whether there is a timeout storage. -/
  hasStorage : Bool := false
  /-- The subscribers of events, for transports without subscriptions of their own. -/
  subscribers : Option (Table (List String)) := none

/-- An input queue with its pipeline. -/
structure Receiver where
  /-- The queue. -/
  inputQueue : String
  /-- The pipeline of its messages. -/
  pipeline : Chain ReceiveContext
  /-- How many messages are processed at once. -/
  concurrency : Concurrency
  /-- Whether the queue is emptied at the start. -/
  purge : Bool

/-- What a pump does with a message: the pipeline runs on it in a scope below that of the pump. -/
def Receiver.entry (receiver : Receiver) (message : Message) (scope : ScopeId) :
    Act StageResult := do
  let scope ← Act.childScope scope
  receiver.pipeline.result { message, scope }

namespace Assembly

/-- The step that forwards failed messages. -/
def faultsStep (settings : Recovery.FaultSettings) : EndpointStep where
  id := Recovery.moveFaultsStep
  description := "Moves failing messages to the configured error queue"
  kind := .receive
  behavior := Recovery.moveFaults settings

/-- The step of immediate retries, after some others. -/
def retriesStep (pipeline : String) (maxRetries : Nat) (after : List String) : EndpointStep where
  id := Recovery.firstLevelRetriesStep
  description := "Performs first level retries"
  kind := .receive
  behavior := Recovery.firstLevelRetries ⟨.ofNat maxRetries⟩ pipeline
  after := after

/-- The steps that recover from failures of received messages. -/
def recoverySteps (settings : Settings) (faults : Option (Chain FaultContext)) (address : String) :
    List EndpointStep :=
  [faultsStep {
      pipeline := mainPipeline, faults, errorQueue := settings.errorQueue
      localAddress := address },
    retriesStep mainPipeline settings.maxRetries [Recovery.moveFaultsStep]]

/-- The step that finds routes. -/
def routingStep (resolver : Resolver) : EndpointStep where
  id := Outgoing.resolveRoutesStep
  description := "Determines how the message being sent should be routed"
  kind := .outgoing
  behavior := Outgoing.resolveRoutes resolver

/-- The step that defers messages. -/
def deferralStep (manager : String) : EndpointStep where
  id := Timeouts.routeDeferredStep
  description := "Reroutes deferred messages to the timeout manager"
  kind := .routing
  behavior := Timeouts.routeDeferred manager

/-- The steps of the main pipeline that every endpoint has. -/
def builtInSteps (settings : Settings) (resolver : Resolver)
    (faults : Option (Chain FaultContext)) : List EndpointStep :=
  (match settings.localAddress with
    | some address => recoverySteps settings faults address
    | none => []) ++
  -- routes are found before the deferral step looks at them
  [routingStep resolver] ++
  (match settings.timeoutManagerAddress with
    | some manager => [deferralStep manager]
    | none => [])

/-- The steps of the main pipeline, those of the user last. -/
def mainSteps (settings : Settings) (resolver : Resolver) (user : EndpointSteps)
    (faults : Option (Chain FaultContext)) : Except ConfigError EndpointSteps :=
  match ({ name := mainPipeline, steps := builtInSteps settings resolver faults } :
      EndpointSteps).extend user with
  | (none, steps) => .ok steps
  | (some error, _) => .error error

/-- The pipelines of outgoing messages. -/
structure SendingSide where
  /-- The pipeline of messages that are not yet written. -/
  outgoing : Chain OutgoingContext
  /-- The pipeline of written messages. -/
  physical : Chain PhysicalContext
  /-- The pipeline of messages with routes. -/
  routing : Chain RoutingContext
  /-- The pipeline of messages to the error queue. -/
  fault : Chain FaultContext

/-- Builds the pipelines of outgoing messages. -/
def sendingSide (steps : EndpointSteps) (serializer : Serializer) (capabilities : Capabilities) :
    Except ConfigError SendingSide := do
  let routing ← steps.build .routing (Outgoing.dispatchLast capabilities)
  let physical ← steps.build .physical (Outgoing.toRouting routing)
  let outgoing ← steps.build .outgoing (Outgoing.serialize serializer physical)
  let fault ← steps.build .fault (Outgoing.faultToRouting routing)
  .ok { outgoing, physical, routing, fault }

/-- Builds the pipeline of read messages. -/
def incomingPipeline (steps : EndpointSteps) (handlers : Incoming.Handlers)
    (operations : Operations) : Except ConfigError (Chain IncomingContext) := do
  let invocation ← steps.build .invocation Incoming.invokeHandler
  steps.build .incoming (Incoming.loadHandlers handlers operations invocation)

/-- Builds the pipeline of received messages. -/
def receivePipeline (steps : EndpointSteps) (parts : EndpointParts) (operations : Operations) :
    Except ConfigError (Chain ReceiveContext) := do
  let incoming ← incomingPipeline steps parts.handlers operations
  steps.build .receive (Incoming.deserialize parts.serializer incoming)

/-- The step that recovers from failures in a side queue. -/
def satelliteSteps (name errorQueue address : String) : List (String × Stage ReceiveContext) :=
  [(Timeouts.recoverStep, Timeouts.recover name errorQueue address)]

/-- A side queue of the timeout manager. -/
def satellite (settings : Settings) (timeouts : TimeoutSettings) (name address : String)
    (last : LastStage ReceiveContext) : Receiver where
  inputQueue := address
  pipeline :=
    { name, steps := satelliteSteps name settings.errorQueue address, terminator := last }
  concurrency := .ofSetting timeouts.maxConcurrency
  purge := false

/-- The side queues of the timeout manager. -/
def satellites (settings : Settings) (timeouts : TimeoutSettings) : List Receiver :=
  [satellite settings timeouts Timeouts.storageSatellite timeouts.storageAddress
      (Timeouts.storeLast settings.endpointName),
    satellite settings timeouts Timeouts.dispatchSatellite timeouts.dispatcherAddress
      (Timeouts.dispatchLast settings.transactionMode)]

/-- The queues that an endpoint needs. -/
def bindings (settings : Settings) (receivers : List Receiver) : Bindings :=
  let receiving := receivers.foldl
    (fun (bindings : Bindings) (receiver : Receiver) => bindings.receive receiver.inputQueue) {}
  -- the error queue is written to only
  receiving.send settings.errorQueue

end Assembly

end Messaging
