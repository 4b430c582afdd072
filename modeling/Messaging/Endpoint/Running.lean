import Messaging.Endpoint.Assembly

/-!
# Starting and stopping an endpoint

- `Endpoint.start` settles the settings, builds the pipelines, creates the queues and starts the
  pumps; when a pump does not start, those that did are stopped again.
- `Running` is a started endpoint and `Running.stop` stops all of it, whatever fails on the way.
- The functions `send`, `publish` and `subscribe` of `Running` are the session of the endpoint.
-/

namespace Messaging

/-- Why an endpoint does not start or stop. -/
inductive EndpointError where
  /-- The configuration is refused. -/
  | configuration (error : ConfigError)
  /-- The transport refused. -/
  | transport (error : TransportError)
deriving DecidableEq, Repr

/-- The text of an endpoint that does not start or stop. -/
def EndpointError.message : EndpointError → String
  | configuration error => "endpoint configuration is invalid: " ++ error.message
  | transport error => "transport failure: " ++ error.message

/-- A started endpoint. -/
structure Running where
  /-- The settings. -/
  settings : Settings
  /-- The ways to send messages. -/
  operations : Operations
  /-- Native subscriptions, if there are any. -/
  subscriptions : Option Subscriptions
  /-- The input queues with their pumps, first started first. -/
  pumps : List (Receiver × Pump) := []
  /-- Whether the background poller runs. -/
  polls : Bool := false
  /-- Whether the failure counters are cleared again and again. -/
  cleans : Bool := false

namespace Endpoint

/-- A program that may refuse to start the endpoint. -/
abbrev Start (α : Type) := ExceptT EndpointError (Program Lifecycle.signature) α

/-- Goes on unless the configuration is refused. -/
def configured {α : Type} (result : Except ConfigError α) : Start α :=
  ExceptT.mk (pure (result.mapError .configuration))

/-- Goes on unless the transport refuses. -/
def transported {α : Type} (program : Life (Except TransportError α)) : Start α :=
  ExceptT.mk do
    let result ← program
    pure (result.mapError .transport)

/-- Goes on after a program that refuses nothing. -/
def always {α : Type} (program : Life α) : Start α := ExceptT.lift program

/-- Stops pumps in order and keeps the first refusal. -/
def stopPumps : List (Receiver × Pump) → Life (Option TransportError)
  | [] => pure none
  | (receiver, pump) :: rest => do
    let result ← pump.stop receiver.inputQueue
    -- a pump that does not stop does not keep the others from it
    let later ← stopPumps rest
    match result with
    | .error error => pure (some error)
    | .ok () => pure later

/-- Sets up and starts a pump. -/
def startPump (settings : Settings) (receiver : Receiver) (pump : Pump) :
    Life (Except TransportError Unit) := do
  match ← pump.init receiver.entry {
      inputQueue := receiver.inputQueue, errorQueue := settings.errorQueue
      purge := receiver.purge, mode := settings.transactionMode } with
  | .error error => pure (.error error)
  | .ok () => pump.start receiver.inputQueue receiver.concurrency

/-- Starts a pump for each of some receivers, of which the first gets number `index`; the pumps
that were started are returned in any case. -/
def startPumps (settings : Settings) (side : ReceiveSide) :
    List Receiver → Nat → Life (Option TransportError × List (Receiver × Pump))
  | [], _ => pure (none, [])
  | receiver :: rest, index => do
    let pump := side.pump index
    match ← startPump settings receiver pump with
    | .error error => pure (some error, [])
    | .ok () => do
      let (failure, started) ← startPumps settings side rest (index + 1)
      pure (failure, (receiver, pump) :: started)

/-- The refusal to start a timeout manager without a storage. -/
def storageMissing : ConfigError :=
  .invalidSetting "timeout_storage"
    "the timeout manager needs a timeout storage; register one or disable the timeout manager"

/-- The name of the circuit breaker of storage queries. -/
def breakerName : String := "TimeoutStorageConnectivity"

/-- Sets up the schedule and the circuit breaker of a timeout manager. -/
def installPoller (timeouts : TimeoutSettings) : Act Unit := do
  let now ← Act.clock
  Act.ask (.changeSchedule fun _ => .initial now)
  Act.ask (.installBreaker { name := breakerName, wait := timeouts.criticalErrorWait })

/-- The receivers of an endpoint: the main queue and the side queues of the timeout manager. -/
def receivers (settings : Settings) (main : String) (pipeline : Chain ReceiveContext) :
    List Receiver :=
  { inputQueue := main, pipeline
    concurrency := settings.maxConcurrency.bind Concurrency.ofSetting
    purge := settings.purgeOnStartup } ::
  (match settings.timeouts with
    | some timeouts => Assembly.satellites settings timeouts
    | none => [])

/-- Starts the receiving side of an endpoint. -/
def startReceiving (side : ReceiveSide) (running : Running) (receivers : List Receiver) :
    Start Running := do
  let settings := running.settings
  configured (checkResult side.check)
  transported (Life.act (side.createQueues (Assembly.bindings settings receivers)
    settings.endpointName))
  let (failure, pumps) ← always (startPumps settings side receivers 0)
  match failure with
  | some error => do
    -- the failure to start is what is told, not one while cleaning up
    let _ ← always (stopPumps pumps)
    throw (.transport error)
  | none => do
    match settings.timeouts with
    | some timeouts => always (Life.ask (.startPoller timeouts.dispatcherAddress))
    | none => pure ()
    always (Life.ask (.startCleaner settings.cleanupInterval
      [.retries, .forwards, .satellites]))
    pure { running with pumps, polls := settings.timeouts.isSome, cleans := true }

/-- The receiving side of a transport for an endpoint that receives. -/
def connectReceive (infrastructure : Infrastructure) (settings : Settings)
    (connection : Option String) : Start (Option ReceiveSide) :=
  if settings.sendOnly then pure none
  else
    match infrastructure.connectReceive with
    | none => throw (.configuration .receiveNotSupported)
    | some connect => do
      let side ← always (Life.act (connect connection))
      pure (some side)

/-- The resolver of an endpoint. -/
def resolver (config : Config) (transport : Transport) (capabilities : Capabilities)
    (settings : Settings) (subscribers : Option (Table (List String))) : Resolver :=
  { Resolver.ofTable (.ofConfig config.routes) transport.address settings.localAddress
      capabilities.policy with subscribers }

/-- Starts an endpoint. -/
def start (config : Config) (transport : Transport) (parts : EndpointParts) : Start Running := do
  let infrastructure ← configured (transport.provide config)
  let capabilities := infrastructure.capabilities
  let settings ← configured (Settings.resolve config transport capabilities)
  let sendSide ← always (Life.act (infrastructure.connectSend config.connectionString))
  configured (checkResult sendSide.check)
  -- the way out is checked before the way in is connected
  let receiveSide ← connectReceive infrastructure settings config.connectionString
  if settings.timeouts.isSome ∧ ¬ parts.hasStorage then throw (.configuration storageMissing)
  let resolver := resolver config transport capabilities settings parts.subscribers
  -- the pipelines of outgoing messages hold no step that forwards failed messages
  let steps ← configured (Assembly.mainSteps settings resolver parts.steps none)
  let sending ← configured (Assembly.sendingSide steps parts.serializer capabilities)
  let operations : Operations :=
    { outgoing := sending.outgoing, routing := sending.routing
      endpointName := settings.endpointName, localAddress := settings.localAddress }
  let running : Running :=
    { settings, operations, subscriptions := infrastructure.subscriptions }
  match receiveSide, settings.localAddress with
  | some side, some main => do
    let steps ← configured
      (Assembly.mainSteps settings resolver parts.steps (some sending.fault))
    let pipeline ← configured (Assembly.receivePipeline steps parts operations)
    match settings.timeouts with
    | some timeouts => always (Life.act (installPoller timeouts))
    | none => pure ()
    startReceiving side running (receivers settings main pipeline)
  | _, _ => pure running

end Endpoint

namespace Running

/-- The queues that the endpoint receives from. -/
def inputQueues (running : Running) : List String := running.pumps.map (·.1.inputQueue)

/-- The receiver of a queue. -/
def receiver? (running : Running) (queue : String) : Option Receiver :=
  (running.pumps.find? (·.1.inputQueue = queue)).map (·.1)

/-- Stops the poller, every pump and the clearing of counters, and keeps the first refusal. -/
def stop (running : Running) : Life (Except EndpointError Unit) := do
  if running.polls then Life.ask .stopPoller
  let refusal ← Endpoint.stopPumps running.pumps
  if running.cleans then Life.ask .stopCleaner
  match refusal with
  | some error => pure (.error (.transport error))
  | none => pure (.ok ())

/-! ### The session -/

/-- Sends a command. -/
def send (running : Running) (payload : Payload) (options : SendOptions) :
    Act (Except Failure Unit) := do
  let scope ← Act.rootScope
  running.operations.send scope payload options

/-- Sends a command to the endpoint itself. -/
def sendLocal (running : Running) (payload : Payload) : Act (Except Failure Unit) :=
  running.send payload { toSelf := true }

/-- Publishes an event. -/
def publish (running : Running) (payload : Payload) : Act (Except Failure Unit) := do
  let scope ← Act.rootScope
  running.operations.publish scope payload {}

/-- Changes a subscription. -/
def changeSubscription (running : Running)
    (change : Subscriptions → ScopeId → Act (Except TransportError Unit)) :
    Act (Except Failure Unit) :=
  match running.subscriptions with
  | none => pure (.error (.routing .subscriptionsNotSupported))
  | some subscriptions => do
    let scope ← Act.rootScope
    let result ← change subscriptions scope
    pure (result.mapError .transport)

/-- Subscribes the endpoint to events of a type. -/
def subscribe (running : Running) (messageType : String) : Act (Except Failure Unit) :=
  running.changeSubscription fun subscriptions => subscriptions.subscribe messageType

/-- Ends the subscription of the endpoint to events of a type. -/
def unsubscribe (running : Running) (messageType : String) : Act (Except Failure Unit) :=
  running.changeSubscription fun subscriptions => subscriptions.unsubscribe messageType

end Running

end Messaging
