import Messaging.Exercise.Basic
import Messaging.JsonForm.Script
import Messaging.Memory.Transport
import Messaging.Scripted.Entry

/-!
# Exercises on queues

- `queues` works on the broker and the transport in memory.
- `pump` receives messages with a scripted entry.
-/

namespace Messaging.Exercise

open JsonForm Scripted

/-! ### The broker -/

/-- The answer for a queue that does not exist. -/
def noQueue : Json := .string "no queue"

/-- The depth of a queue. -/
def depthOf (address : String) : Exercise Json := do
  pure (.ofNat ((← broker).depth address))

/-- Takes every message of a queue. -/
def takeAll (address : String) : Exercise (List Message) := do
  let messages := ((← broker).queue? address).getD []
  changeBroker (·.purge address)
  pure (messages.map Queued.message)

/-- The first message of a queue, if there is one, which is taken out. -/
def takeFirst (address : String) : Exercise (Option Queued) := do
  let (first, _) := (← broker).pop address
  changeBroker fun broker => (broker.pop address).2
  pure first

/-- A step on a queue that exists; the state is the message in hand. -/
def queueStep (kind address : String) (argument : Json) : StateT (Option Queued) Exercise Json := do
  match kind with
  | "push" => do
    let message ← decode (readQueued (item argument 1))
    changeBroker (·.push address message)
    depthOf address
  | "requeue" => do
    match ← get with
    | none => pure noQueue
    | some message => do
      set (none : Option Queued)
      changeBroker (·.requeue address message)
      depthOf address
  | "purge" => do
    let depth ← depthOf address
    changeBroker (·.purge address)
    pure depth
  | "pop" => do
    let first ← takeFirst address
    set first
    let now ← now
    pure ((first.map (ofQueued now)).getD .null)
  | _ => do
    let first ← takeFirst address
    let now ← now
    pure ((first.map (ofQueued now)).getD (.string "nothing received"))

/-- The mode that is settled with a transport for a requested one. -/
def ofNegotiated (supported : TransactionMode) (requested : Option TransactionMode) : Json :=
  match negotiateMode supported requested with
  | .ok mode => .string mode.name
  | .error error => ofConfigError error

/-- What the transport in memory provides for a configuration. -/
def provided (site : SiteId) (config : Config) : Exercise Json := do
  let infrastructure := Memory.provide config
  match infrastructure.subscriptions with
  | some subscriptions => do
    let _ ← run site (subscriptions.subscribe "probe" 0)
  | none => pure ()
  let mode := infrastructure.capabilities.mode
  pure (.ofMembers [("receive", .bool infrastructure.connectReceive.isSome),
    ("subscriptions", .bool infrastructure.subscriptions.isSome),
    ("probe", .ofStrings ((← broker).subscribers "probe")),
    ("name", .string Memory.transport.name), ("default_mode", ofNegotiated mode none),
    ("strongest_mode", ofNegotiated mode (some .transactionScope))])

/-- The address of a queue in memory. -/
def addressOf (endpoint discriminator : String) (qualifier : Option String) : String :=
  let main : LogicalAddress := { owner :=
    { endpoint, discriminator := if discriminator.isEmpty then none else some discriminator } }
  Memory.transport.address (qualifier.elim main main.qualified)

/-- Runs a program that a transport may refuse. -/
def transported (site : SiteId) (program : Act (Except TransportError Unit)) : Exercise Json :=
  perform site (ofUnit ofTransportError) program

/-- The subscribers of a message type. -/
def subscribersOf (messageType : String) : Exercise Json := do
  pure (.ofStrings ((← broker).subscribers messageType))

/-- A step on the broker. -/
def brokerStep (site : SiteId) (kind : String) (argument : Json) :
    StateT (Option Queued) Exercise Json := do
  let address := asText (firstItem argument)
  let (first, second) := asPair argument
  let broker ← broker
  match kind with
  | "canonical" => pure (.ofStrings [canonicalAddress address, Memory.transport.canonical address])
  | "create" => perform site .bool (Act.ask (.createQueue address))
  | "exists" => pure (.bool (broker.queueExists address))
  | "depth" =>
    pure (.array [.ofNat (broker.depth address),
      ((broker.queue? address).map fun waiting => Json.bool waiting.isEmpty).getD .null])
  | "push" | "pop" | "requeue" | "receive" | "purge" =>
    if broker.queueExists address then queueStep kind address argument else pure noQueue
  | "expired" => do
    let message ← decode (readQueued (item argument 0))
    let time ← decode (readTime (item argument 1))
    pure (.bool (message.isExpired time))
  | "take" => do
    let messages ← takeAll address
    let now ← now
    pure (.array (messages.map (ofMessage now)))
  | "subscribe" => do
    changeBroker (·.subscribe first second)
    subscribersOf first
  | "unsubscribe" => do
    changeBroker (·.unsubscribe first second)
    subscribersOf first
  | "subscribers" => subscribersOf address
  | "manager" => do
    let manager := Memory.subscriptions first
    let ends := asText (item argument 2) = "unsubscribe"
    let result ← transported site
      ((if ends then manager.unsubscribe else manager.subscribe) second 0)
    let subscribers ← subscribersOf second
    pure (.array [result, subscribers])
  | "bindings" =>
    transported site (Memory.createQueues
      ⟨asTexts (argument.getD "receiving"), asTexts (argument.getD "sending")⟩ "")
  | "dispatch" => do
    let operations ← decode (readOperations argument)
    transported site (Act.dispatch (.ofList operations))
  | "address" => pure (.string (addressOf address second (asText? (item argument 2))))
  | _ => provided site (readConfig argument)

/-- Queues and subscriptions in memory. -/
def queues (script : Json) : Exercise Json := do
  let site ← addSite {}
  let steps := asItems (script.getD "steps")
  let step (value : Json) := brokerStep site (asTagged value).1 (asTagged value).2
  let (answers, _) ← (steps.mapM step).run none
  pure (.array answers)

/-! ### Pumps -/

/-- Reads how the processing of a message ends. -/
def readEntryEnd : Json → EntryEnd
  | .object (("sleep_ms", n) :: ("then", rest) :: _) => .sleep (asNat n) (readEntryEnd rest)
  | value =>
    match asTagged value with
    | ("sleep_ms", n) => .sleep (asNat n) (.result (.ok .completed))
    | ("panic", text) => .panic (readPanic "panic" text)
    | ("panic_str", _) => .panic (readPanic "panic_str" .null)
    | ("panic_value", _) => .panic (readPanic "panic_value" .null)
    | _ => .result (readResult value)

/-- What a scripted pump is told. -/
structure PumpScript where
  /-- Its queue. -/
  queue : String
  /-- For how long a stop waits. -/
  grace : Time.Span
  /-- What it does with messages. -/
  entry : PumpEntry

/-- Puts messages into a queue in order. -/
def pushAll (address : String) (messages : List Queued) : Exercise Unit :=
  messages.forM fun message => changeBroker (·.push address message)

/-- A step of a pump. -/
def pumpStep (pump : PumpScript) (key : PumpKey) (kind : String) (argument : Json) :
    Exercise Json := do
  match kind with
  | "init" => do
    let settings : PumpSettings := {
      inputQueue := (asText? (argument.getD "queue")).getD pump.queue
      errorQueue := "error", purge := asFlag (argument.getD "purge"), mode := .receiveOnly }
    let result ← modifyGet (·.initPump key pump.entry settings)
    pure (ofUnit ofTransportError result)
  | "start" => do
    let concurrency := Concurrency.ofSetting ((asNat? argument).getD 1)
    let result ← modifyGet (·.startPump key concurrency)
    pure (ofUnit ofTransportError result)
  | "stop" => do
    let result ← modifyGet (·.stopPump key pump.grace)
    pure (ofUnit ofTransportError result)
  | "push" => do
    if !(← broker).queueExists pump.queue then return noQueue
    pushAll pump.queue (← decode ((asItems argument).mapM readQueued))
    depthOf pump.queue
  | "sleep_ms" => do
    idle (asNat argument)
    pure ok
  | _ => do
    let messages ← takeAll pump.queue
    pure (.ofStrings (messages.map Message.id))

/-- A pump in memory. -/
def pump (script : Json) : Exercise Json := do
  let site ← addSite {}
  (asTexts (script.getD "queues")).forM fun address =>
    changeBroker fun broker => (broker.createQueue address).2
  let pump : PumpScript := {
    queue := (asText? (script.getD "queue")).getD "sales"
    grace := .ofMillis ((asNat? (script.getD "grace_ms")).getD 5000)
    entry := scriptedEntry ((asItems (script.getD "script")).map readEntryEnd) }
  steps script fun kind argument => do
    let result ← pumpStep pump ⟨site, 0⟩ kind argument
    let depth ← depthOf pump.queue
    let raised := (← siteOf site).critical.count
    shown site result [("depth", depth), ("raised", .ofNat raised)]

end Messaging.Exercise
