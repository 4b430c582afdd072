import Messaging.JsonForm.Message
import Messaging.JsonForm.Settings
import Messaging.Scripted.Handlers
import Messaging.Scripted.Segments
import Messaging.Scripted.Surroundings

/-!
# Scripts in JSON forms

- `readTransport`, `readDispatch` and `readStorage` read scripted surroundings.
- `readHandlers` reads scripted handlers, and `readSteps` scripted steps. Each is counted under a
  key of its own.
-/

namespace Messaging.JsonForm

open Scripted

/-! ### Surroundings -/

/-- Reads a transport's refusal that may be missing. -/
def readTransportError? (value : Json) : Option TransportError := optional readTransportError value

/-- Reads a scripted transport. -/
def readTransport (value : Json) : TransportScript where
  capabilities := readCapabilities value
  machine := asText? (value.getD "machine")
  lowercase := asFlag (value.getD "lowercase")
  canonical := asFlag (value.getD "canonical")
  initFails := asText? (value.getD "initialize_fails")
  sendCheck := asText? (value.getD "send_check")
  receiveCheck := asText? (value.getD "receive_check")
  subscribes := asFlag (value.getD "subscriptions")
  subscriptionsFail := readTransportError? (value.getD "subscriptions_fail")
  sendOnly := asFlag (value.getD "send_only")
  queuesFail := readTransportError? (value.getD "queues_fail")
  failInit := asNats (value.getD "fail_init")
  failStart := asNats (value.getD "fail_start")
  failStop := asNats (value.getD "fail_stop")

/-- Reads a resolver with the offer and addresses of a scripted transport. -/
def readResolver (value : Json) : Resolver :=
  let script := readTransport (value.getD "transport")
  let table := RouteTable.ofConfig (readRouteConfigs (value.getD "routes"))
  { Resolver.ofTable table script.address (asText? (value.getD "local"))
      script.capabilities.policy with
    subscribers := readSubscribers (value.getD "subscribers") }

/-- Reads which batches are refused. -/
def readDispatch (value : Json) : DispatchScript where
  failCalls := asNats (value.getD "fail_calls")
  failTo := asTexts (value.getD "fail_to")
  failAll := asFlag (value.getD "fail_all")
  error := (readTransportError? (value.getD "error")).getD (.dispatch "broker unreachable")

/-- The name of a method of a storage. -/
def methodName : Storage.Method → String
  | .add => "add"
  | .peek => "peek"
  | .remove => "try_remove"
  | .nextChunk => "next_chunk"

/-- The methods of a storage with one of some names. -/
def readMethods (names : List String) : List Storage.Method :=
  [Storage.Method.add, .peek, .remove, .nextChunk].filter fun m => names.contains (methodName m)

/-- Reads the answer to a storage query. -/
def readChunk (value : Json) : Reading Chunk := do
  let due ← (asItems (value.getD "due")).mapM fun entry => do
    let t ← readTime (item entry 1)
    pure (⟨asText (item entry 0), t⟩ : DueTimeout)
  pure ⟨due, ← readTime (value.getD "next")⟩

/-- Reads a scripted storage. -/
def readStorage (value : Json) : Reading StorageScript := do
  let stored ← (asItems (value.getD "stored")).mapM readTimeout
  let chunks ← (asItems (value.getD "chunks")).mapM readChunk
  let failing := value.getD "fail"
  pure {
    stored, chunks
    failCalls := fun method => asNats (failing.getD (methodName method))
    failAll := readMethods (asTexts (value.getD "fail_all"))
    error := (optional readStorageError (value.getD "error")).getD
      (.unavailable "connection refused")
    lose := asNats (value.getD "lose") }

/-- Reads the name of a format of message bodies. -/
def readSerializer (value : Json) : Serializer :=
  if asText value = "refusing" then refusingSerializer else .json

/-! ### Handlers -/

/-- Reads a message of user code with its type. -/
def readPayload (value : Json) : Payload :=
  payload (asText (value.getD "type")) (value.getD "body")

/-- Reads the options of a message. -/
def readOptions (value : Json) : Reading SendOptions := do
  pure {
    destination := asText? (value.getD "to")
    toSelf := asFlag (value.getD "local")
    headers := ← readHeaders (value.getD "headers")
    messageId := asText? (value.getD "message_id")
    constraints := ← readConstraints (value.getD "constraints") }

/-- Reads what a panic carries. -/
def readPanic (kind : String) (argument : Json) : Panic :=
  match kind with
  | "panic_str" => ⟨some "static panic text"⟩
  | "panic_value" => ⟨none⟩
  | _ => ⟨some (asText argument)⟩

/-- Reads an action of a handler. -/
def readHandlerAction (value : Json) : Reading HandlerAction := do
  let (text, causes) := readChain (value.getD "error")
  match asText (value.getD "do") with
  | "fail" => pure (.fail text causes)
  | "fail_first" => pure (.failFirst (asNat (value.getD "n")) text causes)
  | "stop" => pure .stop
  | "aborted" => pure .stopped
  | "debug" => pure .describe
  | "set_bag" => pure (.setText (asText (value.getD "text")))
  | "get_bag" => pure .getText
  | "header" => pure (.header (asText (value.getD "key")))
  | "forward" => pure (.forward (asText (value.getD "to")))
  | "send" => do pure (.send (readPayload value) (← readOptions (value.getD "options")))
  | "send_local" => pure (.sendLocal (readPayload value))
  | "publish" => pure (.publish (readPayload value))
  | "reply" => pure (.reply (readPayload value))
  | panics => pure (.panic (readPanic panics (value.getD "text")))

/-- Reads a handler, which is counted under a key. -/
def readHandler (name key : String) (value : Json) : Reading HandlerScript := do
  let lines ← (asItems (value.getD "do")).mapM fun line => do
    let action ← readHandlerAction line
    pure (⟨action, asFlag (line.getD "ignore")⟩ : HandlerLine)
  pure {
    name, key, lines
    label := (asText? (value.getD "label")).getD "h"
    messageType := asText (value.getD "type") }

/-- Reads the items of a list, each with a key of its own. -/
def readKeyed {α : Type} (key : String) (read : String → Json → Reading α) (value : Json) :
    Reading (List α) :=
  (asItems value).zipIdx.mapM fun (entry, index) => read (key ++ ":" ++ toString index) entry

/-- Reads handlers whose code has a name. -/
def readHandlers (name : String) (value : Json) : Reading Incoming.Handlers := do
  let scripts ← readKeyed "handler" (readHandler name) value
  pure (registerHandlers scripts)

/-! ### Steps -/

/-- Reads a change of a context; a body stands as text in contexts with bytes. -/
def readEdit (context tag : String) (argument : Json) : Reading Edit := do
  match tag with
  | "header" => pure (.header (asPair argument).1 (asPair argument).2)
  | "drop_header" => pure (.dropHeader (asText argument))
  | "body" =>
    if context = "receive" ∨ context = "physical" then
      pure (.bytes (Body.ofText (asText argument)))
    else pure (.content argument)
  | "message_id" => pure (.messageId (asText argument))
  | "message_type" => pure (.messageType (asText argument))
  | "destination" => pure (.destination (asText? argument))
  | "intent" => pure (.intent ((Intent.ofName? (asText argument)).getD .send))
  | "strategies" => pure (.routes (readRoutes argument))
  | "constraints" => do pure (.constraints (← readConstraints argument))
  | "isolated" => pure .isolate
  | "error_queue" => pure (.errorQueue (asText argument))
  | "push_item" => pure (.pushItem (asInt argument))
  | "add" => pure (.add (asInt argument))
  | _ => pure .stopHandlers

/-- Reads what a step does before the stages behind it. -/
def readEntryAction (context : String) (value : Json) : Reading EntryAction := do
  let (tag, argument) := asTagged value
  match tag with
  | "fail" => pure (.fail (readFailure argument))
  | "fail_first" => pure (.failFirst (asNat (item argument 0)) (readFailure (item argument 1)))
  | "panic" | "panic_str" | "panic_value" => pure (.panic (readPanic tag argument))
  | "set_bag" => pure (.setText (asText argument))
  | "get_bag" => pure .getText
  | _ => do pure (.edit (← readEdit context tag argument))

/-- Reads what a step does after the stages behind it. -/
def readExitAction (value : Json) : ExitAction :=
  match asTagged value with
  | ("swallow", _) => .swallow
  | ("replace", result) => .replace (readResult result)
  | _ => .getText

/-- Reads what a step does, which is counted under a key. -/
def readStepScript (key : String) (value : Json) : Reading StepScript := do
  pure {
    key
    label := (asText? (value.getD "label")).getD (asText (value.getD "id"))
    onEntry := ← (asItems (value.getD "pre")).mapM
      (readEntryAction (asText (value.getD "context")))
    result := optional readResult (value.getD "stop")
    onExit := (asItems (value.getD "post")).map readExitAction }

/-- Reads a step of a family of contexts; `kindOf` reads the name of a kind. -/
def readStepOf {K : Type} {C : K → Type} (kindOf : String → K) (view : (kind : K) → View (C kind))
    (description key : String) (value : Json) : Reading (Step Effect.signature C) := do
  let script ← readStepScript key value
  let kind := kindOf (asText (value.getD "context"))
  pure {
    id := asText (value.getD "id")
    description := (asText? (value.getD "description")).getD description
    kind
    behavior := script.behavior (view kind)
    before := asTexts (value.getD "before")
    after := asTexts (value.getD "after") }

/-- Reads a kind of contexts of an endpoint. -/
def readKind : String → ContextKind
  | "incoming" => .incoming
  | "handler" => .invocation
  | "outgoing" => .outgoing
  | "physical" => .physical
  | "routing" => .routing
  | "fault" => .fault
  | _ => .receive

/-- Reads steps of an endpoint, which are counted under keys. -/
def readSteps (key : String) (value : Json) : Reading (List EndpointStep) :=
  readKeyed key (readStepOf readKind View.ofKind "scripted") value

/-- Reads a segment. -/
def readSegment (name : String) : Segment := if name = Segment.beta.name then .beta else .alpha

/-- Reads a step of the pipeline of two segments. -/
def readSegmentStep (description key : String) (value : Json) : Reading SegmentStep :=
  readStepOf readSegment View.ofSegment description key value

end Messaging.JsonForm
