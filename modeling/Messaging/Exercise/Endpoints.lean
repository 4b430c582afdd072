import Messaging.Diagnostics
import Messaging.Exercise.Queues
import Messaging.JsonForm.Endpoint

/-!
# Exercises on endpoints

- `endpoint` starts one endpoint on a scripted transport and works with it.
- `bus` starts endpoints on the transport in memory and lets them talk.
-/

namespace Messaging.Exercise

open JsonForm Scripted

/-- An endpoint of an exercise. -/
structure Actor where
  /-- The endpoint before its start. -/
  form : EndpointForm
  /-- Its site. -/
  site : SiteId
  /-- The endpoint after its start. -/
  running : Option Running := none

/-- The answer of an endpoint that does not start or stop. -/
def ofEndpointError (error : EndpointError) : Json :=
  let kind :=
    match error with
    | .configuration _ => "Configuration"
    | .transport _ => "Transport"
  ofError kind error.message

/-- Starts an endpoint. -/
def startActor (actor : Actor) (transport : Transport) :
    Exercise (Except Json Running) := do
  let program := (Endpoint.start actor.form.config transport actor.form.parts).run
  match ← modifyGet (Host.drive actor.site program) with
  | .ok (.ok running) => pure (.ok running)
  | .ok (.error error) => pure (.error (ofEndpointError error))
  | .error payload => pure (.error (ofError "Panic" payload.message))

/-- Stops an endpoint. -/
def stopActor (site : SiteId) (running : Running) : Exercise Json := do
  let result ← modifyGet (Host.drive site running.stop)
  pure (ofPanic (ofUnit ofEndpointError) result)

/-- Hands a message to what a pump does with it, a number of times. -/
def receiveTimes (site : SiteId) (receiver : Receiver) (message : Message) (times : Nat) :
    Exercise Json := do
  let once : Act StageResult := do
    let scope ← Act.rootScope
    receiver.entry message scope
  let results ← (List.replicate times ()).mapM fun _ => perform site ofResult once
  pure (if times = 1 then results.headD .null else .array results)

/-- Uses the session of an endpoint. -/
def sessionStep (site : SiteId) (running : Running) (kind : String) (argument : Json) :
    Exercise Json := do
  let unit (program : Act (Except Failure Unit)) : Exercise Json :=
    perform site (ofUnit ofFailure) program
  match kind with
  | "send" => do
    let options ← decode (readOptions (argument.getD "options"))
    unit (running.send (readPayload argument) options)
  | "send_local" => unit (running.sendLocal (readPayload argument))
  | "publish" => unit (running.publish (readPayload argument))
  | "subscribe" => unit (running.subscribe (asText argument))
  | _ => unit (running.unsubscribe (asText argument))

/-- The timeouts stored for an endpoint. -/
def storedOf (actor : Actor) : Exercise Json := do
  let storage := (← siteOf actor.site).storage
  let now ← now
  pure (if actor.form.parts.hasStorage then ofStore now storage.store else .null)

/-! ### One endpoint -/

/-- Works with a running endpoint. -/
def endpointStep (actor : Actor) (running : Running) (kind : String) (argument : Json) :
    Exercise Json := do
  match kind with
  | "receive" => do
    let queue := (asText? (argument.getD "queue")).getD (running.settings.localAddress.getD "")
    let message ← decode (readMessage (argument.getD "message"))
    match running.receiver? queue with
    | some receiver =>
      receiveTimes actor.site receiver message ((asNat? (argument.getD "times")).getD 1)
    | none => pure noQueue
  | "idle" => do
    idle ((asNat? argument).getD 10)
    pure ok
  | "stored" => storedOf actor
  | "watch" => do
    changeSite actor.site fun site => ((), { site with events := site.events.subscribe })
    pure ok
  | "raised" => do
    let site ← siteOf actor.site
    pure (.ofNat site.critical.count)
  | "stop" => stopActor actor.site running
  | _ => sessionStep actor.site running kind argument

/-- The handlers of an endpoint by message type. -/
def ofHandlers (handlers : Incoming.Handlers) : Json :=
  .array (handlers.toList.map fun entry =>
    .array [.string entry.1, .ofStrings (entry.2.map Handler.name)])

/-- The descriptions of an endpoint before and after its start. -/
def descriptions (form : EndpointForm) (transport : Transport) (running : Running) : Json :=
  .ofStrings [form.parts.describe form.config.endpointName transport.name, running.describe]

/-- One endpoint on a scripted transport; `handlerName` is the name of the handlers' code. -/
def endpoint (handlerName : String) (script : Json) : Exercise Json := do
  let transport := script.getD "transport"
  let outlet : Outlet := .recorder (readDispatch (transport.getD "dispatcher")).recorder
  match ← decode (readEndpoint handlerName outlet script) with
  | .error error => pure (.ofMembers [("register", ofConfigError error)])
  | .ok form => do
    let transport := (readTransport transport).transport
    let actor : Actor := { form, site := ← addSite form.site }
    let handlers := form.parts.handlers
    let about := [("handlers", ofHandlers handlers), ("no_handlers", .bool handlers.isEmpty)]
    match ← startActor actor transport with
    | .error refusal => do
      let start ← shown actor.site refusal
      pure (.ofMembers (about ++ [("start", start)]))
    | .ok running => do
      let start ← shown actor.site (.ofMembers [("settings", ofSettings running.settings),
        ("input_queues", .ofStrings running.inputQueues)])
      let operations ← answers script "operations" fun step => do
        let result ← endpointStep actor running (asTagged step).1 (asTagged step).2
        shown actor.site result
      let described :=
        if asFlag (script.getD "debug") then [("debug", descriptions form transport running)]
        else []
      pure (.ofMembers (about ++ described ++ [("start", start), ("operations", operations)]))

/-! ### Endpoints that talk -/

/-- The endpoints of an exercise by name. -/
abbrev Cast := StateT (Table Actor) Exercise

/-- Starts an endpoint on the transport in memory. -/
def startOnBus (name : String) (actor : Actor) : Cast Json := do
  match ← startActor actor Memory.transport with
  | .error refusal => pure refusal
  | .ok running => do
    modify (·.insert name { actor with running := some running })
    pure (.ofStrings running.inputQueues)

/-- Works with one of the endpoints. -/
def actorStep (name kind : String) (actor : Actor) (argument : Json) : Cast Json := do
  match kind, actor.running with
  | "start", _ => startOnBus name actor
  | "stored", _ => storedOf actor
  | "stop", some running => do
    modify (·.insert name { actor with running := none })
    stopActor actor.site running
  | _, some running => sessionStep actor.site running kind (item argument 1)
  | _, none => pure ok

/-- A step of endpoints that talk. -/
def busStep (kind : String) (argument : Json) : Cast Json := do
  match kind with
  | "idle" => do
    idle ((asNat? argument).getD 10)
    pure ok
  | "depth" => do
    let broker ← broker
    pure (.ofMembers ((asTexts argument).map fun address =>
      (address, .ofNat (broker.depth address))))
  | "take" => do
    let messages ← takeAll (asText argument)
    let now ← now
    pure (.array (messages.map (ofMessage now)))
  | "push" => do
    let address := asText (item argument 0)
    if !(← broker).queueExists address then return noQueue
    pushAll address [← decode (readQueued (item argument 1))]
    depthOf address
  | "subscribers" => subscribersOf (asText argument)
  | _ => do
    let name := asText (firstItem argument)
    match (← getThe (Table Actor)).get? name with
    | some actor => actorStep name kind actor argument
    | none => pure .null

/-- What each endpoint left behind, if it left anything. -/
def leftByAll : List (String × Actor) → Exercise (List (String × Json))
  | [] => pure []
  | (name, actor) :: rest => do
    let members ← left actor.site
    let others ← leftByAll rest
    pure (if members.isEmpty then others else (name, .ofMembers members) :: others)

/-- Adds the endpoints of a script. -/
def addActors (handlerName : String) : List Json → Exercise (Table Actor)
  | [] => pure ∅
  | value :: rest => do
    match ← decode (readEndpoint handlerName .broker value) with
    | .error _ => addActors handlerName rest
    | .ok form => do
      let site ← addSite form.site
      let others ← addActors handlerName rest
      pure (others.insert form.config.endpointName { form, site })

/-- Endpoints on the transport in memory; `handlerName` is the name of the handlers' code. -/
def bus (handlerName : String) (script : Json) : Exercise Json := do
  (asTexts (script.getD "queues")).forM fun address =>
    changeBroker fun broker => (broker.createQueue address).2
  let actors ← addActors handlerName (asItems (script.getD "endpoints"))
  let step (value : Json) : Cast Json := do
    let result ← busStep (asTagged value).1 (asTagged value).2
    let left ← leftByAll actors.toList
    pure (.ofMembers ([("result", result)] ++
      (if left.isEmpty then [] else [("at", .ofMembers left)])))
  let (answers, _) ← ((asItems (script.getD "operations")).mapM step).run actors
  pure (.array answers)

end Messaging.Exercise
