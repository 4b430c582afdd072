import Messaging.Diagnostics
import Messaging.Exercise.Basic
import Messaging.JsonForm.Endpoint

/-!
# Exercises on sending and handling

- `outgoing` leads messages through the pipelines of outgoing messages.
- `incoming` leads read messages to their handlers.
- `deferral` runs the step that defers messages.
-/

namespace Messaging.Exercise

open JsonForm Scripted

/-- The steps of a pipeline: some of its own and then those of the script. -/
def scriptedSteps (own : List EndpointStep) (script : Json) :
    Reading (Except ConfigError EndpointSteps) := do
  let user ← readSteps "step" (script.getD "steps")
  match ({ name := mainPipeline } : EndpointSteps).registerAll (own ++ user) with
  | (some error, _) => pure (.error error)
  | (none, set) => pure (.ok set)

/-- The recorder of a script. -/
def recorderOf (script : Json) : Outlet :=
  .recorder (readDispatch (script.getD "dispatcher")).recorder

/-- The pipelines of outgoing messages of a script with the ways into them. -/
def sendingOf (script : Json) (steps : EndpointSteps) :
    Except ConfigError (Assembly.SendingSide × Operations) := do
  let capabilities := readCapabilities (script.getD "transport")
  let sides ← Assembly.sendingSide steps (readSerializer (script.getD "serializer")) capabilities
  .ok (sides, {
    outgoing := sides.outgoing, routing := sides.routing
    endpointName := (asText? (script.getD "endpoint")).getD "Sales"
    localAddress := asText? (script.getD "local") })

/-- Runs one operation in a scope. -/
def sendingProgram (sides : Assembly.SendingSide) (operations : Operations) (step : Json) :
    Reading (ScopeId → Act Json) := do
  let options ← readOptions (step.getD "options")
  let message ← readMessage (step.getD "message")
  let constraints ← readConstraints (step.getD "constraints")
  let payload := readPayload step
  let unit (program : ScopeId → Act (Except Failure Unit)) (scope : ScopeId) : Act Json := do
    let result ← program scope
    pure (ofUnit ofFailure result)
  let stage (program : ScopeId → Act StageResult) (scope : ScopeId) : Act Json := do
    let result ← program scope
    pure (ofResult result)
  pure <| match asText (step.getD "do") with
    | "send" => unit fun scope => operations.send scope payload options
    | "publish" => unit fun scope => operations.publish scope payload options
    | "reply" => unit fun scope => operations.reply scope payload options
    | "forward" => unit fun scope =>
      operations.forward scope message (asText (step.getD "to"))
    | "fault" => stage fun scope => do
      let scope ← Act.childScope scope
      sides.fault.result { message, errorQueue := asText (step.getD "error_queue"), scope }
    | _ => stage fun scope => do
      let scope ← Act.childScope scope
      sides.routing.result
        { message, routes := readRoutes (step.getD "strategies"), constraints, scope }

/-- Runs one operation, or shows what was staged; `received` is the scope of a receive. -/
def sendingStep (site : SiteId) (sides : Assembly.SendingSide) (operations : Operations)
    (received : ScopeId) (staging : StagingId) (step : Json) : Exercise Json := do
  let staged := ((← get).world.stagings[staging]?).getD []
  match asText (step.getD "do") with
  | "pending" => shown site (.array [.ofNat staged.length, .bool staged.isEmpty])
  | "take" => do
    let now ← now
    let result ← perform site (fun staged => ofBatch now (.ofList staged))
      (Act.ask (.takeStaged staging))
    shown site result
  | "identity" =>
    shown site (.array [.string operations.endpointName,
      .ofString? operations.localAddress, .string operations.describe])
  | _ => do
    let program ← decode (sendingProgram sides operations step)
    let scope := if asFlag (step.getD "batched") then Act.childScope received else Act.rootScope
    let result ← perform site id (scope >>= program)
    shown site result

/-- A new scope of a receive with a list of staged operations. -/
def openReceive : Act (ScopeId × StagingId) := do
  let scope ← Act.rootScope
  let staging ← Act.ask .openStaging
  Act.ask (.writeSlot scope .staging staging)
  pure (scope, staging)

/-- The steps that an endpoint has for outgoing messages. -/
def sendingSteps (script : Json) : List EndpointStep :=
  (if asFlag (script.getD "no_resolver") then []
    else [Assembly.routingStep (readResolver script)]) ++
  (match asText? (script.getD "timeout_manager") with
    | some manager => [Assembly.deferralStep manager]
    | none => [])

/-- Outgoing messages. -/
def outgoing (script : Json) : Exercise Json := do
  let steps ← decode (scriptedSteps (sendingSteps script) script)
  match steps.bind (sendingOf script) with
  | .error error => pure (ofConfigError error)
  | .ok (sides, operations) => do
    let site ← addSite (watchedSite (recorderOf script))
    match ← run site openReceive with
    | .error _ => pure .null
    | .ok (received, staging) =>
      answers script "operations" (sendingStep site sides operations received staging)

/-- Handles one read message. -/
def handleMessage (site : SiteId) (incoming : Chain IncomingContext) (message : Json) :
    Exercise Json := do
  let headers ← decode (readHeaders (message.getD "headers"))
  let result ← perform site ofResult do
    let scope ← Act.rootScope
    incoming.result {
      messageId := asText (message.getD "id"), headers, scope
      message := ⟨asText (message.getD "type"), message.getD "body"⟩ }
  shown site result

/-- Read messages; `handlerName` is the name of the handlers' code. -/
def incoming (handlerName : String) (script : Json) : Exercise Json := do
  let steps ← decode (scriptedSteps [Assembly.routingStep (readResolver script)] script)
  let handlers ← decode (readHandlers handlerName (script.getD "handlers"))
  let built := do
    let steps ← steps
    let (_, operations) ← sendingOf script steps
    Assembly.incomingPipeline steps handlers operations
  match built with
  | .error error => pure (ofConfigError error)
  | .ok incoming => do
    let site ← addSite (watchedSite (recorderOf script))
    answers script "messages" (handleMessage site incoming)

/-- Writes down what a routed message looks like. -/
def noteRouted : LastStage RoutingContext := fun context => do
  let now ← Act.clock
  Act.note (.ofMembers [("strategies", ofRoutes context.routes),
    ("constraints", ofConstraints now context.constraints),
    ("headers", ofHeaders now context.message.headers), ("body", ofBody context.message.body)])
  pure (.ok .completed, context)

/-- The step that defers messages. -/
def deferral (script : Json) : Exercise Json := do
  let manager := (asText? (script.getD "manager")).getD "sales.Timeouts"
  let message ← decode (readMessage (script.getD "message"))
  let constraints ← decode (readConstraints (script.getD "constraints"))
  let site ← addSite {}
  let chain : Chain RoutingContext := {
    name := mainPipeline, terminator := noteRouted
    steps := [(Timeouts.routeDeferredStep, Timeouts.routeDeferred manager)] }
  let result ← perform site ofResult do
    let scope ← Act.rootScope
    chain.result { message, routes := readRoutes (script.getD "strategies"), constraints, scope }
  shown site result

end Messaging.Exercise
