import Messaging.Exercise.Sending
import Messaging.Recovery.Retries

/-!
# Exercises on recovery

- `recovery` lets receives of several pipelines fail.
- `critical` raises critical errors.
- `cleaner` lets failure counters be cleared again and again.
- `breaker` leads a circuit breaker through failures and successes.
-/

namespace Messaging.Exercise

open JsonForm Scripted
open Time (Span)

/-! ### Failing receives -/

/-- A scripted pipeline of received messages. -/
structure ReceiverScript where
  /-- Its name. -/
  name : String
  /-- Where its failed messages go, if they are forwarded. -/
  errorQueue : Option String
  /-- The address that it receives from. -/
  localAddress : String
  /-- How often failed messages are retried, if they are. -/
  maxRetries : Option Nat
  /-- Whether there is a pipeline for messages to the error queue. -/
  forwards : Bool
  /-- The scripted steps. -/
  steps : List EndpointStep

/-- Reads a scripted pipeline. -/
def readReceiver (key : String) (value : Json) : Reading ReceiverScript := do
  pure {
    name := asText (value.getD "name")
    errorQueue := asText? (value.getD "error_queue")
    localAddress := (asText? (value.getD "local")).getD "sales"
    maxRetries := asNat? (value.getD "max_retries")
    forwards := !asFlag (value.getD "no_fault_pipeline")
    steps := ← readSteps key (value.getD "steps") }

/-- Writes down a forwarded message and ends with a result. -/
def noteForward (result : StageResult) : LastStage FaultContext := fun context => do
  let depth ← Act.ask (.scopeDepth context.scope)
  let now ← Act.clock
  Act.note (.ofMembers (messageMembers now context.message ++
    [("forward", .string context.errorQueue), ("depth", .ofNat depth)]))
  pure (result, context)

/-- The pipeline for messages to the error queue of a name, if one of the scripts has one. -/
def faultPipeline? (receivers : List ReceiverScript) (name : String) (result : StageResult) :
    Option (Chain FaultContext) :=
  if receivers.any fun r => r.name = name && r.errorQueue.isSome && r.forwards then
    some { name, steps := [], terminator := noteForward result }
  else none

/-- The steps of a scripted pipeline. -/
def receiverSteps (receiver : ReceiverScript) (faults : Option (Chain FaultContext)) :
    List EndpointStep :=
  (match receiver.errorQueue with
    | some errorQueue => [Assembly.faultsStep {
        pipeline := receiver.name, faults, errorQueue, localAddress := receiver.localAddress }]
    | none => []) ++
  (match receiver.maxRetries with
    | some n => [Assembly.retriesStep receiver.name n []]
    | none => []) ++
  receiver.steps

/-- Ends a receive with a result, after a change of the message if one is asked for. -/
def endReceive (change : Option (String × String)) (result : StageResult) :
    LastStage ReceiveContext := fun context =>
  match change with
  | some (key, value) =>
    pure (result, { context with message := context.message.setHeader key value })
  | none => pure (result, context)

/-- Reads how a receive ends. -/
def readEnd (value : Json) : LastStage ReceiveContext :=
  match value.get? "set_header" with
  | some header => endReceive (some (asPair header)) (readResult (value.getD "then"))
  | none => endReceive none (readResult value)

/-- Runs a receive in a scope below a new one, and gives the context that it leaves behind. -/
def receiveProgram (chain : Chain ReceiveContext) (message : Message) :
    Act (StageResult × ReceiveContext) := do
  let scope ← Act.rootScope
  let scope ← Act.childScope scope
  chain.invoke { message, scope }

/-- The counts of a message: its retries and forwards, and the sizes of both counters. -/
def ofCounts (site : Site) (pipeline messageId : String) : Json :=
  let retries := site.counters .retries
  let forwards := site.counters .forwards
  .array [.ofNat (retries.get pipeline messageId).toNat,
    .ofNat (forwards.get pipeline messageId).toNat, .ofNat retries.size, .ofNat forwards.size]

/-- Clears both counters. -/
def clearCounters (site : Site) : Site :=
  (site.clearCounter .retries).clearCounter .forwards

/-- The pipeline of a script that ends in some way. -/
def receiverPipeline (receivers : List ReceiverScript) (receiver : ReceiverScript)
    (forward : StageResult) (end_ : LastStage ReceiveContext) :
    Except ConfigError (Chain ReceiveContext) :=
  let faults := faultPipeline? receivers receiver.name forward
  match ({ name := receiver.name } : EndpointSteps).registerAll (receiverSteps receiver faults) with
  | (some error, _) => .error error
  | (none, steps) => steps.build .receive end_

/-- One receive of a scripted pipeline. -/
def receiveStep (site : SiteId) (receivers : List ReceiverScript) (receiver : ReceiverScript)
    (step : Json) : Exercise Json := do
  let message ← decode (readMessage (step.getD "message"))
  match receiverPipeline receivers receiver (readResult (step.getD "forward"))
      (readEnd (step.getD "result")) with
  | .error error => pure (ofConfigError error)
  | .ok chain => do
    let outcome ← run site (receiveProgram chain message)
    let message :=
      match outcome with
      | .ok (_, context) => context.message
      | .error _ => message
    let state ← siteOf site
    let now ← now
    shown site (ofPanic (fun (end_ : StageResult × ReceiveContext) => ofResult end_.1) outcome)
      [("headers", ofHeaders now message.headers),
        ("counts", ofCounts state receiver.name message.id),
        ("raised", .ofNat state.critical.count)]

/-- Receives that fail; a script with a pipeline that cannot be built is answered by its error. -/
def recovery (script : Json) : Exercise Json := do
  let receivers ← decode (readKeyed "step" readReceiver (script.getD "pipelines"))
  let site ← addSite (watchedSite .broker)
  let built := receivers.mapM fun receiver =>
    receiverPipeline receivers receiver (.ok .completed) (endReceive none (.ok .completed))
  match built with
  | .error error => pure (ofConfigError error)
  | .ok _ =>
    answers script "receives" fun step => do
      match step, receivers.find? (·.name = asText (step.getD "pipeline")) with
      | .object _, some receiver => receiveStep site receivers receiver step
      | _, _ => do
        changeSite site fun site => ((), clearCounters site)
        pure (.string "cleared")

/-! ### Critical errors -/

/-- Critical errors. -/
def critical (script : Json) : Exercise Json := do
  let site ← addSite { critical := { keeps := !asFlag (script.getD "default") } }
  answers script "raises" fun step => do
    let cause := readFailure (step.getD "cause")
    let _ ← run site (Act.raiseCritical (asText (step.getD "message")) cause.message)
    let count : Json := .ofNat (← siteOf site).critical.count
    shown site (.array [count, count]) [("cause", ofFailure cause)]

/-! ### Clearing counters -/

/-- The sizes of the first counters. -/
def ofSizes (site : Site) (count : Nat) : Json :=
  .array ((List.range count).map fun counter => .ofNat (site.counters counter).size)

/-- Failure counters that are cleared again and again. -/
def cleaner (script : Json) : Exercise Json := do
  let site ← addSite {}
  let counters := asNats (script.getD "registered")
  modify (·.startCleaner site (.ofMillis (asNat (script.getD "interval_ms"))) counters)
  steps script fun kind argument => do
    match kind with
    | "fail" => do
      let counter := asNat (item argument 0)
      let _ ← run site (Act.ask (.countFailure counter "P" (asText (item argument 1))))
    | "sleep_ms" => idle (asNat argument)
    | _ => modify (·.stopCleaner site)
    pure (ofSizes (← siteOf site) (asNat (script.getD "counters")))

/-! ### Circuit breakers -/

/-- The text of the critical error of a scripted circuit breaker. -/
def breakerTriggered : String := "breaker triggered"

/-- A circuit breaker with a wait in milliseconds. -/
def readBreaker (name : String) (millis : Json) : Breaker :=
  { name, wait := .ofMillis (asNat millis) }

/-- The state of a circuit breaker. -/
def ofBreaker (breaker : Breaker) : Json :=
  match breaker.state with
  | .disarmed => .string "Disarmed"
  | .armed _ failures => .ofMembers [("Armed", .ofNat failures)]
  | .triggered => .string "Triggered"

/-- A circuit breaker under failures and successes. -/
def breaker (script : Json) : Exercise Json := do
  let name := (asText? (script.getD "name")).getD "B"
  let site ← addSite { breaker := readBreaker name (script.getD "wait_ms") }
  let answers ← steps script fun kind argument => do
    match kind with
    | "failure" => do
      let error : StorageError := .unavailable (asText argument)
      let _ ← run site (Timeouts.storageFailed breakerTriggered error)
    | "success" => do
      let _ ← run site (Act.ask .querySucceeded)
    | _ => idle (asNat argument)
    shown site (ofBreaker (← siteOf site).breaker)
  pure (.ofMembers [("name", .string (← siteOf site).breaker.name), ("steps", answers)])

end Messaging.Exercise
