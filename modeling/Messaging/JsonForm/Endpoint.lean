import Messaging.JsonForm.Script
import Messaging.Host.Run

/-!
# Endpoints in JSON forms

- `EndpointForm` is a scripted endpoint: its configuration, its parts and its site.
- `readEndpoint` reads one, or says why its steps are refused.
-/

namespace Messaging.JsonForm

open Scripted

/-- A scripted endpoint. -/
structure EndpointForm where
  /-- The configuration. -/
  config : Config
  /-- The parts. -/
  parts : EndpointParts
  /-- What belongs to it. -/
  site : Site

/-- Reads the steps of a pipeline with their replacements, or why they are refused. -/
def readStepSet (name : String) (value : Json) : Reading (Except ConfigError EndpointSteps) := do
  let steps ← readSteps "step" (value.getD "steps")
  let replacements ←
    readKeyed "replacement" (readStepOf readKind View.ofKind "replacement") (value.getD "replace")
  match ({ name } : EndpointSteps).registerAll steps with
  | (some error, _) => pure (.error error)
  | (none, set) => pure (.ok (replacements.foldl StepSet.replace set))

/-- A site on which events are watched. -/
def watchedSite (outlet : Outlet) : Site :=
  { outlet, events := (Broadcast.ofCapacity Broadcast.defaultCapacity).subscribe }

/-- Reads an endpoint whose batches go to an outlet and whose handlers' code has a name. -/
def readEndpoint (handlerName : String) (outlet : Outlet) (value : Json) :
    Reading (Except ConfigError EndpointForm) := do
  let handlers ← readHandlers handlerName (value.getD "handlers")
  let steps ← readStepSet mainPipeline value
  let storage ← readStorage (value.getD "storage")
  pure (steps.map fun steps => {
    config := readConfig (value.getD "config")
    parts := {
      handlers, steps
      serializer := readSerializer (value.getD "serializer")
      hasStorage := !isNull (value.getD "storage")
      subscribers := readSubscribers (value.getD "subscribers") }
    site := { watchedSite outlet with
      storage := storage.storage
      critical := { keeps := !asFlag (value.getD "default_critical") } } })

end Messaging.JsonForm
