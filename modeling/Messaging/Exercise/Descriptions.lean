import Messaging.Exercise.Recovery

/-!
# Exercises on descriptions

- `description` gives the description of a part of an endpoint that a script sets up.
-/

namespace Messaging.Exercise

open JsonForm Scripted
open Time (Span)

/-- The description of a scope below others, with two values if they are asked for. -/
def describeScope (below : Nat) (filled : Bool) : String :=
  let openBelow (state : ScopeId × Scopes) : ScopeId × Scopes := state.2.openUnder (some state.1)
  let (id, scopes) := Nat.repeat openBelow below (({} : Scopes).openUnder none)
  let scopes := if filled then (scopes.set id .text "t").set id .number 1 else scopes
  Scopes.describe scopes id

/-- The steps of a script. -/
def describedSteps (script : Json) : Exercise (List EndpointStep) :=
  decode (readSteps "step" (script.getD "steps"))

/-- A set of steps with replacements by id. -/
def describedSet (name : String) (steps : List EndpointStep) (replaced : List String) :
    EndpointSteps :=
  let set := (({ name } : EndpointSteps).registerAll steps).2
  replaced.foldl (fun set id => set.replace
    { id, description := "", kind := .receive, behavior := fun next => next.run }) set

/-- Descriptions of steps and of their set. -/
def describeSteps (name : String) (steps : List EndpointStep) (replaced : List String) : Json :=
  .ofStrings (steps.map EndpointStep.describe ++
    [EndpointSteps.describe (describedSet name steps replaced)])

/-- The pipeline of a script for routed messages. -/
def describedPipeline (name : String) (steps : List EndpointStep) :
    Except ConfigError (Chain RoutingContext) :=
  (describedSet name steps []).build .routing noteRouted

/-- The description of a circuit breaker, after two failures if they are asked for. -/
def describeBreaker (name : String) (wait : Json) (failing : Bool) : String :=
  let breaker := readBreaker name wait
  let breaker := if failing then ((breaker.failure 0).2.failure 0).2 else breaker
  breaker.describe

/-- The description of a part of an endpoint; `handlerName` is the name of the handlers' code. -/
def description (handlerName : String) (script : Json) : Exercise Json := do
  let text := asText (script.getD "text")
  let n := asNat (script.getD "n")
  match asText (script.getD "of") with
  | "bag" => pure (.string (describeScope n (asFlag (script.getD "set"))))
  | "handler" => pure (.string (Text.describeWrapped "BoxHandler" (Text.quote handlerName)))
  | "pending" => do
    let operations ← decode (readOperations (script.getD "operations"))
    pure (.string (describeStaged operations))
  | "modifications" => do
    let steps ← describedSteps script
    pure (describeSteps text steps (asTexts (script.getD "replace")))
  | "pipeline" => do
    let steps ← describedSteps script
    match describedPipeline text steps with
    | .ok pipeline => pure (.string (describePipeline .routing pipeline))
    | .error error => pure (ofConfigError error)
  | "cache" => do
    let steps ← describedSteps script
    match describedPipeline text steps with
    | .ok pipeline =>
      let cache : EndpointCache := ({} : EndpointCache).insert .routing pipeline
      pure (.string (EndpointCache.describe cache))
    | .error error => pure (ofConfigError error)
  | "cleaner" => pure (.string (describeCleaner (.ofMillis n) (asNat (script.getD "storages"))))
  | "critical" => pure (.string (describeCritical n))
  | "notifications" =>
    let channel : Broadcast Event :=
      { capacity := Broadcast.defaultCapacity, positions := List.replicate n 0 }
    pure (.string channel.describe)
  | "resolver" => pure (.string (readResolver script).describe)
  | "breaker" =>
    pure (.string (describeBreaker text (script.getD "n") (asFlag (script.getD "triggered"))))
  | _ => do
    let known := (← broker).queueExists "x"
    pure (.array (bareDescriptions.map Json.string ++ [.bool known]))

end Messaging.Exercise
