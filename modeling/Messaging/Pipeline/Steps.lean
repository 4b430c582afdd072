import Messaging.Pipeline.Chain
import Messaging.Pipeline.Order

/-!
# Registered steps

The steps of one named pipeline are collected first and built into chains later: one chain for each
kind of context, in one common order.

- `Step` is a behavior for contexts of one kind, with an id and its wishes for the order.
- `StepSet` collects steps and replacements; `register` and `extend` keep the ids distinct.
- `StepSet.effective` applies the replacements, `StepSet.resolvedIds` is the common order, and
  `StepSet.build` the chain for one kind of context.
-/

namespace Messaging

variable {S : Signature} {K : Type} {C : K → Type}

/-- A behavior with an id. -/
structure Step (S : Signature) (C : K → Type) where
  /-- The id. -/
  id : String
  /-- What the step does, in words. -/
  description : String
  /-- The kind of contexts that it sees. -/
  kind : K
  /-- What it does. -/
  behavior : Behavior S (C kind)
  /-- The steps that it runs before. -/
  before : List String := []
  /-- The steps that it runs after. -/
  after : List String := []

namespace Step

/-- What a step asks of the order. -/
def placement (step : Step S C) : Pipeline.Placement := ⟨step.id, step.before, step.after⟩

/-- The behavior of a step for contexts of a kind. -/
def behaviorFor? [DecidableEq K] (step : Step S C) (kind : K) : Option (Behavior S (C kind)) :=
  if h : step.kind = kind then some (h ▸ step.behavior) else none

/-- A step with what it does taken from another; its id and place stay. -/
def replaceBy (step replacement : Step S C) : Step S C :=
  { replacement with id := step.id, before := step.before, after := step.after }

end Step

/-- The steps of one named pipeline. -/
structure StepSet (S : Signature) (C : K → Type) where
  /-- The name of the pipeline. -/
  name : String
  /-- The registered steps. -/
  steps : List (Step S C) := []
  /-- Steps that take the places of registered ones. -/
  replacements : List (Step S C) := []

namespace StepSet

/-- Whether a step is registered under an id. -/
def contains (set : StepSet S C) (id : String) : Bool := set.steps.any (·.id = id)

/-- Adds a step under a new id. -/
def register (set : StepSet S C) (step : Step S C) : Except ConfigError (StepSet S C) :=
  if set.contains step.id then .error (.duplicateStep step.id)
  else .ok { set with steps := set.steps ++ [step] }

/-- Adds a replacement; whether its step exists is asked when the pipeline is built. -/
def replace (set : StepSet S C) (step : Step S C) : StepSet S C :=
  { set with replacements := set.replacements ++ [step] }

/-- Adds steps one by one and says how far that went. -/
def registerAll (set : StepSet S C) : List (Step S C) → Option ConfigError × StepSet S C
  | [] => (none, set)
  | step :: rest =>
    match set.register step with
    | .ok set => set.registerAll rest
    | .error error => (some error, set)

/-- Adds everything of another set; the steps before a refused one stay. -/
def extend (set other : StepSet S C) : Option ConfigError × StepSet S C :=
  match set.registerAll other.steps with
  | (none, set) => (none, { set with replacements := set.replacements ++ other.replacements })
  -- after a refusal no replacement of the other set is taken over
  | (some error, set) => (some error, set)

/-- Replaces the first step with the id of a replacement. -/
def applyTo (replacement : Step S C) : List (Step S C) → Option (List (Step S C))
  | [] => none
  | step :: rest =>
    if step.id = replacement.id then some (step.replaceBy replacement :: rest)
    else (applyTo replacement rest).map (step :: ·)

/-- Applies replacements in order. -/
def applyAll : List (Step S C) → List (Step S C) → Except ConfigError (List (Step S C))
  | steps, [] => .ok steps
  | steps, replacement :: rest =>
    match applyTo replacement steps with
    | some steps => applyAll steps rest
    | none => .error (.replaceUnknownStep replacement.id)

/-- The registered steps with the replacements applied. -/
def effective (set : StepSet S C) : Except ConfigError (List (Step S C)) :=
  applyAll set.steps set.replacements

/-- The steps in the order in which they run. -/
def resolved (set : StepSet S C) : Except ConfigError (List (Step S C)) := do
  let steps ← set.effective
  -- steps of all kinds are ordered together, so that wishes may lead through other kinds
  let order ← Pipeline.resolve (steps.map Step.placement)
  .ok (order.filterMap fun index => steps[index]?)

/-- The ids of the steps in the order in which they run. -/
def resolvedIds (set : StepSet S C) : Except ConfigError (List String) := do
  let steps ← set.resolved
  .ok (steps.map (·.id))

/-- The chain of the steps for contexts of a kind. -/
def build [DecidableEq K] (set : StepSet S C) (kind : K) (terminator : Terminator S (C kind)) :
    Except ConfigError (Pipeline S (C kind)) := do
  let steps ← set.resolved
  .ok {
    name := set.name
    steps := steps.filterMap fun step => (step.behaviorFor? kind).map fun b => (step.id, b)
    terminator }

end StepSet

end Messaging
