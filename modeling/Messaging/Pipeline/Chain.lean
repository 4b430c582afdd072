import Messaging.Effect.Program
import Messaging.Pipeline.Outcome

/-!
# Chains of stages

A stage sees a context, may change it, and decides whether and when the stages behind it run.

- `Next` is the rest of a chain, `Behavior` a stage in front of it, and `Terminator` the last stage.
- `Pipeline` is a chain with a name, and `Pipeline.invoke` runs it.
- A connector is a terminator that runs another pipeline on contexts of its own.
-/

namespace Messaging

/-- The last stage of a chain. -/
abbrev Terminator (S : Signature) (C : Type) := C → Program S (StageResult × C)

/-- The rest of a chain. -/
structure Next (S : Signature) (C : Type) where
  /-- How many stages are left, the last one included. -/
  remaining : Nat
  /-- Runs them. -/
  run : C → Program S (StageResult × C)

/-- A stage in front of the rest of its chain. -/
abbrev Behavior (S : Signature) (C : Type) := Next S C → C → Program S (StageResult × C)

/-- A chain of stages with a name. -/
structure Pipeline (S : Signature) (C : Type) where
  /-- The name. -/
  name : String
  /-- The stages in front of the last, with their ids. -/
  steps : List (String × Behavior S C)
  /-- The last stage. -/
  terminator : Terminator S C

namespace Pipeline

variable {S : Signature} {C : Type}

/-- A chain of behaviors as the rest of a longer chain. -/
def chain (terminator : Terminator S C) : List (String × Behavior S C) → Next S C
  | [] => ⟨1, terminator⟩
  -- the stages of `rest`, the terminator, and this stage itself
  | step :: rest => ⟨rest.length + 2, step.2 (chain terminator rest)⟩

/-- Runs a pipeline on a context. -/
def invoke (pipeline : Pipeline S C) (context : C) : Program S (StageResult × C) :=
  (chain pipeline.terminator pipeline.steps).run context

/-- Runs a pipeline and keeps its result only. -/
def result (pipeline : Pipeline S C) (context : C) : Program S StageResult := do
  let (result, _) ← pipeline.invoke context
  pure result

/-- The ids of the steps in the order in which they run. -/
def stepIds (pipeline : Pipeline S C) : List String := pipeline.steps.map (·.1)

end Pipeline

end Messaging
