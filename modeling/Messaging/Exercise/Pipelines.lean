import Messaging.Exercise.Basic
import Messaging.JsonForm.Script
import Messaging.Pipeline.Cache

/-!
# Exercises on pipelines

- `pipeline` registers scripted steps for a pipeline of two segments, builds it and runs it.
- `cache` keeps built pipelines under their names.
-/

namespace Messaging.Exercise

open JsonForm Scripted

/-! ### Two segments -/

/-- The answer to a registration. -/
def ofRegistration : Option ConfigError → Json
  | some error => ofConfigError error
  | none => ok

/-- Performs one action on a set of steps, which is not a merge; steps are counted under a key. -/
def changeSteps (key : String) (set : SegmentSteps) (action : Json) :
    Reading (Json × SegmentSteps) := do
  match asTagged action with
  | ("register", step) => do
    let step ← readSegmentStep "scripted" key step
    match set.register step with
    | .ok set => pure (ok, set)
    | .error error => pure (ofConfigError error, set)
  | ("replace", step) => do
    let step ← readSegmentStep "replacement" key step
    pure (ok, set.replace step)
  | (_, id) => pure (.bool (set.contains (asText id)), set)

/-- Performs actions. A merge first performs actions on another set and then adds that set; merges
nest at most `depth` deep. -/
def performActions (depth : Nat) (key : String) (actions : List (Json × Nat))
    (set : SegmentSteps) : Reading (List Json × SegmentSteps) :=
  match actions with
  | [] => pure ([], set)
  | (action, index) :: rest => do
    let inner := key ++ ":" ++ toString index
    match depth, asTagged action with
    | depth + 1, ("extend", other) => do
      let (merged, other) ←
        performActions depth inner (asItems (other.getD "actions")).zipIdx { name := set.name }
      let (refusal, set) := set.extend other
      let (answers, set) ← performActions (depth + 1) key rest set
      pure (.ofMembers [("extend", .array merged)] :: ofRegistration refusal :: answers, set)
    | depth, _ => do
      let (answer, set) ← changeSteps inner set action
      let (answers, set) ← performActions depth key rest set
      pure (answer :: answers, set)
termination_by (depth, actions.length)

/-- A registered step. -/
def ofStep (step : SegmentStep) : Json :=
  .ofStrings [step.id, step.description, step.kind.name]

/-- Builds both segments. -/
def buildSegments (set : SegmentSteps) (results : String → Option StageResult) :
    Except ConfigError (Chain ItemsContext × Chain ItemContext) := do
  let beta ← set.build .beta (sink results)
  let alpha ← set.build .alpha (forEachItem beta)
  .ok (alpha, beta)

/-- Runs the first segment on a list of numbers. -/
def runSegments (site : SiteId) (alpha : Chain ItemsContext) (items : Json) : Exercise Json := do
  let result ← perform site ofResult do
    let scope ← Act.rootScope
    alpha.result { items := (asItems items).map asInt, scope }
  shown site result

/-- A pipeline of two segments. -/
def pipeline (script : Json) : Exercise Json := do
  let name := (asText? (script.getD "name")).getD "Main"
  let (actions, set) ←
    decode (performActions Json.maxDepth "step" (asItems (script.getD "actions")).zipIdx { name })
  let site ← addSite {}
  let results := script.getD "results"
  let built := buildSegments set fun item => optional readResult (results.getD item)
  let built ← match built with
    | .error error => pure [("build", ofConfigError error)]
    | .ok (alpha, beta) => do
      let runs ← answers script "runs" (runSegments site alpha)
      pure [("runs", runs), ("build", .ofMembers [("alpha", .ofStrings alpha.stepIds),
        ("beta", .ofStrings beta.stepIds), ("name", .string alpha.name)])]
  let resolved :=
    match set.resolvedIds with
    | .ok ids => .ofStrings ids
    | .error error => ofConfigError error
  pure (.ofMembers ([("name", .string set.name), ("actions", .array actions),
    ("steps", .array (set.steps.map ofStep)), ("resolved", resolved)] ++ built))

/-! ### Built pipelines -/

/-- A pipeline that writes down where it stands. -/
def labelledPipeline (segment : Segment) (name label : String) : Chain segment.Context where
  name := name
  steps := []
  terminator := labelled (segment.name ++ " end " ++ label)

/-- A context to run a segment on. -/
def blankContext (scope : ScopeId) : (segment : Segment) → segment.Context
  | .alpha => { items := [], scope }
  | .beta => { item := 0, scope }

/-- A step on built pipelines. -/
def cacheStep (site : SiteId) (step : Json) : StateT SegmentCache Exercise Json := do
  let cache ← get
  let name := asText (step.getD "name")
  let segment := readSegment (asText (step.getD "context"))
  match asText (step.getD "do") with
  | "insert" => do
    let label := (asText? (step.getD "label")).getD name
    let cache := cache.insert segment (labelledPipeline segment name label)
    set cache
    pure (.ofNat cache.size)
  | "get" =>
    match cache.get? segment name with
    | none => pure .null
    | some built => do
      let result ← perform site ofResult do
        let scope ← Act.rootScope
        built.result (blankContext scope segment)
      shown site (.array [.string built.name, result])
  | _ => pure (.array [.ofNat cache.size, .bool (cache.size = 0)])

/-- Built pipelines under their names. -/
def cache (script : Json) : Exercise Json := do
  let site ← addSite {}
  let (answers, _) ← ((asItems (script.getD "steps")).mapM (cacheStep site)).run {}
  pure (.array answers)

end Messaging.Exercise
