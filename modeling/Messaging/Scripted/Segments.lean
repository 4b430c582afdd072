import Messaging.Pipeline.Steps
import Messaging.Scripted.Steps

/-!
# A pipeline of two segments

The smallest pipeline with a connector: contexts that hold a list of numbers, and one context for
each number.

- `Segment` names the two kinds of contexts.
- `forEachItem` connects the first segment to the second, and `sink` ends the second.
-/

namespace Messaging.Scripted

/-- A kind of contexts. -/
inductive Segment where
  /-- Contexts of a list of numbers. -/
  | alpha
  /-- Contexts of one number. -/
  | beta
deriving DecidableEq, Repr

/-- A context of a list of numbers. -/
structure ItemsContext where
  /-- The numbers. -/
  items : List Int
  /-- The scope. -/
  scope : ScopeId

/-- A context of one number. -/
structure ItemContext where
  /-- The number. -/
  item : Int
  /-- The scope. -/
  scope : ScopeId

/-- The contexts of a kind. -/
abbrev Segment.Context : Segment → Type
  | alpha => ItemsContext
  | beta => ItemContext

/-- The name of a kind. -/
def Segment.name : Segment → String
  | alpha => "alpha"
  | beta => "beta"

/-- The view of lists of numbers. -/
def View.items : View ItemsContext where
  scope := ItemsContext.scope
  headerCount _ := 0
  text context := "alpha [" ++ String.intercalate ", " (context.items.map toString) ++ "]"
  edit
    | .pushItem n, context => { context with items := context.items ++ [n] }
    | _, context => context

/-- The view of single numbers. -/
def View.item : View ItemContext where
  scope := ItemContext.scope
  headerCount _ := 0
  text context := "beta " ++ toString context.item
  edit
    | .add n, context => { context with item := context.item + n }
    | _, context => context

/-- The view of the contexts of a segment. -/
def View.ofSegment : (segment : Segment) → View segment.Context
  | .alpha => View.items
  | .beta => View.item

/-- A step of the pipeline. -/
abbrev SegmentStep := Step Effect.signature Segment.Context

/-- The steps of the pipeline. -/
abbrev SegmentSteps := StepSet Effect.signature Segment.Context

/-- The built segments. -/
abbrev SegmentCache := PipelineCache Effect.signature Segment.Context

/-- Runs the second segment for numbers in order, up to the first that does not complete. -/
def runItems (beta : Chain ItemContext) (scope : ScopeId) : List Int → Act StageResult
  | [] => pure (.ok .completed)
  | item :: rest => do
    let child ← Act.childScope scope
    match ← beta.result { item, scope := child } with
    | .ok .completed => runItems beta scope rest
    | other => pure other

/-- The last stage of the first segment. -/
def forEachItem (beta : Chain ItemContext) : LastStage ItemsContext := fun context => do
  let result ← runItems beta context.scope context.items
  pure (result, context)

/-- The last stage of the second segment, with a result for each number. -/
def sink (results : String → Option StageResult) : LastStage ItemContext := fun context => do
  let item := toString context.item
  Act.note (.string ("sink " ++ item))
  pure ((results item).getD (.ok .completed), context)

/-- A last stage that writes down where it stands. -/
def labelled {C : Type} (text : String) : LastStage C := fun context => do
  Act.note (.string text)
  pure (.ok .completed, context)

end Messaging.Scripted
