import Messaging.Failure

/-!
# The order of steps

Steps are registered in some order and may ask to run before or after others.

- `Placement` is what a step asks for; `links` turns the wishes of a list of steps into pairs of
  positions, of which the first is to run before the second, or names an unknown reference.
- `cycleMember?` searches the links depth first for a circle and names a step on one.
- `inOrder` takes, again and again, the earliest registered step that waits for no other; `arrange`
  counts for each step how many others it still waits for.
- `resolve` is the order of a list of steps or the reason why there is none.
-/

namespace Messaging.Pipeline

/-- What a step asks of the order. -/
structure Placement where
  /-- The id of the step. -/
  id : String
  /-- The steps that it runs before. -/
  before : List String
  /-- The steps that it runs after. -/
  after : List String
deriving DecidableEq

/-- A pair of positions, of which the first runs before the second. -/
abbrev Link := Nat × Nat

/-- Adds a link unless it is there. -/
def addLink (links : List Link) (link : Link) : List Link :=
  if links.contains link then links else links ++ [link]

/-- The position of a step. -/
def position? (placements : List Placement) (id : String) : Option Nat :=
  placements.findIdx? (·.id = id)

/-- Adds the links of references of a step; `link` makes a link of the position of one. -/
def addLinks (placements : List Placement) (step : String) (link : Nat → Link) :
    List String → List Link → Except ConfigError (List Link)
  | [], links => .ok links
  | reference :: rest, links =>
    match position? placements reference with
    | none => .error (.unknownStep step reference)
    | some target => addLinks placements step link rest (addLink links (link target))

/-- Adds the links of steps, of which the first has position `index`. -/
def linksFrom (placements : List Placement) :
    List Placement → Nat → List Link → Except ConfigError (List Link)
  | [], _, links => .ok links
  | step :: rest, index, links => do
    let links ← addLinks placements step.id (fun target => (index, target)) step.before links
    let links ← addLinks placements step.id (fun target => (target, index)) step.after links
    linksFrom placements rest (index + 1) links

/-- The links of a list of steps in the order of the wishes that they come from. -/
def links (placements : List Placement) : Except ConfigError (List Link) :=
  linksFrom placements placements 0 []

/-! ### Circles -/

/-- The positions that a position has a link to, the latest link first. -/
def successors (links : List Link) (node : Nat) : List Nat :=
  (links.reverse.filter (·.1 = node)).map (·.2)

/-- The positions that have a link to a position, the latest link first. -/
def predecessors (links : List Link) (node : Nat) : List Nat :=
  (links.reverse.filter (·.2 = node)).map (·.1)

/-- Puts the neighbours that were not seen on a stack, each on top of those before it. -/
def pushUnseen (seen stack : List Nat) : List Nat → List Nat
  | [] => stack
  | node :: rest => pushUnseen seen (if seen.contains node then stack else node :: stack) rest

/-- Follows the links from a stack of positions: what was seen, and what was finished, the last
first. A position that is linked to itself ends the search. -/
def explore (links : List Link) : Nat → List Nat → List Nat → List Nat →
    Except Nat (List Nat × List Nat)
  | 0, _, seen, finished => .ok (seen, finished)
  | _, [], seen, finished => .ok (seen, finished)
  | fuel + 1, node :: stack, seen, finished =>
    if seen.contains node then
      -- met a second time, everything that the position leads to is finished
      explore links fuel stack seen
        (if finished.contains node then finished else node :: finished)
    else
      let next := successors links node
      -- a position that is linked to itself is a circle of its own
      if next.contains node then .error node
      else
        explore links fuel (pushUnseen (node :: seen) (node :: stack) next) (node :: seen) finished

/-- Explores from each of a list of positions that was not seen. -/
def exploreAll (links : List Link) (fuel : Nat) :
    List Nat → List Nat → List Nat → Except Nat (List Nat)
  | [], _, finished => .ok finished
  | node :: rest, seen, finished =>
    if seen.contains node then exploreAll links fuel rest seen finished
    else
      match explore links fuel [node] seen finished with
      | .error member => .error member
      | .ok (seen, finished) => exploreAll links fuel rest seen finished

/-- Follows the links backwards, in the reverse order of finishing; the second position that is
reached from one start lies on a circle with it. -/
def traceBack (links : List Link) : List Nat → List Nat → Option Nat
  | [], _ => none
  | node :: rest, seen =>
    if seen.contains node then traceBack links rest seen
    else
      -- without a circle every predecessor comes earlier in the order of the trace
      match pushUnseen (node :: seen) [] (predecessors links node) with
      | member :: _ => some member
      | [] => traceBack links rest (node :: seen)

/-- A position on a circle of links between `n` positions. -/
def cycleMember? (n : Nat) (links : List Link) : Option Nat :=
  match exploreAll links (2 * (n + links.length) + 2) (List.range n) [] [] with
  | .error member => some member
  | .ok finished => traceBack links finished []

/-! ### The order -/

/-- How many positions each of `n` positions waits for. -/
def waits (n : Nat) (links : List Link) : List Nat :=
  (List.range n).map fun node => (predecessors links node).length

/-- Positions that wait for one position less; those that wait for none any more are ready. -/
def release : List Nat → List Nat → List Nat → List Nat × List Nat
  | [], waiting, ready => (waiting, ready)
  | node :: rest, waiting, ready =>
    let left := waiting.getD node 0 - 1
    release rest (waiting.set node left) (if left = 0 then node :: ready else ready)

/-- Takes the earliest ready position as long as there is one, `fuel` at most. -/
def arrange (links : List Link) : Nat → List Nat → List Nat → List Nat
  | 0, _, _ => []
  | fuel + 1, waiting, ready =>
    match ready.min? with
    | none => []
    | some node =>
      let (waiting, ready) := release (successors links node) waiting (ready.erase node)
      node :: arrange links fuel waiting ready

/-- The order of `n` positions whose links form no circle. -/
def inOrder (n : Nat) (links : List Link) : List Nat :=
  let waiting := waits n links
  arrange links n waiting ((List.range n).filter fun node => waiting.getD node 0 = 0)

/-- The text that names a step on a circle. -/
def cycleText (id : String) : String :=
  "ordering constraints form a cycle involving step '" ++ id ++ "'"

/-- The positions of a list of steps in the order in which they run. -/
def resolve (placements : List Placement) : Except ConfigError (List Nat) := do
  let links ← links placements
  match cycleMember? placements.length links with
  | some member => .error (.cycle (cycleText ((placements[member]?.map (·.id)).getD "")))
  | none => .ok (inOrder placements.length links)

end Messaging.Pipeline
