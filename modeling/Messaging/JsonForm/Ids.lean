import Messaging.Json.Basic

/-!
# Ids in JSON forms

Generated ids differ from run to run. In an answer they are numbered in the order in which they
first appear.

- `isIdAt` recognises a time-ordered unique id by its shape.
- `numberIds` replaces every id in the texts of a value.
-/

namespace Messaging.JsonForm

/-- Whether a character is a digit in base sixteen, in lower case. -/
def isHexDigit (c : Char) : Bool := c.isDigit || ('a' ≤ c && c ≤ 'f')

/-- The shape of an id: what each of its characters is. -/
def idShape : List (Char → Bool) :=
  let digits (n : Nat) : List (Char → Bool) := List.replicate n isHexDigit
  let dash : Char → Bool := (· == '-')
  let version : Char → Bool := (· == '7')
  let variant : Char → Bool := fun c => c == '8' || c == '9' || c == 'a' || c == 'b'
  digits 8 ++ [dash] ++ digits 4 ++ [dash, version] ++ digits 3 ++ [dash, variant] ++ digits 3 ++
    [dash] ++ digits 12

/-- Whether a text starts with characters of a shape. -/
def startsWithShape : List (Char → Bool) → List Char → Bool
  | [], _ => true
  | test :: tests, c :: rest => test c && startsWithShape tests rest
  | _ :: _, [] => false

/-- Whether a text starts with an id. -/
def isIdAt (cs : List Char) : Bool := startsWithShape idShape cs

/-- The number of an id, from one, and the ids seen so far. -/
def numberOf (id : String) (seen : List String) : Nat × List String :=
  match seen.findIdx? (· == id) with
  | some index => (index + 1, seen)
  | none => (seen.length + 1, seen ++ [id])

/-- Replaces the ids of a text; `skip` characters belong to an id that was replaced. -/
def numberIdsFrom : List Char → Nat → List String → List Char × List String
  | [], _, seen => ([], seen)
  | _ :: rest, skip + 1, seen => numberIdsFrom rest skip seen
  | c :: rest, 0, seen =>
    if isIdAt (c :: rest) then
      let (n, seen) := numberOf (String.ofList ((c :: rest).take idShape.length)) seen
      let (cs, seen) := numberIdsFrom rest (idShape.length - 1) seen
      (("<id-" ++ toString n ++ ">").toList ++ cs, seen)
    else
      let (cs, seen) := numberIdsFrom rest 0 seen
      (c :: cs, seen)

mutual

/-- Replaces the ids of a value, given the ids seen so far. -/
def numberIds : Json → List String → Json × List String
  | .string text, seen =>
    let (cs, seen) := numberIdsFrom text.toList 0 seen
    (.string (String.ofList cs), seen)
  | .array items, seen =>
    let (items, seen) := numberIdsInItems items seen
    (.array items, seen)
  | .object members, seen =>
    let (members, seen) := numberIdsInMembers members seen
    (.object members, seen)
  | .null, seen => (.null, seen)
  | .bool b, seen => (.bool b, seen)
  | .integer n, seen => (.integer n, seen)
  | .float x, seen => (.float x, seen)

/-- Replaces the ids of a list of values. -/
def numberIdsInItems : List Json → List String → List Json × List String
  | [], seen => ([], seen)
  | value :: rest, seen =>
    let (value, seen) := numberIds value seen
    let (rest, seen) := numberIdsInItems rest seen
    (value :: rest, seen)

/-- Replaces the ids of the values of members. -/
def numberIdsInMembers : List (String × Json) → List String → List (String × Json) × List String
  | [], seen => ([], seen)
  | (name, value) :: rest, seen =>
    let (value, seen) := numberIds value seen
    let (rest, seen) := numberIdsInMembers rest seen
    ((name, value) :: rest, seen)

end

end Messaging.JsonForm
