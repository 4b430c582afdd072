import Messaging.Json.Basic

/-!
# Reading JSON forms

Scripts and values are written as JSON. What is missing counts as null, and null as the empty text,
zero, false or the empty list.

- `asText`, `asInt`, `asNat`, `asFlag`, `asItems` and `asMembers` read plain values.
- `asTagged` reads a tag with its argument.
-/

namespace Messaging.JsonForm

/-- A text, if the value is one. -/
def asText? : Json → Option String
  | .string text => some text
  | _ => none

/-- A text. -/
def asText (value : Json) : String := (asText? value).getD ""

/-- An integer. -/
def asInt : Json → Int
  | .integer n => n
  | _ => 0

/-- A natural number, if the value is an integer. -/
def asNat? : Json → Option Nat
  | .integer n => some n.toNat
  | _ => none

/-- A natural number. -/
def asNat (value : Json) : Nat := (asNat? value).getD 0

/-- A truth value. -/
def asFlag : Json → Bool
  | .bool b => b
  | _ => false

/-- The items of a list. -/
def asItems : Json → List Json
  | .array items => items
  | _ => []

/-- The members of an object. -/
def asMembers : Json → List (String × Json)
  | .object members => members
  | _ => []

/-- A list of texts. -/
def asTexts (value : Json) : List String := (asItems value).map asText

/-- A list of natural numbers. -/
def asNats (value : Json) : List Nat := (asItems value).map asNat

/-- Whether a value is null. -/
def isNull : Json → Bool
  | .null => true
  | _ => false

/-- A value that may be null. -/
def optional {α : Type} (read : Json → α) (value : Json) : Option α :=
  if isNull value then none else some (read value)

/-- A tag with its argument: a text is a tag alone, an object with one member a tag with one. -/
def asTagged : Json → String × Json
  | .string tag => (tag, .null)
  | .object ((tag, argument) :: _) => (tag, argument)
  | _ => ("", .null)

/-- The item of a list at a position. -/
def item (value : Json) (index : Nat) : Json := ((asItems value)[index]?).getD .null

/-- The first item of a list, and a value that is none as it is. -/
def firstItem : Json → Json
  | .array (first :: _) => first
  | other => other

/-- A list of two texts. -/
def asPair (value : Json) : String × String := (asText (item value 0), asText (item value 1))

/-- A list of pairs of texts. -/
def asPairs (value : Json) : List (String × String) := (asItems value).map asPair

end Messaging.JsonForm
