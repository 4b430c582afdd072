import Messaging.Binary64.Shortest
import Messaging.Json.Basic
import Messaging.Text.Quoted

/-!
# Shapes of JSON values

Typed messages and settings expect their JSON value to have a shape.

- `Kind` is the shape of a single field, `Schema` that of a record, and `Mismatch` says how a value
  differs from it.
- `Schema.read` checks a value and returns it with the declared fields only.
- `fieldValues` lists the fields of a record that is written with names or, in a list, by position.
-/

namespace Messaging.Json

/-- How a value differs from the shape that was expected. -/
inductive Mismatch where
  /-- A value of another type. -/
  | wrongType (found expected : String)
  /-- A value of the right type that is out of bounds. -/
  | wrongValue (found expected : String)
  /-- A record without one of its fields. -/
  | missingField (name : String)
  /-- A list of a wrong length. -/
  | wrongLength (length : Nat) (expected : String)
deriving DecidableEq, Repr

/-- The text of a mismatch. -/
def Mismatch.message : Mismatch → String
  | wrongType found expected => "invalid type: " ++ found ++ ", expected " ++ expected
  | wrongValue found expected => "invalid value: " ++ found ++ ", expected " ++ expected
  | missingField name => "missing field `" ++ name ++ "`"
  | wrongLength length expected =>
    "invalid length " ++ toString length ++ ", expected " ++ expected

/-- What a value is, as mismatches name it. -/
def described : Json → String
  | .null => "null"
  | .bool b => "boolean `" ++ (if b then "true" else "false") ++ "`"
  | .integer n => "integer `" ++ toString n ++ "`"
  | .float x => "floating point `" ++ String.ofList x.render ++ "`"
  | .string text => "string " ++ Text.quote text
  | .array _ => "sequence"
  | .object _ => "map"

/-- The shape of a field. -/
inductive Kind where
  /-- A text. -/
  | text
  /-- An integer between two bounds, under the name of their range. -/
  | integer (low high : Int) (name : String)
deriving DecidableEq, Repr

/-- The integers of 32 bits without sign. -/
def Kind.u32 : Kind := .integer 0 4294967295 "u32"

/-- The integers of 64 bits with sign. -/
def Kind.i64 : Kind := .integer (-9223372036854775808) 9223372036854775807 "i64"

/-- Checks the value of a field. -/
def Kind.check (kind : Kind) (value : Json) : Except Mismatch Unit :=
  match kind, value with
  | .text, .string _ => .ok ()
  | .text, other => .error (.wrongType other.described "a string")
  | .integer low high name, .integer n =>
    if low ≤ n ∧ n ≤ high then .ok () else .error (.wrongValue (described (.integer n)) name)
  | .integer _ _ name, other => .error (.wrongType other.described name)

/-- The shape of a record. -/
structure Schema where
  /-- The name of the record. -/
  name : String
  /-- The fields in their order. -/
  fields : List (String × Kind)
deriving DecidableEq, Repr

namespace Schema

/-- The number of fields in words. -/
def sizeText (schema : Schema) : String :=
  let n := schema.fields.length
  "struct " ++ schema.name ++ " with " ++ toString n ++ (if n = 1 then " element" else " elements")

/-- Checks the members of an object in the order of their names; other members are passed over. -/
def checkMembers (schema : Schema) : List (String × Json) → Except Mismatch Unit
  | [] => .ok ()
  | (name, value) :: rest => do
    match schema.fields.find? (·.1 = name) with
    | some field => field.2.check value
    | none => .ok ()
    schema.checkMembers rest

/-- Checks the items of a list against the fields in order; `n` items came before. -/
def checkItems (schema : Schema) : List (String × Kind) → List Json → Nat →
    Except Mismatch (List (String × Json))
  | [], [], _ => .ok []
  | [], rest, n => .error (.wrongLength (n + rest.length) "fewer elements in array")
  | _ :: _, [], n => .error (.wrongLength n schema.sizeText)
  | (name, kind) :: fields, item :: items, n => do
    kind.check item
    let rest ← schema.checkItems fields items (n + 1)
    .ok ((name, item) :: rest)

/-- The declared fields among the members of an object. -/
def collect (schema : Schema) (value : Json) : Except Mismatch (List (String × Json)) :=
  schema.fields.mapM fun field =>
    match value.get? field.1 with
    | some member => .ok (field.1, member)
    | none => .error (.missingField field.1)

/-- Checks a value and keeps the declared fields. -/
def read (schema : Schema) (value : Json) : Except Mismatch Json :=
  match value with
  | .object members => do
    schema.checkMembers members
    let fields ← schema.collect value
    .ok (ofMembers fields)
  | .array items => do
    let fields ← schema.checkItems schema.fields items 0
    .ok (ofMembers fields)
  | other => .error (.wrongType other.described ("struct " ++ schema.name))

end Schema

/-! ### Records without messages -/

/-- The fields of a record, given by name or by position; a record with more positions than fields
is refused. -/
def fieldValues (names : List String) : Json → Option (List (Option Json))
  | .object members => some (names.map fun name => lookupEntry name members)
  | .array items =>
    if items.length ≤ names.length then some (names.mapIdx fun i _ => items[i]?) else none
  | _ => none

/-- A text. -/
def text? : Json → Option String
  | .string text => some text
  | _ => none

/-- A truth value. -/
def bool? : Json → Option Bool
  | .bool b => some b
  | _ => none

/-- A natural number of a number of bits. -/
def natural? (bits : Nat) : Json → Option Nat
  | .integer n => if 0 ≤ n ∧ n.toNat < Nat.pow 2 bits then some n.toNat else none
  | _ => none

/-- A value that may be null. -/
def nullable? {α : Type} (read : Json → Option α) : Json → Option (Option α)
  | .null => some none
  | other => (read other).map some

/-- A list of values. -/
def list? {α : Type} (read : Json → Option α) : Json → Option (List α)
  | .array items => items.mapM read
  | _ => none

/-- A field that must be there. -/
def required {α : Type} (read : Json → Option α) : Option Json → Option α
  | some value => read value
  | none => none

/-- A field with a value for its absence. -/
def optional {α : Type} (fallback : α) (read : Json → Option α) : Option Json → Option α
  | some value => read value
  | none => some fallback

end Messaging.Json
