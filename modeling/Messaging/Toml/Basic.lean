import Messaging.Json.Basic

/-!
# TOML documents

- `Toml` is a value or a part of a document. Tables remember how they came to be, because that
  decides where they may be extended.
- `Toml.define` sets a dotted key, `Toml.openTable` enters a table header and `Toml.openItem` the
  header of a list item; all three refuse a key that is taken.
- `Toml.toJson` forgets how a value was written.
-/

namespace Messaging

/-- How a table came to be. -/
inductive Toml.Origin where
  /-- By a header of its own. -/
  | header
  /-- By the header of a table inside it. -/
  | innerHeader
  /-- By a dotted key. -/
  | dottedKey
deriving DecidableEq, Repr

/-- A TOML value or part of a document. -/
inductive Toml where
  /-- A text. -/
  | text (value : String)
  /-- An integer. -/
  | integer (value : Int)
  /-- A number with fraction or exponent. -/
  | float (value : Binary64)
  /-- A truth value. -/
  | boolean (value : Bool)
  /-- A date or time, as it was written. -/
  | date (written : String)
  /-- A list. -/
  | array (items : List Toml)
  /-- A table on one line, which nothing extends. -/
  | inline (members : List (String × Toml))
  /-- A table. -/
  | table (origin : Toml.Origin) (members : List (String × Toml))
  /-- A list of tables, each under a header. -/
  | tables (items : List (List (String × Toml)))
deriving Inhabited

namespace Toml

/-- The members of a table or of the last table of a list of tables, for a key below it. -/
abbrev Members := List (String × Toml)

/-- Whether a dotted key may lead through a table, of which the names in `path` are to follow. -/
def Origin.extends (origin : Origin) (path : List String) : Bool :=
  if path.isEmpty then origin = .dottedKey else origin ≠ .header

/-- Sets a dotted key; `path` leads to its table. -/
def define (path : List String) (key : String) (value : Toml) (members : Members) :
    Option Members :=
  match path with
  | [] => if (lookupEntry key members).isSome then none else some (insertEntry key value members)
  | name :: path =>
    match lookupEntry name members with
    | none => do
      let inner ← define path key value []
      some (insertEntry name (.table .dottedKey inner) members)
    | some (.table origin inner) =>
      if origin.extends path then do
        let inner ← define path key value inner
        some (insertEntry name (.table origin inner) members)
      else none
    | some (.tables items) =>
      match items.reverse with
      | last :: before =>
        -- a header item is no table of a dotted key
        if path.isEmpty then none
        else do
          let last ← define path key value last
          some (insertEntry name (.tables (before.reverse ++ [last])) members)
      | [] => none
    | some _ => none

/-- Changes the table at a path; tables on the way come into being, and of a list of tables the
last is meant. -/
def change (path : List String) (f : Members → Option Members) (members : Members) :
    Option Members :=
  match path with
  | [] => f members
  | name :: path =>
    match lookupEntry name members with
    | none => do
      let inner ← change path f []
      some (insertEntry name (.table .innerHeader inner) members)
    | some (.table origin inner) => do
      let inner ← change path f inner
      some (insertEntry name (.table origin inner) members)
    | some (.tables items) =>
      match items.reverse with
      | last :: before => do
        let last ← change path f last
        some (insertEntry name (.tables (before.reverse ++ [last])) members)
      | [] => none
    | some _ => none

/-- Enters the header of a table: it is new, or so far only the headers of inner tables named it. -/
def openTable (key : String) (members : Members) : Option Members :=
  match lookupEntry key members with
  | none => some (insertEntry key (.table .header []) members)
  | some (.table .innerHeader inner) => some (insertEntry key (.table .header inner) members)
  | some _ => none

/-- Enters the header of the next table of a list. -/
def openItem (key : String) (members : Members) : Option Members :=
  match lookupEntry key members with
  | none => some (insertEntry key (.tables [[]]) members)
  | some (.tables items) => some (insertEntry key (.tables (items ++ [[]])) members)
  | some _ => none

mutual

/-- The value without how it was written; a date is an object of one member. -/
def toJson : Toml → Json
  | .text value => .string value
  | .integer value => .integer value
  | .float value => .float value
  | .boolean value => .bool value
  | .date written => .object [("date", .string written)]
  | .array items => .array (itemsToJson items)
  | .inline members => .object (membersToJson members)
  | .table _ members => .object (membersToJson members)
  | .tables items => .array (tablesToJson items)

/-- The items of a list as values. -/
def itemsToJson : List Toml → List Json
  | [] => []
  | item :: rest => item.toJson :: itemsToJson rest

/-- The members of a table as values. -/
def membersToJson : List (String × Toml) → List (String × Json)
  | [] => []
  | (name, value) :: rest => (name, value.toJson) :: membersToJson rest

/-- The tables of a list as values. -/
def tablesToJson : List (List (String × Toml)) → List Json
  | [] => []
  | members :: rest => .object (membersToJson members) :: tablesToJson rest

end

end Toml

end Messaging
