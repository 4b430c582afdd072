import Messaging.Binary64.Basic
import Messaging.Table

/-!
# JSON values

Message bodies travel between handlers as JSON values.

- `Json` is a value. An object's members stand in the order of their names, each name once.
- `Json.get?` looks a member up.
- `Json.beq` decides equality.
-/

namespace Messaging

/-- A JSON value. -/
inductive Json where
  /-- The value without content. -/
  | null
  /-- A truth value. -/
  | bool (value : Bool)
  /-- A number without fraction and exponent that fits 64 bits. -/
  | integer (value : Int)
  /-- Any other number. -/
  | float (value : Binary64)
  /-- A text. -/
  | string (value : String)
  /-- A list of values. -/
  | array (items : List Json)
  /-- Named members. -/
  | object (members : List (String × Json))
deriving Inhabited

namespace Json

/-- The object of a list of members; the last member of a name wins. -/
def ofMembers (members : List (String × Json)) : Json :=
  .object (members.foldl (fun acc m => insertEntry m.1 m.2 acc) [])

/-- The member of an object under a name. -/
def get? (value : Json) (name : String) : Option Json :=
  match value with
  | .object members => lookupEntry name members
  | _ => none

/-- The member under a name; a missing member is null. -/
def getD (value : Json) (name : String) : Json := (value.get? name).getD .null

mutual

/-- Whether two values are equal. -/
def beq : Json → Json → Bool
  | .null, .null => true
  | .bool a, .bool b => a == b
  | .integer a, .integer b => a == b
  | .float a, .float b => a == b || (a.isZero && b.isZero)
  | .string a, .string b => a == b
  | .array a, .array b => beqItems a b
  | .object a, .object b => beqMembers a b
  | _, _ => false

/-- Whether two lists of values are equal. -/
def beqItems : List Json → List Json → Bool
  | [], [] => true
  | a :: as, b :: bs => beq a b && beqItems as bs
  | _, _ => false

/-- Whether two lists of members are equal. -/
def beqMembers : List (String × Json) → List (String × Json) → Bool
  | [], [] => true
  | (k, a) :: as, (l, b) :: bs => k == l && beq a b && beqMembers as bs
  | _, _ => false

end

instance : BEq Json := ⟨beq⟩

/-- A list of texts. -/
def ofStrings (texts : List String) : Json := .array (texts.map .string)

/-- A text, or null. -/
def ofString? : Option String → Json
  | some text => .string text
  | none => .null

/-- A natural number. -/
def ofNat (n : Nat) : Json := .integer n

/-- An object of texts. -/
def ofTable (table : Table String) : Json :=
  .object (table.toList.map fun entry => (entry.1, .string entry.2))

end Json

end Messaging
