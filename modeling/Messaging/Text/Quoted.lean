import Messaging.Text.HiddenTable
import Messaging.Text.LowerCase

/-!
# Quoted texts

Diagnostic descriptions show a text between double quotes, with everything escaped that could not be
read on a terminal.

- `quote` is the quoted form.
- `describe` joins the parts of a described value in the layouts `Name { field: value }`,
  `Name(value)` and `[item, item]`.
-/

namespace Messaging.Text

/-- The digits of a number in base sixteen, lower case, without leading zeros. -/
def hexDigits (n : Nat) : List Char := Nat.toDigits 16 n

/-- A character as it stands between quotes. -/
def quoteChar (c : Char) : List Char :=
  if c = '\x00' then ['\\', '0']
  else if c = '\t' then ['\\', 't']
  else if c = '\n' then ['\\', 'n']
  else if c = '\r' then ['\\', 'r']
  else if c = '"' then ['\\', '"']
  else if c = '\\' then ['\\', '\\']
  else if c.toNat < 0x20 || inRanges hiddenRanges c.toNat then
    ['\\', 'u', '\x7b'] ++ hexDigits c.toNat ++ ['\x7d']
  else [c]

/-- A text between double quotes. -/
def quote (text : String) : String :=
  String.ofList ('"' :: text.toList.flatMap quoteChar ++ ['"'])

/-- A list of described values. -/
def describeList (items : List String) : String :=
  "[" ++ String.intercalate ", " items ++ "]"

/-- A described value with named fields; a value that holds more than it shows ends in dots. -/
def describeFields (name : String) (fields : List (String × String)) (more : Bool := false) :
    String :=
  let shown := fields.map (fun field => field.1 ++ ": " ++ field.2) ++ (if more then [".."] else [])
  if shown.isEmpty then name
  else name ++ " \x7b " ++ String.intercalate ", " shown ++ " \x7d"

/-- A described value that wraps one other. -/
def describeWrapped (name value : String) : String := name ++ "(" ++ value ++ ")"

/-- A described optional value. -/
def describeOption : Option String → String
  | none => "None"
  | some value => describeWrapped "Some" value

end Messaging.Text
