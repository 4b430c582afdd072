import Messaging.Binary64.Shortest
import Messaging.Json.Basic
import Messaging.Text.Utf8

/-!
# Writing JSON

The compact text of a value: no blanks, members in the order of their names.

- `Json.print` is the text, `Json.toBytes` its bytes.
- `Json.printAscii` writes every character outside the printable ASCII range as an escape.
-/

namespace Messaging.Json

/-- A number in base sixteen with at least four digits. -/
def fourHexDigits (n : Nat) : List Char :=
  let digits := Nat.toDigits 16 n
  List.replicate (4 - digits.length) '0' ++ digits

/-- A four-digit escape. -/
def unicodeEscape (n : Nat) : List Char := '\\' :: 'u' :: fourHexDigits n

/-- A character of a text value. -/
def printChar (c : Char) : List Char :=
  if c = '"' then ['\\', '"']
  else if c = '\\' then ['\\', '\\']
  else if c = '\x08' then ['\\', 'b']
  else if c = '\x0C' then ['\\', 'f']
  else if c = '\n' then ['\\', 'n']
  else if c = '\r' then ['\\', 'r']
  else if c = '\t' then ['\\', 't']
  else if c.toNat < 0x20 then unicodeEscape c.toNat
  else [c]

/-- A character of a text value in printable ASCII. -/
def printCharAscii (c : Char) : List Char :=
  let n := c.toNat
  if n < 0x7F then printChar c
  else if n < 0x10000 then unicodeEscape n
  else
    unicodeEscape (0xD800 + (n - 0x10000) / 0x400) ++ unicodeEscape (0xDC00 + (n - 0x10000) % 0x400)

/-- A text value. -/
def printString (charText : Char → List Char) (text : String) : List Char :=
  '"' :: text.toList.flatMap charText ++ ['"']

/-- The digits of an integer. -/
def printInt (z : Int) : List Char :=
  if z < 0 then '-' :: Nat.toDigits 10 z.natAbs else Nat.toDigits 10 z.natAbs

mutual

/-- The characters of a value, with `charText` for the characters of text values. -/
def printWith (charText : Char → List Char) : Json → List Char
  | .null => ['n', 'u', 'l', 'l']
  | .bool true => ['t', 'r', 'u', 'e']
  | .bool false => ['f', 'a', 'l', 's', 'e']
  | .integer z => printInt z
  | .float x => x.render
  | .string text => printString charText text
  | .array [] => ['[', ']']
  | .array (item :: items) => '[' :: printWith charText item ++ printItems charText items
  | .object [] => ['\x7b', '\x7d']
  | .object ((name, value) :: members) =>
    '\x7b' :: printString charText name ++ ':' :: printWith charText value
      ++ printMembers charText members

/-- The items after the first, and the end of the list. -/
def printItems (charText : Char → List Char) : List Json → List Char
  | [] => [']']
  | item :: items => ',' :: printWith charText item ++ printItems charText items

/-- The members after the first, and the end of the object. -/
def printMembers (charText : Char → List Char) : List (String × Json) → List Char
  | [] => ['\x7d']
  | (name, value) :: members =>
    ',' :: printString charText name ++ ':' :: printWith charText value
      ++ printMembers charText members

end

/-- The text of a value. -/
def print (value : Json) : String := String.ofList (printWith printChar value)

/-- The bytes of the text of a value. -/
def toBytes (value : Json) : List UInt8 := Text.Utf8.encode (printWith printChar value)

/-- The text of a value in printable ASCII. -/
def printAscii (value : Json) : String := String.ofList (printWith printCharAscii value)

end Messaging.Json
