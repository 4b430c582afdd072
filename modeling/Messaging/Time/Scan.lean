import Messaging.Text.Blank

/-!
# Reading the fields of a written time

- `Fault` says why a text is no time.
- `number` reads a decimal field, `literal` a fixed text, `skipBlanks` optional white space.
-/

namespace Messaging.Time

/-- Why a text is no time. -/
inductive Fault where
  /-- A field is too large or the date does not exist. -/
  | outOfRange
  /-- A character that cannot stand there. -/
  | invalid
  /-- The text ends too early. -/
  | tooShort
  /-- Something follows the time. -/
  | tooLong
deriving DecidableEq, Repr

/-- The text of a fault. -/
def Fault.message : Fault → String
  | outOfRange => "input is out of range"
  | invalid => "input contains invalid characters"
  | tooShort => "premature end of input"
  | tooLong => "trailing input"

namespace Scan

/-- The number of bytes of a list of characters. -/
def byteLength (cs : List Char) : Nat := cs.foldl (fun n c => n + c.utf8Size) 0

/-- The value of a decimal digit. -/
def digit? (c : Char) : Option Nat :=
  if '0' ≤ c ∧ c ≤ '9' then some (c.toNat - '0'.toNat) else none

/-- The text without the white space before it. -/
def skipBlanks (cs : List Char) : List Char := cs.dropWhile Text.isBlank

/-- The largest value of a field while it is read. -/
def maxField : Nat := 9223372036854775807

/-- Reads up to `more` further digits after `read` have been read. -/
def digits (atLeast : Nat) : Nat → Nat → Nat → List Char → Except Fault (Nat × List Char)
  | 0, _, value, cs => .ok (value, cs)
  | _, _, value, [] => .ok (value, [])
  | more + 1, read, value, c :: cs =>
    match digit? c with
    | none => if read < atLeast then .error .invalid else .ok (value, c :: cs)
    | some d =>
      if value * 10 + d ≤ maxField then digits atLeast more (read + 1) (value * 10 + d) cs
      else .error .outOfRange

/-- Reads a field of at least `atLeast` and at most `atMost` digits. -/
def number (atLeast atMost : Nat) (cs : List Char) : Except Fault (Nat × List Char) :=
  if byteLength cs < atLeast then .error .tooShort else digits atLeast atMost 0 0 cs

/-- Reads a field of any number of digits. -/
def anyNumber (cs : List Char) : Except Fault (Nat × List Char) := number 1 cs.length cs

/-- Reads a character that has to stand there. -/
def literal (expected : Char) : List Char → Except Fault (List Char)
  | [] => .error .tooShort
  | c :: cs => if c = expected then .ok cs else .error .invalid

/-- A field within bounds. -/
def within (low high value : Nat) : Except Fault Nat :=
  if low ≤ value ∧ value ≤ high then .ok value else .error .outOfRange

/-- Reads a field of one or two digits within bounds, after white space. -/
def smallField (low high : Nat) (cs : List Char) : Except Fault (Nat × List Char) := do
  let (value, rest) ← number 1 2 (skipBlanks cs)
  let value ← within low high value
  .ok (value, rest)

/-- Reads a year after white space: four digits at most, any number after a sign. -/
def year (cs : List Char) : Except Fault (Int × List Char) := do
  let (value, rest) ← match skipBlanks cs with
    | '-' :: cs => do
      let (value, rest) ← anyNumber cs
      pure (-(value : Int), rest)
    | '+' :: cs => do
      let (value, rest) ← anyNumber cs
      pure ((value : Int), rest)
    | cs => do
      let (value, rest) ← number 1 4 cs
      pure ((value : Int), rest)
  if -2147483648 ≤ value ∧ value ≤ 2147483647 then .ok (value, rest) else .error .outOfRange

end Scan

end Messaging.Time
