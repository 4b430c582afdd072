import Messaging.Text.CaseTable

/-!
# Lower-casing

The full lower-case mapping of the Unicode standard, without the rules of single languages.

- `lowerChar` is the form of a letter that stands alone. Only the dotted capital I becomes two
  characters.
- `lowerCase` maps a text. A capital sigma becomes a final sigma where it ends a word.
-/

namespace Messaging.Text

/-- Whether a code point lies in one of the closed ranges. -/
def inRanges (ranges : List (Nat × Nat)) (n : Nat) : Bool :=
  ranges.any fun range => range.1 ≤ n && n ≤ range.2

/-- Whether a character has case. -/
def isCased (c : Char) : Bool := inRanges casedRanges c.toNat

/-- Whether a character is passed over when the case of its neighbours is asked for. -/
def isCaseIgnorable (c : Char) : Bool := inRanges caseIgnorableRanges c.toNat

/-- The lower-case form of a character that has a one-letter one, else the character itself. -/
def lowerSimple (c : Char) : Char :=
  match lowerRuns.find? fun run =>
      run.first ≤ c.toNat && c.toNat ≤ run.last && (c.toNat - run.first) % run.step == 0 with
  | some run => Char.ofNat (c.toNat + run.shift).toNat
  | none => c

/-- The lower-case form of a character that stands alone. -/
def lowerChar (c : Char) : List Char :=
  if c.toNat < 128 then [c.toLower]
  else if c.toNat = 0x130 then ['i', '\u0307']
  else [lowerSimple c]

/-- Whether the first character that is not passed over has case. -/
def startsCased (cs : List Char) : Bool :=
  match cs.dropWhile isCaseIgnorable with
  | [] => false
  | c :: _ => isCased c

/-- Maps the characters after `before`, which are given last first. -/
def lowerFrom (before : List Char) : List Char → List Char
  | [] => []
  | c :: rest =>
    let mapped :=
      if c = 'Σ' then
        if startsCased before && !startsCased rest then ['ς'] else ['σ']
      else lowerChar c
    mapped ++ lowerFrom (c :: before) rest

/-- The lower-case form of a text. -/
def lowerCase (text : String) : String := String.ofList (lowerFrom [] text.toList)

end Messaging.Text
