import Messaging.Json.Basic
import Messaging.Text.Utf8

/-!
# Reading JSON

The reader takes the bytes of one JSON text. A refusal names its cause and the place where reading
stopped.

- `Json.read` reads a whole text.
- `Json.ReadError.message` is the text of a refusal.
- `Json.Cursor` is a place in the text; `advance` moves over one byte.

Values may nest `maxDepth` deep.
-/

namespace Messaging.Json

/-- How deep arrays and objects may nest. -/
def maxDepth : Nat := 127

/-- Why a text is no JSON text. -/
inductive Fault where
  /-- The text ends inside a list. -/
  | endInList
  /-- The text ends inside an object. -/
  | endInObject
  /-- The text ends inside a text value. -/
  | endInString
  /-- The text ends where a value should stand. -/
  | endInValue
  /-- No colon after a member name. -/
  | expectedColon
  /-- Neither a comma nor the end after a list item. -/
  | expectedListEnd
  /-- Neither a comma nor the end after a member. -/
  | expectedObjectEnd
  /-- A word other than the three literals. -/
  | expectedIdent
  /-- No value starts with this character. -/
  | expectedValue
  /-- An escape that stands for nothing. -/
  | invalidEscape
  /-- A number that is not written as one. -/
  | invalidNumber
  /-- A number above the largest. -/
  | numberOutOfRange
  /-- Bytes that are no UTF-8. -/
  | invalidCodePoint
  /-- A control character inside a text value. -/
  | controlCharacter
  /-- A member name that is no text. -/
  | keyNotString
  /-- Half of a surrogate pair. -/
  | loneSurrogate
  /-- A comma before the end of a list or object. -/
  | trailingComma
  /-- Something after the value. -/
  | trailingCharacters
  /-- The second half of a surrogate pair is missing. -/
  | endOfHexEscape
  /-- Values nest too deep. -/
  | tooDeep
deriving DecidableEq, Repr

/-- The text of a fault. -/
def Fault.text : Fault → String
  | endInList => "EOF while parsing a list"
  | endInObject => "EOF while parsing an object"
  | endInString => "EOF while parsing a string"
  | endInValue => "EOF while parsing a value"
  | expectedColon => "expected `:`"
  | expectedListEnd => "expected `,` or `]`"
  | expectedObjectEnd => "expected `,` or `\x7d`"
  | expectedIdent => "expected ident"
  | expectedValue => "expected value"
  | invalidEscape => "invalid escape"
  | invalidNumber => "invalid number"
  | numberOutOfRange => "number out of range"
  | invalidCodePoint => "invalid unicode code point"
  | controlCharacter => "control character (\\u0000-\\u001F) found while parsing a string"
  | keyNotString => "key must be a string"
  | loneSurrogate => "lone leading surrogate in hex escape"
  | trailingComma => "trailing comma"
  | trailingCharacters => "trailing characters"
  | endOfHexEscape => "unexpected end of hex escape"
  | tooDeep => "recursion limit exceeded"

/-- A refusal: its cause and its place. -/
structure ReadError where
  /-- The cause. -/
  fault : Fault
  /-- The line, counted from one. -/
  line : Nat
  /-- The number of bytes of that line that had been read. -/
  column : Nat
deriving DecidableEq, Repr

/-- The text of a refusal. -/
def ReadError.message (error : ReadError) : String :=
  error.fault.text ++ " at line " ++ toString error.line ++ " column " ++ toString error.column

/-- A place in a text: the bytes to come, the line, and the bytes of the line already read. -/
structure Cursor where
  /-- The bytes to come. -/
  rest : List UInt8
  /-- The line, counted from one. -/
  line : Nat
  /-- The bytes of the line already read. -/
  column : Nat

namespace Cursor

/-- The start of a text. -/
def start (bytes : List UInt8) : Cursor := ⟨bytes, 1, 0⟩

/-- The place one byte further. -/
def advance (c : Cursor) : Cursor :=
  match c.rest with
  | [] => c
  | b :: rest => if b = 0x0A then ⟨rest, c.line + 1, 0⟩ else ⟨rest, c.line, c.column + 1⟩

/-- A refusal at the bytes read so far. -/
def fail (c : Cursor) (fault : Fault) : ReadError := ⟨fault, c.line, c.column⟩

/-- A refusal that counts the byte to come as read. -/
def failAhead (c : Cursor) (fault : Fault) : ReadError := c.advance.fail fault

/-- The place after blanks. -/
def skipBlanks (c : Cursor) : Cursor :=
  go c.rest c.line c.column
where
  /-- Moves over blanks. -/
  go : List UInt8 → Nat → Nat → Cursor
  | [], line, column => ⟨[], line, column⟩
  | b :: rest, line, column =>
    if b = 0x0A then go rest (line + 1) 0
    else if b = 0x20 ∨ b = 0x09 ∨ b = 0x0D then go rest line (column + 1)
    else ⟨b :: rest, line, column⟩

end Cursor

/-- The value of a decimal digit byte. -/
def digit? (b : UInt8) : Option Nat :=
  if 0x30 ≤ b ∧ b ≤ 0x39 then some (b.toNat - 0x30) else none

/-- The value of a hexadecimal digit byte. -/
def hexDigit? (b : UInt8) : Option Nat :=
  if 0x30 ≤ b ∧ b ≤ 0x39 then some (b.toNat - 0x30)
  else if 0x41 ≤ b ∧ b ≤ 0x46 then some (b.toNat - 0x37)
  else if 0x61 ≤ b ∧ b ≤ 0x66 then some (b.toNat - 0x57)
  else none

/-! ### Numbers -/

/-- Largest significand that is kept exactly. -/
def maxSignificand : Nat := 18446744073709551615

/-- Largest written exponent that is kept exactly. -/
def maxWrittenExponent : Nat := 2147483647

/-- The cursor after a run of digits and the length of the run. -/
def skipDigits : List UInt8 → Nat → Nat → Nat → Cursor × Nat
  | [], line, column, n => (⟨[], line, column⟩, n)
  | b :: rest, line, column, n =>
    if (digit? b).isSome then skipDigits rest line (column + 1) (n + 1)
    else (⟨b :: rest, line, column⟩, n)

/-- Reads digits into `value` as long as it stays at most `limit`: the value, how many digits were
taken, whether a digit was left because of the limit, and the cursor. -/
def takeDigits (limit : Nat) : List UInt8 → Nat → Nat → Nat → Nat → Nat × Nat × Bool × Cursor
  | [], line, column, value, n => (value, n, false, ⟨[], line, column⟩)
  | b :: rest, line, column, value, n =>
    match digit? b with
    | none => (value, n, false, ⟨b :: rest, line, column⟩)
    | some d =>
      if value * 10 + d ≤ limit then
        takeDigits limit rest line (column + 1) (value * 10 + d) (n + 1)
      else (value, n, true, ⟨b :: rest, line, column⟩)

/-- The number of a significand and a power of ten. -/
def finishFloat (negative : Bool) (significand : Nat) (exponent : Int) (c : Cursor) :
    Except ReadError (Json × Cursor) :=
  match Binary64.scale negative significand exponent with
  | some x => .ok (.float x, c)
  | none => .error (c.fail .numberOutOfRange)

/-- Reads the exponent of a number; the cursor stands on the `e`. -/
def readExponent (negative : Bool) (significand : Nat) (start : Int) (c : Cursor) :
    Except ReadError (Json × Cursor) :=
  let c := c.advance
  let (positive, c) :=
    match c.rest with
    | b :: _ =>
      if b = 0x2B then (true, c.advance) else if b = 0x2D then (false, c.advance) else (true, c)
    | [] => (true, c)
  match c.rest with
  | [] => .error (c.fail .endInValue)
  | b :: _ =>
    match digit? b with
    | none => .error (c.advance.fail .invalidNumber)
    | some d =>
      let c := c.advance
      let (e, _, left, c) := takeDigits maxWrittenExponent c.rest c.line c.column d 0
      if left then
        -- a zero stays zero, and a power far below zero leaves nothing
        if significand ≠ 0 ∧ positive then .error (c.advance.fail .numberOutOfRange)
        else
          let (c, _) := skipDigits c.rest c.line c.column 0
          .ok (.float (Binary64.zero negative), c)
      else
        let exponent := if positive then start + e else start - e
        finishFloat negative significand exponent c

/-- Reads what may follow the digits of a number with a fraction or too many digits. -/
def readFloatEnd (negative : Bool) (significand : Nat) (exponent : Int) (c : Cursor) :
    Except ReadError (Json × Cursor) :=
  match c.rest with
  | b :: _ =>
    if b = 0x65 ∨ b = 0x45 then readExponent negative significand exponent c
    else finishFloat negative significand exponent c
  | [] => finishFloat negative significand exponent c

/-- Reads the fraction of a number; the cursor stands on the point. -/
def readFraction (negative : Bool) (significand : Nat) (before : Int) (c : Cursor) :
    Except ReadError (Json × Cursor) :=
  let c := c.advance
  let (value, n, left, c) := takeDigits maxSignificand c.rest c.line c.column significand 0
  if left then
    let (c, _) := skipDigits c.rest c.line c.column 0
    readFloatEnd negative value (before - n) c
  else if n = 0 then
    match c.rest with
    | [] => .error (c.failAhead .endInValue)
    | _ => .error (c.failAhead .invalidNumber)
  else readFloatEnd negative value (before - n) c

/-- The integer of a significand, or a float where 64 bits do not hold it. -/
def integerOf (negative : Bool) (significand : Nat) : Json :=
  if negative then
    -- minus zero has a sign, which integers have not
    if 0 < significand ∧ significand ≤ 9223372036854775808 then .integer (-(significand : Int))
    else
      match Binary64.scale true significand 0 with
      | some x => .float x
      | none => .float (Binary64.zero true)
  else .integer significand

/-- Reads what follows the whole digits of a number. -/
def readNumberEnd (negative : Bool) (significand : Nat) (c : Cursor) :
    Except ReadError (Json × Cursor) :=
  match c.rest with
  | b :: _ =>
    if b = 0x2E then readFraction negative significand 0 c
    else if b = 0x65 ∨ b = 0x45 then readExponent negative significand 0 c
    else .ok (integerOf negative significand, c)
  | [] => .ok (integerOf negative significand, c)

/-- Reads a number without its sign. -/
def readNumber (negative : Bool) (c : Cursor) : Except ReadError (Json × Cursor) :=
  match c.rest with
  | [] => .error (c.fail .endInValue)
  | b :: _ =>
    match digit? b with
    | none => .error (c.advance.fail .invalidNumber)
    -- no digit follows a leading zero
    | some 0 =>
      let c := c.advance
      match c.rest with
      | next :: _ =>
        if (digit? next).isSome then .error (c.failAhead .invalidNumber)
        else readNumberEnd negative 0 c
      | [] => readNumberEnd negative 0 c
    | some d =>
      let c := c.advance
      let (value, _, left, c) := takeDigits maxSignificand c.rest c.line c.column d 0
      if left then
        let (c, n) := skipDigits c.rest c.line c.column 0
        match c.rest with
        | next :: _ =>
          if next = 0x2E then readFraction negative value n c
          else readFloatEnd negative value n c
        | [] => readFloatEnd negative value n c
      else readNumberEnd negative value c

/-! ### Texts -/

/-- Reads four hexadecimal digits. -/
def readHex (c : Cursor) : Except ReadError (Nat × Cursor) :=
  match c.rest with
  | b₁ :: b₂ :: b₃ :: b₄ :: _ =>
    let after := c.advance.advance.advance.advance
    match hexDigit? b₁, hexDigit? b₂, hexDigit? b₃, hexDigit? b₄ with
    | some d₁, some d₂, some d₃, some d₄ =>
      .ok (d₁ * 0x1000 + d₂ * 0x100 + d₃ * 0x10 + d₄, after)
    | _, _, _, _ => .error (after.fail .invalidEscape)
  | _ => .error (c.advance.advance.advance.fail .endInString)

/-- Reads a four-digit escape after its `u`, with the second half of a surrogate pair. -/
def readUnicodeEscape (c : Cursor) : Except ReadError (Char × Cursor) := do
  let (n, c) ← readHex c
  if 0xDC00 ≤ n ∧ n ≤ 0xDFFF then .error (c.fail .loneSurrogate)
  else if 0xD800 ≤ n ∧ n ≤ 0xDBFF then
    match c.rest with
    | [] => .error (c.fail .endInString)
    | b :: _ =>
      if b ≠ 0x5C then .error (c.advance.fail .endOfHexEscape)
      else
        -- a leading surrogate has to be followed by an escape with the other half
        let c := c.advance
        match c.rest with
        | [] => .error (c.fail .endInString)
        | b :: _ =>
          if b ≠ 0x75 then .error (c.advance.fail .endOfHexEscape)
          else
            let (low, c) ← readHex c.advance
            if low < 0xDC00 ∨ 0xDFFF < low then .error (c.fail .loneSurrogate)
            else .ok (Char.ofNat ((n - 0xD800) * 0x400 + (low - 0xDC00) + 0x10000), c)
  else .ok (Char.ofNat n, c)

/-- Reads an escape after its backslash. -/
def readEscape (c : Cursor) : Except ReadError (Char × Cursor) :=
  match c.rest with
  | [] => .error (c.fail .endInString)
  | b :: _ =>
    let c := c.advance
    if b = 0x22 then .ok ('"', c)
    else if b = 0x5C then .ok ('\\', c)
    else if b = 0x2F then .ok ('/', c)
    else if b = 0x62 then .ok ('\x08', c)
    else if b = 0x66 then .ok ('\x0C', c)
    else if b = 0x6E then .ok ('\n', c)
    else if b = 0x72 then .ok ('\r', c)
    else if b = 0x74 then .ok ('\t', c)
    else if b = 0x75 then readUnicodeEscape c
    else .error (c.fail .invalidEscape)

/-- The place of the first bytes that are no UTF-8, seen when the text ends. -/
abbrev Misread := Option ReadError

/-- Reads the characters of a text value after its opening quote, last read first. -/
def readChars : Nat → Cursor → List Char → Misread → Except ReadError (List Char × Cursor)
  | 0, c, _, _ => .error (c.fail .endInString)
  | fuel + 1, c, acc, misread =>
    match c.rest with
    | [] => .error (c.fail .endInString)
    | b :: _ =>
      if b = 0x22 then
        -- bytes that are no characters are refused when the text value is complete
        match misread with
        | some error => .error error
        | none => .ok (acc.reverse, c.advance)
      else if b = 0x5C then do
        let (ch, c) ← readEscape c.advance
        readChars fuel c (ch :: acc) misread
      else if b < 0x20 then .error (c.advance.fail .controlCharacter)
      else
        match Text.Utf8.sequence? c.rest with
        | some (ch, rest) =>
          let used := c.rest.length - rest.length
          readChars fuel ⟨rest, c.line, c.column + used⟩ (ch :: acc) misread
        | none =>
          let first := misread.orElse fun _ => some (c.failAhead .invalidCodePoint)
          readChars fuel c.advance acc first

/-- Reads a text value after its opening quote. -/
def readString (c : Cursor) : Except ReadError (String × Cursor) := do
  let (cs, c) ← readChars (c.rest.length + 1) c [] none
  .ok (String.ofList cs, c)

/-! ### Values -/

/-- Reads the rest of a literal; every byte counts as read before it is compared. -/
def readLiteral : List UInt8 → Cursor → Json → Except ReadError (Json × Cursor)
  | [], c, value => .ok (value, c)
  | expected :: more, c, value =>
    match c.rest with
    | [] => .error (c.fail .endInValue)
    | b :: _ =>
      if b = expected then readLiteral more c.advance value
      else .error (c.advance.fail .expectedIdent)

mutual

/-- Reads a value; `depth` is how many more arrays and objects may open. -/
def readValue : Nat → Nat → Cursor → Except ReadError (Json × Cursor)
  | 0, _, c => .error (c.fail .tooDeep)
  | fuel + 1, depth, c =>
    let c := c.skipBlanks
    match c.rest with
    | [] => .error (c.fail .endInValue)
    | b :: _ =>
      if b = 0x6E then readLiteral [0x75, 0x6C, 0x6C] c.advance .null
      else if b = 0x74 then readLiteral [0x72, 0x75, 0x65] c.advance (.bool true)
      else if b = 0x66 then readLiteral [0x61, 0x6C, 0x73, 0x65] c.advance (.bool false)
      else if b = 0x2D then readNumber true c.advance
      else if (digit? b).isSome then readNumber false c
      else if b = 0x22 then do
        let (text, c) ← readString c.advance
        .ok (.string text, c)
      else if b = 0x5B then
        match depth with
        | 0 => .error (c.failAhead .tooDeep)
        | depth + 1 => readItems fuel depth true c.advance []
      else if b = 0x7B then
        match depth with
        | 0 => .error (c.failAhead .tooDeep)
        | depth + 1 => readMembers fuel depth true c.advance []
      else .error (c.failAhead .expectedValue)

/-- Reads the items of a list, last read first. -/
def readItems : Nat → Nat → Bool → Cursor → List Json → Except ReadError (Json × Cursor)
  | 0, _, _, c, _ => .error (c.fail .tooDeep)
  | fuel + 1, depth, first, c, acc =>
    let c := c.skipBlanks
    match c.rest with
    | [] => .error (c.failAhead .endInList)
    | b :: _ =>
      if b = 0x5D then .ok (.array acc.reverse, c.advance)
      else if b = 0x2C ∧ first = false then
        let c := c.advance.skipBlanks
        match c.rest with
        | [] => .error (c.failAhead .endInValue)
        | b :: _ =>
          -- a comma is followed by an item
          if b = 0x5D then .error (c.failAhead .trailingComma)
          else do
            let (item, c) ← readValue fuel depth c
            readItems fuel depth false c (item :: acc)
      else if first then do
        let (item, c) ← readValue fuel depth c
        readItems fuel depth false c (item :: acc)
      else .error (c.failAhead .expectedListEnd)

/-- Reads the members of an object. -/
def readMembers : Nat → Nat → Bool → Cursor → List (String × Json) →
    Except ReadError (Json × Cursor)
  | 0, _, _, c, _ => .error (c.fail .tooDeep)
  | fuel + 1, depth, first, c, acc =>
    let c := c.skipBlanks
    match c.rest with
    | [] => .error (c.failAhead .endInObject)
    | b :: _ =>
      if b = 0x7D then .ok (.object acc, c.advance)
      else if b = 0x2C ∧ first = false then
        let c := c.advance.skipBlanks
        match c.rest with
        | [] => .error (c.failAhead .endInValue)
        | b :: _ =>
          -- a comma is followed by a name
          if b = 0x22 then readMember fuel depth c.advance acc
          else if b = 0x7D then .error (c.failAhead .trailingComma)
          else .error (c.failAhead .keyNotString)
      else if first then
        if b = 0x22 then readMember fuel depth c.advance acc
        else .error (c.failAhead .keyNotString)
      else .error (c.failAhead .expectedObjectEnd)

/-- Reads a member after the opening quote of its name, and the members after it. -/
def readMember : Nat → Nat → Cursor → List (String × Json) → Except ReadError (Json × Cursor)
  | 0, _, c, _ => .error (c.fail .tooDeep)
  | fuel + 1, depth, c, acc => do
    let (name, c) ← readString c
    let c := c.skipBlanks
    match c.rest with
    | [] => .error (c.failAhead .endInObject)
    | b :: _ =>
      if b = 0x3A then
        let (value, c) ← readValue fuel depth c.advance
        readMembers fuel depth false c (insertEntry name value acc)
      else .error (c.failAhead .expectedColon)

end

/-- Reads a whole text: one value with blanks around it. -/
def read (bytes : List UInt8) : Except ReadError Json := do
  -- every value, item and member takes at least one byte, and two steps at most
  let (value, c) ← readValue (2 * bytes.length + 2) maxDepth (Cursor.start bytes)
  let c := c.skipBlanks
  match c.rest with
  | [] => .ok value
  | _ => .error (c.failAhead .trailingCharacters)

end Messaging.Json
