import Messaging.Time.Calendar
import Messaging.Toml.Basic

/-!
# Reading TOML

- `Toml.read` reads a document, and refuses what is not written as one.
- The readers of values return the value with the characters after it.
-/

namespace Messaging.Toml

/-- A reader: what was read and the characters after it. -/
abbrev Reader (α : Type) := List Char → Option (α × List Char)

/-- The longest chain of values inside values, and of parts of a key. -/
def maxDepth : Nat := 79

/-- Whether a character is a blank inside a line. -/
def isSpace (c : Char) : Bool := c == ' ' || c == '\t'

/-- The characters after blanks. -/
def skipSpaces (cs : List Char) : List Char := cs.dropWhile isSpace

/-- The characters after the end of a line. -/
def newline? : List Char → Option (List Char)
  | '\n' :: cs => some cs
  | '\r' :: '\n' :: cs => some cs
  | _ => none

/-- Whether a character may stand in a comment. -/
def isCommentChar (c : Char) : Bool := c == '\t' || (' ' ≤ c && c ≠ '\x7f')

/-- The characters after a comment, if there is one. -/
def skipComment : List Char → List Char
  | '#' :: cs => cs.dropWhile isCommentChar
  | cs => cs

/-- The characters after blanks, a comment and the end of the line or the text. -/
def endLine? (cs : List Char) : Option (List Char) :=
  match skipComment (skipSpaces cs) with
  | [] => some []
  | cs => newline? cs

/-- The characters after blanks, comments and line ends. -/
def skipLines : Nat → List Char → List Char
  | 0, cs => cs
  | fuel + 1, cs =>
    let cs := skipComment (skipSpaces cs)
    match newline? cs with
    | some rest => skipLines fuel rest
    | none => cs

/-! ### Texts -/

/-- The value of a hexadecimal digit. -/
def hexDigit? (c : Char) : Option Nat :=
  if '0' ≤ c ∧ c ≤ '9' then some (c.toNat - '0'.toNat)
  else if 'a' ≤ c ∧ c ≤ 'f' then some (c.toNat - 'a'.toNat + 10)
  else if 'A' ≤ c ∧ c ≤ 'F' then some (c.toNat - 'A'.toNat + 10)
  else none

/-- Reads a code point of a number of hexadecimal digits. -/
def readCodePoint : Nat → Nat → Reader Char
  | 0, value, cs => if value.isValidChar then some (Char.ofNat value, cs) else none
  | n + 1, value, c :: cs => do
    let d ← hexDigit? c
    readCodePoint n (16 * value + d) cs
  | _ + 1, _, [] => none

/-- Reads an escape after its backslash. -/
def readEscape : Reader Char
  | 'b' :: cs => some ('\x08', cs)
  | 't' :: cs => some ('\t', cs)
  | 'n' :: cs => some ('\n', cs)
  | 'f' :: cs => some ('\x0c', cs)
  | 'r' :: cs => some ('\r', cs)
  | '"' :: cs => some ('"', cs)
  | '\\' :: cs => some ('\\', cs)
  | 'u' :: cs => readCodePoint 4 0 cs
  | 'U' :: cs => readCodePoint 8 0 cs
  | _ => none

/-- Whether a character may stand in a text on one line. -/
def isTextChar (c : Char) : Bool := isCommentChar c

/-- Reads a text in double quotes after the opening one. -/
def readBasic : Nat → List Char → Reader String
  | 0, _, _ => none
  | _ + 1, _, [] => none
  | fuel + 1, acc, c :: cs =>
    if c = '"' then some (String.ofList acc.reverse, cs)
    else if c = '\\' then do
      let (escaped, cs) ← readEscape cs
      readBasic fuel (escaped :: acc) cs
    else if isTextChar c then readBasic fuel (c :: acc) cs
    else none

/-- Reads a text in single quotes after the opening one. -/
def readLiteral (cs : List Char) : Option (String × List Char) :=
  match cs.dropWhile fun c => isTextChar c && c != '\'' with
  | '\'' :: rest => some (String.ofList (cs.takeWhile fun c => isTextChar c && c != '\''), rest)
  | _ => none

/-- The characters after blanks and line ends, of which one line end comes first. -/
def skipBreak? (cs : List Char) : Option (List Char) := do
  let rest ← newline? (skipSpaces cs)
  some (go (rest.length + 1) rest)
where
  /-- Moves over blanks and line ends. -/
  go : Nat → List Char → List Char
  | 0, cs => cs
  | fuel + 1, cs =>
    match newline? (skipSpaces cs) with
    | some rest => go fuel rest
    | none => skipSpaces cs

/-- Reads a text over several lines after the opening quotes; `quote` is the quote, and `escapes`
says whether backslashes escape. Two quotes before the closing three belong to the text. -/
def readLong (quote : Char) (escapes : Bool) : Nat → List Char → Reader String
  | 0, _, _ => none
  | _ + 1, _, [] => none
  | fuel + 1, acc, c :: cs =>
    if c = quote then
      let quotes := (c :: cs).takeWhile (· = quote)
      let n := quotes.length
      -- fewer than three quotes are part of the text
      if n < 3 then readLong quote escapes fuel (quotes ++ acc) ((c :: cs).drop n)
      else if n ≤ 5 then
        some (String.ofList (List.replicate (n - 3) quote ++ acc).reverse, (c :: cs).drop n)
      else none
    else if escapes ∧ c = '\\' then
      match skipBreak? cs with
      | some cs => readLong quote escapes fuel acc cs
      | none => do
        let (escaped, cs) ← readEscape cs
        readLong quote escapes fuel (escaped :: acc) cs
    else
      match newline? (c :: cs) with
      | some cs => readLong quote escapes fuel ('\n' :: acc) cs
      | none => if isTextChar c then readLong quote escapes fuel (c :: acc) cs else none

/-- The characters after a line end that comes first. -/
def dropFirstBreak (cs : List Char) : List Char := (newline? cs).getD cs

/-- Reads a text on one line. -/
def readShortText : Reader String
  | '"' :: cs => readBasic (cs.length + 1) [] cs
  | '\'' :: cs => readLiteral cs
  | _ => none

/-- Reads a text. -/
def readText : Reader String
  | '"' :: '"' :: '"' :: cs => readLong '"' true (cs.length + 1) [] (dropFirstBreak cs)
  | '\'' :: '\'' :: '\'' :: cs => readLong '\'' false (cs.length + 1) [] (dropFirstBreak cs)
  | cs => readShortText cs

/-! ### Keys -/

/-- Whether a character may stand in a key without quotes. -/
def isKeyChar (c : Char) : Bool := c.isAlphanum || c == '_' || c == '-'

/-- Reads one part of a key. -/
def readKeyPart (cs : List Char) : Option (String × List Char) :=
  match cs.takeWhile isKeyChar with
  | [] => readShortText cs
  | part => some (String.ofList part, cs.drop part.length)

/-- Reads a key of at most `n` parts with blanks around each. -/
def readKey : Nat → Reader (List String)
  | 0, _ => none
  | n + 1, cs => do
    let (part, cs) ← readKeyPart (skipSpaces cs)
    match skipSpaces cs with
    | '.' :: cs =>
      let (parts, cs) ← readKey n cs
      some (part :: parts, cs)
    | cs => some ([part], cs)

/-! ### Numbers and dates -/

/-- Reads digits with single underscores between them. -/
def readDigits (isDigit : Char → Bool) : Nat → Reader (List Char)
  | 0, _ => none
  | fuel + 1, c :: cs =>
    if isDigit c then
      match cs with
      -- an underscore stands between two digits only
      | '_' :: next :: rest =>
        if isDigit next then do
          let (digits, cs) ← readDigits isDigit fuel (next :: rest)
          some (c :: digits, cs)
        else none
      | next :: rest =>
        if isDigit next then do
          let (digits, cs) ← readDigits isDigit fuel (next :: rest)
          some (c :: digits, cs)
        else some ([c], next :: rest)
      | [] => some ([c], [])
    else none
  | _ + 1, [] => none

/-- Whether a character is a decimal digit. -/
def isDecimal (c : Char) : Bool := '0' ≤ c && c ≤ '9'

/-- Reads decimal digits with underscores between them. -/
def readDecimals (cs : List Char) : Option (List Char × List Char) :=
  readDigits isDecimal (cs.length + 1) cs

/-- The number of digits in a base. -/
def valueOf (base : Nat) (digits : List Char) : Nat :=
  digits.foldl (fun n c => n * base + (hexDigit? c).getD 0) 0

/-- An integer that fits 64 bits. -/
def bounded (n : Int) : Option Int :=
  if -9223372036854775808 ≤ n ∧ n ≤ 9223372036854775807 then some n else none

/-- Reads an integer after a prefix that names its base. -/
def readBased (base : Nat) (isDigit : Char → Bool) (cs : List Char) :
    Option (Toml × List Char) := do
  let (digits, cs) ← readDigits isDigit (cs.length + 1) cs
  some (.integer (← bounded (valueOf base digits)), cs)

/-- Reads a sign. -/
def readSign : List Char → Bool × List Char
  | '-' :: cs => (true, cs)
  | '+' :: cs => (false, cs)
  | cs => (false, cs)

/-- Reads the whole digits of a decimal number: a lone zero or digits that start with none. -/
def readWhole : Reader (List Char)
  | '0' :: cs => some (['0'], cs)
  | cs => readDecimals cs

/-- Reads an exponent after its letter. -/
def readExponent (cs : List Char) : Option (Int × List Char) := do
  let (negative, cs) := readSign cs
  let (digits, cs) ← readDecimals cs
  let n : Int := valueOf 10 digits
  some (if negative then -n else n, cs)

/-- The number of a significand and a power of ten, unless it is too large; a power beyond the
range of the numbers counts as one at its end. -/
def floatOf (negative : Bool) (significand : Nat) (exponent : Int) : Option Toml :=
  let exponent := max (-5000) (min 5000 exponent)
  match Binary64.scale negative significand exponent with
  | some x => some (.float x)
  | none => if negative then some (.float (Binary64.zero true)) else none

/-- Reads what follows the whole digits of a decimal number. -/
def readNumberEnd (negative : Bool) (whole : List Char) : Reader Toml
  | '.' :: cs => do
    let (fraction, cs) ← readDecimals cs
    let (exponent, cs) ← match cs with
      | 'e' :: cs | 'E' :: cs => readExponent cs
      | cs => some (0, cs)
    some (← floatOf negative (valueOf 10 (whole ++ fraction)) (exponent - fraction.length), cs)
  | 'e' :: cs | 'E' :: cs => do
    let (exponent, cs) ← readExponent cs
    some (← floatOf negative (valueOf 10 whole) exponent, cs)
  | cs => do
    let n : Int := valueOf 10 whole
    some (.integer (← bounded (if negative then -n else n)), cs)

/-- Reads a number. -/
def readNumber : Reader Toml
  | '0' :: 'x' :: cs => readBased 16 (fun c => (hexDigit? c).isSome) cs
  | '0' :: 'o' :: cs => readBased 8 (fun c => '0' ≤ c && c ≤ '7') cs
  | '0' :: 'b' :: cs => readBased 2 (fun c => c == '0' || c == '1') cs
  | cs =>
    let (negative, cs) := readSign cs
    match cs with
    | 'i' :: 'n' :: 'f' :: cs => some (.float (Binary64.zero negative), cs)
    -- no setting holds such a number, so its kind is all that counts
    | 'n' :: 'a' :: 'n' :: cs => some (.float (Binary64.zero negative), cs)
    | cs => do
      let (whole, cs) ← readWhole cs
      readNumberEnd negative whole cs

/-- Reads a number of `n` decimal digits between two bounds. -/
def readField (n low high : Nat) (cs : List Char) : Option (Nat × List Char) :=
  let digits := cs.take n
  let value := valueOf 10 digits
  if digits.length = n ∧ digits.all isDecimal ∧ low ≤ value ∧ value ≤ high then
    some (value, cs.drop n)
  else none

/-- Reads a character that has to stand there. -/
def expect (c : Char) : List Char → Option (List Char)
  | d :: cs => if c = d then some cs else none
  | [] => none

/-- The characters after a time of day. -/
def skipTime? (cs : List Char) : Option (List Char) := do
  let (_, cs) ← readField 2 0 23 cs
  let cs ← expect ':' cs
  let (_, cs) ← readField 2 0 59 cs
  let cs ← expect ':' cs
  let (_, cs) ← readField 2 0 60 cs
  match cs with
  | '.' :: cs =>
    if (cs.takeWhile isDecimal).isEmpty then none else some (cs.dropWhile isDecimal)
  | cs => some cs

/-- The characters after the offset of a time, if there is one. -/
def skipOffset? : List Char → Option (List Char)
  | 'Z' :: cs | 'z' :: cs => some cs
  | '+' :: cs | '-' :: cs => do
    let (_, cs) ← readField 2 0 23 cs
    let cs ← expect ':' cs
    let (_, cs) ← readField 2 0 59 cs
    some cs
  | cs => some cs

/-- The characters after a date and what follows it of a time of day. -/
def skipDate? (cs : List Char) : Option (List Char) := do
  let (year, cs) ← readField 4 0 9999 cs
  let cs ← expect '-' cs
  let (month, cs) ← readField 2 1 12 cs
  let cs ← expect '-' cs
  let (_, cs) ← readField 2 1 (Time.daysInMonth year month) cs
  match cs with
  | 'T' :: rest | 't' :: rest => do skipOffset? (← skipTime? rest)
  | ' ' :: rest =>
    -- a blank and no time of day after it ends the date
    match skipTime? rest with
    | some rest => skipOffset? rest
    | none => some cs
  | _ => some cs

/-- Reads a date or a time of day. -/
def readDate (cs : List Char) : Option (Toml × List Char) := do
  let rest ← (skipDate? cs).orElse fun _ => skipTime? cs
  some (.date (String.ofList (cs.take (cs.length - rest.length))), rest)

/-! ### Values -/

/-- Reads a word that stands for a value. -/
def readWord (word : String) (value : Toml) (cs : List Char) : Option (Toml × List Char) :=
  if word.toList.isPrefixOf cs then some (value, cs.drop word.length) else none

mutual

/-- Reads a value; `depth` is how many more lists and tables may open. -/
def readValue : Nat → Nat → Reader Toml
  | 0, _, _ => none
  | fuel + 1, depth, cs =>
    match cs with
    | '"' :: _ | '\'' :: _ => (readText cs).map fun (read, rest) => (.text read, rest)
    | 't' :: _ => readWord "true" (.boolean true) cs
    | 'f' :: _ => readWord "false" (.boolean false) cs
    | '[' :: rest =>
      match depth with
      | 0 => none
      | depth + 1 => readItems fuel depth [] rest
    | '\x7b' :: rest =>
      match depth with
      | 0 => none
      | depth + 1 =>
        match skipSpaces rest with
        | '\x7d' :: rest => some (.inline [], rest)
        | rest => readMembers fuel depth [] rest
    | _ => (readDate cs).orElse fun _ => readNumber cs

/-- Reads the items of a list after its bracket or a comma. -/
def readItems : Nat → Nat → List Toml → Reader Toml
  | 0, _, _, _ => none
  | fuel + 1, depth, acc, cs =>
    match skipLines (cs.length + 1) cs with
    | ']' :: rest => some (.array acc.reverse, rest)
    | cs => do
      let (item, cs) ← readValue fuel depth cs
      match skipLines (cs.length + 1) cs with
      | ',' :: rest => readItems fuel depth (item :: acc) rest
      | ']' :: rest => some (.array (item :: acc).reverse, rest)
      | _ => none

/-- Reads the members of a table on one line after its brace or a comma. -/
def readMembers : Nat → Nat → Members → Reader Toml
  | 0, _, _, _ => none
  | fuel + 1, depth, acc, cs => do
    let (key, cs) ← readKey maxDepth cs
    let cs ← expect '=' cs
    let (value, cs) ← readValue fuel depth (skipSpaces cs)
    let acc ← define key.dropLast (key.getLast?.getD "") value acc
    match skipSpaces cs with
    | ',' :: rest => readMembers fuel depth acc rest
    | '\x7d' :: rest => some (.inline acc, rest)
    | _ => none

end

/-! ### Documents -/

/-- Reads a document line by line; `path` is the table of the last header. -/
def readLines : Nat → List String → Members → List Char → Option Members
  | 0, _, _, _ => none
  | fuel + 1, path, root, cs =>
    match skipSpaces cs with
    | [] => some root
    | '[' :: '[' :: rest => do
      let (key, rest) ← readKey maxDepth rest
      let rest ← expect ']' (← expect ']' rest)
      let rest ← endLine? rest
      -- the tables and values that follow belong to the new item
      let root ← change key.dropLast (openItem (key.getLast?.getD "")) root
      readLines fuel key root rest
    | '[' :: rest => do
      let (key, rest) ← readKey maxDepth rest
      let rest ← endLine? (← expect ']' rest)
      let root ← change key.dropLast (openTable (key.getLast?.getD "")) root
      readLines fuel key root rest
    | c :: rest => do
      if c = '#' ∨ (newline? (c :: rest)).isSome then
        readLines fuel path root (← endLine? (c :: rest))
      else
        let (key, rest) ← readKey maxDepth (c :: rest)
        let rest ← expect '=' rest
        let (value, rest) ← readValue (2 * rest.length + 2) maxDepth (skipSpaces rest)
        let rest ← endLine? rest
        let root ← change path (define key.dropLast (key.getLast?.getD "") value) root
        readLines fuel path root rest

/-- Reads a document; a byte order mark before it is passed over. -/
def read (document : String) : Option Toml :=
  let cs :=
    match document.toList with
    | '\uFEFF' :: cs => cs
    | cs => cs
  (readLines (cs.length + 1) [] [] cs).map (.table .header)

end Messaging.Toml
