import Messaging.Time.Wire

/-!
# Times in JSON

Times inside JSON values are written as `year-month-dayThour:minute:second.fractionZ`.

- `Rfc3339.write` gives the fraction three, six or nine digits, or none where it is zero.
- `Rfc3339.read` takes any offset, white space between the fields, and fractions of any length.
-/

namespace Messaging.Time.Rfc3339

/-- The fraction of a second, in as few groups of three digits as hold it. -/
def writeFraction (nanos : Nat) : String :=
  if nanos = 0 then ""
  else if nanos % 1000000 = 0 then "." ++ Wire.padded 3 (nanos / 1000000)
  else if nanos % 1000 = 0 then "." ++ Wire.padded 6 (nanos / 1000)
  else "." ++ Wire.padded 9 nanos

/-- An instant as JSON text. -/
def write (t : Instant) : String :=
  Wire.writeDate t ++ "T" ++ Wire.writeTimeOfDay t ++
    writeFraction (t.nanos % Span.perSecond) ++ "Z"

/-- Reads the fraction of a second in nanoseconds; digits after the ninth are dropped. -/
def fraction : List Char → Except Fault (Nat × List Char)
  | '.' :: cs => do
    let (value, rest) ← Scan.number 1 9 cs
    let nanos := value * Nat.pow 10 (9 - (cs.length - rest.length))
    .ok (nanos, rest.dropWhile fun c => (Scan.digit? c).isSome)
  | cs => .ok (0, cs)

/-- Reads an offset in seconds: the letter Z, the letters UTC, or a sign with hours and minutes. -/
def offset (cs : List Char) : Except Fault (Int × List Char) :=
  match cs with
  | 'Z' :: cs | 'z' :: cs => .ok (0, cs)
  | u :: t :: c :: rest =>
    if u.toLower = 'u' ∧ t.toLower = 't' ∧ c.toLower = 'c' then .ok (0, rest) else signed cs
  | _ => signed cs
where
  /-- Reads two digits of which the first is at most `top`. -/
  twoDigits (top : Nat) (cs : List Char) : Except Fault (Nat × List Char) :=
    if Scan.byteLength cs < 2 then .error .tooShort
    else
      match cs with
      | a :: b :: rest =>
        match Scan.digit? a, Scan.digit? b with
        | some x, some y => if x ≤ top then .ok (10 * x + y, rest) else .error .outOfRange
        | _, _ => .error .invalid
      | _ => .error .invalid
  /-- Reads a sign, two digits of hours and two of minutes, with any colons and blanks between. -/
  signed (cs : List Char) : Except Fault (Int × List Char) := do
    let (negative, cs) ← match cs with
      | [] => .error .tooShort
      | '+' :: cs => .ok (false, cs)
      | '-' :: cs => .ok (true, cs)
      | '−' :: cs => .ok (true, cs)
      | _ => .error .invalid
    let (hours, cs) ← twoDigits 9 cs
    let (minutes, cs) ← twoDigits 5 (cs.dropWhile fun c => c == ':' || Text.isBlank c)
    let seconds : Int := hours * 3600 + minutes * 60
    .ok (if negative then -seconds else seconds, cs)

/-- Reads a written time. -/
def read (text : String) : Except Fault Instant := do
  let (year, cs) ← Scan.year text.toList
  let cs ← Scan.literal '-' (Scan.skipBlanks cs)
  let (month, cs) ← Scan.smallField 1 12 cs
  let cs ← Scan.literal '-' (Scan.skipBlanks cs)
  let (day, cs) ← Scan.smallField 1 31 cs
  let cs ← match cs with
    | 't' :: cs | 'T' :: cs | ' ' :: cs => .ok cs
    | [] => .error .tooShort
    | _ => .error .invalid
  let (hour, cs) ← Scan.smallField 0 23 cs
  let cs ← Scan.literal ':' (Scan.skipBlanks cs)
  let (minute, cs) ← Scan.smallField 0 59 cs
  let cs ← Scan.literal ':' (Scan.skipBlanks cs)
  let (second, cs) ← Scan.smallField 0 60 cs
  let (nanos, cs) ← fraction cs
  let (shift, cs) ← offset (Scan.skipBlanks cs)
  if !(Scan.skipBlanks cs).isEmpty then .error .tooLong
  else
    let civil ← Wire.assemble year month day hour minute second nanos
    let t : Instant := ⟨civil.seconds - shift, civil.nanos⟩
    if shift.natAbs < Instant.perDay ∧ t.Representable then .ok t else .error .outOfRange

end Messaging.Time.Rfc3339
