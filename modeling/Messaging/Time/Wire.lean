import Messaging.Time.Instant
import Messaging.Time.Scan

/-!
# Times in headers

Times travel in headers as `year-month-day hour:minute:second:micros Z`, in universal time.

- `Wire.write` writes an instant, `Wire.read` reads one.
- White space around the text and at the blanks of the format is free, and numbers need no leading
  zeros; the fraction has six digits.
-/

namespace Messaging.Time.Wire

/-- A number with at least `width` digits. -/
def padded (width n : Nat) : String :=
  String.ofList ((Nat.toDigits 10 n).leftpad width '0')

/-- A year: four digits, and a sign outside the first ten thousand years. -/
def writeYear (year : Int) : String :=
  if 0 ≤ year ∧ year ≤ 9999 then padded 4 year.toNat
  else (if year < 0 then "-" else "+") ++ padded 4 year.natAbs

/-- The time of day of an instant; the second of a leap second is sixty. -/
def writeTimeOfDay (t : Instant) : String :=
  let s := t.secondOfDay
  padded 2 (s / 3600) ++ ":" ++ padded 2 (s / 60 % 60) ++ ":" ++
    padded 2 (s % 60 + t.nanos / Span.perSecond)

/-- The date of an instant. -/
def writeDate (t : Instant) : String :=
  let d := t.date
  writeYear d.year ++ "-" ++ padded 2 d.month ++ "-" ++ padded 2 d.day

/-- An instant as header text. -/
def write (t : Instant) : String :=
  writeDate t ++ " " ++ writeTimeOfDay t ++ ":" ++
    padded 6 (t.nanos % Span.perSecond / 1000) ++ " Z"

/-- The instant of the fields of a written time; second sixty is a leap second. -/
def assemble (year : Int) (month day hour minute second nanos : Nat) : Except Fault Instant :=
  let date : Date := ⟨year, month, day⟩
  if date.exists ∧ Instant.firstYear ≤ year ∧ year ≤ Instant.lastYear then
    let leap := second = 60
    .ok (.ofDate date (hour * 3600 + minute * 60 + (if leap then 59 else second))
      (nanos + if leap then Span.perSecond else 0))
  else .error .outOfRange

/-- Reads a written time. -/
def read (text : String) : Except Fault Instant := do
  let cs := Text.trimChars text.toList
  let (year, cs) ← Scan.year cs
  let cs ← Scan.literal '-' cs
  let (month, cs) ← Scan.smallField 1 12 cs
  let cs ← Scan.literal '-' cs
  let (day, cs) ← Scan.smallField 1 31 cs
  let (hour, cs) ← Scan.smallField 0 23 (Scan.skipBlanks cs)
  let cs ← Scan.literal ':' cs
  let (minute, cs) ← Scan.smallField 0 59 cs
  let cs ← Scan.literal ':' cs
  let (second, cs) ← Scan.smallField 0 60 cs
  let cs ← Scan.literal ':' cs
  let (micros, cs) ← Scan.number 6 6 cs
  let cs ← Scan.literal 'Z' (Scan.skipBlanks cs)
  if cs.isEmpty then assemble year month day hour minute second (micros * 1000)
  else .error .tooLong

end Messaging.Time.Wire
