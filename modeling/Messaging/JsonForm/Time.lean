import Messaging.JsonForm.Basic
import Messaging.Time.Wire

/-!
# Times in JSON forms

A time stands as header text, or relative to the clock: `<now+60>` is a minute later.

- `Reading` reads with a clock that moves on with every look at it.
- `readTime` reads a time and `ofTime` writes one; what lies within 400 days of the clock is written
  relative to it, rounded to ten seconds.
-/

namespace Messaging.JsonForm

open Time (Instant)

/-- A reader with a clock. -/
abbrev Reading := StateM Instant

/-- Reads the clock. -/
def readClock : Reading Instant := do
  let now ← get
  set (now.plus ⟨1000⟩)
  pure now

/-- The seconds of a relative time. -/
def relative? (text : String) : Option Int :=
  match text.toList with
  | '<' :: 'n' :: 'o' :: 'w' :: sign :: rest =>
    match (String.ofList rest.dropLast).toNat?, sign with
    | some n, '+' => some n
    | some n, '-' => some (-n)
    | _, _ => none
  | _ => none

/-- Reads a time. -/
def readTime (value : Json) : Reading Instant := do
  let text := asText value
  match relative? text with
  | some offset => do
    let now ← readClock
    pure ⟨now.seconds + offset, now.nanos⟩
  | none => pure ((Time.Wire.read text).toOption.getD ⟨0, 0⟩)

/-- Reads a time that may be missing. -/
def readTime? (value : Json) : Reading (Option Instant) :=
  if isNull value then pure none else some <$> readTime value

/-- Milliseconds within which times are written relative to the clock: 400 days. -/
def nearMillis : Nat := 34560000000

/-- The whole milliseconds from the clock to a time. -/
def millisFrom (now t : Instant) : Int := (t.nanosSince now).tdiv 1000000

/-- Whether a time is written relative to the clock. -/
def isNear (now t : Instant) : Bool := (millisFrom now t).natAbs ≤ nearMillis

/-- A time relative to the clock. -/
def relativeText (now t : Instant) : String :=
  let n := (millisFrom now t + 5000).fdiv 10000 * 10
  "<now" ++ (if n < 0 then "-" else "+") ++ toString n.natAbs ++ ">"

/-- A time. -/
def ofTime (now t : Instant) : Json :=
  .string (if isNear now t then relativeText now t else Time.Wire.write t)

/-- A time in seconds and nanoseconds. -/
def ofExactTime (t : Instant) : Json :=
  .ofMembers [("secs", .integer t.seconds), ("nanos", .ofNat t.nanos)]

end Messaging.JsonForm
