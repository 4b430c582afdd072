/-!
# Spans of time

- `Span` is a length of time in nanoseconds.
- `Span.describe` shows a span in the largest unit that it fills.
-/

namespace Messaging.Time

/-- A length of time. -/
structure Span where
  /-- The length in nanoseconds. -/
  nanos : Nat
deriving DecidableEq, Repr, Inhabited

namespace Span

/-- Nanoseconds of a second. -/
def perSecond : Nat := 1000000000

/-- A number of whole seconds. -/
def ofSeconds (seconds : Nat) : Span := ⟨seconds * perSecond⟩

/-- A number of whole milliseconds. -/
def ofMillis (millis : Nat) : Span := ⟨millis * 1000000⟩

/-- The whole seconds of a span. -/
def seconds (span : Span) : Nat := span.nanos / perSecond

/-- The nanoseconds beyond the whole seconds of a span. -/
def subsecond (span : Span) : Nat := span.nanos % perSecond

/-- The whole milliseconds of a span. -/
def millis (span : Span) : Nat := span.nanos / 1000000

/-- A decimal with a fraction of `places` digits, without the zeros at its end. -/
def decimal (whole fraction places : Nat) : String :=
  let digits := (Nat.toDigits 10 fraction).leftpad places '0'
  let kept := (digits.reverse.dropWhile (· == '0')).reverse
  if kept.isEmpty then toString whole else toString whole ++ "." ++ String.ofList kept

/-- A span in seconds, milliseconds, microseconds or nanoseconds, the first of these of which it
holds at least one. -/
def describe (span : Span) : String :=
  let n := span.nanos
  if perSecond ≤ n then decimal (n / perSecond) (n % perSecond) 9 ++ "s"
  else if 1000000 ≤ n then decimal (n / 1000000) (n % 1000000) 6 ++ "ms"
  else if 1000 ≤ n then decimal (n / 1000) (n % 1000) 3 ++ "µs"
  else toString n ++ "ns"

end Span

end Messaging.Time
