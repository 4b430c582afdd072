import Messaging.Time.Calendar
import Messaging.Time.Span

/-!
# Instants

Points in universal time, within the years that the calendar of the bus covers.

- `Instant` counts seconds from the first of January 1970; inside a leap second its nanoseconds
  run on above one billion.
- `Instant.Representable` says which instants there are.
- `Instant.later` moves an instant forward and stops at the last one.
-/

namespace Messaging.Time

/-- A point in universal time. -/
structure Instant where
  /-- Whole seconds since the first of January 1970, without leap seconds. -/
  seconds : Int
  /-- Nanoseconds since then; from one billion on the instant lies in a leap second. -/
  nanos : Nat
deriving DecidableEq, Repr, Inhabited

namespace Instant

/-- Seconds of a day. -/
def perDay : Nat := 86400

/-- The first year. -/
def firstYear : Int := -262143

/-- The last year. -/
def lastYear : Int := 262142

/-- The first second. -/
def firstSecond : Int := daysOf ⟨firstYear, 1, 1⟩ * perDay

/-- The last second. -/
def lastSecond : Int := daysOf ⟨lastYear + 1, 1, 1⟩ * perDay - 1

/-- The last instant outside a leap second. -/
def last : Instant := ⟨lastSecond, 999999999⟩

/-- Whether an instant lies within the years that are covered. -/
def Representable (t : Instant) : Prop :=
  firstSecond ≤ t.seconds ∧ t.seconds ≤ lastSecond ∧ t.nanos < 2 * Span.perSecond

instance (t : Instant) : Decidable t.Representable := by unfold Representable; infer_instance

/-- The instant of a number of seconds and nanoseconds; a leap second follows the last second of a
minute. -/
def ofSeconds? (seconds : Int) (nanos : Nat) : Option Instant :=
  let t : Instant := ⟨seconds, nanos⟩
  if t.Representable ∧ (nanos < Span.perSecond ∨ seconds % 60 = 59) then some t else none

/-- The instant of a date and a time of day, given in seconds. -/
def ofDate (date : Date) (secondOfDay nanos : Nat) : Instant :=
  ⟨daysOf date * perDay + secondOfDay, nanos⟩

/-- The date of an instant. -/
def date (t : Instant) : Date := dateOf (t.seconds / perDay)

/-- The seconds of the day of an instant. -/
def secondOfDay (t : Instant) : Nat := (t.seconds % perDay).toNat

/-- Whether one instant comes before another. -/
def before (a b : Instant) : Bool :=
  a.seconds < b.seconds || (a.seconds == b.seconds && a.nanos < b.nanos)

instance : LT Instant := ⟨fun a b => a.before b = true⟩

instance : LE Instant := ⟨fun a b => ¬ b < a⟩

instance (a b : Instant) : Decidable (a < b) := inferInstanceAs (Decidable (a.before b = true))

instance (a b : Instant) : Decidable (a ≤ b) := inferInstanceAs (Decidable (¬ b < a))

/-- The earlier of two instants. -/
def min (a b : Instant) : Instant := if b < a then b else a

/-- The later of two instants. -/
def max (a b : Instant) : Instant := if a < b then b else a

/-- The instant a span later. A span that leaves a leap second leaves it out of the count. -/
def plus (t : Instant) (span : Span) : Instant :=
  if Span.perSecond ≤ t.nanos ∧ span.seconds = 0 ∧ t.nanos + span.nanos < 2 * Span.perSecond then
    ⟨t.seconds, t.nanos + span.nanos⟩
  else
    let nanos := t.nanos % Span.perSecond + span.subsecond
    ⟨t.seconds + span.seconds + (nanos / Span.perSecond : Nat), nanos % Span.perSecond⟩

/-- The instant a span later, but none after the last. -/
def later (t : Instant) (span : Span) : Instant :=
  let u := t.plus span
  if u.Representable then u else last

/-- The instant a span earlier. Less than a second leads from a leap second into itself or the
second before it. -/
def minus (t : Instant) (span : Span) : Instant :=
  if Span.perSecond ≤ t.nanos ∧ span.seconds = 0 then ⟨t.seconds, t.nanos - span.nanos⟩
  else
    let n : Int := t.seconds * Span.perSecond + t.nanos - span.nanos
    ⟨n / Span.perSecond, (n % Span.perSecond).toNat⟩

/-- Nanoseconds from one instant to another, negative when the other is earlier. -/
def nanosSince (t origin : Instant) : Int :=
  (t.seconds - origin.seconds) * Span.perSecond + ((t.nanos : Int) - origin.nanos)

/-- An instant cut down to whole microseconds. -/
def wholeMicros (t : Instant) : Instant := ⟨t.seconds, t.nanos / 1000 * 1000⟩

end Instant

end Messaging.Time
