/-!
# The calendar

Dates of the Gregorian calendar, extended to all years, as numbers of days.

- `daysOf` counts the days from the first of January 1970 to a date.
- `dateOf` is the date of a number of days.
- `daysInMonth` is the length of a month.
-/

namespace Messaging.Time

/-- A day of the calendar. -/
structure Date where
  /-- The year; the year before year one is year zero. -/
  year : Int
  /-- The month, from one to twelve. -/
  month : Nat
  /-- The day of the month, from one. -/
  day : Nat
deriving DecidableEq, Repr

/-- Whether a year has a twenty-ninth of February. -/
def isLeapYear (year : Int) : Bool :=
  year % 4 == 0 && (year % 100 != 0 || year % 400 == 0)

/-- The number of days of a month. -/
def daysInMonth (year : Int) (month : Nat) : Nat :=
  if month = 2 then (if isLeapYear year then 29 else 28)
  else if month = 4 ∨ month = 6 ∨ month = 9 ∨ month = 11 then 30
  else 31

/-- Whether a date stands in the calendar. -/
def Date.exists (date : Date) : Bool :=
  1 ≤ date.month && date.month ≤ 12 && 1 ≤ date.day &&
    date.day ≤ daysInMonth date.year date.month

/-- Days from the first of March of year zero to the first of March of a year. -/
def marchDays (year : Int) : Int :=
  365 * year + year / 4 - year / 100 + year / 400

/-- Days from the first of March of year zero to the first of January 1970. -/
def epochOffset : Int := 719468

/-- The year whose first of March is the last on or before a day, counted from year zero. -/
def marchYear (days : Int) : Int :=
  let year := 400 * days / 146097
  if days < marchDays year then year - 1
  else if marchDays (year + 1) ≤ days then year + 1
  else year

/-- Days from the first of March to the first of a month, the months counted from March. -/
def monthDays (month : Nat) : Nat := (153 * month + 2) / 5

/-- Days from the first of January 1970 to a date. -/
def daysOf (date : Date) : Int :=
  let year := if date.month ≤ 2 then date.year - 1 else date.year
  marchDays year + (monthDays ((date.month + 9) % 12) + date.day - 1 : Nat) - epochOffset

/-- The date a number of days after the first of January 1970. -/
def dateOf (days : Int) : Date :=
  let days := days + epochOffset
  let year := marchYear days
  let inYear := (days - marchDays year).toNat
  let month := (5 * inYear + 2) / 153
  let day := inYear - monthDays month + 1
  if month < 10 then ⟨year, month + 3, day⟩ else ⟨year + 1, month - 9, day⟩

end Messaging.Time
