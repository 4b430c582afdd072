import Mathlib.Tactic.IntervalCases
import Messaging.Time.Instant

/-!
# Dates and days

The date of a day number stands in the calendar and has that day number.

- `marchYear_spec` says that a day lies between the first of March of its year and the next one.
- `daysOf_dateOf`, `exists_dateOf` and `year_dateOf` are about the date of a day.
-/

namespace Messaging.Time

theorem daysInMonth_le (year : Int) (month : Nat) : daysInMonth year month ≤ 31 := by
  simp only [daysInMonth]
  split <;> try split
  all_goals omega

theorem marchDays_mono {y y' : Int} (h : y ≤ y') : marchDays y ≤ marchDays y' := by
  simp only [marchDays]
  omega

/-- A day lies in the year of its first of March. -/
theorem marchYear_spec (days : Int) :
    marchDays (marchYear days) ≤ days ∧ days < marchDays (marchYear days + 1) := by
  simp only [marchYear]
  -- the guess by the mean length of a year is wrong by one year at most
  split
  · next h =>
    simp only [marchDays] at *
    omega
  · split
    · next h h' =>
      simp only [marchDays] at *
      omega
    · next h h' => exact ⟨not_lt.1 h, not_le.1 h'⟩

/-- A year from March on has no more days than a leap year, and as many only if a leap day ends
it. -/
theorem marchDays_succ (y : Int) :
    marchDays (y + 1) = marchDays y + (if isLeapYear (y + 1) then 366 else 365) := by
  simp only [marchDays, isLeapYear, Bool.and_eq_true, Bool.or_eq_true, beq_iff_eq, bne_iff_ne]
  split <;> omega

/-- The date of a day, by the year that begins in March, the month of it and the day of that month,
all counted from zero. -/
theorem dateOf_eq (days : Int) :
    ∃ (year : Int) (month day : Nat), month ≤ 11 ∧
      days + epochOffset = marchDays year + (monthDays month + day : Nat) ∧
      monthDays month + day < monthDays (month + 1) ∧
      monthDays month + day < (if isLeapYear (year + 1) then 366 else 365) ∧
      dateOf days = if month < 10 then ⟨year, month + 3, day + 1⟩
        else ⟨year + 1, month - 9, day + 1⟩ := by
  obtain ⟨hfirst, hlast⟩ := marchYear_spec (days + epochOffset)
  rw [marchDays_succ] at hlast
  obtain ⟨inYear, hinYear⟩ : ∃ inYear : Nat,
      days + epochOffset = marchDays (marchYear (days + epochOffset)) + inYear :=
    ⟨_, by rw [Int.toNat_of_nonneg (sub_nonneg.2 hfirst)]; omega⟩
  have hlength : inYear < if isLeapYear (marchYear (days + epochOffset) + 1) then 366 else 365 := by
    split at hlast
    · next hleap => rw [if_pos hleap]; omega
    · next hleap => rw [if_neg hleap]; omega
  have hyear : inYear < 366 := hlength.trans_le (by split <;> omega)
  have hsub : (days + epochOffset - marchDays (marchYear (days + epochOffset))).toNat = inYear := by
    omega
  -- from March on five months have 153 days, and the division finds the month
  have hmonth : monthDays ((5 * inYear + 2) / 153) ≤ inYear ∧
      inYear < monthDays ((5 * inYear + 2) / 153 + 1) := by
    simp only [monthDays]
    omega
  refine ⟨marchYear (days + epochOffset), (5 * inYear + 2) / 153,
    inYear - monthDays ((5 * inYear + 2) / 153), by omega, ?_, ?_, ?_, ?_⟩
  · rw [Nat.add_sub_cancel' hmonth.1]
    exact hinYear
  · rw [Nat.add_sub_cancel' hmonth.1]
    exact hmonth.2
  · rw [Nat.add_sub_cancel' hmonth.1]
    exact hlength
  · rw [dateOf, hsub]

/-- The date of a day has the number of that day. -/
theorem daysOf_dateOf (days : Int) : daysOf (dateOf days) = days := by
  obtain ⟨year, month, day, hmonth, hdays, -, -, hdate⟩ := dateOf_eq days
  rw [hdate]
  split
  · have hmod : (month + 3 + 9) % 12 = month := by omega
    have hlate : ¬ month + 3 ≤ 2 := by omega
    simp only [daysOf, hmod, if_neg hlate]
    omega
  · have hmod : (month - 9 + 9) % 12 = month := by omega
    have hearly : month - 9 ≤ 2 := by omega
    simp only [daysOf, hmod, if_pos hearly, add_sub_cancel_right]
    omega

/-- The date of a day stands in the calendar. -/
theorem exists_dateOf (days : Int) : (dateOf days).exists = true := by
  obtain ⟨year, month, day, hmonth, -, hnext, hyear, hdate⟩ := dateOf_eq days
  rw [hdate]
  by_cases hfebruary : month = 11
  · -- February ends with the year from March on
    subst hfebruary
    simp only [monthDays] at hyear
    by_cases hleap : isLeapYear (year + 1) = true
    · simp [hleap] at hyear
      simp [Date.exists, daysInMonth, hleap]
      omega
    · simp [hleap] at hyear
      simp [Date.exists, daysInMonth, hleap]
      omega
  · -- any other month ends before the next one begins
    have hmonth : month ≤ 10 := by omega
    interval_cases month
    all_goals
      simp only [monthDays] at hnext
      simp [Date.exists, daysInMonth]
      omega

/-- The number of the first of January. -/
theorem daysOf_january (year : Int) :
    daysOf ⟨year, 1, 1⟩ = marchDays (year - 1) + 306 - epochOffset := by
  simp [daysOf, monthDays]

/-- A day lies in the year of its date. -/
theorem year_dateOf (days : Int) :
    daysOf ⟨(dateOf days).year, 1, 1⟩ ≤ days ∧ days < daysOf ⟨(dateOf days).year + 1, 1, 1⟩ := by
  obtain ⟨year, month, day, hmonth, hdays, hnext, hyear, hdate⟩ := dateOf_eq days
  have hsucc := marchDays_succ year
  have hprevious := marchDays_succ (year - 1)
  rw [sub_add_cancel] at hprevious
  rw [hdate, daysOf_january, daysOf_january, add_sub_cancel_right]
  -- up to December the date has the year that began in March, afterwards the next one
  split
  · have hautumn : monthDays (month + 1) ≤ 306 := by
      simp only [monthDays]
      omega
    simp only
    split at hprevious <;> omega
  · have hwinter : 306 ≤ monthDays month := by
      simp only [monthDays]
      omega
    simp only [add_sub_cancel_right]
    by_cases hleap : isLeapYear (year + 1) = true
    · simp [hleap] at hsucc hyear
      omega
    · simp [hleap] at hsucc hyear
      omega

theorem daysOf_january_mono {y y' : Int} (h : y ≤ y') :
    daysOf ⟨y, 1, 1⟩ ≤ daysOf ⟨y', 1, 1⟩ := by
  rw [daysOf_january, daysOf_january]
  have hmarch := marchDays_mono (sub_le_sub_right h 1)
  omega

/-- The date of an instant lies in the years that are covered. -/
theorem year_le_of_representable {t : Instant} (ht : t.Representable) :
    Instant.firstYear ≤ t.date.year ∧ t.date.year ≤ Instant.lastYear := by
  obtain ⟨hfirst, hlast, -⟩ := ht
  obtain ⟨hafter, hbefore⟩ := year_dateOf (t.seconds / Instant.perDay)
  rw [← Instant.date] at hafter hbefore
  simp only [Instant.firstSecond, Instant.lastSecond, Instant.perDay] at *
  constructor
  · by_contra hyear
    have hmono := daysOf_january_mono (Int.add_one_le_of_lt (not_le.1 hyear))
    omega
  · by_contra hyear
    have hmono := daysOf_january_mono (Int.add_one_le_of_lt (not_le.1 hyear))
    omega

end Messaging.Time
