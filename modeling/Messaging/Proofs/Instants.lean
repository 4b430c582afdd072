import Mathlib.Order.MinMax
import Messaging.Time.Instant

/-!
# The order of instants

- Instants are ordered linearly, first by their seconds and then by their nanoseconds.
- `Instant.minus_one_lt` and `Instant.lt_of_later_lt` say how the order goes with moving an instant.
-/

namespace Messaging.Time.Instant

theorem lt_iff (a b : Instant) :
    a < b ↔ a.seconds < b.seconds ∨ a.seconds = b.seconds ∧ a.nanos < b.nanos := by
  change a.before b = true ↔ _
  simp [before]

/-- Of two instants with the same seconds the one with no more nanoseconds is not later. -/
theorem le_iff (a b : Instant) :
    a ≤ b ↔ a.seconds < b.seconds ∨ a.seconds = b.seconds ∧ a.nanos ≤ b.nanos := by
  change ¬ b < a ↔ _
  rw [lt_iff]
  omega

instance : LinearOrder Instant where
  le_refl a := by rw [le_iff]; omega
  le_trans a b c hab hbc := by rw [le_iff] at *; omega
  lt_iff_le_not_ge a b := by rw [lt_iff, le_iff, le_iff]; omega
  le_antisymm a b hab hba := by
    obtain ⟨s, n⟩ := a
    obtain ⟨s', n'⟩ := b
    rw [le_iff] at hab hba
    simp only [mk.injEq]
    simp only at hab hba
    omega
  le_total a b := by rw [le_iff, le_iff]; omega
  toDecidableLE a b := inferInstance
  toDecidableLT a b := inferInstance
  toDecidableEq := inferInstance

/-- The earlier of two instants is their minimum. -/
theorem min_eq (a b : Instant) : a.min b = Min.min a b := by
  rw [min]
  split
  · next h => exact (min_eq_right h.le).symm
  · next h => exact (min_eq_left (not_lt.1 h)).symm

/-- The later of two instants is their maximum. -/
theorem max_eq (a b : Instant) : a.max b = Max.max a b := by
  rw [max]
  split
  · next h => exact (max_eq_right h.le).symm
  · next h => exact (max_eq_left (not_lt.1 h)).symm

/-- A nanosecond earlier is earlier. -/
theorem minus_one_lt (t : Instant) : t.minus ⟨1⟩ < t := by
  rw [lt_iff, minus]
  split
  · next h =>
    -- inside a leap second the nanoseconds alone go back
    exact .inr ⟨rfl, Nat.sub_lt (Nat.lt_of_lt_of_le (by decide) h.1) Nat.one_pos⟩
  · next h =>
    have hnanos : t.nanos < Span.perSecond := by
      by_contra hleap
      exact h ⟨not_lt.1 hleap, rfl⟩
    simp only [Span.perSecond] at *
    omega

/-- A second or more later is later. -/
theorem lt_plus (t : Instant) {span : Span} (hspan : 1 ≤ span.seconds) : t < t.plus span := by
  rw [lt_iff, plus, if_neg (by omega)]
  left
  simp only [Span.perSecond]
  omega

/-- What is later than an instant moved forward by a second or more is later than the instant. -/
theorem lt_of_later_lt {t due : Instant} {span : Span} (hspan : 1 ≤ span.seconds)
    (ht : t ≤ last) (hdue : t.later span < due) : t < due := by
  rw [later] at hdue
  split at hdue
  · exact (lt_plus t hspan).trans hdue
  · exact ht.trans_lt hdue

end Messaging.Time.Instant
