import Messaging.Proofs.WireTimes

/-!
# Times that are written and read back

Writing a time to a header keeps its whole microseconds and nothing is lost on the way back, in all
years that are covered and in leap seconds at the end of a minute.

- `daysOf_mem_year` says that the days of a year lie between two firsts of January.
- `Scan.lt_of_number` and `Scan.mem_of_smallField` bound the fields of a time that is read.
- `Wire.asWritten_of_read` says that a time that was read is written as itself.
- `Wire.LeapsInMinute` are the instants in other leap seconds, which are read as the next second.
- `Wire.read_back` says what a written time is read back as, and that one that was read stays the
  same from then on.
-/

namespace Messaging

/-- What comes of two steps that may fail came of both of them. -/
theorem exists_of_bind_eq_ok {ε α β : Type} {first : Except ε α} {second : α → Except ε β}
    {result : β} (h : (first >>= second) = .ok result) :
    ∃ middle, first = .ok middle ∧ second middle = .ok result := by
  cases first with
  | error error => cases h
  | ok middle => exact ⟨middle, rfl, h⟩

namespace Time

/-! ### The days of a year -/

/-- A date of the calendar lies between the first of January of its year and the next one. -/
theorem daysOf_mem_year {date : Date} (h : date.exists = true) :
    daysOf ⟨date.year, 1, 1⟩ ≤ daysOf date ∧ daysOf date < daysOf ⟨date.year + 1, 1, 1⟩ := by
  obtain ⟨year, month, day⟩ := date
  simp only [Date.exists, Bool.and_eq_true, decide_eq_true_eq] at h
  obtain ⟨⟨⟨hmonth, hmonth'⟩, hday⟩, hday'⟩ := h
  have hday' := hday'.trans (daysInMonth_le year month)
  have hlength : marchDays (year - 1) + 365 ≤ marchDays year := by
    simp only [marchDays]
    omega
  rw [daysOf_january, daysOf_january, add_sub_cancel_right, daysOf]
  -- the first two months end the year that began in March
  by_cases hearly : month ≤ 2
  · have hmod : (month + 9) % 12 = month + 9 := by omega
    simp only [if_pos hearly, hmod, monthDays]
    omega
  · have hmod : (month + 9) % 12 = month - 3 := by omega
    simp only [if_neg hearly, hmod, monthDays]
    omega

/-! ### The fields of a time that is read -/

namespace Scan

theorem lt_of_digit? {c : Char} {d : Nat} (h : digit? c = some d) : d < 10 := by
  rw [digit?] at h
  split at h
  · next hdigit =>
    cases h
    have hbounds : c.toNat ≤ 57 := hdigit.2
    have hzero : '0'.toNat = 48 := rfl
    omega
  · cases h

/-- Further digits leave a number below the next one with as many more places. -/
theorem lt_of_digits {atLeast more read value n : Nat} {cs rest : List Char}
    (h : digits atLeast more read value cs = .ok (n, rest)) : n < (value + 1) * 10 ^ more := by
  induction more generalizing read value cs with
  | zero =>
    cases h
    omega
  | succ more ih =>
    have hpos : 0 < 10 ^ more := Nat.pow_pos (by decide)
    -- digits that are left out make the bound no smaller
    have hgrow : value < (value + 1) * 10 ^ (more + 1) := by
      calc value < (value + 1) * 1 := by omega
        _ ≤ _ := Nat.mul_le_mul_left _ (Nat.pow_pos (by decide))
    cases cs with
    | nil =>
      cases h
      exact hgrow
    | cons c cs =>
      rw [digits] at h
      split at h
      · split at h
        · cases h
        · cases h
          exact hgrow
      · next d hd =>
        have hd := lt_of_digit? hd
        split at h
        · calc n < (value * 10 + d + 1) * 10 ^ more := ih h
            _ ≤ ((value + 1) * 10) * 10 ^ more := Nat.mul_le_mul_right _ (by omega)
            _ = _ := by rw [Nat.pow_succ', Nat.mul_assoc]
        · cases h

/-- A field of a number of digits is below the first number with more. -/
theorem lt_of_number {atLeast atMost n : Nat} {cs rest : List Char}
    (h : number atLeast atMost cs = .ok (n, rest)) : n < 10 ^ atMost := by
  rw [number] at h
  split at h
  · cases h
  · simpa using lt_of_digits h

/-- A field within bounds is within them. -/
theorem mem_of_smallField {low high n : Nat} {cs rest : List Char}
    (h : smallField low high cs = .ok (n, rest)) : low ≤ n ∧ n ≤ high := by
  obtain ⟨⟨value, rest'⟩, -, h⟩ := exists_of_bind_eq_ok h
  obtain ⟨value', hwithin, h⟩ := exists_of_bind_eq_ok h
  cases h
  rw [within] at hwithin
  split at hwithin
  · next hbounds =>
    cases hwithin
    exact hbounds
  · cases hwithin

end Scan

/-! ### There and back -/

namespace Wire

/-- What the fields of a time that is read come to. -/
theorem exists_assemble_of_read {text : String} {t : Instant} (h : read text = .ok t) :
    ∃ (year : Int) (month day hour minute second micros : Nat), hour ≤ 23 ∧ minute ≤ 59 ∧
      second ≤ 60 ∧ micros < 1000000 ∧
      assemble year month day hour minute second (micros * 1000) = .ok t := by
  obtain ⟨⟨year, _⟩, -, h⟩ := exists_of_bind_eq_ok h
  obtain ⟨_, -, h⟩ := exists_of_bind_eq_ok h
  obtain ⟨⟨month, _⟩, -, h⟩ := exists_of_bind_eq_ok h
  obtain ⟨_, -, h⟩ := exists_of_bind_eq_ok h
  obtain ⟨⟨day, _⟩, -, h⟩ := exists_of_bind_eq_ok h
  obtain ⟨⟨hour, _⟩, hhour, h⟩ := exists_of_bind_eq_ok h
  obtain ⟨_, -, h⟩ := exists_of_bind_eq_ok h
  obtain ⟨⟨minute, _⟩, hminute, h⟩ := exists_of_bind_eq_ok h
  obtain ⟨_, -, h⟩ := exists_of_bind_eq_ok h
  obtain ⟨⟨second, _⟩, hsecond, h⟩ := exists_of_bind_eq_ok h
  obtain ⟨_, -, h⟩ := exists_of_bind_eq_ok h
  obtain ⟨⟨micros, _⟩, hmicros, h⟩ := exists_of_bind_eq_ok h
  obtain ⟨_, -, h⟩ := exists_of_bind_eq_ok h
  -- the fields in their order, with the ranges that the scanner keeps them in
  refine ⟨year, month, day, hour, minute, second, micros, (Scan.mem_of_smallField hhour).2,
    (Scan.mem_of_smallField hminute).2, (Scan.mem_of_smallField hsecond).2,
    Scan.lt_of_number hmicros, ?_⟩
  split at h
  · exact h
  · cases h

/-- An instant that is read can be written, and is written as itself. -/
theorem asWritten_of_read {text : String} {t : Instant} (h : read text = .ok t) :
    t.Representable ∧ asWritten t = t := by
  obtain ⟨year, month, day, hour, minute, second, micros, hhour, hminute, hsecond, hmicros, h⟩ :=
    exists_assemble_of_read h
  rw [assemble] at h
  split at h
  · next hdate =>
    obtain ⟨hexists, hfirst, hlast⟩ := hdate
    obtain ⟨hafter, hbefore⟩ := daysOf_mem_year hexists
    have hafter := (daysOf_january_mono hfirst).trans hafter
    have hbefore := hbefore.trans_le (daysOf_january_mono (Int.add_le_add_right hlast 1))
    simp only [Instant.ofDate, Except.ok.injEq] at h
    generalize daysOf ⟨year, month, day⟩ = days at h hafter hbefore
    subst h
    simp only [Instant.Representable, Instant.firstSecond, Instant.lastSecond, asWritten,
      Instant.wholeMicros, Instant.perDay, Span.perSecond]
    -- second sixty is the one after the last of its minute
    by_cases hleap : second = 60
    · have hminute : (days * 86400 + (hour * 3600 + minute * 60 + 59)) % 60 = 59 := by omega
      simp [hleap, hminute]
      omega
    · simp [hleap]
      omega
  · cases h

/-- `t` lies in a leap second that does not end a minute. -/
def LeapsInMinute (t : Instant) : Prop := Span.perSecond ≤ t.nanos ∧ t.seconds % 60 ≠ 59

instance (t : Instant) : Decidable (LeapsInMinute t) := inferInstanceAs (Decidable (_ ∧ _))

/-- `Wire.write` shows a second above 59 at the end of a minute only: everywhere else `asWritten` is
in the next second. -/
theorem asWritten_of_leapsInMinute {t : Instant} (h : LeapsInMinute t) :
    asWritten t = ⟨t.seconds + 1, (t.nanos - Span.perSecond) / 1000 * 1000⟩ := if_pos h

theorem asWritten_of_not_leapsInMinute {t : Instant} (h : ¬ LeapsInMinute t) :
    asWritten t = t.wholeMicros := if_neg h

/-- An instant that is written as itself does not lie in a leap second inside a minute. -/
theorem not_leapsInMinute_of_asWritten {t : Instant} (h : asWritten t = t) : ¬ LeapsInMinute t := by
  intro hleap
  rw [asWritten_of_leapsInMinute hleap] at h
  have hseconds : t.seconds + 1 = t.seconds := congrArg Instant.seconds h
  omega

/-- `Instant.ofSeconds?` has leap seconds at the end of a minute only. -/
theorem representable_of_ofSeconds? {seconds : Int} {nanos : Nat} {t : Instant}
    (h : Instant.ofSeconds? seconds nanos = some t) : t.Representable ∧ ¬ LeapsInMinute t := by
  simp only [Instant.ofSeconds?] at h
  split at h
  · next hheld =>
    cases h
    exact ⟨hheld.1, fun hleap => hleap.2 (hheld.2.resolve_left (not_lt.2 hleap.1))⟩
  · cases h

/-- **Times that are written and read back.** Every instant that is `Representable` is read back. It
is cut down to whole microseconds, unless it lies in a leap second inside a minute: the text cannot
tell such an instant from one in the next second, which is what is read. No such instant comes from
`Instant.ofSeconds?` or from `Wire.read`, and one that was read is read back as it is. -/
theorem read_back :
    (∀ t : Instant, t.Representable →
      (¬ LeapsInMinute t → read (write t) = .ok t.wholeMicros) ∧
      (LeapsInMinute t →
        read (write t) = .ok ⟨t.seconds + 1, (t.nanos - Span.perSecond) / 1000 * 1000⟩)) ∧
    (∀ seconds nanos t, Instant.ofSeconds? seconds nanos = some t →
      read (write t) = .ok t.wholeMicros) ∧
    (∀ text t, read text = .ok t → ¬ LeapsInMinute t ∧ read (write t) = .ok t) := by
  -- unless it leaps inside a minute an instant is written as its whole microseconds
  have hwritten (t : Instant) (ht : t.Representable) (hleap : ¬ LeapsInMinute t) :
      read (write t) = .ok t.wholeMicros := by
    rw [read_write ht, asWritten_of_not_leapsInMinute hleap]
  refine ⟨fun t ht => ⟨hwritten t ht, fun hleap => ?_⟩, fun seconds nanos t ht => ?_,
    fun text t h => ?_⟩
  · rw [read_write ht, asWritten_of_leapsInMinute hleap]
  · obtain ⟨hrepresentable, hleap⟩ := representable_of_ofSeconds? ht
    exact hwritten t hrepresentable hleap
  · obtain ⟨hrepresentable, hsame⟩ := asWritten_of_read h
    exact ⟨not_leapsInMinute_of_asWritten hsame, by rw [read_write hrepresentable, hsame]⟩

/-- The end of a leap second before the first year, a leap second inside a minute, and a day that
some years have, far ahead. -/
theorem read_back_leapSecond :
    Instant.ofSeconds? (-63549273601) 1999999999 = some ⟨-63549273601, 1999999999⟩ ∧
    read (write ⟨-63549273601, 1999999999⟩) = .ok ⟨-63549273601, 1999999000⟩ ∧
    Instant.Representable ⟨-86396, 1999999999⟩ ∧
    read (write ⟨-86396, 1999999999⟩) = .ok ⟨-86395, 999999000⟩ ∧
    read "+12024-2-29  7:05: 1:999999Z " = .ok ⟨317278710301, 999999000⟩ ∧
    read (write ⟨317278710301, 999999000⟩) = .ok ⟨317278710301, 999999000⟩ := by
  have hheld : Instant.ofSeconds? (-63549273601) 1999999999
      = some ⟨-63549273601, 1999999999⟩ := by decide +kernel
  have hinside : Instant.Representable ⟨-86396, 1999999999⟩ := by decide +kernel
  have hread : read "+12024-2-29  7:05: 1:999999Z " = .ok ⟨317278710301, 999999000⟩ := by
    decide +kernel
  obtain ⟨hwhole, hconstructed, hagain⟩ := read_back
  exact ⟨hheld, hconstructed _ _ _ hheld, hinside, (hwhole _ hinside).2 (by decide), hread,
    (hagain _ _ hread).2⟩

/-- An instant a third of a second into a leap second after 00:00:04 is read back as one after
00:00:05. -/
theorem not_read_back_leapsInMinute :
    Instant.Representable ⟨4, 1333333333⟩ ∧
    read (write ⟨4, 1333333333⟩) = .ok ⟨5, 333333000⟩ ∧
    read (write ⟨4, 1333333333⟩) ≠ .ok (Instant.wholeMicros ⟨4, 1333333333⟩) := by
  decide +kernel

end Wire

end Time

end Messaging
