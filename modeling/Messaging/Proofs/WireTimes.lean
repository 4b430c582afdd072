import Messaging.Proofs.Dates
import Messaging.Proofs.Instants
import Messaging.Time.Wire

/-!
# Reading a written time

A time that was written to a header is read back, cut down to whole microseconds.

- `number_numeral` says that a written number is read back, and `year_writeYear` that a year is.
- `Instant.asWritten` is the instant that a written time stands for, and `read_write` says that it
  is what is read.
-/

namespace Messaging.Time

/-! ### Written numbers -/

namespace Scan

/-- A text goes on with a character that is no digit. -/
def EndsNumber (rest : List Char) : Prop := ∃ c cs, rest = c :: cs ∧ digit? c = none

/-- `digit?` reads the decimal digits. -/
theorem digit?_of_isDigit {c : Char} (h : c.isDigit = true) :
    digit? c = some (c.toNat - '0'.toNat) := by
  simp only [Char.isDigit, Bool.and_eq_true, decide_eq_true_eq] at h
  exact if_pos h

theorem le_ofDigitChars (ds : List Char) (value : Nat) : value ≤ Nat.ofDigitChars 10 ds value := by
  rw [Nat.ofDigitChars_eq_ofDigitChars_zero]
  have hpos : 1 ≤ 10 ^ ds.length := Nat.one_le_pow _ _ (by decide)
  calc value ≤ 10 ^ ds.length * value := Nat.le_mul_of_pos_left _ hpos
    _ ≤ _ := Nat.le_add_right _ _

/-- Digits are read up to the end of a number. -/
theorem digits_append {atLeast more read value : Nat} {ds rest : List Char}
    (hdigits : ∀ c ∈ ds, c.isDigit = true) (hmax : Nat.ofDigitChars 10 ds value ≤ maxField)
    (hmore : ds.length ≤ more) (hleast : atLeast ≤ read + ds.length)
    (hend : ds.length = more ∨ EndsNumber rest) :
    digits atLeast more read value (ds ++ rest) = .ok (Nat.ofDigitChars 10 ds value, rest) := by
  induction ds generalizing more read value with
  | nil =>
    cases more with
    | zero => simp [digits]
    | succ more =>
      obtain ⟨c, cs, rfl, hc⟩ := hend.resolve_left (by simp)
      simp only [List.length_nil, Nat.add_zero] at hleast
      simp [digits, hc, hleast]
  | cons c ds ih =>
    obtain ⟨more, rfl⟩ : ∃ k, more = k + 1 := ⟨more - 1, by simp at hmore; omega⟩
    rw [List.forall_mem_cons] at hdigits
    rw [Nat.ofDigitChars_cons] at hmax ⊢
    have hvalue : value * 10 + (c.toNat - '0'.toNat) = 10 * value + (c.toNat - '0'.toNat) := by
      omega
    rw [List.cons_append, digits, digit?_of_isDigit hdigits.1]
    simp only [hvalue]
    rw [if_pos ((le_ofDigitChars ds _).trans hmax)]
    simp only [List.length_cons] at hmore hleast hend
    exact ih hdigits.2 hmax (by omega) (by omega) (hend.imp_left fun h => by omega)

/-- A character takes one byte at least. -/
theorem length_le_byteLength (cs : List Char) : cs.length ≤ byteLength cs := by
  have hfold (n : Nat) : n + cs.length ≤ cs.foldl (fun n c => n + c.utf8Size) n := by
    induction cs generalizing n with
    | nil => simp
    | cons c cs ih =>
      have hsize := c.utf8Size_pos
      have hrest := ih (n + c.utf8Size)
      simp only [List.length_cons, List.foldl_cons]
      omega
  rw [byteLength]
  simpa using hfold 0

end Scan

/-- The digits of a number, with zeros in front. -/
def numeral (width n : Nat) : List Char := (Nat.toDigits 10 n).leftpad width '0'

/-- `Wire.padded` writes a `numeral`. -/
theorem toList_padded (width n : Nat) : (Wire.padded width n).toList = numeral width n :=
  String.toList_ofList

/-- A `numeral` has nothing but digits. -/
theorem isDigit_of_mem_numeral {width n : Nat} {c : Char} (h : c ∈ numeral width n) :
    c.isDigit = true := by
  rw [numeral, List.leftpad, List.mem_append, List.mem_replicate] at h
  rcases h with ⟨-, rfl⟩ | h
  · rfl
  · exact Nat.isDigit_of_mem_toDigits (by decide) (by decide) h

/-- A written number stands for itself. -/
theorem ofDigitChars_numeral (width n : Nat) : Nat.ofDigitChars 10 (numeral width n) 0 = n := by
  rw [numeral, List.leftpad, Nat.ofDigitChars_append, Nat.ofDigitChars_replicate_zero, Nat.mul_zero,
    Nat.ofDigitChars_toDigits (by decide) (by decide)]

/-- A number that is not too large fills its width exactly. -/
theorem length_numeral {width n : Nat} (hwidth : 0 < width) (hn : n < 10 ^ width) :
    (numeral width n).length = width := by
  rw [numeral, List.length_leftpad]
  exact max_eq_left ((Nat.length_toDigits_le_iff (by decide) hwidth).2 hn)

theorem length_numeral_pos (width n : Nat) : 0 < (numeral width n).length := by
  rw [numeral, List.length_leftpad]
  exact lt_max_of_lt_right Nat.length_toDigits_pos

open Scan

/-- A written number is read back. -/
theorem number_numeral {atLeast atMost width n : Nat} {rest : List Char}
    (hleast : atLeast ≤ (numeral width n).length) (hmost : (numeral width n).length ≤ atMost)
    (hn : n ≤ maxField) (hend : (numeral width n).length = atMost ∨ EndsNumber rest) :
    number atLeast atMost (numeral width n ++ rest) = .ok (n, rest) := by
  have hbytes := length_le_byteLength (numeral width n ++ rest)
  rw [List.length_append] at hbytes
  rw [number, if_neg (by omega), digits_append (fun c hc => isDigit_of_mem_numeral hc)
    (by rwa [ofDigitChars_numeral]) hmost (by rwa [Nat.zero_add]) hend, ofDigitChars_numeral]

theorem isBlank_of_isDigit {c : Char} (h : c.isDigit = true) : Text.isBlank c = false := by
  simp only [Char.isDigit, Bool.and_eq_true, decide_eq_true_eq, UInt32.le_iff_toNat_le] at h
  have hbounds : 48 ≤ c.toNat ∧ c.toNat ≤ 57 := h
  simp [Text.isBlank]
  omega

/-- A written number begins with a digit. -/
theorem exists_numeral_eq_cons (width n : Nat) :
    ∃ c cs, numeral width n = c :: cs ∧ c.isDigit = true := by
  obtain ⟨c, cs, h⟩ := List.exists_cons_of_length_pos (length_numeral_pos width n)
  exact ⟨c, cs, h, isDigit_of_mem_numeral (h ▸ List.mem_cons_self)⟩

/-- As a `numeral` begins with a digit, no blank is skipped before it. -/
theorem skipBlanks_numeral (width n : Nat) (rest : List Char) :
    skipBlanks (numeral width n ++ rest) = numeral width n ++ rest := by
  obtain ⟨c, cs, h, hc⟩ := exists_numeral_eq_cons width n
  rw [h, List.cons_append, skipBlanks, List.dropWhile_cons_of_neg (by simp [isBlank_of_isDigit hc])]

/-- A field of two digits is read back, with or without a blank before it. -/
theorem smallField_numeral {low high n : Nat} (hlow : low ≤ n) (hhigh : n ≤ high)
    (hn : n < 100) (rest : List Char) :
    smallField low high (numeral 2 n ++ rest) = .ok (n, rest) := by
  have hlength : (numeral 2 n).length = 2 := length_numeral (by decide) hn
  rw [smallField, skipBlanks_numeral,
    number_numeral (by omega) (by omega) (by rw [maxField]; omega) (.inl hlength)]
  simp [within, hlow, hhigh, bind, Except.bind]

/-- A literal reads the character that it stands for, and a blank any number of them. -/
theorem literal_cons (c : Char) (rest : List Char) : literal c (c :: rest) = .ok rest :=
  if_pos rfl

theorem skipBlanks_blank (rest : List Char) : skipBlanks (' ' :: rest) = skipBlanks rest := rfl

namespace Wire

/-- A year is read back. -/
theorem year_writeYear {year : Int} {rest : List Char} (hfirst : -2147483648 ≤ year)
    (hlast : year ≤ 2147483647) (hend : EndsNumber rest) :
    Scan.year ((writeYear year).toList ++ rest) = .ok (year, rest) := by
  have hany (n : Nat) (hn : n ≤ maxField) :
      anyNumber (numeral 4 n ++ rest) = .ok (n, rest) := by
    have hlength := length_numeral_pos 4 n
    rw [anyNumber, number_numeral hlength (by simp) hn (.inr hend)]
  have hmax : maxField = 9223372036854775807 := rfl
  rw [writeYear]
  split
  · next hyear =>
    obtain ⟨n, rfl⟩ := Int.eq_ofNat_of_zero_le hyear.1
    have hlength : (numeral 4 n).length = 4 := length_numeral (by decide) (by omega)
    have hread : number 1 4 (numeral 4 n ++ rest) = .ok (n, rest) :=
      number_numeral (by omega) hlength.le (by omega) (.inl hlength)
    rw [toList_padded, Int.toNat_natCast, Scan.year, skipBlanks_numeral]
    -- a digit is no sign
    obtain ⟨c, cs, hcons, hc⟩ := exists_numeral_eq_cons 4 n
    rw [hcons] at hread ⊢
    split
    · next heq =>
      cases heq
      simp at hc
    · next heq =>
      cases heq
      simp at hc
    · simp only [hread, bind, Except.bind, pure, Except.pure]
      rw [if_pos ⟨hfirst, hlast⟩]
  · next hyear =>
    have hread := hany year.natAbs (by omega)
    have hminus (cs : List Char) : skipBlanks ('-' :: cs) = '-' :: cs := rfl
    have hplus (cs : List Char) : skipBlanks ('+' :: cs) = '+' :: cs := rfl
    rw [String.toList_append, toList_padded]
    split
    · next hneg =>
      have habs : -(year.natAbs : Int) = year := by omega
      show Scan.year ('-' :: (numeral 4 year.natAbs ++ rest)) = _
      simp only [Scan.year, hminus, hread, bind, Except.bind, pure, Except.pure, habs]
      rw [if_pos ⟨hfirst, hlast⟩]
    · next hpos =>
      have habs : (year.natAbs : Int) = year := by omega
      show Scan.year ('+' :: (numeral 4 year.natAbs ++ rest)) = _
      simp only [Scan.year, hplus, hread, bind, Except.bind, pure, Except.pure, habs]
      rw [if_pos ⟨hfirst, hlast⟩]

/-! ### Written times -/

/-- The fields of a written time. -/
theorem toList_write (t : Instant) :
    (write t).toList = (writeYear t.date.year).toList ++ '-' :: (numeral 2 t.date.month ++
      '-' :: (numeral 2 t.date.day ++ ' ' :: (numeral 2 (t.secondOfDay / 3600) ++
        ':' :: (numeral 2 (t.secondOfDay / 60 % 60) ++
          ':' :: (numeral 2 (t.secondOfDay % 60 + t.nanos / Span.perSecond) ++
            ':' :: (numeral 6 (t.nanos % Span.perSecond / 1000) ++ [' ', 'Z'])))))) := by
  simp [write, writeDate, writeTimeOfDay, toList_padded]

/-- A year begins with a digit or a sign. -/
theorem exists_writeYear_eq_cons (year : Int) :
    ∃ c cs, (writeYear year).toList = c :: cs ∧ Text.isBlank c = false := by
  rw [writeYear]
  split
  · obtain ⟨c, cs, h, hc⟩ := exists_numeral_eq_cons 4 year.toNat
    exact ⟨c, cs, by rw [toList_padded, h], isBlank_of_isDigit hc⟩
  · rw [String.toList_append]
    split
    · exact ⟨'-', _, rfl, rfl⟩
    · exact ⟨'+', _, rfl, rfl⟩

/-- There is nothing to trim around a written time. -/
theorem trimChars_write (t : Instant) : Text.trimChars (write t).toList = (write t).toList := by
  have hfront : (write t).toList.dropWhile Text.isBlank = (write t).toList := by
    obtain ⟨c, cs, hcons, hc⟩ := exists_writeYear_eq_cons t.date.year
    rw [toList_write, hcons, List.cons_append, List.dropWhile_cons_of_neg (by simp [hc])]
  obtain ⟨front, hback⟩ : ∃ front, (write t).toList = front ++ ['Z'] :=
    ⟨(writeDate t ++ " " ++ writeTimeOfDay t ++ ":" ++
      padded 6 (t.nanos % Span.perSecond / 1000)).toList ++ [' '], by simp [write]⟩
  have hlast : (write t).toList.reverse.dropWhile Text.isBlank = (write t).toList.reverse := by
    rw [hback, List.reverse_append, List.reverse_singleton, List.singleton_append,
      List.dropWhile_cons_of_neg (by decide)]
  rw [Text.trimChars, hfront, hlast, List.reverse_reverse]

/-- The instant that a written time stands for. A second that runs on above one billion nanoseconds
is written as the next one, and as a sixtieth only at the end of a minute. -/
def asWritten (t : Instant) : Instant :=
  if Span.perSecond ≤ t.nanos ∧ t.seconds % 60 ≠ 59 then
    ⟨t.seconds + 1, (t.nanos - Span.perSecond) / 1000 * 1000⟩
  else t.wholeMicros

/-- The fields of a written time are those of the instant that it stands for. -/
theorem assemble_write {t : Instant} (ht : t.Representable) :
    assemble t.date.year t.date.month t.date.day (t.secondOfDay / 3600) (t.secondOfDay / 60 % 60)
      (t.secondOfDay % 60 + t.nanos / Span.perSecond) (t.nanos % Span.perSecond / 1000 * 1000)
      = .ok (asWritten t) := by
  have hyear := year_le_of_representable ht
  have hexists : (⟨t.date.year, t.date.month, t.date.day⟩ : Date).exists = true := exists_dateOf _
  have hdays : daysOf ⟨t.date.year, t.date.month, t.date.day⟩ = t.seconds / Instant.perDay :=
    daysOf_dateOf _
  obtain ⟨-, -, hnanos⟩ := ht
  have hseconds : t.seconds / 86400 * 86400 + t.secondOfDay = t.seconds := by
    simp only [Instant.secondOfDay, Instant.perDay]
    omega
  have hday : t.secondOfDay < 86400 := by
    simp only [Instant.secondOfDay, Instant.perDay]
    omega
  have hsecond : t.seconds % 60 = (t.secondOfDay % 60 : Nat) := by omega
  rw [assemble]
  simp only
  rw [if_pos ⟨hexists, hyear.1, hyear.2⟩, Instant.ofDate, hdays, asWritten, Instant.wholeMicros,
    hsecond]
  simp only [Instant.perDay, Span.perSecond] at *
  -- a leap second stands at the end of a minute or is carried to the next second
  by_cases hleap : 1000000000 ≤ t.nanos
  · have hcarry : t.nanos / 1000000000 = 1 := by omega
    by_cases hminute : t.secondOfDay % 60 = 59
    · simp [hcarry, hminute]
      omega
    · have hsixty : t.secondOfDay % 60 + 1 ≠ 60 := by omega
      have hnot : ¬ (t.secondOfDay : Int) % 60 = 59 := by omega
      simp [hcarry, hleap, hsixty, hnot]
      omega
  · have hcarry : t.nanos / 1000000000 = 0 := by omega
    have hsixty : t.secondOfDay % 60 ≠ 60 := by omega
    simp [hcarry, hleap, hsixty]
    omega

/-- A written time is read back as the instant that it stands for. -/
theorem read_write {t : Instant} (ht : t.Representable) : read (write t) = .ok (asWritten t) := by
  have hdate := exists_dateOf (t.seconds / Instant.perDay)
  rw [← Instant.date] at hdate
  simp only [Date.exists, Bool.and_eq_true, decide_eq_true_eq] at hdate
  obtain ⟨⟨⟨hmonth, hmonth'⟩, hday⟩, hday'⟩ := hdate
  have hyear := year_le_of_representable ht
  simp only [Instant.firstYear, Instant.lastYear] at hyear
  have hlength := daysInMonth_le t.date.year t.date.month
  have hofDay : t.secondOfDay < 86400 := by
    simp only [Instant.secondOfDay, Instant.perDay]
    omega
  have hsecond : t.secondOfDay % 60 + t.nanos / Span.perSecond ≤ 60 := by
    have hnanos := ht.2.2
    simp only [Span.perSecond] at *
    omega
  have hmicros : t.nanos % Span.perSecond / 1000 < 10 ^ 6 := by
    simp only [Span.perSecond]
    omega
  have hsix := length_numeral (by decide) hmicros
  -- the fields are read one after the other
  rw [read, trimChars_write, toList_write]
  simp only [bind, Except.bind]
  rw [year_writeYear (by omega) (by omega) ⟨'-', _, rfl, rfl⟩]
  simp only [literal_cons]
  rw [smallField_numeral hmonth hmonth' (by omega)]
  simp only [literal_cons]
  rw [smallField_numeral hday (hday'.trans hlength) (by omega)]
  simp only [skipBlanks_blank, skipBlanks_numeral]
  rw [smallField_numeral (Nat.zero_le _) (by omega) (by omega)]
  simp only [literal_cons]
  rw [smallField_numeral (Nat.zero_le _) (by omega) (by omega)]
  simp only [literal_cons]
  rw [smallField_numeral (Nat.zero_le _) hsecond (by omega)]
  simp only [literal_cons]
  rw [number_numeral (by omega) (by omega) (by rw [maxField]; omega) (.inl hsix)]
  exact assemble_write ht

/-- A written time stands for no earlier instant than the one that was written, cut down to whole
microseconds. -/
theorem wholeMicros_le_asWritten (t : Instant) : t.wholeMicros ≤ asWritten t := by
  rw [asWritten]
  split
  · rw [Instant.le_iff]
    exact .inl (Int.lt_succ _)
  · exact le_rfl

end Wire

end Messaging.Time
