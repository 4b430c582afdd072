import Messaging.Memory.Broker

/-!
# Canonical addresses

An address in its canonical form is its own canonical form.

- `IsLower` says of a character that lower-casing leaves it alone; what lower-casing makes of a
  character is of this kind.
- `Solid` says of characters that there is no white space around them.
- `canonicalAddress_canonicalAddress` puts the two together, and `length_canonicalAddress_append`
  tells an address from a longer one.
-/

namespace Messaging.Text

variable {c d : Char} {cs before : List Char}

/-! ### Lower case -/

/-- Whether lower-casing leaves a character alone. -/
def IsLower (c : Char) : Prop := c ≠ 'Σ' ∧ lowerChar c = [c]

instance (c : Char) : Decidable (IsLower c) := inferInstanceAs (Decidable (_ ∧ _))

/-- The ranges of white space. -/
def blankRanges : List (Nat × Nat) :=
  [(0x9, 0xD), (0x20, 0x20), (0x85, 0x85), (0xA0, 0xA0), (0x1680, 0x1680), (0x2000, 0x200A),
    (0x2028, 0x2029), (0x202F, 0x202F), (0x205F, 0x205F), (0x3000, 0x3000)]

/-- A blank character lies in one of the `blankRanges`. -/
theorem exists_blankRange (h : isBlank c = true) :
    ∃ range ∈ blankRanges, range.1 ≤ c.toNat ∧ c.toNat ≤ range.2 := by
  simp only [isBlank, Bool.or_eq_true, Bool.and_eq_true, decide_eq_true_eq, beq_iff_eq] at h
  simp only [blankRanges, List.mem_cons, List.not_mem_nil, or_false, exists_eq_or_imp,
    exists_eq_left]
  omega

namespace CaseRun

/-- The lower-case form of the first letter of a run. -/
def low (run : CaseRun) : Nat := (run.first + run.shift).toNat

/-- The lower-case form of the last letter of a run. -/
def high (run : CaseRun) : Nat := (run.last + run.shift).toNat

/-- Whether a code point is that of a letter of a run. -/
def covers (run : CaseRun) (code : Nat) : Bool :=
  run.first ≤ code && code ≤ run.last && (code - run.first) % run.step == 0

/-- Whether the lower-case forms of a run lie beside the letters of another, or between them. -/
def apart (run other : CaseRun) : Bool :=
  other.last.blt run.low || run.high.blt other.first ||
    (other.step == 2 && (run.step == 2 || run.first == run.last) &&
      (run.low + other.first) % 2 == 1)

/-- The lower-case forms of a run are characters that are neither blank nor the dotted capital I. -/
def Plain (run : CaseRun) : Prop :=
  0 ≤ run.first + run.shift ∧ (run.high < 0xD800 ∨ 0xDFFF < run.low ∧ run.high < 0x110000) ∧
    ∀ range ∈ (0x130, 0x130) :: blankRanges, range.2 < run.low ∨ run.high < range.1

instance (run : CaseRun) : Decidable run.Plain := inferInstanceAs (Decidable (_ ∧ _ ∧ _))

end CaseRun

variable {run other : CaseRun} {code : Nat}

/-- Every two of the `lowerRuns` are `CaseRun.apart`: the lower-case forms of one lie beside, or
between, the letters of the other. This is checked once for the table. -/
theorem apart_lowerRuns :
    (lowerRuns.all fun run => lowerRuns.all fun other => run.apart other) = true := by
  decide +kernel

/-- Every one of the `lowerRuns` is `CaseRun.Plain`; this too is checked once for the table. -/
theorem plain_lowerRuns : (lowerRuns.all fun run => decide run.Plain) = true := by
  decide +kernel

/-- The lower-case form of a letter of a run lies between those of the first and the last. -/
theorem CaseRun.form_bounds (hplain : run.Plain) (hcovers : run.covers code = true) :
    run.low ≤ (code + run.shift).toNat ∧ (code + run.shift).toNat ≤ run.high := by
  simp only [covers, Bool.and_eq_true, decide_eq_true_eq] at hcovers
  obtain ⟨hlow, -⟩ := hplain
  rw [low, high]
  omega

/-- No lower-case form of the table is a letter of the table. -/
theorem not_covers (hrun : run ∈ lowerRuns) (hother : other ∈ lowerRuns)
    (hcovers : run.covers code = true) : other.covers (code + run.shift).toNat = false := by
  have hplain := of_decide_eq_true (List.all_eq_true.1 plain_lowerRuns run hrun)
  have hapart := List.all_eq_true.1 (List.all_eq_true.1 apart_lowerRuns run hrun) other hother
  obtain ⟨hlow, hhigh⟩ := CaseRun.form_bounds hplain hcovers
  obtain ⟨hleast, -⟩ := hplain
  simp only [CaseRun.covers, Bool.and_eq_true, decide_eq_true_eq, beq_iff_eq] at hcovers
  simp only [CaseRun.apart, Bool.or_eq_true, Bool.and_eq_true, Nat.blt_eq, beq_iff_eq] at hapart
  rw [Bool.eq_false_iff, CaseRun.covers]
  simp only [ne_eq, Bool.and_eq_true, decide_eq_true_eq, beq_iff_eq]
  rintro ⟨⟨hfirst, hlast⟩, hmod⟩
  rcases hapart with (hbelow | habove) | ⟨⟨htwo, hstep⟩, hodd⟩
  · omega
  · omega
  · -- both runs go in steps of two, from starts of different parity
    rw [htwo] at hmod
    rw [CaseRun.low] at hodd
    rcases hstep with hstep | hsingle
    · rw [hstep] at hcovers
      omega
    · omega

/-- Only the capital letters among the first characters are changed. -/
theorem toLower_of_not_covers : ∀ code < 128,
    CaseRun.covers ⟨0x41, 0x5A, 1, 32⟩ code = false →
      (Char.ofNat code).toLower = Char.ofNat code := by
  decide +kernel

/-- A lower-case form of the table is not changed again, and is not blank. -/
theorem isLower_form (hrun : run ∈ lowerRuns) (hcovers : run.covers code = true) :
    IsLower (Char.ofNat (code + run.shift).toNat) ∧
      isBlank (Char.ofNat (code + run.shift).toNat) = false := by
  have hplain := of_decide_eq_true (List.all_eq_true.1 plain_lowerRuns run hrun)
  obtain ⟨hlow, hhigh⟩ := CaseRun.form_bounds hplain hcovers
  have hnone : ∀ other ∈ lowerRuns, other.covers (code + run.shift).toNat = false :=
    fun other hother => not_covers hrun hother hcovers
  obtain ⟨-, hvalid, hspared⟩ := hplain
  generalize (code + run.shift).toNat = lower at hlow hhigh hnone ⊢
  have htoNat : (Char.ofNat lower).toNat = lower := by
    rw [Char.ofNat, dif_pos]
    · rfl
    · rw [Nat.isValidChar]
      omega
  refine ⟨⟨?_, ?_⟩, ?_⟩
  · -- the capital sigma is a letter of the table
    intro hsigma
    have hcode := congrArg Char.toNat hsigma
    rw [htoNat] at hcode
    have hsigmaRun := hnone ⟨0x3A3, 0x3AB, 1, 32⟩ (by decide +kernel)
    rw [hcode] at hsigmaRun
    exact absurd hsigmaRun (by decide)
  · have hcapital := hnone ⟨0x41, 0x5A, 1, 32⟩ (by decide +kernel)
    have hdotted := hspared (0x130, 0x130) List.mem_cons_self
    rw [lowerChar, htoNat]
    split
    · next hascii => rw [toLower_of_not_covers lower hascii hcapital]
    · rw [if_neg (by omega), lowerSimple, htoNat]
      have hfind : lowerRuns.find? (fun other => other.covers lower) = none :=
        List.find?_eq_none.2 fun other hother => by simp [hnone other hother]
      simp only [CaseRun.covers] at hfind
      rw [hfind]
  · refine Bool.eq_false_iff.2 fun hblank => ?_
    obtain ⟨range, hrange, hfirst, hlast⟩ := exists_blankRange hblank
    have := hspared range (List.mem_cons_of_mem _ hrange)
    omega

/-- On ASCII characters `Char.toLower` comes to a small letter and makes no blank. -/
theorem isLower_toLower :
    ∀ code < 128, IsLower (Char.ofNat code).toLower ∧
      (isBlank (Char.ofNat code).toLower = true → isBlank (Char.ofNat code) = true) := by
  decide +kernel

/-- A character has a form of its own in the table, or is its own. -/
theorem lowerSimple_cases (c : Char) :
    lowerSimple c = c ∨ IsLower (lowerSimple c) ∧ isBlank (lowerSimple c) = false := by
  rw [lowerSimple]
  split
  · next run hrun =>
    have hcovers := List.find?_some hrun
    exact .inr (isLower_form (List.mem_of_find?_eq_some hrun) hcovers)
  · exact .inl rfl

/-- What becomes of a character is not changed again, and it is blank only if the character is. -/
theorem isLower_lowerChar (hc : c ≠ 'Σ') (hd : d ∈ lowerChar c) :
    IsLower d ∧ (isBlank d = true → isBlank c = true) := by
  rw [lowerChar] at hd
  split at hd
  · next hascii =>
    cases List.mem_singleton.1 hd
    have hlower := isLower_toLower c.toNat hascii
    rwa [Char.ofNat_toNat] at hlower
  · next hascii =>
    split at hd
    · -- the one capital that becomes two characters, a letter and a combining dot
      have hdotted : (IsLower 'i' ∧ isBlank 'i' = false) ∧
          IsLower '\u0307' ∧ isBlank '\u0307' = false := by decide +kernel
      obtain ⟨hlower, hsolid⟩ : IsLower d ∧ isBlank d = false := by
        simp only [List.mem_cons, List.not_mem_nil, or_false] at hd
        obtain rfl | rfl := hd
        · exact hdotted.1
        · exact hdotted.2
      exact ⟨hlower, fun hblank => absurd hblank (by rw [hsolid]; exact Bool.false_ne_true)⟩
    · next hdotted =>
      cases List.mem_singleton.1 hd
      rcases lowerSimple_cases c with hsame | ⟨hlower, hsolid⟩
      · rw [hsame]
        refine ⟨⟨hc, ?_⟩, id⟩
        rw [lowerChar, if_neg hascii, if_neg hdotted, hsame]
      · exact ⟨hlower, fun hblank => absurd hblank (by rw [hsolid]; exact Bool.false_ne_true)⟩

/-- A text of such characters stays as it is. -/
theorem lowerFrom_eq_self (h : ∀ c ∈ cs, IsLower c) : lowerFrom before cs = cs := by
  induction cs generalizing before with
  | nil => rfl
  | cons c rest ih =>
    obtain ⟨⟨hsigma, hlower⟩, hrest⟩ := List.forall_mem_cons.1 h
    rw [lowerFrom, ih hrest, if_neg hsigma, hlower]
    rfl

/-! ### White space -/

/-- There is no white space at either end. -/
structure Solid (cs : List Char) : Prop where
  /-- The first character is not blank. -/
  head : ∀ c ∈ cs.head?, isBlank c = false
  /-- Neither is the last one. -/
  last : ∀ c ∈ cs.getLast?, isBlank c = false

/-- A text is `Solid` if and only if it neither begins nor ends with a blank. -/
theorem solid_iff :
    Solid cs ↔ cs.head?.all (fun c => !isBlank c) = true ∧
      cs.getLast?.all (fun c => !isBlank c) = true := by
  simp only [Option.all_eq_true, Bool.not_eq_true']
  exact ⟨fun h => ⟨h.head, h.last⟩, fun h => ⟨h.1, h.2⟩⟩

instance (cs : List Char) : Decidable (Solid cs) := decidable_of_iff _ solid_iff.symm

/-- What is left without the blanks in front does not begin with one. -/
theorem head?_dropWhile_isBlank (cs : List Char) :
    ∀ c ∈ (cs.dropWhile isBlank).head?, isBlank c = false := by
  intro c hc
  have hnot := List.head?_dropWhile_not isBlank cs
  rw [hc] at hnot
  simpa using hnot

/-- Nothing is trimmed where there is no white space around. -/
theorem Solid.trimChars (h : Solid cs) : trimChars cs = cs := by
  have hdrop {items : List Char} (hitems : ∀ c ∈ items.head?, isBlank c = false) :
      items.dropWhile isBlank = items := by
    cases items with
    | nil => rfl
    | cons c rest => rw [List.dropWhile_cons_of_neg (by simp [hitems c rfl])]
  rw [Text.trimChars, hdrop h.head, hdrop, List.reverse_reverse]
  rw [List.head?_reverse]
  exact h.last

/-- What is left of a text is the beginning of what does not begin with white space. -/
theorem trimChars_prefix (cs : List Char) : trimChars cs <+: cs.dropWhile isBlank := by
  obtain ⟨blank, hblank⟩ :=
    List.dropWhile_suffix (l := (cs.dropWhile isBlank).reverse) (p := isBlank)
  refine ⟨blank.reverse, ?_⟩
  rw [trimChars, ← List.reverse_append, hblank, List.reverse_reverse]

/-- After trimming there is no white space around. -/
theorem solid_trimChars (cs : List Char) : Solid (trimChars cs) := by
  refine ⟨fun c hc => ?_, fun c hc => ?_⟩
  · obtain ⟨blank, hblank⟩ := trimChars_prefix cs
    refine head?_dropWhile_isBlank cs c ?_
    rw [← hblank, List.head?_append, hc]
    rfl
  · rw [trimChars, List.getLast?_reverse] at hc
    exact head?_dropWhile_isBlank _ c hc

/-! ### Both -/

/-- What becomes of a character in a text. -/
def lowerIn (before rest : List Char) (c : Char) : List Char :=
  if c = 'Σ' then if startsCased before && !startsCased rest then ['ς'] else ['σ']
  else lowerChar c

/-- `lowerFrom` goes through a text from its start, with the characters passed in reverse. -/
theorem lowerFrom_cons (before rest : List Char) (c : Char) :
    lowerFrom before (c :: rest) = lowerIn before rest c ++ lowerFrom (c :: before) rest := rfl

/-- No character vanishes when it is made small. -/
theorem lowerIn_ne_nil (before rest : List Char) (c : Char) : lowerIn before rest c ≠ [] := by
  rw [lowerIn, lowerChar]
  repeat' split
  all_goals exact List.cons_ne_nil _ _

/-- What becomes of a character in a text is not changed again, and it is blank only if the
character is. -/
theorem isLower_lowerIn {rest : List Char} (hd : d ∈ lowerIn before rest c) :
    IsLower d ∧ (isBlank d = true → isBlank c = true) := by
  rw [lowerIn] at hd
  split at hd
  · have hsigma : IsLower 'ς' ∧ isBlank 'ς' = false ∧ IsLower 'σ' ∧ isBlank 'σ' = false := by
      decide +kernel
    obtain ⟨hfinal, hfinalSolid, hother, hotherSolid⟩ := hsigma
    split at hd <;> cases List.mem_singleton.1 hd
    · exact ⟨hfinal, fun hblank => absurd hblank (by rw [hfinalSolid]; exact Bool.false_ne_true)⟩
    · exact ⟨hother, fun hblank => absurd hblank (by rw [hotherSolid]; exact Bool.false_ne_true)⟩
  · next hsigma => exact isLower_lowerChar hsigma hd

/-- Lower-casing leaves nothing to lower-case. -/
theorem isLower_of_mem_lowerFrom (hd : d ∈ lowerFrom before cs) : IsLower d := by
  induction cs generalizing before with
  | nil => cases hd
  | cons c rest ih =>
    rw [lowerFrom_cons] at hd
    rcases List.mem_append.1 hd with hd | hd
    · exact (isLower_lowerIn hd).1
    · exact ih hd

/-- Lower-casing makes no white space. -/
theorem Solid.lowerFrom (h : Solid cs) : Solid (lowerFrom before cs) := by
  -- no character becomes a blank
  have hsolid {before rest : List Char} {c : Char} (hc : isBlank c = false) :
      ∀ d ∈ lowerIn before rest c, isBlank d = false := fun d hd =>
    Bool.eq_false_iff.2 fun hblank =>
      Bool.eq_false_iff.1 hc ((isLower_lowerIn hd).2 hblank)
  refine ⟨?_, ?_⟩
  · cases cs with
    | nil => exact nofun
    | cons c rest =>
      intro d hd
      rw [lowerFrom_cons, List.head?_append] at hd
      cases hmapped : lowerIn before rest c with
      | nil => exact (lowerIn_ne_nil before rest c hmapped).elim
      | cons first mapped =>
        rw [hmapped] at hd
        cases hd
        exact hsolid (h.head c rfl) d (hmapped ▸ List.mem_cons_self)
  · have hlast := h.last
    clear h
    induction cs generalizing before with
    | nil => exact nofun
    | cons c rest ih =>
      intro d hd
      rw [lowerFrom_cons] at hd
      cases rest with
      | nil =>
        rw [Text.lowerFrom, List.append_nil] at hd
        exact hsolid (hlast c rfl) d (List.mem_of_getLast? hd)
      | cons next rest =>
        rw [List.getLast?_append, Option.or_of_isSome] at hd
        · exact ih hlast d hd
        · rw [List.getLast?_isSome, lowerFrom_cons]
          exact List.append_ne_nil_of_left_ne_nil (lowerIn_ne_nil _ _ _) _

/-! ### Lengths -/

/-- Whether a sigma is the last letter of a word changes no length. -/
theorem length_lowerIn (before rest : List Char) (c : Char) :
    (lowerIn before rest c).length = (lowerChar c).length := by
  rw [lowerIn]
  split
  · next hsigma =>
    have hone : (lowerChar 'Σ').length = 1 := by decide +kernel
    rw [hsigma, hone]
    split <;> rfl
  · rfl

/-- What stands around a text does not matter for the length of its lower-case form. -/
theorem length_lowerFrom (before cs : List Char) :
    (lowerFrom before cs).length = (cs.flatMap lowerChar).length := by
  induction cs generalizing before with
  | nil => rfl
  | cons c rest ih =>
    rw [lowerFrom_cons, List.length_append, length_lowerIn, ih, List.flatMap_cons,
      List.length_append]

/-- So a text does not get shorter. -/
theorem length_le_length_flatMap_lowerChar (cs : List Char) :
    cs.length ≤ (cs.flatMap lowerChar).length := by
  rw [← length_lowerFrom []]
  induction cs with
  | nil => exact Nat.le_refl _
  | cons c rest ih =>
    have hsome := List.length_pos_iff.2 (lowerIn_ne_nil [] rest c)
    rw [length_lowerFrom] at ih
    rw [lowerFrom_cons, List.length_append, List.length_cons, length_lowerFrom]
    omega

/-- Before a text without white space around it only white space at the beginning is trimmed. -/
theorem trimChars_append {suffix : List Char} (h : Solid suffix) (hne : suffix ≠ []) :
    trimChars (cs ++ suffix) = cs.dropWhile isBlank ++ suffix := by
  obtain ⟨first, rest, rfl⟩ := List.exists_cons_of_ne_nil hne
  have hfirst : (first :: rest).dropWhile isBlank = first :: rest :=
    List.dropWhile_cons_of_neg (by simp [h.head first rfl])
  -- in front blanks are taken from what stands before the suffix only
  have hdrop : (cs ++ first :: rest).dropWhile isBlank
      = cs.dropWhile isBlank ++ first :: rest := by
    rw [List.dropWhile_append, hfirst]
    split
    · next hempty => rw [List.isEmpty_iff.1 hempty, List.nil_append]
    · rfl
  have hsolid := h.last
  rw [← List.head?_reverse] at hsolid
  -- and behind there are none to take
  rw [trimChars, hdrop, List.reverse_append]
  obtain ⟨last, before, hlast⟩ := List.exists_cons_of_ne_nil (List.reverse_ne_nil_iff.2 hne)
  rw [hlast] at hsolid ⊢
  rw [List.cons_append, List.dropWhile_cons_of_neg (by simp [hsolid last rfl]), ← List.cons_append,
    ← hlast, ← List.reverse_append, List.reverse_reverse]

end Messaging.Text

namespace Messaging

open Text

/-- An address in its canonical form is its own canonical form. -/
theorem canonicalAddress_canonicalAddress (address : String) :
    canonicalAddress (canonicalAddress address) = canonicalAddress address := by
  have hsolid : Solid (lowerFrom [] (trimChars address.toList)) := (solid_trimChars _).lowerFrom
  simp only [canonicalAddress, lowerCase, trim, String.toList_ofList]
  rw [hsolid.trimChars, lowerFrom_eq_self fun c => isLower_of_mem_lowerFrom]

/-- A longer address has a longer canonical form, if it does not end in white space. -/
theorem length_canonicalAddress_append (address : String) {suffix : String}
    (hsolid : Solid suffix.toList) (hne : suffix.toList ≠ []) :
    (canonicalAddress address).length < (canonicalAddress (address ++ suffix)).length := by
  simp only [canonicalAddress, lowerCase, trim, String.toList_ofList, String.toList_append,
    String.length_ofList]
  rw [trimChars_append hsolid hne, length_lowerFrom, length_lowerFrom, List.flatMap_append,
    List.length_append]
  obtain ⟨blank, hblank⟩ := trimChars_prefix address.toList
  have hsuffix := length_le_length_flatMap_lowerChar suffix.toList
  have hpositive := List.length_pos_iff.2 hne
  rw [← hblank, List.flatMap_append, List.length_append]
  omega

end Messaging
