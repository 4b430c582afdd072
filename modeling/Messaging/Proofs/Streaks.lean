import Messaging.Proofs.Counting

/-!
# Streaks of failures

A failure counter keeps its counts in words. What it has been through is a history of deeds, and how
often a message has failed in a row is a natural number that the history alone decides.

- `Deed` is what may be done with a counter, and `ofDeeds` the counter after a history of deeds.
- `streak` counts the failures of a message in a history since they were last forgotten, and
  `find?_ofDeeds` says that the counter keeps this number, cut to a word.
- `Exact` says that every failure of a message was answered by the count before it and one, and
  `Within` that no streak of it was longer than a number. `exact_iff_within` says when the counts
  are exact: as long as no streak reaches the number of words.
- `Bounded` is what a step keeps that lets a message go when its streak passes a limit.
-/

namespace Messaging.FailureCounter

open Recovery (kept get_add_one)

/-! ### Histories -/

/-- What may be done with a failure counter. -/
inductive Deed where
  /-- A failure of a message is counted. -/
  | counted (pipeline messageId : String)
  /-- The failures of a message are forgotten. -/
  | forgotten (pipeline messageId : String)
  /-- All failures are forgotten. -/
  | cleared

/-- A counter after a deed. -/
def Deed.apply : Deed → FailureCounter → FailureCounter
  | counted pipeline messageId, counter => (counter.increment pipeline messageId).2
  | forgotten pipeline messageId, counter => counter.clear pipeline messageId
  | cleared, _ => {}

/-- A new counter after a history of deeds, of which the newest comes first. -/
def ofDeeds (history : List Deed) : FailureCounter := history.foldr Deed.apply {}

@[simp] theorem ofDeeds_cons (deed : Deed) (history : List Deed) :
    ofDeeds (deed :: history) = deed.apply (ofDeeds history) := rfl

/-- The streak of a message after a deed, given that before it. -/
def Deed.streakAfter (pipeline messageId : String) : Deed → Nat → Nat
  | counted name id, n => if pipeline = name ∧ messageId = id then n + 1 else n
  | forgotten name id, n => if pipeline = name ∧ messageId = id then 0 else n
  | cleared, _ => 0

/-- How often a message has failed in a history since its failures were last forgotten. -/
def streak (history : List Deed) (pipeline messageId : String) : Nat :=
  history.foldr (Deed.streakAfter pipeline messageId) 0

section

variable (history : List Deed) (pipeline messageId name id : String)

@[simp] theorem streak_counted :
    streak (.counted name id :: history) pipeline messageId
      = if pipeline = name ∧ messageId = id then streak history pipeline messageId + 1
        else streak history pipeline messageId := rfl

@[simp] theorem streak_forgotten :
    streak (.forgotten name id :: history) pipeline messageId
      = if pipeline = name ∧ messageId = id then 0 else streak history pipeline messageId := rfl

@[simp] theorem streak_cleared : streak (.cleared :: history) pipeline messageId = 0 := rfl

/-- Forgetting makes no streak longer. -/
theorem streak_forgotten_le :
    streak (.forgotten name id :: history) pipeline messageId
      ≤ streak history pipeline messageId := by
  rw [streak_forgotten]
  split
  · exact Nat.zero_le _
  · exact Nat.le_refl _

/-- Only failures of a message make a streak of it. -/
theorem streak_replicate (n : Nat) :
    streak (.replicate n (.counted pipeline messageId)) pipeline messageId = n := by
  induction n with
  | zero => rfl
  | succ n ih => rw [List.replicate_succ, streak_counted, if_pos ⟨rfl, rfl⟩, ih]

/-- The counter keeps the streak of every message. -/
theorem find?_ofDeeds :
    (ofDeeds history).find? pipeline messageId = kept (streak history pipeline messageId) := by
  induction history with
  | nil => rfl
  | cons deed earlier ih =>
    rw [ofDeeds_cons]
    cases deed with
    | counted name id =>
      rw [Deed.apply, find?_increment, streak_counted]
      split
      · next hsame =>
        obtain ⟨rfl, rfl⟩ := hsame
        rw [get_add_one ih]
        rfl
      · exact ih
    | forgotten name id =>
      rw [Deed.apply, find?_clear, streak_forgotten]
      split
      · rfl
      · exact ih
    | cleared => rfl

/-- The count of a message is its streak, cut to a word. -/
theorem get_ofDeeds :
    (ofDeeds history).get pipeline messageId = .ofNat (streak history pipeline messageId) := by
  rw [get, find?_ofDeeds, kept]
  split
  · next hnone =>
    rw [hnone]
    rfl
  · rfl

/-- The answer to one failure more is the streak with it, cut to a word. -/
theorem increment_ofDeeds :
    ((ofDeeds history).increment pipeline messageId).1
      = .ofNat (streak history pipeline messageId + 1) :=
  get_add_one (find?_ofDeeds history pipeline messageId)

/-- The answer to one failure more is the count before it and one, unless the count wraps around. -/
theorem increment_ofDeeds_exact_iff :
    ((ofDeeds history).increment pipeline messageId).1.toNat
        = ((ofDeeds history).get pipeline messageId).toNat + 1 ↔
      ¬ UInt32.size ∣ streak history pipeline messageId + 1 := by
  rw [increment_ofDeeds, get_ofDeeds, UInt32.toNat_ofNat', UInt32.toNat_ofNat', UInt32.size]
  omega

/-- The answer to one failure more is zero exactly when the count wraps around. -/
theorem increment_ofDeeds_eq_zero_iff :
    ((ofDeeds history).increment pipeline messageId).1 = 0 ↔
      UInt32.size ∣ streak history pipeline messageId + 1 := by
  rw [increment_ofDeeds, ← UInt32.toNat_inj, UInt32.toNat_ofNat']
  exact Nat.dvd_iff_mod_eq_zero.symm

end

/-! ### Exact counts -/

/-- Whenever a failure of a message was counted in a history, the answer was the count before it and
one, as natural numbers. -/
def Exact (history : List Deed) (pipeline messageId : String) : Prop :=
  ∀ earlier, .counted pipeline messageId :: earlier <:+ history →
    ((ofDeeds earlier).increment pipeline messageId).1.toNat
      = ((ofDeeds earlier).get pipeline messageId).toNat + 1

/-- At no time in a history was the streak of a message longer than a number. -/
def Within (limit : Nat) (history : List Deed) (pipeline messageId : String) : Prop :=
  ∀ earlier, earlier <:+ history → streak earlier pipeline messageId ≤ limit

section

variable {limit : Nat} {history : List Deed} {pipeline messageId : String}

/-- A history is `Within` a limit if all that it began with is. -/
theorem within_nil : Within limit [] pipeline messageId := by
  intro earlier hearlier
  rw [List.suffix_nil.1 hearlier]
  exact Nat.zero_le _

theorem within_cons {deed : Deed} :
    Within limit (deed :: history) pipeline messageId ↔
      streak (deed :: history) pipeline messageId ≤ limit ∧
        Within limit history pipeline messageId := by
  simp only [Within, List.suffix_cons_iff, forall_eq_or_imp]

/-- The counts of a message are exact in a history exactly if no streak of it reaches the number of
words. -/
theorem exact_iff_within :
    Exact history pipeline messageId ↔ Within (UInt32.size - 1) history pipeline messageId := by
  constructor
  · intro hexact earlier hearlier
    -- by induction on the history so far: only a counted failure makes the streak longer
    induction earlier with
    | nil => exact Nat.zero_le _
    | cons deed earlier ih =>
      have hbefore := ih ((List.suffix_cons deed earlier).trans hearlier)
      cases deed with
      | counted name id =>
        rw [streak_counted]
        split
        · next hsame =>
          obtain ⟨rfl, rfl⟩ := hsame
          have hnext := (increment_ofDeeds_exact_iff _ _ _).1 (hexact earlier hearlier)
          rw [UInt32.size] at hbefore hnext ⊢
          omega
        · exact hbefore
      | forgotten name id => exact Nat.le_trans (streak_forgotten_le ..) hbefore
      | cleared => exact Nat.zero_le _
  · intro hwithin earlier hearlier
    have hnext := hwithin _ hearlier
    rw [streak_counted, if_pos ⟨rfl, rfl⟩] at hnext
    rw [increment_ofDeeds_exact_iff]
    exact Nat.not_dvd_of_pos_of_lt (Nat.succ_pos _) (Nat.lt_of_le_sub_one (by decide) hnext)

end

/-- A message is let go as soon as its streak passes a limit: the streak is within the limit, and at
no time was it longer by more than one. -/
structure Bounded (limit : Nat) (history : List Deed) (pipeline messageId : String) : Prop where
  /-- The streak is within the limit. -/
  streak_le : streak history pipeline messageId ≤ limit
  /-- No streak was longer by more than one. -/
  within : Within (limit + 1) history pipeline messageId

namespace Bounded

variable {limit : Nat} {history : List Deed} {pipeline messageId : String}

theorem nil : Bounded limit [] pipeline messageId := ⟨Nat.zero_le _, within_nil⟩

/-- A history stays `Bounded` with a deed after which its streak still is within the limit. -/
theorem cons (h : Bounded limit history pipeline messageId) {deed : Deed}
    (hle : streak (deed :: history) pipeline messageId ≤ limit) :
    Bounded limit (deed :: history) pipeline messageId :=
  ⟨hle, within_cons.2 ⟨Nat.le_succ_of_le hle, h.within⟩⟩

theorem forgotten (h : Bounded limit history pipeline messageId) (name id : String) :
    Bounded limit (.forgotten name id :: history) pipeline messageId :=
  h.cons (Nat.le_trans (streak_forgotten_le ..) h.streak_le)

/-- A message that is let go has failed once beyond the limit for a moment. -/
theorem letGo (h : Bounded limit history pipeline messageId) (name id : String) :
    Bounded limit (.forgotten name id :: .counted name id :: history) pipeline messageId := by
  have hbefore := h.streak_le
  refine ⟨?_, within_cons.2 ⟨?_, within_cons.2 ⟨?_, h.within⟩⟩⟩ <;>
  · simp only [streak_forgotten, streak_counted]
    split <;> omega

/-- Streaks that are limited below the largest word are counted exactly. -/
theorem exact (h : Bounded limit history pipeline messageId) (hlimit : limit + 1 < UInt32.size) :
    Exact history pipeline messageId :=
  exact_iff_within.2 fun earlier hearlier =>
    Nat.le_trans (h.within earlier hearlier) (Nat.le_sub_one_of_lt hlimit)

/-- The next failure after streaks that are limited below the largest word does not make the count
wrap around. -/
theorem not_dvd (h : Bounded limit history pipeline messageId) (hlimit : limit + 1 < UInt32.size) :
    ¬ UInt32.size ∣ streak history pipeline messageId + 1 :=
  Nat.not_dvd_of_pos_of_lt (Nat.succ_pos _)
    (Nat.lt_of_le_of_lt (Nat.succ_le_succ h.streak_le) hlimit)

end Bounded

end Messaging.FailureCounter
