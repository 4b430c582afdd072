import Mathlib.Data.List.Nodup
import Messaging.Pipeline.Order

/-!
# What steps ask of their order

Steps refer to each other by their ids, and what they ask becomes links between their positions.

- `Wants` says that a step is to run before another, as one of the two asks.
- `references` lists what the steps refer to, and `firstUnknown?` is the first reference to a step
  that is not there.
- `links_cases` says that the links of steps with different ids are what the steps ask, unless there
  is such a reference.
-/

namespace Messaging.Pipeline

/-- A step is to run before another, as one of the two asks. -/
def Wants (placements : List Placement) (first later : Nat) : Prop :=
  ∃ step other, placements[first]? = some step ∧ placements[later]? = some other ∧
    (other.id ∈ step.before ∨ step.id ∈ other.after)

/-- A step has an id. -/
def Known (placements : List Placement) (id : String) : Prop :=
  ∃ step ∈ placements, step.id = id

instance (placements : List Placement) (id : String) : Decidable (Known placements id) :=
  inferInstanceAs (Decidable (∃ step ∈ placements, step.id = id))

instance (placements : List Placement) (first later : Nat) :
    Decidable (Wants placements first later) :=
  decidable_of_iff
    (∃ step ∈ placements[first]?, ∃ other ∈ placements[later]?,
      other.id ∈ step.before ∨ step.id ∈ other.after)
    (by simp only [Wants, Option.mem_def]; grind)

/-- The ids that steps refer to, each with the id of the step that does. What a step is to run
before comes ahead of what it is to run after. -/
def references (placements : List Placement) : List (String × String) :=
  placements.flatMap fun step =>
    (step.before ++ step.after).map fun reference => (step.id, reference)

/-- The first reference to a step that is not there. -/
def firstUnknown? (placements : List Placement) : Option (String × String) :=
  (references placements).find? fun pair => ¬ Known placements pair.2

variable {placements rest : List Placement} {id step reference : String}
  {found : List Link} {link : Nat → Link} {refs : List String} {index first later : Nat}

theorem firstUnknown?_eq_none :
    firstUnknown? placements = none ↔
      ∀ step ∈ placements, ∀ reference ∈ step.before ++ step.after, Known placements reference := by
  simp only [firstUnknown?, references, List.find?_eq_none, List.mem_flatMap, List.mem_map,
    decide_eq_true_eq, not_not]
  constructor
  · exact fun h step hstep reference href =>
      h (step.id, reference) ⟨step, hstep, reference, href, rfl⟩
  · rintro h _ ⟨step, hstep, reference, href, rfl⟩
    exact h step hstep reference href

theorem Wants.lt_length (h : Wants placements first later) :
    first < placements.length ∧ later < placements.length := by
  obtain ⟨step, other, hstep, hother, -⟩ := h
  exact ⟨(List.getElem?_eq_some_iff.1 hstep).1, (List.getElem?_eq_some_iff.1 hother).1⟩

/-! ### Positions -/

theorem position?_eq_none : position? placements id = none ↔ ¬ Known placements id := by
  simp [position?, List.findIdx?_eq_none_iff, Known]

/-- Of steps with different ids one has the position of its id. -/
theorem position?_eq_some (hnodup : (placements.map (·.id)).Nodup) :
    position? placements id = some index ↔
      ∃ step, placements[index]? = some step ∧ step.id = id := by
  rw [position?, List.findIdx?_eq_some_iff_getElem]
  constructor
  · rintro ⟨hindex, hid, -⟩
    exact ⟨placements[index], List.getElem?_eq_getElem hindex, by simpa using hid⟩
  · rintro ⟨step, hstep, rfl⟩
    obtain ⟨hindex, rfl⟩ := List.getElem?_eq_some_iff.1 hstep
    refine ⟨hindex, by simp, fun other hother => ?_⟩
    -- an earlier step with the id would be the same
    have hne := List.nodup_iff_getElem?_ne_getElem?.1 hnodup other index hother
      (by simpa using hindex)
    rw [List.getElem?_map, List.getElem?_map, List.getElem?_eq_getElem (Nat.lt_trans hother hindex),
      List.getElem?_eq_getElem hindex] at hne
    simpa using hne

/-! ### Links -/

theorem mem_addLink {other new : Link} :
    other ∈ addLink found new ↔ other ∈ found ∨ other = new := by
  rw [addLink]
  split
  · next hmem =>
    have hmem : new ∈ found := by simpa using hmem
    exact ⟨.inl, fun h => h.elim id fun h => h ▸ hmem⟩
  · simp

theorem nodup_addLink {new : Link} (h : found.Nodup) : (addLink found new).Nodup := by
  rw [addLink]
  split
  · exact h
  · next hmem =>
    refine List.nodup_append.2 ⟨h, List.nodup_singleton new, fun other hother _ hnew => ?_⟩
    rintro rfl
    exact hmem (by simpa [List.mem_singleton.1 hnew] using hother)

/-- A position has a link for each of some references. -/
def Linked (placements : List Placement) (link : Nat → Link) (refs : List String) (new : Link) :
    Prop :=
  ∃ reference ∈ refs, ∃ target, position? placements reference = some target ∧ link target = new

theorem known_of_find? (h : refs.find? (fun id => ¬ Known placements id) = none) :
    ∀ reference ∈ refs, Known placements reference := by
  simpa using h

/-- References to steps that are there become links. -/
theorem addLinks_of_known (step : String) (link : Nat → Link) (found : List Link)
    (hknown : ∀ reference ∈ refs, Known placements reference) :
    ∃ found', addLinks placements step link refs found = .ok found' ∧
      (∀ new, new ∈ found' ↔ new ∈ found ∨ Linked placements link refs new) ∧
      (found.Nodup → found'.Nodup) := by
  induction refs generalizing found with
  | nil => exact ⟨found, rfl, by simp [Linked], id⟩
  | cons reference rest ih =>
    obtain ⟨hreference, hrest⟩ := List.forall_mem_cons.1 hknown
    -- a step that is known has a position
    obtain ⟨target, htarget⟩ : ∃ target, position? placements reference = some target := by
      rw [← Option.ne_none_iff_exists']
      exact fun hnone => position?_eq_none.1 hnone hreference
    obtain ⟨found', hfound', hmem, hnodup⟩ := ih (addLink found (link target)) hrest
    refine ⟨found', ?_, fun new => ?_, fun h => hnodup (nodup_addLink h)⟩
    · rw [addLinks, htarget]
      exact hfound'
    · rw [hmem, mem_addLink, or_assoc]
      simp [Linked, htarget, eq_comm]

/-- The first reference to a step that is not there is refused. -/
theorem addLinks_of_unknown (h : refs.find? (fun id => ¬ Known placements id) = some reference) :
    addLinks placements step link refs found = .error (.unknownStep step reference) := by
  induction refs generalizing found with
  | nil => cases h
  | cons first rest ih =>
    rw [addLinks]
    by_cases hfirst : Known placements first
    · rw [List.find?_cons_of_neg (by simpa using hfirst)] at h
      split
      · next hnone => exact absurd hfirst (position?_eq_none.1 hnone)
      · exact ih h
    · rw [List.find?_cons_of_pos (by simpa using hfirst)] at h
      cases h
      rw [position?_eq_none.2 hfirst]

/-- A step at a position asks for a link. -/
def Asks (placements : List Placement) (index : Nat) (step : Placement) (new : Link) : Prop :=
  Linked placements (fun target => (index, target)) step.before new ∨
    Linked placements (fun target => (target, index)) step.after new

/-- What steps ask becomes links, if they refer to steps that are there. -/
theorem linksFrom_of_known (index : Nat) (found : List Link)
    (hknown : ∀ pair ∈ references rest, Known placements pair.2) :
    ∃ found', linksFrom placements rest index found = .ok found' ∧
      (∀ new, new ∈ found' ↔ new ∈ found ∨
        ∃ offset step, rest[offset]? = some step ∧ Asks placements (index + offset) step new) ∧
      (found.Nodup → found'.Nodup) := by
  induction rest generalizing index found with
  | nil => exact ⟨found, rfl, by simp, id⟩
  | cons step rest ih =>
    rw [references, List.flatMap_cons, ← references, List.forall_mem_append] at hknown
    simp only [List.forall_mem_map, List.forall_mem_append] at hknown
    obtain ⟨⟨hbefore, hafter⟩, hrest⟩ := hknown
    obtain ⟨found₁, hfound₁, hmem₁, hnodup₁⟩ := addLinks_of_known step.id
      (fun target => (index, target)) found hbefore
    obtain ⟨found₂, hfound₂, hmem₂, hnodup₂⟩ := addLinks_of_known step.id
      (fun target => (target, index)) found₁ hafter
    obtain ⟨found₃, hfound₃, hmem₃, hnodup₃⟩ := ih (index + 1) found₂ hrest
    refine ⟨found₃, ?_, fun new => ?_, fun h => hnodup₃ (hnodup₂ (hnodup₁ h))⟩
    · simp only [linksFrom, hfound₁, hfound₂, hfound₃, bind, Except.bind]
    · rw [hmem₃, hmem₂, hmem₁, or_assoc, or_assoc]
      refine or_congr_right ?_
      constructor
      · rintro (hnew | hnew | ⟨offset, other, hother, hasks⟩)
        · exact ⟨0, step, rfl, .inl hnew⟩
        · exact ⟨0, step, rfl, .inr hnew⟩
        · exact ⟨offset + 1, other, hother, by rwa [← Nat.add_assoc, Nat.add_right_comm]⟩
      · rintro ⟨offset, other, hother, hasks⟩
        cases offset with
        | zero =>
          cases hother
          exact hasks.imp_right .inl
        | succ offset =>
          refine .inr (.inr ⟨offset, other, hother, ?_⟩)
          rwa [Nat.add_right_comm, Nat.add_assoc]

/-- The first reference of steps to one that is not there is refused. -/
theorem linksFrom_of_unknown
    (h : (references rest).find? (fun pair => ¬ Known placements pair.2) = some (step, reference)) :
    linksFrom placements rest index found = .error (.unknownStep step reference) := by
  induction rest generalizing index found with
  | nil => cases h
  | cons first rest ih =>
    rw [references, List.flatMap_cons, ← references, List.find?_append, List.find?_map,
      List.find?_append] at h
    -- what the step is to run before is looked at first, then what it is to run after
    cases hbefore : first.before.find? (fun id => ¬ Known placements id) with
    | some unknown =>
      change ((Option.or (first.before.find? fun id => ¬ Known placements id) _).map _).or _ = _
        at h
      rw [hbefore] at h
      cases h
      rw [linksFrom, addLinks_of_unknown hbefore]
      rfl
    | none =>
      obtain ⟨found₁, hfound₁, -⟩ := addLinks_of_known first.id
        (fun target => (index, target)) found (known_of_find? hbefore)
      change ((Option.or (first.before.find? fun id => ¬ Known placements id)
        (first.after.find? fun id => ¬ Known placements id)).map _).or _ = _ at h
      rw [hbefore] at h
      rw [linksFrom, hfound₁]
      cases hafter : first.after.find? (fun id => ¬ Known placements id) with
      | some unknown =>
        rw [hafter] at h
        cases h
        simp only [bind, Except.bind, addLinks_of_unknown hafter]
      | none =>
        obtain ⟨found₂, hfound₂, -⟩ := addLinks_of_known first.id
          (fun target => (target, index)) found₁ (known_of_find? hafter)
        rw [hafter] at h
        simp only [bind, Except.bind, hfound₂]
        exact ih h

/-- A step at a position asks for what it wants. -/
theorem asks_iff_wants (hnodup : (placements.map (·.id)).Nodup) :
    (∃ index step, placements[index]? = some step ∧ Asks placements index step (first, later)) ↔
      Wants placements first later := by
  simp only [Asks, Linked, position?_eq_some hnodup, Prod.mk.injEq]
  constructor
  · rintro ⟨index, step, hstep, ⟨_, href, target, ⟨other, hother, rfl⟩, rfl, rfl⟩ |
      ⟨_, href, target, ⟨other, hother, rfl⟩, rfl, rfl⟩⟩
    · exact ⟨step, other, hstep, hother, .inl href⟩
    · exact ⟨other, step, hother, hstep, .inr href⟩
  · rintro ⟨step, other, hstep, hother, href | href⟩
    · exact ⟨first, step, hstep, .inl ⟨_, href, later, ⟨other, hother, rfl⟩, rfl, rfl⟩⟩
    · exact ⟨later, other, hother, .inr ⟨_, href, first, ⟨step, hstep, rfl⟩, rfl, rfl⟩⟩

/-- The links of steps with different ids are what the steps want, each once, unless there is a
reference to a step that is not there. -/
theorem links_cases (hnodup : (placements.map (·.id)).Nodup) :
    (∃ step reference, firstUnknown? placements = some (step, reference) ∧
        links placements = .error (.unknownStep step reference)) ∨
      ∃ found, firstUnknown? placements = none ∧ links placements = .ok found ∧ found.Nodup ∧
        ∀ first later, (first, later) ∈ found ↔ Wants placements first later := by
  cases hunknown : firstUnknown? placements with
  | some pair =>
    exact .inl ⟨pair.1, pair.2, rfl, linksFrom_of_unknown hunknown⟩
  | none =>
    have hknown : ∀ pair ∈ references placements, Known placements pair.2 := by
      simpa [firstUnknown?] using hunknown
    obtain ⟨found, hfound, hmem, hdistinct⟩ := linksFrom_of_known 0 [] hknown
    refine .inr ⟨found, rfl, hfound, hdistinct .nil, fun first later => ?_⟩
    rw [hmem, ← asks_iff_wants hnodup]
    simp

end Messaging.Pipeline
