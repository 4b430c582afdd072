import Messaging.Proofs.Precedence

/-!
# Sets of steps with replacements

- `Collected` are the sets of steps that come about by registering, replacing and taking over, and
  `Collected.nodup` says that their ids differ. `TakesOver` says how far a set takes another over,
  and `extend_singleton` that a step is registered in the same way.
- `current?` is what is to run under an id: the last replacement, or else the registered step.
  `current?_replace` says how `replace` changes it. `effective_eq` says that the replacements come
  to that, or names the first one without a step.
- `resolvedIds_eq` says that replacements do not matter for the order.
- `steps_of_build` lists the steps of a built pipeline by the order of the ids, and
  `sublist_of_precedes` says that wishes are honoured whatever kinds of contexts they lead through.
-/

namespace Messaging

variable {S : Signature} {K : Type} {C : K → Type}

/-- A step with what it does taken from its last replacement. -/
def Step.replacedBy (replacements : List (Step S C)) (step : Step S C) : Step S C :=
  match replacements.reverse.find? (·.id = step.id) with
  | some replacement => step.replaceBy replacement
  | none => step

/-- Replacements change no id and no wish. -/
@[simp] theorem Step.placement_replacedBy (replacements : List (Step S C)) (step : Step S C) :
    (step.replacedBy replacements).placement = step.placement := by
  rw [replacedBy]
  split <;> rfl

/-- A step is replaced under its own id. -/
@[simp] theorem Step.id_replacedBy (replacements : List (Step S C)) (step : Step S C) :
    (step.replacedBy replacements).id = step.id := by
  rw [replacedBy]
  split <;> rfl

namespace StepSet

variable {set set' other : StepSet S C} {steps steps' replacements : List (Step S C)}
  {step replacement : Step S C}

/-! ### Collecting -/

/-- The sets that come about from an empty one. A refused step changes nothing, and a set is taken
over as far as its first refused step. -/
inductive Collected : StepSet S C → Prop where
  /-- Nothing has been registered. -/
  | new (name : String) : Collected { name }
  /-- A step is registered or refused. -/
  | register {set : StepSet S C} (hset : Collected set) (step : Step S C) :
      Collected ((set.register step).toOption.getD set)
  /-- A replacement is noted. -/
  | replace {set : StepSet S C} (hset : Collected set) (step : Step S C) :
      Collected (set.replace step)
  /-- Another set is taken over. -/
  | extend {set : StepSet S C} (hset : Collected set) (other : StepSet S C) :
      Collected (set.extend other).2

/-- What `extend` leaves behind of a set that takes another over, and the error that it reports. -/
inductive TakesOver (set other : StepSet S C) : Option ConfigError × StepSet S C → Prop where
  /-- All ids differ: the steps come last, and the replacements are the latest. -/
  | whole (hids : ((set.steps ++ other.steps).map (·.id)).Nodup) :
      TakesOver set other (none, { set with
        steps := set.steps ++ other.steps
        replacements := set.replacements ++ other.replacements })
  /-- An id is taken: the steps in front of it come last, and no replacement is taken over. -/
  | front {front back : List (Step S C)} {refused : Step S C}
      (hsteps : other.steps = front ++ refused :: back)
      (hids : ((set.steps ++ front).map (·.id)).Nodup)
      (htaken : refused.id ∈ (set.steps ++ front).map (·.id)) :
      TakesOver set other
        (some (.duplicateStep refused.id), { set with steps := set.steps ++ front })

/-- A set that takes another over has different ids. -/
theorem TakesOver.nodup {taken : Option ConfigError × StepSet S C} (h : TakesOver set other taken) :
    (taken.2.steps.map (·.id)).Nodup := by
  cases h with
  | whole hids => exact hids
  | front _ hids => exact hids

/-- `registerAll` goes as far as the first step whose id is taken. -/
theorem registerAll_cases (hset : (set.steps.map (·.id)).Nodup) (steps : List (Step S C)) :
    (((set.steps ++ steps).map (·.id)).Nodup ∧
        set.registerAll steps = (none, { set with steps := set.steps ++ steps })) ∨
      ∃ front refused back, steps = front ++ refused :: back ∧
        ((set.steps ++ front).map (·.id)).Nodup ∧
        refused.id ∈ (set.steps ++ front).map (·.id) ∧
        set.registerAll steps
          = (some (.duplicateStep refused.id), { set with steps := set.steps ++ front }) := by
  induction steps generalizing set with
  | nil => exact .inl ⟨by rwa [List.append_nil], by rw [List.append_nil]; rfl⟩
  | cons step rest ih =>
    rw [registerAll]
    split
    · next registered hregistered =>
      have hnodup := nodup_register hset hregistered
      rw [register] at hregistered
      split at hregistered
      · cases hregistered
      · cases hregistered
        -- the step has become one of those before, and the others are registered after it
        have happend (steps : List (Step S C)) :
            set.steps ++ [step] ++ steps = set.steps ++ step :: steps := by
          rw [List.append_assoc, List.singleton_append]
        obtain ⟨hids, hall⟩ | ⟨front, refused, back, rfl, hids, htaken, hall⟩ := ih hnodup
        · exact .inl ⟨happend rest ▸ hids, by rw [hall, happend]⟩
        · exact .inr ⟨step :: front, refused, back, rfl, happend front ▸ hids,
            happend front ▸ htaken, by rw [hall, happend]⟩
    · next error hrefused =>
      rw [register] at hrefused
      split at hrefused
      · next hcontains =>
        cases hrefused
        obtain ⟨taken, htaken, hid⟩ := List.any_eq_true.1 hcontains
        refine .inr ⟨[], step, rest, rfl, by rwa [List.append_nil], ?_, by rw [List.append_nil]⟩
        rw [List.append_nil]
        exact List.mem_map.2 ⟨taken, htaken, of_decide_eq_true hid⟩
      · cases hrefused

/-- What `extend` does to a set whose ids differ. -/
theorem takesOver_extend (hset : (set.steps.map (·.id)).Nodup) (other : StepSet S C) :
    TakesOver set other (set.extend other) := by
  rw [StepSet.extend]
  obtain ⟨hids, hall⟩ | ⟨front, refused, back, hsteps, hids, htaken, hall⟩ :=
    registerAll_cases hset other.steps
  · rw [hall]
    exact .whole hids
  · rw [hall]
    exact .front hsteps hids htaken

/-- To `register` a step is to `extend` the set by one that has only this step. -/
theorem extend_singleton (set : StepSet S C) (name : String) (step : Step S C) :
    set.extend { name, steps := [step] } = match set.register step with
      | .ok registered => (none, registered)
      | .error error => (some error, set) := by
  rw [StepSet.extend, registerAll]
  cases hregister : set.register step with
  | error => rfl
  | ok registered =>
    rw [register] at hregister
    split at hregister
    · cases hregister
    · cases hregister
      simp [registerAll]

/-- The ids of a set of steps differ, however it has come about. -/
theorem Collected.nodup (hset : Collected set) : (set.steps.map (·.id)).Nodup := by
  induction hset with
  | new => exact List.nodup_nil
  | @register set _ step ih =>
    have htaken := (takesOver_extend ih { name := "", steps := [step] }).nodup
    rw [extend_singleton] at htaken
    cases hregister : set.register step with
    | error => exact ih
    | ok registered => rwa [hregister] at htaken
  | replace _ _ ih => exact ih
  | extend _ other ih => exact (takesOver_extend ih other).nodup

/-! ### Replacements -/

/-- What is to run under an id: its last replacement, or else the registered step. -/
def current? (set : StepSet S C) (id : String) : Option (Step S C) :=
  (set.replacements.reverse.find? (·.id = id)).or (set.steps.find? (·.id = id))

/-- The first replacement of a step that is not registered. -/
def unknown? (set : StepSet S C) : Option (Step S C) :=
  set.replacements.find? fun replacement => !set.contains replacement.id

/-- The replacement that `replace` notes is what is to run under its id from then on. -/
theorem current?_replace (set : StepSet S C) (replacement : Step S C) (id : String) :
    (set.replace replacement).current? id
      = if replacement.id = id then some replacement else set.current? id := by
  rw [current?, current?, StepSet.replace, List.reverse_append, List.reverse_singleton,
    List.singleton_append, List.find?_cons]
  by_cases hid : replacement.id = id
  · simp [hid]
  · simp [hid]

/-- There is no step to replace exactly if none has the id. -/
theorem applyTo_eq_none : applyTo replacement steps = none ↔
    (steps.any (·.id = replacement.id)) = false := by
  induction steps with
  | nil => exact iff_of_true rfl rfl
  | cons step rest ih =>
    rw [applyTo]
    split
    · next hid => simp [hid]
    · next hid => simp [hid, ih]

/-- Of steps with different ids a replacement changes the one with its id. -/
theorem applyTo_eq_some (hsteps : (steps.map (·.id)).Nodup)
    (h : applyTo replacement steps = some steps') :
    steps' = steps.map fun step =>
      if step.id = replacement.id then step.replaceBy replacement else step := by
  induction steps generalizing steps' with
  | nil => cases h
  | cons step rest ih =>
    rw [List.map_cons, List.nodup_cons] at hsteps
    rw [applyTo] at h
    rw [List.map_cons]
    split at h
    · next hid =>
      cases h
      -- no other step has the id
      have hrest : ∀ other ∈ rest,
          (if other.id = replacement.id then other.replaceBy replacement else other) = other :=
        fun other hother => if_neg fun hsame =>
          hsteps.1 (List.mem_map.2 ⟨other, hother, hsame.trans hid.symm⟩)
      rw [if_pos hid, List.map_congr_left hrest, List.map_id']
    · next hid =>
      obtain ⟨rest', hrest', rfl⟩ := Option.map_eq_some_iff.1 h
      rw [if_neg hid, ih hsteps.2 hrest']

/-- One replacement more, applied before the others, matters only if it is the last one. -/
theorem replacedBy_cons (replacement : Step S C) (replacements : List (Step S C))
    (step : Step S C) :
    (if step.id = replacement.id then step.replaceBy replacement else step).replacedBy replacements
      = step.replacedBy (replacement :: replacements) := by
  simp only [Step.replacedBy, List.reverse_cons, List.find?_append, List.find?_singleton]
  by_cases hsame : step.id = replacement.id
  · rw [if_pos hsame]
    have hid : (step.replaceBy replacement).id = step.id := rfl
    rw [hid]
    -- a later replacement of the same step wins over this one
    cases replacements.reverse.find? (·.id = step.id) with
    | some later => rfl
    | none => simp [hsame]
  · rw [if_neg hsame]
    cases replacements.reverse.find? (·.id = step.id) with
    | some later => rfl
    | none => simp [Ne.symm hsame]

/-- Replacements come to the last one for each step, or to the first one without a step. -/
theorem applyAll_eq (hsteps : (steps.map (·.id)).Nodup) (replacements : List (Step S C)) :
    applyAll steps replacements
      = match replacements.find? fun replacement => !steps.any (·.id = replacement.id) with
        | some replacement => .error (.replaceUnknownStep replacement.id)
        | none => .ok (steps.map (Step.replacedBy replacements)) := by
  -- by induction on the replacements; each leaves the ids as they are
  induction replacements generalizing steps with
  | nil =>
    have hnone : Step.replacedBy ([] : List (Step S C)) = id := rfl
    rw [hnone, List.map_id]
    rfl
  | cons replacement rest ih =>
    rw [applyAll, List.find?_cons]
    cases happly : applyTo replacement steps with
    | none => simp [applyTo_eq_none.1 happly]
    | some replaced =>
      have hany : steps.any (·.id = replacement.id) = true := by
        rw [← Bool.not_eq_false, ← applyTo_eq_none, happly]
        exact Option.some_ne_none _
      have hplacement := placement_applyTo happly
      have hids : replaced.map (·.id) = steps.map (·.id) := by
        have := congrArg (List.map Pipeline.Placement.id) hplacement
        rwa [List.map_map, List.map_map] at this
      have hknown (id : String) : replaced.any (·.id = id) = steps.any (·.id = id) := by
        have := congrArg (List.any · (· = id)) hids
        rwa [List.any_map, List.any_map] at this
      simp only [ih (hids ▸ hsteps), hany, hknown]
      rw [applyTo_eq_some hsteps happly, List.map_map]
      simp only [Function.comp_def, replacedBy_cons]
      rfl

/-- Each step comes with its last replacement, unless one is for a step that is not registered. -/
theorem effective_eq (hset : (set.steps.map (·.id)).Nodup) :
    set.effective = match set.unknown? with
      | some replacement => .error (.replaceUnknownStep replacement.id)
      | none => .ok (set.steps.map (Step.replacedBy set.replacements)) :=
  applyAll_eq hset set.replacements

/-- What is to run under the id of a registered step. -/
theorem current?_eq (hset : (set.steps.map (·.id)).Nodup) (hstep : step ∈ set.steps) :
    set.current? step.id
      = some ((set.replacements.reverse.find? (·.id = step.id)).getD step) := by
  have hfind : set.steps.find? (·.id = step.id) = some step := by
    have hsome : (set.steps.find? (·.id = step.id)).isSome :=
      List.find?_isSome.2 ⟨step, hstep, by simp⟩
    obtain ⟨other, hother⟩ := Option.isSome_iff_exists.1 hsome
    have hid : other.id = step.id := by simpa using List.find?_some hother
    rw [hother, List.inj_on_of_nodup_map hset (List.mem_of_find?_eq_some hother) hstep hid]
  rw [current?, hfind]
  cases set.replacements.reverse.find? (·.id = step.id) <;> rfl

/-- A step does for contexts of a kind what is to run under its id. -/
theorem behaviorFor?_replacedBy [DecidableEq K] (hset : (set.steps.map (·.id)).Nodup)
    (hstep : step ∈ set.steps) (kind : K) :
    (step.replacedBy set.replacements).behaviorFor? kind
      = (set.current? step.id).bind (·.behaviorFor? kind) := by
  rw [current?_eq hset hstep, Step.replacedBy]
  cases set.replacements.reverse.find? (·.id = step.id) <;> rfl

/-! ### The order of the ids -/

/-- Nothing runs if the first of the replacements without a step is refused. -/
theorem resolved_eq_error (hset : (set.steps.map (·.id)).Nodup)
    (hunknown : set.unknown? = some replacement) :
    set.resolved = .error (.replaceUnknownStep replacement.id) := by
  rw [resolved, effective_eq hset, hunknown]
  rfl

/-- The steps that run are registered ones with their last replacements, in an order of their
positions that depends on the registered ones alone. -/
theorem resolved_eq (hset : (set.steps.map (·.id)).Nodup) (hknown : set.unknown? = none) :
    set.resolved = (Pipeline.resolve (set.steps.map Step.placement)).map fun order =>
      (order.filterMap fun index => set.steps[index]?).map
        (Step.replacedBy set.replacements) := by
  have hplacements : (set.steps.map (Step.replacedBy set.replacements)).map Step.placement
      = set.steps.map Step.placement := by
    rw [List.map_map]
    exact List.map_congr_left fun step _ => step.placement_replacedBy _
  rw [resolved, effective_eq hset, hknown]
  simp only [bind, Except.bind, hplacements]
  cases Pipeline.resolve (set.steps.map Step.placement) with
  | error => rfl
  | ok order =>
    simp only [Except.map, List.map_filterMap, List.getElem?_map]

/-- Replacements do not matter for the order of the ids. -/
theorem resolvedIds_eq (hset : (set.steps.map (·.id)).Nodup) (hknown : set.unknown? = none) :
    set.resolvedIds = (Pipeline.resolve (set.steps.map Step.placement)).map fun order =>
      (order.filterMap fun index => set.steps[index]?).map (·.id) := by
  rw [resolvedIds, resolved_eq hset hknown]
  cases Pipeline.resolve (set.steps.map Step.placement) with
  | error => rfl
  | ok order =>
    simp only [bind, Except.bind, Except.map, List.map_map, Function.comp_def, Step.id_replacedBy]

/-- An order of the ids is the earliest order of the positions. -/
theorem earliest_of_resolvedIds (hset : (set.steps.map (·.id)).Nodup) {ids : List String}
    (hids : set.resolvedIds = .ok ids) :
    set.unknown? = none ∧ Pipeline.firstUnknown? (set.steps.map Step.placement) = none ∧
      ∃ order, Pipeline.Earliest (set.steps.map Step.placement) order ∧
        ids = (order.filterMap fun index => set.steps[index]?).map (·.id) := by
  cases hunknown : set.unknown? with
  | some replacement =>
    rw [resolvedIds, resolved_eq_error hset hunknown] at hids
    cases hids
  | none =>
    rw [resolvedIds_eq hset hunknown] at hids
    have hplacements : ((set.steps.map Step.placement).map (·.id)).Nodup := by
      rw [List.map_map]
      exact hset
    have hresolution := Pipeline.resolve_resolution hplacements
    -- the ids are those of the earliest order, as `resolve` has found one
    cases horder : Pipeline.resolve (set.steps.map Step.placement) with
    | error error =>
      rw [horder] at hids
      cases hids
    | ok order =>
      rw [horder] at hids hresolution
      cases hids
      cases hresolution with
      | ordered hreferences hearliest => exact ⟨rfl, hreferences, order, hearliest, rfl⟩

/-- Every registered step runs once, under its own id. -/
theorem perm_of_resolvedIds (hset : (set.steps.map (·.id)).Nodup) {ids : List String}
    (hids : set.resolvedIds = .ok ids) : ids.Perm (set.steps.map (·.id)) := by
  obtain ⟨-, -, order, hearliest, rfl⟩ := earliest_of_resolvedIds hset hids
  refine List.Perm.map _ ?_
  have hperm := hearliest.perm.filterMap fun index => set.steps[index]?
  rwa [List.length_map, Redelivery.filterMap_getElem?_range] at hperm

/-! ### Wishes -/

/-- A wish of a registered step: the first of two ids runs before the other. -/
def Precedes (set : StepSet S C) (first later : String) : Prop :=
  (∃ step ∈ set.steps, step.id = first ∧ later ∈ step.before) ∨
    ∃ step ∈ set.steps, step.id = later ∧ first ∈ step.after

/-- Where a list has one element before another. -/
theorem sublist_of_idxOf_lt {items : List Nat} {first later : Nat} (hlater : later ∈ items)
    (h : items.idxOf first < items.idxOf later) : [first, later].Sublist items := by
  have hindex : items.idxOf later < items.length := List.idxOf_lt_length_iff.2 hlater
  have hfirst : first ∈ items := List.idxOf_lt_length_iff.1 (h.trans hindex)
  have hfront : first ∈ items.take (items.idxOf later) :=
    (List.mem_take_iff_idxOf_lt hfirst).2 h
  have hback : later ∈ items.drop (items.idxOf later) := by
    rw [List.drop_eq_getElem_cons hindex, List.getElem_idxOf]
    exact List.mem_cons_self
  rw [← List.take_append_drop (items.idxOf later) items]
  exact (List.singleton_sublist.2 hfront).append (List.singleton_sublist.2 hback)

/-- A registered step stands at the position of its id. -/
theorem getElem?_idxOf_id (hset : (set.steps.map (·.id)).Nodup) (hstep : step ∈ set.steps) :
    set.steps[(set.steps.map (·.id)).idxOf step.id]? = some step := by
  have hid := List.getElem?_idxOf (List.mem_map_of_mem (f := (·.id)) hstep)
  rw [List.getElem?_map] at hid
  obtain ⟨other, hother, hsame⟩ := Option.map_eq_some_iff.1 hid
  rw [hother, List.inj_on_of_nodup_map hset (List.mem_of_getElem? hother) hstep hsame]

/-- The two steps of a wish, if all references are to registered steps. -/
theorem Precedes.exists_steps
    (hreferences : Pipeline.firstUnknown? (set.steps.map Step.placement) = none)
    {first later : String} (h : set.Precedes first later) :
    ∃ step ∈ set.steps, ∃ other ∈ set.steps, step.id = first ∧ other.id = later ∧
      (other.id ∈ step.before ∨ step.id ∈ other.after) := by
  -- every step that is referred to is registered
  have hknown {step : Step S C} (hstep : step ∈ set.steps) {reference : String}
      (href : reference ∈ step.before ++ step.after) :
      ∃ other ∈ set.steps, other.id = reference := by
    obtain ⟨placement, hplacement, hid⟩ := Pipeline.firstUnknown?_eq_none.1 hreferences
      step.placement (List.mem_map_of_mem hstep) reference href
    obtain ⟨other, hother, rfl⟩ := List.mem_map.1 hplacement
    exact ⟨other, hother, hid⟩
  rcases h with ⟨step, hstep, rfl, hwish⟩ | ⟨other, hother, rfl, hwish⟩
  · obtain ⟨other, hother, rfl⟩ := hknown hstep (List.mem_append_left _ hwish)
    exact ⟨step, hstep, other, hother, rfl, rfl, .inl hwish⟩
  · obtain ⟨step, hstep, rfl⟩ := hknown hother (List.mem_append_right _ hwish)
    exact ⟨step, hstep, other, hother, rfl, rfl, .inr hwish⟩

/-- Wishes are honoured, through whatever kinds of contexts they lead. -/
theorem sublist_of_precedes (hset : (set.steps.map (·.id)).Nodup) {ids : List String}
    (hids : set.resolvedIds = .ok ids) {first later : String}
    (hprecedes : Relation.TransGen set.Precedes first later) : [first, later].Sublist ids := by
  obtain ⟨-, hreferences, order, hearliest, rfl⟩ := earliest_of_resolvedIds hset hids
  let position (id : String) : Nat := (set.steps.map (·.id)).idxOf id
  have hlt : Relation.TransGen (· < ·) (order.idxOf (position first))
      (order.idxOf (position later)) := by
    refine hprecedes.lift (fun id => order.idxOf (position id)) fun first later h => ?_
    obtain ⟨step, hstep, other, hother, rfl, rfl, hwish⟩ := h.exists_steps hreferences
    refine hearliest.honours _ _ ⟨step.placement, other.placement, ?_, ?_, hwish⟩
    · rw [List.getElem?_map, getElem?_idxOf_id hset hstep]
      rfl
    · rw [List.getElem?_map, getElem?_idxOf_id hset hother]
      rfl
  rw [Relation.transGen_eq_self] at hlt
  -- both ids are registered, since the first wish and the last one are
  obtain ⟨_, hhead, -⟩ := Relation.TransGen.head'_iff.1 hprecedes
  obtain ⟨step, hstep, -, -, rfl, -, -⟩ := hhead.exists_steps hreferences
  obtain ⟨_, -, htail⟩ := Relation.TransGen.tail'_iff.1 hprecedes
  obtain ⟨-, -, other, hother, -, rfl, -⟩ := htail.exists_steps hreferences
  have hlater : position other.id ∈ order := by
    refine hearliest.perm.mem_iff.2 (List.mem_range.2 ?_)
    rw [List.length_map]
    exact (List.getElem?_eq_some_iff.1 (getElem?_idxOf_id hset hother)).1
  have hpositions := ((sublist_of_idxOf_lt hlater hlt).filterMap
    fun index => set.steps[index]?).map (·.id)
  have hsteps : [position step.id, position other.id].filterMap (fun index => set.steps[index]?)
      = [step, other] := by
    rw [List.filterMap_cons_some (getElem?_idxOf_id hset hstep),
      List.filterMap_cons_some (getElem?_idxOf_id hset hother), List.filterMap_nil]
  rwa [hsteps] at hpositions

/-! ### Built pipelines -/

/-- The steps of a built pipeline are those of its kind, in the order of the ids. -/
theorem steps_of_build [DecidableEq K] (hset : (set.steps.map (·.id)).Nodup) {kind : K}
    {terminator : Terminator S (C kind)} {pipeline : Pipeline S (C kind)}
    (hbuild : set.build kind terminator = .ok pipeline) :
    ∃ ids, set.resolvedIds = .ok ids ∧
      pipeline = {
        name := set.name
        steps := ids.filterMap fun id =>
          ((set.current? id).bind (·.behaviorFor? kind)).map fun behavior => (id, behavior)
        terminator } := by
  cases hunknown : set.unknown? with
  | some replacement =>
    rw [build, resolved_eq_error hset hunknown] at hbuild
    cases hbuild
  | none =>
    rw [build, resolved_eq hset hunknown] at hbuild
    rw [resolvedIds_eq hset hunknown]
    cases horder : Pipeline.resolve (set.steps.map Step.placement) with
    | error error =>
      rw [horder] at hbuild
      cases hbuild
    | ok order =>
      rw [horder] at hbuild
      cases hbuild
      refine ⟨_, rfl, ?_⟩
      congr 1
      rw [List.filterMap_map, List.filterMap_map]
      -- what runs under an id is the behavior of its last replacement, if it is of the kind
      refine List.filterMap_congr fun step hstep => ?_
      obtain ⟨index, -, hindex⟩ := List.mem_filterMap.1 hstep
      rw [Function.comp_apply, Function.comp_apply, Step.id_replacedBy,
        behaviorFor?_replacedBy hset (List.mem_of_getElem? hindex)]

end StepSet

end Messaging
