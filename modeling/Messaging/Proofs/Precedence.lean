import Messaging.Proofs.Deferring

/-!
# Built-in steps run outside those of the user

Steps of the user are registered after the built-in ones. As long as none of them asks to run before
a built-in step, or takes the place of one, the built-in steps come first in every pipeline.

- `Earliest.exists_range_append` says that the steps registered first come first in the order, if
  they wait for no others, and `StepSet.resolved_append` says so of sets of steps.
- `Spares` says that steps of the user leave some steps alone.
- `Recovered` lists what becomes of a failure that leaves the steps of the user.
- `builtIn_outermost` says what comes first in the pipelines of an endpoint that receives.
-/

namespace Messaging.Pipeline

variable {placements : List Placement} {order rest : List Nat}

/-! ### The order -/

/-- Leaving elements out keeps the order of the others. -/
theorem idxOf_filter_lt {items : List Nat} (keeps : Nat → Bool) {first later : Nat}
    (hfirst : keeps first = true) (hlater : keeps later = true)
    (h : items.idxOf first < items.idxOf later) :
    (items.filter keeps).idxOf first < (items.filter keeps).idxOf later := by
  induction items with
  | nil => exact h
  | cons head tail ih =>
    rw [List.idxOf_cons, List.idxOf_cons] at h
    -- the head is the first of the two, the later one, or neither
    by_cases hhead : head = first
    · subst hhead
      have hne : head ≠ later := by
        rintro rfl
        simp at h
      rw [List.filter_cons_of_pos hfirst, List.idxOf_cons_self, List.idxOf_cons_ne _ hne]
      exact Nat.succ_pos _
    · by_cases hsame : head = later
      · simp [hsame] at h
      · simp only [beq_eq_false_iff_ne.2 hhead, beq_eq_false_iff_ne.2 hsame, cond_false] at h
        have htail := ih (Nat.lt_of_succ_lt_succ h)
        rw [List.filter_cons]
        split
        · rw [List.idxOf_cons_ne _ hhead, List.idxOf_cons_ne _ hsame]
          exact Nat.succ_lt_succ htail
        · exact htail

theorem idxOf_range {count node : Nat} (h : node < count) :
    (List.range count).idxOf node = node := by
  have hget := (List.nodup_range (n := count)).idxOf_getElem node (by simpa using h)
  rwa [List.getElem_range] at hget

/-- What is no later than an order that begins with its least positions begins with them too. -/
theorem NoLater.exists_range'_append {start count : Nat}
    (hperm : order.Perm (List.range' start count ++ rest))
    (hrest : ∀ node ∈ rest, start + count ≤ node)
    (h : NoLater order (List.range' start count ++ rest)) :
    ∃ others, order = List.range' start count ++ others := by
  induction count generalizing start order with
  | zero => exact ⟨order, rfl⟩
  | succ count ih =>
    rw [List.range'_succ, List.cons_append] at hperm h
    cases order with
    | nil => exact absurd hperm.symm.eq_nil (List.cons_ne_nil _ _)
    | cons first others =>
      have hleast : start ≤ first := by
        rcases List.mem_cons.1 (hperm.subset List.mem_cons_self) with rfl | hmem
        · exact Nat.le_refl _
        · rcases List.mem_append.1 hmem with hmem | hmem
          · exact Nat.le_of_succ_le (List.mem_range'_1.1 hmem).1
          · exact Nat.le_trans (Nat.le_add_right _ _) (hrest first hmem)
      -- the first position is not before the least one, so the two are the same
      have htail : first = start ∧ NoLater others (List.range' (start + 1) count ++ rest) := by
        rcases h with heq | hlex
        · obtain ⟨rfl, rfl⟩ := List.cons.inj heq
          exact ⟨rfl, .inl rfl⟩
        · cases hlex with
          | rel hlt => omega
          | cons hlex => exact ⟨rfl, .inr hlex⟩
      obtain ⟨rfl, htail⟩ := htail
      obtain ⟨later, rfl⟩ := ih hperm.cons_inv
        (fun node hnode => by have := hrest node hnode; omega) htail
      exact ⟨later, rfl⟩

/-- An order in which nobody waits in vain stays one if the positions before a bound are moved to
its front, and wait for none beyond it. -/
theorem Honours.range_append (h : Honours placements order) {count : Nat}
    (hclosed : ∀ first later, Wants placements first later → later < count → first < later) :
    Honours placements (List.range count ++ order.filter fun node => count ≤ node) := by
  intro first later hwants
  by_cases hearly : later < count
  · have hlt := hclosed first later hwants hearly
    rw [List.idxOf_append_of_mem (List.mem_range.2 hearly),
      List.idxOf_append_of_mem (List.mem_range.2 (hlt.trans hearly)), idxOf_range hearly,
      idxOf_range (hlt.trans hearly)]
    exact hlt
  · rw [List.idxOf_append_of_notMem (fun hmem => hearly (List.mem_range.1 hmem)),
      List.length_range]
    by_cases hfirst : first < count
    · rw [List.idxOf_append_of_mem (List.mem_range.2 hfirst), idxOf_range hfirst]
      omega
    · -- both are beyond the bound, where the order is as it was
      rw [List.idxOf_append_of_notMem (fun hmem => hfirst (List.mem_range.1 hmem)),
        List.length_range]
      have hlt := idxOf_filter_lt (fun node => count ≤ node) (by simpa using hfirst)
        (by simpa using hearly) (h first later hwants)
      omega

/-- Steps that were registered before all others, and wait for none of those, run in the order of
their registration before all others. -/
theorem Earliest.exists_range_append (h : Earliest placements order) {count : Nat}
    (hcount : count ≤ placements.length)
    (hclosed : ∀ first later, Wants placements first later → later < count → first < later) :
    ∃ others, order = List.range count ++ others ∧
      others.Perm (List.range' count (placements.length - count)) := by
  have hsplit : List.range placements.length
      = List.range count ++ List.range' count (placements.length - count) := by
    have happend := List.range'_append_1 (s := 0) (m := count) (n := placements.length - count)
    rw [Nat.zero_add, Nat.add_sub_cancel' hcount] at happend
    rw [List.range_eq_range', List.range_eq_range', happend]
  set late := order.filter fun node => count ≤ node with hlate
  have hperm : late.Perm (List.range' count (placements.length - count)) := by
    refine (h.perm.filter _).trans (List.Perm.of_eq ?_)
    rw [hsplit, List.filter_append, List.filter_eq_nil_iff.2, List.filter_eq_self.2,
      List.nil_append]
    · intro node hnode
      exact decide_eq_true (List.mem_range'_1.1 hnode).1
    · intro node hnode
      simpa using List.mem_range.1 hnode
  -- taking them first gives the steps what they want, so the earliest order does it as well
  have hhonours : Honours placements (List.range count ++ late) := h.honours.range_append hclosed
  have hall : (List.range count ++ late).Perm (List.range placements.length) := by
    rw [hsplit]
    exact hperm.append_left _
  have hleast := h.least _ hall hhonours
  rw [List.range_eq_range'] at hleast ⊢
  obtain ⟨others, rfl⟩ := hleast.exists_range'_append
    (by rw [← List.range_eq_range']; exact h.perm.trans hall.symm)
    (fun node hnode => by simpa using (List.mem_filter.1 hnode).2)
  refine ⟨others, rfl, ?_⟩
  have hboth := h.perm.trans hall.symm
  rw [List.range_eq_range'] at hboth
  exact ((List.perm_append_left_iff _).1 hboth).trans hperm

end Messaging.Pipeline

namespace Messaging

/-! ### Sets of steps -/

namespace StepSet

variable {S : Signature} {K : Type} {C : K → Type} {set set' other : StepSet S C}
  {front back steps steps' : List (Step S C)} {replacement : Step S C}

/-- A registered step has an id of its own. -/
theorem nodup_register {step : Step S C} (hset : (set.steps.map (·.id)).Nodup)
    (h : set.register step = .ok set') : (set'.steps.map (·.id)).Nodup := by
  rw [register] at h
  split at h
  · cases h
  · next hnew =>
    cases h
    rw [List.map_append, List.map_singleton, List.nodup_append_comm, List.singleton_append,
      List.nodup_cons]
    refine ⟨fun hmem => hnew ?_, hset⟩
    obtain ⟨old, hold, hid⟩ := List.mem_map.1 hmem
    exact List.any_eq_true.2 ⟨old, hold, decide_eq_true hid⟩

/-- Steps that are all registered come after those before, and no two of all have the same id. -/
theorem registerAll_eq_none (h : set.registerAll steps = (none, set')) :
    set' = { set with steps := set.steps ++ steps } ∧
      ((set.steps.map (·.id)).Nodup → (set'.steps.map (·.id)).Nodup) := by
  induction steps generalizing set with
  | nil =>
    cases h
    exact ⟨by rw [List.append_nil], id⟩
  | cons step rest ih =>
    rw [registerAll] at h
    split at h
    · next registered hregistered =>
      obtain ⟨rfl, hnodup⟩ := ih h
      refine ⟨?_, fun hset => hnodup (nodup_register hset hregistered)⟩
      -- a registration that succeeds only appends its step
      rw [register] at hregistered
      split at hregistered
      · cases hregistered
      · cases hregistered
        rw [List.append_assoc, List.singleton_append]
    · cases h

/-- Everything of another set comes after what was there. -/
theorem extend_eq_none (h : set.extend other = (none, set')) :
    set' = { set with
        steps := set.steps ++ other.steps
        replacements := set.replacements ++ other.replacements } ∧
      ((set.steps.map (·.id)).Nodup → (set'.steps.map (·.id)).Nodup) := by
  rw [extend] at h
  split at h
  · next registered hregistered =>
    cases h
    obtain ⟨rfl, hnodup⟩ := registerAll_eq_none hregistered
    exact ⟨rfl, hnodup⟩
  · cases h

/-- A replacement of a later step leaves the earlier ones alone. -/
theorem applyTo_append (h : ∀ step ∈ front, step.id ≠ replacement.id) :
    applyTo replacement (front ++ back) = (applyTo replacement back).map (front ++ ·) := by
  induction front with
  | nil => simp
  | cons step rest ih =>
    obtain ⟨hstep, hrest⟩ := List.forall_mem_cons.1 h
    rw [List.cons_append, applyTo, if_neg hstep, ih hrest, Option.map_map]
    rfl

/-- Replacements of later steps leave the earlier ones alone. -/
theorem applyAll_append {replacements : List (Step S C)}
    (h : ∀ replacement ∈ replacements, ∀ step ∈ front, step.id ≠ replacement.id) :
    applyAll (front ++ back) replacements = (applyAll back replacements).map (front ++ ·) := by
  induction replacements generalizing back with
  | nil => rfl
  | cons replacement rest ih =>
    obtain ⟨hfirst, hrest⟩ := List.forall_mem_cons.1 h
    rw [applyAll, applyAll, applyTo_append hfirst]
    cases applyTo replacement back with
    | none => rfl
    | some back => exact ih hrest

/-- A replacement has the id and the wishes of the step that it replaces. -/
theorem placement_applyTo (h : applyTo replacement steps = some steps') :
    steps'.map Step.placement = steps.map Step.placement := by
  induction steps generalizing steps' with
  | nil => cases h
  | cons step rest ih =>
    rw [applyTo] at h
    split at h
    · cases h
      rfl
    · obtain ⟨rest', hrest, rfl⟩ := Option.map_eq_some_iff.1 h
      rw [List.map_cons, List.map_cons, ih hrest]

/-- Replacements change no id and no wish. -/
theorem placement_applyAll {replacements : List (Step S C)}
    (h : applyAll steps replacements = .ok steps') :
    steps'.map Step.placement = steps.map Step.placement := by
  induction replacements generalizing steps with
  | nil =>
    cases h
    rfl
  | cons replacement rest ih =>
    rw [applyAll] at h
    split at h
    · next replaced hreplaced => rw [ih h, placement_applyTo hreplaced]
    · cases h

/-- An order of steps comes from an order of their positions. -/
theorem resolved_eq_ok {resolved : List (Step S C)} (h : set.resolved = .ok resolved) :
    ∃ steps order, set.effective = .ok steps ∧
      Pipeline.resolve (steps.map Step.placement) = .ok order ∧
      resolved = order.filterMap fun index => steps[index]? := by
  simp only [StepSet.resolved, bind, Except.bind] at h
  split at h
  · cases h
  · next steps hsteps =>
    split at h
    · cases h
    · next order horder =>
      cases h
      exact ⟨steps, order, hsteps, horder, rfl⟩

/-- Steps at positions that are listed in some order are those steps in some order. -/
theorem filterMap_append_perm {α : Type} (front back : List α) {others : List Nat}
    (hothers : others.Perm (List.range' front.length back.length)) :
    ∃ later, later.Perm back ∧
      (List.range front.length ++ others).filterMap (fun index => (front ++ back)[index]?)
        = front ++ later := by
  refine ⟨others.filterMap fun index => (front ++ back)[index]?, ?_, ?_⟩
  · -- the other positions lie behind the front, so they pick from the back
    refine (hothers.filterMap _).trans (List.Perm.of_eq ?_)
    rw [List.range'_eq_map_range, List.filterMap_map]
    refine Eq.trans (List.filterMap_congr fun index hindex => ?_)
      (Redelivery.filterMap_getElem?_range back)
    rw [Function.comp_apply, List.getElem?_append_right (Nat.le_add_right _ _),
      Nat.add_sub_cancel_left]
  · rw [List.filterMap_append]
    -- the positions of the front pick the front itself
    congr 1
    refine Eq.trans (List.filterMap_congr fun index hindex => ?_)
      (Redelivery.filterMap_getElem?_range front)
    rw [List.getElem?_append_left (List.mem_range.1 hindex)]

/-- Steps that wait for none of those registered later run before them in the order of their
registration. -/
theorem resolved_append {resolved : List (Step S C)}
    (heffective : set.effective = .ok (front ++ back))
    (hnodup : ((front ++ back).map (·.id)).Nodup)
    (hclosed : ∀ first later, Pipeline.Wants ((front ++ back).map Step.placement) first later →
      later < front.length → first < later)
    (h : set.resolved = .ok resolved) : ∃ later, later.Perm back ∧ resolved = front ++ later := by
  obtain ⟨steps, order, hsteps, horder, rfl⟩ := resolved_eq_ok h
  cases heffective.symm.trans hsteps
  have hids : (((front ++ back).map Step.placement).map (·.id)).Nodup := by
    rw [List.map_map]
    exact hnodup
  have hresolution := Pipeline.resolve_resolution hids
  rw [horder] at hresolution
  -- no front position waits for a later one, so the earliest order begins with the front
  cases hresolution with
  | ordered _ hearliest =>
    obtain ⟨others, rfl, hothers⟩ := hearliest.exists_range_append (by simp) hclosed
    rw [List.length_map, List.length_append, Nat.add_sub_cancel_left] at hothers
    exact filterMap_append_perm front back hothers

end StepSet

/-! ### The main pipeline -/

namespace Assembly

open Redelivery (builtInPlacements)

/-- The ids of the built-in steps of an endpoint that receives, outermost first. -/
def builtInIds (settings : Settings) : List String :=
  [Recovery.moveFaultsStep, Recovery.firstLevelRetriesStep, Outgoing.resolveRoutesStep] ++
    (settings.timeoutManagerAddress.map fun _ => Timeouts.routeDeferredStep).toList

/-- The steps of the user leave some steps alone: none asks to run before one of them, and none
takes the place of one. -/
structure Spares (ids : List String) (user : EndpointSteps) : Prop where
  /-- No step is to run before one of them. -/
  before : ∀ step ∈ user.steps, ∀ id ∈ step.before, id ∉ ids
  /-- No step replaces one of them. -/
  replacements : ∀ step ∈ user.replacements, step.id ∉ ids

variable {settings : Settings} {resolver : Resolver} {user steps : EndpointSteps}
  {faults : Option (Chain FaultContext)} {resolved : List EndpointStep} {address : String}

/-- The steps of the main pipeline are the built-in ones and then those of the user. -/
theorem mainSteps_eq_ok (h : mainSteps settings resolver user faults = .ok steps) :
    steps.steps = builtInSteps settings resolver faults ++ user.steps ∧
      steps.replacements = user.replacements ∧ (steps.steps.map (·.id)).Nodup := by
  rw [mainSteps] at h
  split at h
  · next extended hextended =>
    cases h
    obtain ⟨rfl, hnodup⟩ := StepSet.extend_eq_none hextended
    refine ⟨rfl, rfl, hnodup ?_⟩
    have hids : (builtInSteps settings resolver faults).map (·.id)
        = (builtInPlacements settings.localAddress.isSome
            settings.timeoutManagerAddress.isSome).map (·.id) := by
      rw [← Redelivery.placement_builtInSteps settings resolver faults, List.map_map]
      rfl
    dsimp only
    -- which of the built-in steps there are depends on two settings
    rw [hids]
    cases settings.localAddress.isSome <;> cases settings.timeoutManagerAddress.isSome <;> decide
  · cases h

/-- A built-in step waits for steps that were registered before it only. -/
theorem lt_of_wants_builtIn {receives manages : Bool} {back : List Pipeline.Placement}
    {first later : Nat} (hnodup : ((builtInPlacements receives manages ++ back).map (·.id)).Nodup)
    (hback : ∀ step ∈ back, ∀ id ∈ step.before,
      id ∉ (builtInPlacements receives manages).map (·.id))
    (h : Pipeline.Wants (builtInPlacements receives manages ++ back) first later)
    (hlater : later < (builtInPlacements receives manages).length) : first < later := by
  have hnothing : ∀ step ∈ builtInPlacements receives manages, step.before = [] := by
    cases receives <;> cases manages <;> decide
  have hearlier : ∀ later < (builtInPlacements receives manages).length,
      ∀ id ∈ ((builtInPlacements receives manages)[later]?.map (·.after)).getD [],
        ∃ first < later, ((builtInPlacements receives manages)[first]?).map (·.id) = some id := by
    cases receives <;> cases manages <;> decide
  obtain ⟨step, other, hstep, hother, hwish⟩ := h
  rw [List.getElem?_append_left hlater] at hother
  rcases hwish with hbefore | hafter
  · -- no built-in step asks to run before another, and no step of the user before a built-in one
    exfalso
    rcases List.mem_append.1 (List.mem_of_getElem? hstep) with hmem | hmem
    · rw [hnothing step hmem] at hbefore
      cases hbefore
    · exact hback step hmem _ hbefore (List.mem_map_of_mem (List.mem_of_getElem? hother))
  · obtain ⟨position, hlt, hposition⟩ :=
      hearlier later hlater step.id (by rw [hother]; exact hafter)
    -- ids are different, so the step that it waits for is the one at that position
    obtain ⟨found, hfound, hid⟩ := Option.map_eq_some_iff.1 hposition
    have hfirst : first < ((builtInPlacements receives manages ++ back).map (·.id)).length := by
      rw [List.length_map]
      exact (List.getElem?_eq_some_iff.1 hstep).1
    have hsame : first = position := by
      refine (List.getElem?_inj hfirst hnodup).1 ?_
      rw [List.getElem?_map, List.getElem?_map, hstep,
        List.getElem?_append_left (hlt.trans hlater), hfound, Option.map_some, Option.map_some, hid]
    exact hsame ▸ hlt

theorem builtInIds_eq (resolver : Resolver) (faults : Option (Chain FaultContext))
    (hreceives : settings.localAddress = some address) :
    (builtInSteps settings resolver faults).map (·.id) = builtInIds settings := by
  rw [builtInSteps, builtInIds, hreceives]
  cases settings.timeoutManagerAddress <;> rfl

/-- If the steps of the user leave the built-in ones alone, these come first. -/
theorem resolved_eq_append (hreceives : settings.localAddress = some address)
    (hsteps : mainSteps settings resolver user faults = .ok steps)
    (hspares : Spares (builtInIds settings) user) (hresolved : steps.resolved = .ok resolved) :
    ∃ own others, user.effective = .ok own ∧ others.Perm own ∧
      resolved = builtInSteps settings resolver faults ++ others := by
  obtain ⟨hall, hreplacements, hnodup⟩ := mainSteps_eq_ok hsteps
  have hplacements := Redelivery.placement_builtInSteps settings resolver faults
  have hids := builtInIds_eq resolver faults hreceives
  obtain ⟨effective, -, heffective, -⟩ := StepSet.resolved_eq_ok hresolved
  have happlied := heffective
  rw [StepSet.effective, hall, hreplacements, StepSet.applyAll_append] at happlied
  · -- replacements of the user meet the steps of the user only
    cases hown : StepSet.applyAll user.steps user.replacements with
    | error error =>
      rw [hown] at happlied
      cases happlied
    | ok own =>
      rw [hown] at happlied
      cases happlied
      have hkept := StepSet.placement_applyAll hown
      have hsameIds : (builtInSteps settings resolver faults ++ own).map (·.id)
          = steps.steps.map (·.id) := by
        rw [hall, List.map_append, List.map_append]
        have hownIds := congrArg (List.map (·.id)) hkept
        rw [List.map_map, List.map_map] at hownIds
        exact congrArg _ hownIds
      have hdistinct := hsameIds ▸ hnodup
      -- no step of the user comes before a built-in one, and these are in order already
      obtain ⟨others, hothers, rfl⟩ := StepSet.resolved_append heffective hdistinct
        (fun first later hwants hlater => by
          rw [List.map_append, hplacements, hkept] at hwants
          refine lt_of_wants_builtIn ?_ ?_ hwants ?_
          · rw [← hplacements, ← hkept, ← List.map_append, List.map_map]
            exact hdistinct
          · intro step hstep id hid
            obtain ⟨registered, hregistered, rfl⟩ := List.mem_map.1 hstep
            rw [← hplacements, List.map_map]
            exact hids ▸ hspares.before registered hregistered id hid
          · rwa [← hplacements, List.length_map]) hresolved
      exact ⟨own, others, hown, hothers, rfl⟩
  · intro replacement hreplacement step hstep hsame
    refine hspares.replacements replacement hreplacement ?_
    rw [← hids, ← hsame]
    exact List.mem_map_of_mem hstep

/-! ### Failures that leave the steps of the user -/

section Failures

variable {σ : Type} {serves : Service σ} {policy : RetryPolicy} {pipeline messageId : String}
  {faultSettings : Recovery.FaultSettings} {failure : Failure} {result : StageResult}
  {context after : ReceiveContext} {s t u : σ}

/-- What becomes of a failure, where immediate retries are followed by forwarding to the error
queue. -/
inductive Recovered (serves : Service σ) (policy : RetryPolicy)
    (settings : Recovery.FaultSettings) (messageId : String) (failure : Failure)
    (context : ReceiveContext) (s : σ) : StageResult → Prop where
  /-- The message is to be received again. -/
  | retried {after : ReceiveContext} {t : σ}
      (hretries : Runs serves (Recovery.settleRetries policy settings.pipeline messageId
        (.error failure, context)) s (.ok .retryRequested, after) t) :
      Recovered serves policy settings messageId failure context s (.ok .retryRequested)
  /-- The failure is not turned into a retry, and the message is forwarded with it. -/
  | forwarded {after moved : ReceiveContext} {t u : σ}
      (hretries : Runs serves (Recovery.settleRetries policy settings.pipeline messageId
        (.error failure, context)) s (.error failure, after) t)
      (hforward : Runs serves (Recovery.forwardFault settings failure after) t (.ok (), moved) u) :
      Recovered serves policy settings messageId failure context s
        (.ok (.movedToErrorQueue failure))
  /-- The failure is not turned into a retry, and the message cannot be forwarded with it. -/
  | kept {after moved : ReceiveContext} {t u : σ} {refusal : Failure}
      (hretries : Runs serves (Recovery.settleRetries policy settings.pipeline messageId
        (.error failure, context)) s (.error failure, after) t)
      (hforward : Runs serves (Recovery.forwardFault settings failure after) t
        (.error refusal, moved) u) :
      Recovered serves policy settings messageId failure context s (.error failure)

/-- A failure is turned into a retry or stays what it is. -/
theorem settleRetries_error
    (h : Runs serves (Recovery.settleRetries policy pipeline messageId (.error failure, context)) s
      (result, after) t) : result = .ok .retryRequested ∨ result = .error failure := by
  rw [Recovery.settleRetries] at h
  split at h
  · cases h.of_done.1
    exact .inr rfl
  · obtain ⟨failures, counted, -, h⟩ := h.of_bind
    split at h
    · obtain ⟨_, _, -, h⟩ := h.of_bind
      cases h.of_done.1
      exact .inl rfl
    · obtain ⟨_, _, -, h⟩ := h.of_bind
      cases h.of_done.1
      exact .inr rfl

/-- Forwarding decides how a failure ends. -/
theorem settleFault_error
    (h : Runs serves (Recovery.settleFault faultSettings (.error failure, context)) s
      (result, after) t) :
    ∃ forwarded moved u,
      Runs serves (Recovery.forwardFault faultSettings failure context) s (forwarded, moved) u ∧
      result = match forwarded with
        | .ok () => .ok (.movedToErrorQueue failure)
        | .error _ => .error failure := by
  rw [Recovery.settleFault] at h
  obtain ⟨⟨forwarded, moved⟩, u, hforward, h⟩ := h.of_bind
  refine ⟨forwarded, moved, u, hforward, ?_⟩
  -- hand over went well, or it did not and the failure is counted
  cases forwarded with
  | ok value =>
    obtain ⟨_, _, -, h⟩ := h.of_bind
    obtain ⟨_, _, -, h⟩ := h.of_bind
    obtain ⟨_, _, -, h⟩ := h.of_bind
    cases h.of_done.1
    rfl
  | error refusal =>
    obtain ⟨failures, counted, -, h⟩ := h.of_bind
    dsimp only at h
    split at h
    · obtain ⟨_, _, -, h⟩ := h.of_bind
      cases h.of_done.1
      rfl
    · cases h.of_done.1
      rfl

/-- A failure that reaches the steps of recovery is recovered from. -/
theorem recovered_of_runs (h : Runs serves
    ((Recovery.settleRetries policy faultSettings.pipeline messageId (.error failure, context)).bind
      (Recovery.settleFault faultSettings)) s (result, after) t) :
    Recovered serves policy faultSettings messageId failure context s result := by
  obtain ⟨⟨settled, retried⟩, u, hretries, h⟩ := h.of_bind
  rcases settleRetries_error hretries with rfl | rfl
  · cases h.of_done.1
    exact .retried hretries
  · obtain ⟨forwarded, moved, v, hforward, rfl⟩ := settleFault_error h
    cases forwarded with
    | ok value => exact .forwarded hretries hforward
    | error refusal => exact .kept hretries hforward

end Failures

/-! ### The pipelines of an endpoint that receives -/

/-- The behaviors of steps for contexts of a kind, with the ids of the steps. -/
def ofKind (kind : ContextKind) (steps : List EndpointStep) :
    List (String × Stage kind.Context) :=
  steps.filterMap fun step => (step.behaviorFor? kind).map fun behavior => (step.id, behavior)

/-- A chain is built from the steps of its kind in their order. -/
theorem build_eq {set : EndpointSteps} (hresolved : set.resolved = .ok resolved)
    (kind : ContextKind) (terminator : Terminator Effect.signature kind.Context) :
    set.build kind terminator
      = .ok { name := set.name, steps := ofKind kind resolved, terminator } := by
  rw [StepSet.build, hresolved]
  rfl

/-- The steps of recovery are the built-in steps of received messages. -/
theorem ofKind_receive_builtInSteps (resolver : Resolver) (faults : Option (Chain FaultContext))
    (hreceives : settings.localAddress = some address) :
    ofKind .receive (builtInSteps settings resolver faults)
      = ofKind .receive (recoverySteps settings faults address) := by
  rw [builtInSteps, hreceives]
  cases settings.timeoutManagerAddress <;> rfl

/-- What the step that forwards failed messages of an endpoint is told. -/
def mainFaultSettings (settings : Settings) (faults : Option (Chain FaultContext))
    (address : String) : Recovery.FaultSettings where
  pipeline := mainPipeline
  faults := faults
  errorQueue := settings.errorQueue
  localAddress := address

/-- How an endpoint that receives retries at once. -/
def mainRetryPolicy (settings : Settings) : RetryPolicy := ⟨.ofNat settings.maxRetries⟩

/-- The steps of recovery come after everything inside them has ended. -/
theorem invoke_recoverySteps {name : String} {inner : List (String × Stage ReceiveContext)}
    {last : LastStage ReceiveContext} (settings : Settings) (faults : Option (Chain FaultContext))
    (address : String) (context : ReceiveContext) :
    Pipeline.invoke
        { name, steps := ofKind .receive (recoverySteps settings faults address) ++ inner
          terminator := last } context
      = ((Pipeline.invoke { name, steps := inner, terminator := last } context).bind
          (Recovery.settleRetries (mainRetryPolicy settings) mainPipeline context.message.id)).bind
        (Recovery.settleFault (mainFaultSettings settings faults address)) := rfl

/-- Built-in steps are outside those of the user, as long as no step of the user asks to run before
one of them or replaces one: they come first in the main pipeline and in each of its chains. So what
leaves the steps of the user around received messages as a failure is retried or forwarded. -/
theorem builtIn_outermost (hreceives : settings.localAddress = some address)
    (hsteps : mainSteps settings resolver user faults = .ok steps)
    (hresolved : steps.resolved = .ok resolved) (hspares : Spares (builtInIds settings) user) :
    ∃ own others, user.effective = .ok own ∧ others.Perm own ∧
      resolved = builtInSteps settings resolver faults ++ others ∧
      steps.resolvedIds = .ok (builtInIds settings ++ others.map (·.id)) ∧
      (∀ kind terminator, steps.build kind terminator = .ok {
        name := steps.name
        steps := ofKind kind (builtInSteps settings resolver faults) ++ ofKind kind others
        terminator }) ∧
      ∀ parts operations, ∃ pipeline inner,
        receivePipeline steps parts operations = .ok pipeline ∧
        inner = { pipeline with steps := ofKind .receive others } ∧
        pipeline.stepIds
          = [Recovery.moveFaultsStep, Recovery.firstLevelRetriesStep] ++ inner.stepIds ∧
        ∀ {σ : Type} (serves : Service σ) context s result after t,
          Runs serves (pipeline.invoke context) s (result, after) t →
          ∃ ended left u, Runs serves (inner.invoke context) s (ended, left) u ∧
            ∀ failure, ended = .error failure →
              Recovered serves (mainRetryPolicy settings)
                (mainFaultSettings settings faults address) context.message.id failure left u
                result := by
  obtain ⟨own, others, hown, hothers, rfl⟩ :=
    resolved_eq_append hreceives hsteps hspares hresolved
  have hbuild (kind : ContextKind) (terminator : Terminator Effect.signature kind.Context) :
      steps.build kind terminator = .ok {
        name := steps.name
        steps := ofKind kind (builtInSteps settings resolver faults) ++ ofKind kind others
        terminator } := by
    rw [build_eq hresolved, ofKind, List.filterMap_append]
    rfl
  refine ⟨own, others, hown, hothers, rfl, ?_, hbuild, fun parts operations => ?_⟩
  · rw [StepSet.resolvedIds, hresolved, ← builtInIds_eq resolver faults hreceives,
      ← List.map_append]
    rfl
  · simp only [receivePipeline, incomingPipeline, hbuild, bind, Except.bind,
      ofKind_receive_builtInSteps resolver faults hreceives]
    refine ⟨_, _, rfl, rfl, ?_, ?_⟩
    · rw [Pipeline.stepIds, List.map_append]
      rfl
    · intro σ serves context s result after t hruns
      -- around the steps of the user stand the retries, and around these the forwarding of faults
      rw [invoke_recoverySteps] at hruns
      rw [Program.bind_assoc] at hruns
      obtain ⟨⟨ended, left⟩, u, hinner, hruns⟩ := hruns.of_bind
      refine ⟨ended, left, u, hinner, ?_⟩
      rintro failure rfl
      exact recovered_of_runs hruns

/-- A step that only looks on. -/
def watching (id : String) (kind : ContextKind) (before after : List String) : EndpointStep where
  id := id
  description := "Looks on"
  kind := kind
  behavior := fun next context => next.run context
  before := before
  after := after

/-- Two steps that look on: one behind the immediate retries, and one outside it. -/
def watchers : EndpointSteps where
  name := mainPipeline
  steps := [watching "Audit" .receive [] [Recovery.firstLevelRetriesStep],
    watching "Trace" .receive ["Audit"] []]

theorem builtIn_outermost_watchers :
    ∃ steps resolved, mainSteps Deferring.shopSettings ⟨∅, none, Memory.capabilities.policy, none⟩
        watchers none = .ok steps ∧
      steps.resolved = .ok resolved ∧
      Spares (builtInIds Deferring.shopSettings) watchers ∧
      ∃ others, others.Perm ["Audit", "Trace"] ∧
        steps.resolvedIds = .ok (["MoveFaultsToErrorQueue", "FirstLevelRetries", "ResolveRouting",
          "RouteDeferredMessageToTimeoutManager"] ++ others) := by
  have hspares : Spares (builtInIds Deferring.shopSettings) watchers := ⟨by decide, by decide⟩
  have hids : builtInIds Deferring.shopSettings = ["MoveFaultsToErrorQueue", "FirstLevelRetries",
    "ResolveRouting", "RouteDeferredMessageToTimeoutManager"] := by decide
  obtain ⟨steps, hsteps⟩ : ∃ steps, mainSteps Deferring.shopSettings
      ⟨∅, none, Memory.capabilities.policy, none⟩ watchers none = .ok steps := ⟨_, rfl⟩
  obtain ⟨resolved, hresolved⟩ : ∃ resolved, steps.resolved = .ok resolved := by
    cases hsteps
    exact ⟨_, rfl⟩
  obtain ⟨own, others, hown, hothers, -, hresolvedIds, -⟩ :=
    builtIn_outermost (show Deferring.shopSettings.localAddress = some "shop" from rfl) hsteps
      hresolved hspares
  cases hown
  exact ⟨steps, resolved, hsteps, hresolved, hspares, _, hothers.map (·.id), hids ▸ hresolvedIds⟩

end Assembly

end Messaging
