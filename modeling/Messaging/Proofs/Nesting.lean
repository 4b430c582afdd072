import Messaging.Proofs.Replacing

/-!
# Stages nested in each other

- `Pipeline.nextAt` runs a chain by positions in one list of stages; `nextAt_eq` says that this is
  the chain.
- `Opens` says of a stage that it goes on to the stages inside at most once: it has an opening, and
  behind an opening that goes on the stages inside and then the rest of the stage.
- `wayIn` runs the openings one after another, and `wayOut` the rests of the stages that went on,
  innermost first. `run_chain_eq` says that this is what a chain of such stages does.
- `runs_nested` is the result about sets of steps: what a built pipeline consists of, in which
  order, and how its stages run.
-/

namespace Messaging

namespace Program

variable {S : Signature} {α β : Type}

/-- Passes a panic on that was caught. -/
def rethrow : Except Panic α → Program S α
  | .ok result => done result
  | .error payload => panic payload

/-- Catching a panic and passing it on is nothing. -/
@[simp] theorem attempt_rethrow (program : Program S α) :
    program.attempt.bind rethrow = program := by
  induction program with
  | done => rfl
  | panic => rfl
  | call request next ih => simp [attempt, ih]

/-- A panic of either of two programs is caught. -/
theorem attempt_bind (program : Program S α) (f : α → Program S β) :
    (program.bind f).attempt = program.attempt.bind fun
      | .ok result => (f result).attempt
      | .error payload => done (.error payload) := by
  induction program with
  | done => rfl
  | panic => rfl
  | call request next ih => simp [attempt, ih]

/-- Nothing is left to catch of a program whose panic was caught. -/
theorem attempt_attempt_bind (program : Program S α) (f : Except Panic α → Program S β) :
    (program.attempt.bind f).attempt = program.attempt.bind fun ended => (f ended).attempt := by
  induction program with
  | done => rfl
  | panic => rfl
  | call request next ih => simp [attempt, ih]

end Program

namespace Pipeline

variable {S : Signature} {C : Type}

/-! ### Positions -/

/-- The rest of a pipeline from a position on. A stage is given the rest from the next position on,
and behind the last stage there is the terminator. -/
def nextAt (pipeline : Pipeline S C) (index : Nat) : Next S C :=
  if h : index < pipeline.steps.length then
    ⟨pipeline.steps.length - index + 1, pipeline.steps[index].2 (pipeline.nextAt (index + 1))⟩
  else ⟨pipeline.steps.length - index + 1, pipeline.terminator⟩
termination_by pipeline.steps.length - index

/-- The rest of a pipeline from a position on is the chain of the stages from there on. -/
theorem nextAt_eq (pipeline : Pipeline S C) (index : Nat) :
    pipeline.nextAt index = chain pipeline.terminator (pipeline.steps.drop index) := by
  fun_induction nextAt pipeline index with
  | case1 index h ih =>
    rw [ih, List.drop_eq_getElem_cons h, chain, List.length_drop]
    congr 1
    omega
  | case2 index h =>
    have hlength : pipeline.steps.length ≤ index := Nat.le_of_not_lt h
    rw [List.drop_eq_nil_of_le hlength, Nat.sub_eq_zero_of_le hlength]
    rfl

/-! ### The way in and the way out -/

/-- What a stage does behind the stages inside, given what they ended with. -/
abbrev After (S : Signature) (C : Type) :=
  Except Panic (StageResult × C) → Program S (StageResult × C)

/-- What the opening of a stage ends with. -/
inductive Turn (S : Signature) (C : Type) where
  /-- The stage ends, and nothing inside runs. -/
  | ends (ended : StageResult × C)
  /-- The stages inside run, and then the rest of the stage. -/
  | goesOn (context : C) (after : After S C)

/-- What a stage does behind its opening, in front of the stages inside. -/
def Turn.finish (inside : C → Program S (StageResult × C)) : Turn S C → Program S (StageResult × C)
  | ends ended => .done ended
  | goesOn context after => (inside context).attempt.bind after

/-- What a stage does at first, given the number of the stages inside. -/
abbrev Opening (S : Signature) (C : Type) := Nat → C → Program S (Turn S C)

/-- A stage goes on at most once: it begins with an opening, runs the stages inside if that goes on,
and then the rest. -/
def Opens (stage : String × Behavior S C) (opening : Opening S C) : Prop :=
  ∀ next context,
    stage.2 next context = (opening next.remaining context).bind (Turn.finish next.run)

/-- A stage that lets panics pass goes on at most once. -/
theorem opens_of_bind {stage : String × Behavior S C} (first : C → Program S C)
    (last : StageResult × C → Program S (StageResult × C))
    (h : ∀ next context,
      stage.2 next context = (first context).bind fun context => (next.run context).bind last) :
    Opens stage fun _ context =>
      (first context).bind fun context =>
        .done (.goesOn context fun ended => (Program.rethrow ended).bind last) := by
  intro next context
  rw [h, Program.bind_assoc]
  refine congrArg (Program.bind _) (funext fun context => ?_)
  rw [Program.done_bind, Turn.finish, ← Program.bind_assoc, Program.attempt_rethrow]

/-- The openings one after another, the outermost first, and then the terminator, with the rests of
the stages that went on, the innermost first. A stage that ends, or panics, keeps those inside from
running. -/
def wayIn (terminator : Terminator S C) :
    List (Opening S C) → C → List (After S C) →
      Program S (Except Panic (StageResult × C) × List (After S C))
  | [], context, opened => (terminator context).attempt.bind fun ended => .done (ended, opened)
  | opening :: inside, context, opened =>
    (opening (inside.length + 1) context).attempt.bind fun
      | .ok (.goesOn context after) => wayIn terminator inside context (after :: opened)
      | .ok (.ends ended) => .done (.ok ended, opened)
      | .error payload => .done (.error payload, opened)

/-- The rests of stages one after another, the innermost first; each is given what the one before
ended with, be it an outcome, an error or a panic. -/
def wayOut : List (After S C) → Except Panic (StageResult × C) → Program S (StageResult × C)
  | [], ended => .rethrow ended
  | after :: outside, ended => (after ended).attempt.bind (wayOut outside)

/-- Stages that go on at most once, inside of others that went on, run their openings on the way in
and their rests on the way out. -/
theorem run_chain_eq (terminator : Terminator S C) {stages : List (String × Behavior S C)}
    {openings : List (Opening S C)} (h : List.Forall₂ Opens stages openings) (context : C)
    (opened : List (After S C)) :
    ((chain terminator stages).run context).attempt.bind (wayOut opened)
      = (wayIn terminator openings context opened).bind fun (ended, opened) =>
          wayOut opened ended := by
  -- by induction on the stages; the stages inside are within one that went on more
  induction h generalizing context opened with
  | nil =>
    rw [wayIn, Program.bind_assoc]
    rfl
  | @cons stage opening stages openings hstage hstages ih =>
    have hremaining : (chain terminator stages).remaining = openings.length + 1 := by
      rw [← hstages.length_eq]
      cases stages <;> rfl
    have hrun : (chain terminator (stage :: stages)).run context
        = (opening (openings.length + 1) context).bind
            (Turn.finish (chain terminator stages).run) := by
      rw [← hremaining]
      exact hstage _ _
    rw [hrun, Program.attempt_bind, Program.bind_assoc, wayIn, Program.bind_assoc]
    refine congrArg (Program.bind _) (funext fun turned => ?_)
    rcases turned with payload | ended | ⟨context, after⟩
    · rfl
    · rfl
    · -- the rest of this stage is the first on the way out of those inside
      refine Eq.trans ?_ (ih context (after :: opened))
      change (((chain terminator stages).run context).attempt.bind after).attempt.bind
        (wayOut opened) = _
      rw [Program.attempt_attempt_bind, Program.bind_assoc]
      rfl

/-- A pipeline of stages that go on at most once runs their openings on the way in and their rests
on the way out. -/
theorem invoke_eq {pipeline : Pipeline S C} {openings : List (Opening S C)}
    (h : List.Forall₂ Opens pipeline.steps openings) (context : C) :
    pipeline.invoke context
      = (wayIn pipeline.terminator openings context []).bind fun (ended, opened) =>
          wayOut opened ended := by
  rw [← run_chain_eq pipeline.terminator h context []]
  exact (Program.attempt_rethrow _).symm

end Pipeline

namespace StepSet

variable {S : Signature} {K : Type} {C : K → Type}

/-! ### Built pipelines -/

/-- Leaving ids out of a list of them keeps the order of the others. -/
theorem sublist_stepIds {α : Type} {ids : List String} (f : String → Option α)
    {first later : String} (h : [first, later].Sublist ids)
    (hfirst : first ∈ (ids.filterMap fun id => (f id).map (id, ·)).map (·.1))
    (hlater : later ∈ (ids.filterMap fun id => (f id).map (id, ·)).map (·.1)) :
    [first, later].Sublist ((ids.filterMap fun id => (f id).map (id, ·)).map (·.1)) := by
  have hids : (ids.filterMap fun id => (f id).map (id, ·)).map (·.1)
      = ids.filter fun id => (f id).isSome := by
    rw [List.map_filterMap, ← List.filterMap_eq_filter]
    refine List.filterMap_congr fun id _ => ?_
    cases hid : f id <;> simp [hid, Option.guard]
  rw [hids] at hfirst hlater ⊢
  have hkept : [first, later].filter (fun id => (f id).isSome) = [first, later] :=
    List.filter_eq_self.2 (List.forall_mem_cons.2
      ⟨(List.mem_filter.1 hfirst).2, List.forall_mem_singleton.2 (List.mem_filter.1 hlater).2⟩)
  rw [← hkept]
  exact h.filter _

/-- However a set of steps has come about: its ids differ; `extend` takes another set over as
`TakesOver` says, `register` is `extend` by one step, and `replace` leaves the steps alone and has
the last word on what is to run under an id. A replacement of a step that is not registered is
refused. A pipeline that is built from the set for some kind of contexts has the steps whose last
replacement, or else registration, is for this kind. They stand in the order of the ids, which
replacements do not matter for and which honours wishes through steps of all kinds. If they go on at
most once, their openings run in this order, and the rests of those that went on run in the reverse
order behind the terminator or the first that did not go on. -/
theorem runs_nested [DecidableEq K] {set : StepSet S C} (hset : Collected set) :
    (set.steps.map (·.id)).Nodup ∧
    (∀ other, TakesOver set other (set.extend other)) ∧
    (∀ name step, set.extend { name, steps := [step] } = match set.register step with
      | .ok registered => (none, registered)
      | .error error => (some error, set)) ∧
    (∀ replacement, (set.replace replacement).steps = set.steps ∧
      ∀ id, (set.replace replacement).current? id
        = if replacement.id = id then some replacement else set.current? id) ∧
    (∀ replacement ∈ set.replacements, set.contains replacement.id = false →
      ∃ first, set.unknown? = some first ∧
        set.resolvedIds = .error (.replaceUnknownStep first.id) ∧
        ∀ kind (terminator : Terminator S (C kind)),
          set.build kind terminator = .error (.replaceUnknownStep first.id)) ∧
    ∀ kind (terminator : Terminator S (C kind)) pipeline,
      set.build kind terminator = .ok pipeline →
      (∃ ids, set.resolvedIds = .ok ids ∧ ids.Perm (set.steps.map (·.id)) ∧
        StepSet.resolvedIds { set with replacements := [] } = .ok ids ∧
        pipeline = {
          name := set.name
          steps := ids.filterMap fun id =>
            ((set.current? id).bind (·.behaviorFor? kind)).map fun behavior => (id, behavior)
          terminator } ∧
        ∀ first later, Relation.TransGen set.Precedes first later →
          [first, later].Sublist ids ∧
          (first ∈ pipeline.stepIds → later ∈ pipeline.stepIds →
            [first, later].Sublist pipeline.stepIds)) ∧
      ∀ context, pipeline.invoke context = (pipeline.nextAt 0).run context ∧
        ∀ openings, List.Forall₂ Pipeline.Opens pipeline.steps openings →
          pipeline.invoke context
            = (Pipeline.wayIn pipeline.terminator openings context []).bind
                fun (ended, opened) => Pipeline.wayOut opened ended := by
  have hnodup := hset.nodup
  refine ⟨hnodup, takesOver_extend hnodup, extend_singleton set,
    fun replacement => ⟨rfl, current?_replace set replacement⟩,
    fun replacement hreplacement hcontains => ?_,
    fun kind terminator pipeline hbuild => ⟨?_, fun context => ⟨?_, fun openings hopenings => ?_⟩⟩⟩
  · obtain ⟨first, hunknown⟩ := Option.isSome_iff_exists.1
      (List.find?_isSome.2 ⟨replacement, hreplacement, by rw [hcontains]; rfl⟩ :
        set.unknown?.isSome)
    have hresolved := resolved_eq_error hnodup hunknown
    refine ⟨first, hunknown, ?_, fun kind terminator => ?_⟩
    · rw [resolvedIds, hresolved]
      rfl
    · rw [build, hresolved]
      rfl
  · obtain ⟨ids, hids, rfl⟩ := steps_of_build hnodup hbuild
    refine ⟨ids, hids, perm_of_resolvedIds hnodup hids, ?_, rfl, fun first later hprecedes => ?_⟩
    · obtain ⟨hknown, -⟩ := earliest_of_resolvedIds hnodup hids
      rw [resolvedIds_eq hnodup hknown] at hids
      have hbare : StepSet.resolvedIds { set with replacements := [] } = _ :=
        resolvedIds_eq hnodup rfl
      exact hbare.trans hids
    · have hsublist := sublist_of_precedes hnodup hids hprecedes
      exact ⟨hsublist, sublist_stepIds _ hsublist⟩
  · rw [Pipeline.nextAt_eq]
    rfl
  · exact Pipeline.invoke_eq hopenings context

/-- The requests of the steps below: none. -/
abbrev silent : Signature := ⟨Empty, fun _ => Unit⟩

/-- A step for traces, which are of two kinds. -/
abbrev TraceStep := Step silent fun _ : Bool => List String

/-- Leaves a trace on the way in and on the way out. -/
def tracing (name : String) : Behavior silent (List String) := fun next trace =>
  (next.run (trace ++ [name])).bind fun (result, trace) => .done (result, trace ++ [name])

/-- Leaves a trace and ends with a failure. -/
def refusing (name : String) : Behavior silent (List String) := fun _ trace =>
  .done (.error (.handler name []), trace ++ [name])

/-- The first step to be registered. -/
def innerStep : TraceStep := ⟨"inner", "", true, tracing "inner", [], []⟩

/-- A step of another kind that runs before the first one. -/
def middleStep : TraceStep := ⟨"middle", "", false, tracing "middle", ["inner"], []⟩

/-- A step that runs before the one of the other kind. -/
def outerStep : TraceStep := ⟨"outer", "", true, tracing "outer", ["middle"], []⟩

/-- What takes the place of the first step. -/
def innerReplacement : TraceStep := ⟨"inner", "", true, refusing "inner", [], []⟩

/-- The step that is registered last runs first, by way of a step of another kind, and nothing runs
behind the replacement of the first one. -/
theorem runs_nested_replaced :
    let set : StepSet silent (fun _ : Bool => List String) :=
      { name := "Main"
        steps := [innerStep, middleStep, outerStep]
        replacements := [innerReplacement] }
    let last : Terminator silent (List String) := fun trace =>
      .done (.ok .completed, trace ++ ["last"])
    Collected set ∧ ∃ pipeline, set.build true last = .ok pipeline ∧
      pipeline.stepIds = ["outer", "inner"] ∧
      pipeline.invoke [] = .done (.error (.handler "inner" []), ["outer", "inner", "outer"]) := by
  intro set last
  have hset : Collected set :=
    ((((Collected.new "Main").register innerStep).register middleStep).register
      outerStep).replace innerReplacement
  let pipeline : Pipeline silent (List String) :=
    ⟨"Main", [("outer", tracing "outer"), ("inner", refusing "inner")], last⟩
  have hbuild : set.build true last = .ok pipeline := rfl
  have hopens : List.Forall₂ Pipeline.Opens pipeline.steps _ :=
    .cons (Pipeline.opens_of_bind (fun trace => .done (trace ++ ["outer"]))
        (fun (result, trace) => .done (result, trace ++ ["outer"])) fun _ _ => rfl)
      (.cons (b := fun _ trace => .done (.ends (.error (.handler "inner" []), trace ++ ["inner"])))
        (fun _ _ => rfl) .nil)
  obtain ⟨-, -, -, -, -, hbuilt⟩ := runs_nested hset
  obtain ⟨-, hinvoke⟩ := hbuilt true last pipeline hbuild
  exact ⟨hset, pipeline, hbuild, rfl, ((hinvoke []).2 _ hopens).trans rfl⟩

end StepSet

end Messaging
