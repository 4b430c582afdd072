import Mathlib.Data.List.Basic
import Messaging.Scope

/-!
# Shadowing

Scopes are opened below others, and values are put into them and taken out of them at all levels
and in any order.

- `ScopeCall` is one thing that is done to scopes, and `replay` the scopes after a history of calls.
- `Path` and `Holds` read off a history which scopes lie above one, and which value was put into a
  scope last and not taken out since.
- `Mirrors.apply` says that one call keeps the scopes in step with their history, and
  `Mirrors.get?_eq` what a lookup finds on the way to the root.
- `lookups_follow_history` says what every lookup finds and which lookups a call may change.
-/

namespace Messaging

variable {K : Type} {V : K → Type}

/-- One thing that is done to scopes, through any handle: a handle is the name of its scope, and a
copy of it the same name. -/
inductive ScopeCall (V : K → Type) where
  /-- A scope without a parent is opened. -/
  | root
  /-- A scope is opened below another one. -/
  | child (parent : ScopeId)
  /-- A value is put into a scope. -/
  | set (scope : ScopeId) (kind : K) (value : V kind)
  /-- The value of a kind is taken out of a scope. -/
  | remove (scope : ScopeId) (kind : K)

namespace ScopeCall

/-- The scope that a call is made on. -/
def target? : ScopeCall V → Option ScopeId
  | .root => none
  | .child parent => some parent
  | .set scope _ _ => some scope
  | .remove scope _ => some scope

/-- The parent of the scope that a call opens. -/
def opens? : ScopeCall V → Option (Option ScopeId)
  | .root => some none
  | .child parent => some (some parent)
  | .set .. => none
  | .remove .. => none

/-- A call puts a value of a kind into a scope or takes it out. -/
inductive Writes (scope : ScopeId) (kind : K) : ScopeCall V → Prop where
  | set (value : V kind) : Writes scope kind (.set scope kind value)
  | remove : Writes scope kind (.remove scope kind)

/-- A call writes one kind in one scope. -/
theorem Writes.unique {call : ScopeCall V} {scope scope' : ScopeId} {kind kind' : K}
    (h : call.Writes scope kind) (h' : call.Writes scope' kind') :
    scope = scope' ∧ kind = kind' := by
  cases h <;> cases h' <;> exact ⟨rfl, rfl⟩

/-- The scopes after a call. -/
def apply [DecidableEq K] (scopes : ScopeForest V) : ScopeCall V → ScopeForest V
  | .root => (scopes.openUnder none).2
  | .child parent => (scopes.openUnder (some parent)).2
  | .set scope kind value => scopes.set scope kind value
  | .remove scope kind => scopes.remove scope kind

end ScopeCall

namespace ScopeForest

variable {scopes : ScopeForest V} {calls : List (ScopeCall V)} {call : ScopeCall V}
  {id parent scope other : ScopeId} {kind : K} {path above : List ScopeId}

/-! ### What a history says -/

/-- The parents of the scopes that calls open, in the order of the names. -/
def parents (calls : List (ScopeCall V)) : List (Option ScopeId) :=
  calls.filterMap ScopeCall.opens?

/-- A history in which every scope is opened before something is done to it. -/
inductive Sound : List (ScopeCall V) → Prop where
  | nil : Sound []
  | concat {calls : List (ScopeCall V)} {call : ScopeCall V} (sound : Sound calls)
      (opened : ∀ scope ∈ call.target?, scope < (parents calls).length) : Sound (calls ++ [call])

/-- The scopes from one up to the root above it. -/
inductive Path (calls : List (ScopeCall V)) : ScopeId → List ScopeId → Prop where
  | root {id : ScopeId} (top : (parents calls)[id]? = some none) : Path calls id [id]
  | child {id parent : ScopeId} {above : List ScopeId}
      (below : (parents calls)[id]? = some (some parent)) (path : Path calls parent above) :
      Path calls id (id :: above)

/-- A value is the last of its kind that was put into a scope, and it was not taken out since. -/
def Holds (calls : List (ScopeCall V)) (id : ScopeId) (kind : K) (value : V kind) : Prop :=
  ∃ before after, calls = before ++ ScopeCall.set id kind value :: after ∧
    ∀ call ∈ after, ¬ call.Writes id kind

/-- A scope has no value of a kind of its own. -/
def Bare (calls : List (ScopeCall V)) (kind : K) (id : ScopeId) : Prop :=
  ∀ value : V kind, ¬ Holds calls id kind value

/-- A scope is on the way from another one to the root, and no value before it hides its own. -/
def Unshadowed (calls : List (ScopeCall V)) (kind : K) (id scope : ScopeId) : Prop :=
  ∃ nearer above, Path calls id (nearer ++ scope :: above) ∧
    ∀ other ∈ nearer, Bare calls kind other

/-- A call adds one to the `parents` if it opens a scope. -/
@[simp]
theorem parents_concat (calls : List (ScopeCall V)) (call : ScopeCall V) :
    parents (calls ++ [call]) = parents calls ++ call.opens?.toList := by
  rw [parents, List.filterMap_append, parents]
  cases hopens : call.opens? <;> simp [hopens]

/-- A value is held because it was just put there, or for as long as nothing else is done to its
kind in its scope. -/
theorem holds_concat {value : V kind} :
    Holds (calls ++ [call]) id kind value ↔
      call = .set id kind value ∨ ¬ call.Writes id kind ∧ Holds calls id kind value := by
  constructor
  · -- the history is cut where the value was put, and the last call is that cut or comes after it
    rintro ⟨before, after, heq, hafter⟩
    obtain rfl | ⟨rest, last, rfl⟩ := List.eq_nil_or_concat after
    · exact .inl (List.append_inj_right' heq rfl |> List.singleton_inj.1)
    · rw [List.concat_eq_append, ← List.cons_append, ← List.append_assoc] at heq
      obtain ⟨rfl, hlast⟩ := List.append_inj' heq rfl
      obtain rfl := List.singleton_inj.1 hlast
      exact .inr ⟨hafter call (by simp), before, rest, rfl,
        fun other hmem => hafter other (by simp [hmem])⟩
  · rintro (rfl | ⟨hkept, before, after, rfl, hafter⟩)
    · exact ⟨calls, [], rfl, by simp⟩
    · refine ⟨before, after ++ [call], by simp, fun other hmem => ?_⟩
      rcases List.mem_append.1 hmem with hmem | hmem
      · exact hafter other hmem
      · rwa [List.mem_singleton.1 hmem]

/-! ### What one scope has -/

/-- The parent of a scope. -/
def parent? (scopes : ScopeForest V) (id : ScopeId) : Option (Option ScopeId) :=
  (scopes.nodes[id]?).map Scope.parent

/-- The value of a kind that a scope has itself. -/
def own? (scopes : ScopeForest V) (kind : K) (id : ScopeId) : Option (V kind) :=
  (scopes.nodes[id]?).bind fun scope => scope.values kind

/-- `ScopeForest.holds` looks at what the scope has itself. -/
theorem holds_eq_isSome_own? (scopes : ScopeForest V) (id : ScopeId) (kind : K) :
    scopes.holds id kind = (scopes.own? kind id).isSome := by
  rw [holds, own?]
  cases scopes.nodes[id]? <;> rfl

/-- A scope sees its own value. -/
theorem get?_of_own? {value : V kind} (h : scopes.own? kind id = some value) :
    scopes.get? kind id = some value := by
  obtain ⟨node, hnode, hvalue⟩ := Option.bind_eq_some_iff.1 h
  rw [get?, hnode]
  simp only [hvalue]

/-- A root without a value sees none. -/
theorem get?_root (hown : scopes.own? kind id = none) (htop : scopes.parent? id = some none) :
    scopes.get? kind id = none := by
  obtain ⟨node, hnode, hparent⟩ := Option.map_eq_some_iff.1 htop
  rw [own?, hnode, Option.bind_some] at hown
  rw [get?, hnode]
  simp only [hown, hparent]

/-- A scope without a value sees what its parent sees. -/
theorem get?_child (hown : scopes.own? kind id = none)
    (hbelow : scopes.parent? id = some (some parent)) (hlt : parent < id) :
    scopes.get? kind id = scopes.get? kind parent := by
  obtain ⟨node, hnode, hparent⟩ := Option.map_eq_some_iff.1 hbelow
  rw [own?, hnode, Option.bind_some] at hown
  rw [get?, hnode]
  simp only [hown, hparent, if_pos hlt]

/-- A value is contained where one is seen. -/
theorem contains_eq_isSome_get? (scopes : ScopeForest V) (kind : K) (id : ScopeId) :
    scopes.contains kind id = (scopes.get? kind id).isSome := by
  -- both go through the same parents, each of which is older than its scope
  induction id using Nat.strongRecOn with
  | ind id ih =>
    rw [contains, get?]
    cases scopes.nodes[id]? with
    | none => rfl
    | some node =>
      dsimp only
      cases node.values kind with
      | some value => rfl
      | none =>
        cases node.parent with
        | none => rfl
        | some parent =>
          simp only [Option.isSome_none, Bool.false_eq_true, if_false]
          split
          · next hlt => exact ih parent hlt
          · rfl

/-- A new scope has nothing of its own, and the others keep what they have. -/
theorem own?_openUnder (scopes : ScopeForest V) (parent : Option ScopeId) (kind : K)
    (id : ScopeId) : (scopes.openUnder parent).2.own? kind id = scopes.own? kind id := by
  rw [own?, openUnder, Array.getElem?_push, own?]
  split
  · next hnew => simp [hnew, Scope.noValues]
  · rfl

/-- A new scope is named by the number of those before it. -/
theorem parent?_openUnder (scopes : ScopeForest V) (parent : Option ScopeId) (id : ScopeId) :
    (scopes.openUnder parent).2.parent? id
      = if id = scopes.nodes.size then some parent else scopes.parent? id := by
  rw [parent?, openUnder, Array.getElem?_push, apply_ite (Option.map Scope.parent)]
  rfl

section Calls

variable [DecidableEq K]

/-- What a scope holds has nothing to do with the parents. -/
theorem parent?_put (scopes : ScopeForest V) (scope : ScopeId) (kind : K)
    (value : Option (V kind)) (id : ScopeId) :
    (scopes.put scope kind value).parent? id = scopes.parent? id := by
  rw [parent?, put, Array.getElem?_modify, parent?]
  split
  · rw [Option.map_map]
    rfl
  · rfl

/-- What is put into a scope is what the scope has itself. -/
theorem own?_put_self {value : Option (V kind)} (hscope : scope < scopes.nodes.size) :
    (scopes.put scope kind value).own? kind scope = value := by
  rw [own?, put, Array.getElem?_modify, if_pos rfl, Array.getElem?_eq_getElem hscope]
  simp [Scope.withValue]

/-- Nothing else changes than what one scope holds of one kind. -/
theorem own?_put_of_ne (scopes : ScopeForest V) {changed : K} (value : Option (V changed))
    (hne : ¬ (id = scope ∧ kind = changed)) :
    (scopes.put scope changed value).own? kind id = scopes.own? kind id := by
  rw [own?, put, Array.getElem?_modify, own?]
  split
  · next hscope =>
    have hkind : kind ≠ changed := fun heq => hne ⟨hscope.symm, heq⟩
    cases scopes.nodes[id]? <;> simp [Scope.withValue, hkind]
  · rfl

/-- A call that is not about a kind in a scope leaves what the scope has of that kind. -/
theorem own?_apply (scopes : ScopeForest V) (hkept : ¬ call.Writes id kind) :
    (call.apply scopes).own? kind id = scopes.own? kind id := by
  cases call with
  | root => exact own?_openUnder scopes none kind id
  | child parent => exact own?_openUnder scopes (some parent) kind id
  | set scope written value =>
    refine own?_put_of_ne scopes (some value) ?_
    rintro ⟨rfl, rfl⟩
    exact hkept (.set value)
  | remove scope removed =>
    refine own?_put_of_ne scopes none ?_
    rintro ⟨rfl, rfl⟩
    exact hkept .remove

/-- A call opens at most the scope with the next name, and changes no other's parent. -/
theorem parent?_apply (scopes : ScopeForest V) (call : ScopeCall V) (id : ScopeId) :
    (call.apply scopes).parent? id
      = if id = scopes.nodes.size then call.opens? else scopes.parent? id := by
  -- there is no scope with the next name yet, and a call that opens none leaves it so
  have hnext : scopes.parent? scopes.nodes.size = none := by simp [parent?]
  have hsame : scopes.parent? id
      = if id = scopes.nodes.size then none else scopes.parent? id := by
    split
    · next hnew => rw [hnew, hnext]
    · rfl
  cases call with
  | root => exact parent?_openUnder scopes none id
  | child parent => exact parent?_openUnder scopes (some parent) id
  | set scope kind value => exact (parent?_put scopes scope kind (some value) id).trans hsame
  | remove scope kind => exact (parent?_put scopes scope kind none id).trans hsame

end Calls

/-! ### Ways to the root -/

theorem getElem?_parents_concat (calls : List (ScopeCall V)) (call : ScopeCall V) (id : ScopeId) :
    (parents (calls ++ [call]))[id]?
      = if id = (parents calls).length then call.opens? else (parents calls)[id]? := by
  rw [parents_concat, List.getElem?_append]
  rcases Nat.lt_trichotomy id (parents calls).length with hlt | rfl | hgt
  · rw [if_pos hlt, if_neg (Nat.ne_of_lt hlt)]
  · rw [if_neg (Nat.lt_irrefl _), if_pos rfl, Nat.sub_self]
    cases call.opens? <;> rfl
  · rw [if_neg (Nat.lt_asymm hgt), if_neg (Nat.ne_of_gt hgt),
      List.getElem?_eq_none (Nat.le_of_lt hgt), List.getElem?_eq_none]
    cases call.opens? <;> simp; omega

/-- A parent is older than its scope. -/
theorem Sound.parent_lt (h : Sound calls) (hbelow : (parents calls)[id]? = some (some parent)) :
    parent < id := by
  induction h with
  | nil => simp [parents] at hbelow
  | @concat calls call sound opened ih =>
    rw [getElem?_parents_concat] at hbelow
    split at hbelow
    · next hnew =>
      subst hnew
      -- only a child has a parent, and this was opened before it
      cases call with
      | root => cases hbelow
      | child other =>
        cases hbelow
        exact opened parent rfl
      | set => cases hbelow
      | remove => cases hbelow
    · exact ih hbelow

/-- In a `Sound` history a scope is opened below an older one, so that a `Path` leads up to a root.
-/
theorem Sound.exists_path (h : Sound calls) (hid : id < (parents calls).length) :
    ∃ path, Path calls id path := by
  -- by strong induction, since the way from the parent of a scope is the rest of its own
  induction id using Nat.strongRecOn with
  | ind id ih =>
    cases hparent : (parents calls)[id] with
    | none => exact ⟨[id], .root (List.getElem?_eq_some_iff.2 ⟨hid, hparent⟩)⟩
    | some parent =>
      have hbelow := List.getElem?_eq_some_iff.2 ⟨hid, hparent⟩
      have hlt := h.parent_lt hbelow
      obtain ⟨above, habove⟩ := ih parent hlt (Nat.lt_trans hlt hid)
      exact ⟨id :: above, .child hbelow habove⟩

/-- There is one `Path` from a scope, as each has one parent. -/
theorem Path.unique {path' : List ScopeId} (h : Path calls id path) (h' : Path calls id path') :
    path = path' := by
  induction h generalizing path' with
  | root top =>
    cases h' with
    | root => rfl
    | child below => simp [top] at below
  | child below _ ih =>
    cases h' with
    | root top => simp [top] at below
    | child below' habove' =>
      obtain rfl := Option.some.inj (Option.some.inj (below.symm.trans below'))
      rw [ih habove']

/-- From a scope on the way to the root, the rest of the way leads there. -/
theorem Path.rest {nearer : List ScopeId} (h : Path calls id (nearer ++ scope :: above)) :
    Path calls scope (scope :: above) := by
  induction nearer generalizing id with
  | nil =>
    cases h with
    | root top => exact .root top
    | child below habove => exact .child below habove
  | cons first nearer ih =>
    generalize hpath : first :: nearer ++ scope :: above = path at h
    cases h with
    | root => simp at hpath
    | child below habove =>
      obtain ⟨rfl, rfl⟩ := List.cons.inj hpath
      exact ih habove

/-- The way to the root leads to older scopes. -/
theorem Path.le (h : Sound calls) (hpath : Path calls id path) : ∀ scope ∈ path, scope ≤ id := by
  induction hpath with
  | root => simp
  | child below _ ih =>
    intro scope hmem
    rcases List.mem_cons.1 hmem with rfl | hmem
    · exact Nat.le_refl _
    · exact Nat.le_of_lt (Nat.lt_of_le_of_lt (ih scope hmem) (h.parent_lt below))

/-- On a `Path` in a `Sound` history the names get smaller. -/
theorem Path.lt (h : Sound calls) (hpath : Path calls id (id :: above)) :
    ∀ scope ∈ above, scope < id := by
  intro scope hmem
  cases hpath with
  | root => cases hmem
  | child below habove => exact Nat.lt_of_le_of_lt (habove.le h scope hmem) (h.parent_lt below)

/-- What lies on the way to a scope is younger. -/
theorem Path.lt_nearer {nearer : List ScopeId} (h : Sound calls)
    (hpath : Path calls id (nearer ++ scope :: above)) : ∀ other ∈ nearer, scope < other := by
  intro other hmem
  obtain ⟨before, after, rfl⟩ := List.append_of_mem hmem
  rw [List.append_assoc, List.cons_append] at hpath
  exact hpath.rest.lt h scope (by simp)

/-- Calls open scopes after those that there are. -/
theorem Path.concat (h : Path calls id path) : Path (calls ++ [call]) id path := by
  have hkept {id : ScopeId} {found : Option ScopeId} (h : (parents calls)[id]? = some found) :
      (parents (calls ++ [call]))[id]? = some found := by
    rw [getElem?_parents_concat, if_neg (Nat.ne_of_lt (List.getElem?_eq_some_iff.1 h).1), h]
  induction h with
  | root top => exact .root (hkept top)
  | child below _ ih => exact .child (hkept below) ih

/-! ### Scopes and their history -/

/-- The scopes after calls. -/
def replay [DecidableEq K] (calls : List (ScopeCall V)) : ScopeForest V :=
  calls.foldl ScopeCall.apply {}

/-- Scopes are as their history says. -/
structure Mirrors (calls : List (ScopeCall V)) (scopes : ScopeForest V) : Prop where
  /-- Every scope is below the one that it was opened below. -/
  parent? : ∀ id, scopes.parent? id = (parents calls)[id]?
  /-- A scope has itself what was put there last and not taken out. -/
  own? : ∀ kind id value, scopes.own? kind id = some value ↔ Holds calls id kind value

namespace Mirrors

/-- As many scopes were opened as there are. -/
theorem size_eq (h : Mirrors calls scopes) : scopes.nodes.size = (parents calls).length := by
  have hnone (id : ScopeId) : scopes.nodes.size ≤ id ↔ (parents calls).length ≤ id := by
    rw [← Array.getElem?_eq_none_iff, ← List.getElem?_eq_none_iff, ← h.parent?,
      ScopeForest.parent?, Option.map_eq_none_iff]
  exact Nat.le_antisymm ((hnone _).2 (Nat.le_refl _)) ((hnone _).1 (Nat.le_refl _))

theorem nil : Mirrors [] ({} : ScopeForest V) where
  parent? _ := rfl
  own? kind id value := by simp [ScopeForest.own?, Holds]

/-- In scopes that mirror a history one has nothing of a kind exactly if it is `Bare` there. -/
theorem own?_eq_none_iff (h : Mirrors calls scopes) :
    scopes.own? kind id = none ↔ Bare calls kind id := by
  rw [Option.eq_none_iff_forall_not_mem]
  exact forall_congr' fun value => not_congr (h.own? kind id value)

/-- One call keeps the scopes in step with their history. -/
theorem apply [DecidableEq K] (h : Mirrors calls scopes)
    (opened : ∀ scope ∈ call.target?, scope < (parents calls).length) :
    Mirrors (calls ++ [call]) (call.apply scopes) where
  parent? id := by
    rw [parent?_apply, getElem?_parents_concat, h.size_eq, h.parent?]
  own? kind id value := by
    rw [holds_concat]
    -- a call on this kind in this scope decides alone, and any other changes nothing here
    by_cases hwrites : call.Writes id kind
    · cases hwrites with
      | set written =>
        rw [ScopeCall.apply, set, own?_put_self (h.size_eq ▸ opened id rfl)]
        simp [ScopeCall.Writes.set]
      | remove =>
        rw [ScopeCall.apply, remove, own?_put_self (h.size_eq ▸ opened id rfl)]
        simp [ScopeCall.Writes.remove]
    · rw [own?_apply scopes hwrites, h.own?]
      have hother : call ≠ .set id kind value := fun heq => hwrites (heq ▸ .set value)
      simp [hwrites, hother]

/-- A lookup finds the first value on the way to the root. -/
theorem get?_eq (h : Mirrors calls scopes) (hsound : Sound calls) (hpath : Path calls id path) :
    scopes.get? kind id = path.findSome? (scopes.own? kind) := by
  -- by induction on the way: a value ends the search, and without one it goes on at the parent
  induction hpath with
  | @root id top =>
    cases hown : scopes.own? kind id with
    | some value => simp [get?_of_own? hown, hown]
    | none => simp [get?_root hown ((h.parent? id).trans top), hown]
  | @child id parent above below habove ih =>
    cases hown : scopes.own? kind id with
    | some value => simp [get?_of_own? hown, hown]
    | none =>
      rw [get?_child hown ((h.parent? id).trans below) (hsound.parent_lt below), ih,
        List.findSome?_cons, hown]

end Mirrors

section Replaying

variable [DecidableEq K]

/-- `replay` goes through the calls from the first one. -/
theorem replay_concat (calls : List (ScopeCall V)) (call : ScopeCall V) :
    replay (calls ++ [call]) = call.apply (replay calls) := by
  rw [replay, List.foldl_append, replay]
  rfl

/-- The scopes that are left by a `Sound` history are as the history says, call by call. -/
theorem Sound.mirrors (h : Sound calls) : Mirrors calls (replay calls) := by
  induction h with
  | nil => exact .nil
  | concat sound opened ih =>
    rw [replay_concat]
    exact ih.apply opened

/-- What the lookups of a kind from a scope find after a history. -/
structure Found (calls : List (ScopeCall V)) (id : ScopeId) (kind : K) : Prop where
  /-- A lookup finds what the nearest scope holds. -/
  nearest : ∀ value, (replay calls).get? kind id = some value ↔
    ∃ scope, Unshadowed calls kind id scope ∧ Holds calls scope kind value
  /-- A lookup finds nothing if no scope on the way to the root holds a value. -/
  nothing : (replay calls).get? kind id = none ↔
    ∃ path, Path calls id path ∧ ∀ scope ∈ path, Bare calls kind scope
  /-- What is contained is what is found. -/
  contained : (replay calls).contains kind id = ((replay calls).get? kind id).isSome
  /-- A removal answers whether the scope itself holds a value. -/
  removed : (replay calls).holds id kind = true ↔ ∃ value, Holds calls id kind value

/-- What a call that writes a kind in a scope changes for the lookups. -/
structure Confined (calls : List (ScopeCall V)) (call : ScopeCall V) (scope : ScopeId)
    (kind : K) : Prop where
  /-- A changed lookup is one of the kind, and nothing between hides the scope from it. -/
  reached : ∀ id < (parents calls).length, ∀ other,
    (replay (calls ++ [call])).get? other id ≠ (replay calls).get? other id →
      other = kind ∧ Unshadowed calls kind id scope
  /-- From where nothing hides the scope, as much is found as from the scope. -/
  followed : ∀ id, Unshadowed calls kind id scope →
    (replay (calls ++ [call])).get? kind id = (replay (calls ++ [call])).get? kind scope
  /-- Nothing changes for the scopes above. -/
  ancestors : ∀ above, Path calls scope (scope :: above) → ∀ id ∈ above, ∀ other : K,
    (replay (calls ++ [call])).get? other id = (replay calls).get? other id
  /-- Nothing changes for the other scopes with the same parent. -/
  siblings : ∀ parent, (parents calls)[scope]? = some parent → ∀ id ≠ scope,
    (parents calls)[id]? = some parent → ∀ other : K,
      (replay (calls ++ [call])).get? other id = (replay calls).get? other id

/-- Lookups go up the `Path` of a scope and stop at the first that is not `Bare`. -/
theorem Sound.found (h : Sound calls) (hid : id < (parents calls).length) (kind : K) :
    Found calls id kind := by
  obtain ⟨path, hpath⟩ := h.exists_path hid
  have hmirrors := h.mirrors
  have hget : (replay calls).get? kind id = path.findSome? ((replay calls).own? kind) :=
    hmirrors.get?_eq h hpath
  refine ⟨fun value => ?_, ?_, contains_eq_isSome_get? _ kind id, ?_⟩
  · -- the place where the search ends cuts the way as `Unshadowed` asks
    rw [hget, List.findSome?_eq_some_iff]
    constructor
    · rintro ⟨nearer, scope, above, rfl, hown, hnearer⟩
      exact ⟨scope, ⟨nearer, above, hpath,
        fun other hmem => hmirrors.own?_eq_none_iff.1 (hnearer other hmem)⟩,
        (hmirrors.own? kind scope value).1 hown⟩
    · rintro ⟨scope, ⟨nearer, above, hpath', hbare⟩, hholds⟩
      exact ⟨nearer, scope, above, hpath.unique hpath', (hmirrors.own? kind scope value).2 hholds,
        fun other hmem => hmirrors.own?_eq_none_iff.2 (hbare other hmem)⟩
  · rw [hget, List.findSome?_eq_none_iff]
    constructor
    · exact fun hnone => ⟨path, hpath,
        fun scope hmem => hmirrors.own?_eq_none_iff.1 (hnone scope hmem)⟩
    · rintro ⟨path', hpath', hbare⟩ scope hmem
      exact hmirrors.own?_eq_none_iff.2 (hbare scope (hpath.unique hpath' ▸ hmem))
  · rw [holds_eq_isSome_own?, Option.isSome_iff_exists]
    exact exists_congr fun value => hmirrors.own? kind id value

/-- Where a call does not write, as much is found as before it. -/
theorem findSome?_own?_apply (scopes : ScopeForest V)
    (hkept : ∀ scope ∈ path, ¬ call.Writes scope kind) :
    path.findSome? ((call.apply scopes).own? kind) = path.findSome? (scopes.own? kind) := by
  induction path with
  | nil => rfl
  | cons scope path ih =>
    rw [List.findSome?_cons, List.findSome?_cons, own?_apply scopes (hkept scope (by simp)),
      ih fun other hmem => hkept other (by simp [hmem])]

/-- A lookup does not change if its way to the root does not meet what is written. -/
theorem Sound.get?_concat (h : Sound (calls ++ [call])) (hsound : Sound calls)
    (hpath : Path calls id path) (hkept : ∀ scope ∈ path, ¬ call.Writes scope kind) :
    (replay (calls ++ [call])).get? kind id = (replay calls).get? kind id := by
  rw [h.mirrors.get?_eq h hpath.concat, hsound.mirrors.get?_eq hsound hpath, replay_concat,
    findSome?_own?_apply (replay calls) hkept]

/-- A lookup that a call changes meets what is written, before any other value of the kind. -/
theorem Sound.unshadowed_of_changed (h : Sound (calls ++ [call])) (hsound : Sound calls)
    (hid : id < (parents calls).length)
    (hchanged : (replay (calls ++ [call])).get? kind id ≠ (replay calls).get? kind id) :
    ∃ scope, call.Writes scope kind ∧ Unshadowed calls kind id scope := by
  obtain ⟨path, hpath⟩ := hsound.exists_path hid
  obtain ⟨scope, hmem, hwrites⟩ : ∃ scope ∈ path, call.Writes scope kind := by
    by_contra hnone
    exact hchanged (h.get?_concat hsound hpath fun scope hmem hwrites =>
      hnone ⟨scope, hmem, hwrites⟩)
  -- up to the first place of the scope on the way the call changes nothing
  obtain ⟨nearer, above, rfl, hfirst⟩ := List.eq_append_cons_of_mem hmem
  have hnearer : nearer.findSome? ((call.apply (replay calls)).own? kind)
      = nearer.findSome? ((replay calls).own? kind) :=
    findSome?_own?_apply _ fun other hother hmet => hfirst ((hmet.unique hwrites).1 ▸ hother)
  rw [h.mirrors.get?_eq h hpath.concat, hsound.mirrors.get?_eq hsound hpath, replay_concat,
    List.findSome?_append, List.findSome?_append, hnearer] at hchanged
  refine ⟨scope, hwrites, nearer, above, hpath, fun other hother => ?_⟩
  -- a value that is met before would be found before the call and after it
  have hnone : nearer.findSome? ((replay calls).own? kind) = none := by
    cases hfound : nearer.findSome? ((replay calls).own? kind) with
    | none => rfl
    | some value => simp [hfound] at hchanged
  exact hsound.mirrors.own?_eq_none_iff.1 (List.findSome?_eq_none_iff.1 hnone other hother)

/-- A call that writes one kind in one scope keeps its changes to where that scope is seen. -/
theorem Sound.confined (h : Sound (calls ++ [call])) (hsound : Sound calls)
    (hwrites : call.Writes scope kind) : Confined calls call scope kind where
  reached id hid other hchanged := by
    obtain ⟨written, hwritten, hunshadowed⟩ := h.unshadowed_of_changed hsound hid hchanged
    obtain ⟨rfl, rfl⟩ := hwrites.unique hwritten
    exact ⟨rfl, hunshadowed⟩
  followed id hunshadowed := by
    obtain ⟨nearer, above, hpath, hbare⟩ := hunshadowed
    have hnearer : nearer.findSome? ((call.apply (replay calls)).own? kind) = none := by
      rw [findSome?_own?_apply _ fun other hmem hmet =>
        Nat.ne_of_lt (hpath.lt_nearer hsound other hmem) (hwrites.unique hmet).1,
        List.findSome?_eq_none_iff]
      exact fun other hmem => hsound.mirrors.own?_eq_none_iff.2 (hbare other hmem)
    rw [h.mirrors.get?_eq h hpath.concat, h.mirrors.get?_eq h hpath.rest.concat, replay_concat,
      List.findSome?_append, hnearer, Option.none_or]
  ancestors above hpath id hmem other := by
    obtain ⟨before, rest, rfl⟩ := List.append_of_mem hmem
    rw [← List.cons_append] at hpath
    have hrest : Path calls id (id :: rest) := hpath.rest
    refine h.get?_concat hsound hrest fun met hmet hwritten => ?_
    exact Nat.ne_of_lt (Nat.lt_of_le_of_lt (hrest.le hsound met hmet) (hpath.lt hsound id hmem))
      (hwritten.unique hwrites).1
  siblings parent hscope id hne hid other := by
    cases parent with
    | none =>
      refine h.get?_concat hsound (.root hid) fun met hmet hwritten => hne ?_
      rw [← List.mem_singleton.1 hmet, (hwritten.unique hwrites).1]
    | some parent =>
      have hlt : parent < (parents calls).length :=
        Nat.lt_trans (hsound.parent_lt hid) (List.getElem?_eq_some_iff.1 hid).1
      obtain ⟨above, habove⟩ := hsound.exists_path hlt
      refine h.get?_concat hsound (.child hid habove) fun met hmet hwritten => ?_
      obtain rfl := (hwritten.unique hwrites).1
      rcases List.mem_cons.1 hmet with heq | hmet
      · exact hne heq.symm
      · -- the ways of siblings meet at their parent, which is older than both
        exact Nat.not_lt_of_le (habove.le hsound met hmet) (hsound.parent_lt hscope)

/-- What every lookup finds after a history of calls, and what one more call changes. -/
theorem lookups_follow_history (h : Sound calls) :
    (∀ id < (parents calls).length, (∃! path, Path calls id path) ∧ ∀ kind, Found calls id kind) ∧
    ∀ call scope kind, Sound (calls ++ [call]) → call.Writes scope kind →
      Confined calls call scope kind := by
  refine ⟨fun id hid => ⟨?_, h.found hid⟩, fun call scope kind hcall hwrites =>
    hcall.confined h hwrites⟩
  obtain ⟨path, hpath⟩ := h.exists_path hid
  exact ⟨path, hpath, fun other hother => hother.unique hpath⟩

end Replaying

/-- A value in the middle of three scopes hides one at their root, next to a sibling. -/
def overlay : List (ScopeCall Slot.Value) :=
  [.root, .child 0, .child 1, .child 0, .set 0 .text "outer", .set 1 .text "inner"]

/-- In `overlay` every scope is opened before something is put into it. -/
theorem sound_overlay : Sound overlay := by
  show Sound (V := Slot.Value) ([] ++ [.root] ++ [.child 0] ++ [.child 1] ++ [.child 0]
    ++ [.set 0 .text "outer"] ++ [.set 1 .text "inner"])
  refine .concat (.concat (.concat (.concat (.concat (.concat .nil ?_) ?_) ?_) ?_) ?_) ?_
  all_goals simp [ScopeCall.target?, ScopeCall.opens?, parents]

theorem sound_overlay_remove : Sound (overlay ++ [.remove 1 .text]) :=
  .concat sound_overlay (by simp [ScopeCall.target?, ScopeCall.opens?, parents, overlay])

/-- The value at the root is seen again when the one that hides it is taken out, and the sibling
saw it all along. -/
theorem lookups_follow_history_overlay :
    (replay overlay).get? .text 2 = some "inner" ∧
      (replay (overlay ++ [.remove 1 .text])).get? .text 2 = some "outer" ∧
      (replay (overlay ++ [.remove 1 .text])).get? .text 3 = (replay overlay).get? .text 3 := by
  -- before the removal the inner value hides the outer one, after it no longer; the sibling sees no
  -- difference
  have hbefore := lookups_follow_history sound_overlay
  have hafter := lookups_follow_history sound_overlay_remove
  refine ⟨?_, ?_, ?_⟩
  · refine (((hbefore.1 2 (by decide)).2 .text).nearest "inner").2 ⟨1, ⟨[2], [0], ?_, ?_⟩, ?_⟩
    · exact .child rfl (.child rfl (.root rfl))
    · simpa using sound_overlay.mirrors.own?_eq_none_iff.1 rfl
    · exact ⟨[.root, .child 0, .child 1, .child 0, .set 0 .text "outer"], [], rfl, by simp⟩
  · refine (((hafter.1 2 (by decide)).2 .text).nearest "outer").2 ⟨0, ⟨[2, 1], [], ?_, ?_⟩, ?_⟩
    · exact .child rfl (.child rfl (.root rfl))
    · have hmirrors := sound_overlay_remove.mirrors
      simpa using ⟨hmirrors.own?_eq_none_iff.1 rfl, hmirrors.own?_eq_none_iff.1 rfl⟩
    · refine ⟨[.root, .child 0, .child 1, .child 0],
        [.set 1 .text "inner", .remove 1 .text], rfl, ?_⟩
      simp only [List.forall_mem_cons]
      exact ⟨nofun, nofun, nofun⟩
  · exact (hbefore.2 (.remove 1 .text) 1 .text sound_overlay_remove .remove).siblings
      (some 0) rfl 3 (by decide) rfl .text

end ScopeForest

end Messaging
