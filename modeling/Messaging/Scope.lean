import Messaging.Message

/-!
# Scopes

Every stage of a pipeline works in a scope: a store of at most one value of each kind, with a
parent.

- `ScopeForest` is a forest of scopes for any kinds of values; a scope is named by its number and
  its parent was opened before it. `Scopes` is that of the pipelines, with the kinds `Slot`.
- `ScopeForest.get?` looks a value up in a scope and then in its parents, nearest first.
- `ScopeForest.set` and `ScopeForest.remove` touch one scope only, with `ScopeForest.put`.
- `ScopeForest.get?_openUnder` and `ScopeForest.get?_set_of_ne` say what a new scope and a new value
  leave to be seen.
-/

namespace Messaging

/-- The name of a scope. -/
abbrev ScopeId := Nat

/-- The name of a list of staged operations. -/
abbrev StagingId := Nat

/-- The kinds of values that a scope holds. -/
inductive Slot where
  /-- A text. -/
  | text
  /-- A number. -/
  | number
  /-- A truth value. -/
  | flag
  /-- The operations staged while a message is received. -/
  | staging
  /-- The message that is received. -/
  | received
deriving DecidableEq, Repr

/-- The values of a kind. -/
abbrev Slot.Value : Slot → Type
  | .text => String
  | .number => Int
  | .flag => Bool
  | .staging => StagingId
  | .received => Message

/-- The kinds of values. -/
def Slot.all : List Slot := [.text, .number, .flag, .staging, .received]

variable {K : Type} {V : K → Type}

/-- One scope. -/
structure Scope (V : K → Type) where
  /-- The scope that is asked next. -/
  parent : Option ScopeId
  /-- The values of this scope. -/
  values : (kind : K) → Option (V kind)

/-- The values of a scope without any. -/
def Scope.noValues : (kind : K) → Option (V kind) := fun _ => none

/-- The values with one of them changed. -/
def Scope.withValue [DecidableEq K] (values : (kind : K) → Option (V kind)) (kind : K)
    (value : Option (V kind)) : (kind : K) → Option (V kind) :=
  fun other => if h : other = kind then h ▸ value else values other

/-- Scopes for values of some kinds. -/
structure ScopeForest (V : K → Type) where
  /-- The scopes by their names. -/
  nodes : Array (Scope V) := #[]

/-- All scopes of the pipelines. -/
abbrev Scopes := ScopeForest Slot.Value

namespace ScopeForest

/-- Opens a scope. -/
def openUnder (scopes : ScopeForest V) (parent : Option ScopeId) : ScopeId × ScopeForest V :=
  (scopes.nodes.size, ⟨scopes.nodes.push ⟨parent, Scope.noValues⟩⟩)

/-- The nearest value of a kind, seen from a scope. -/
def get? (scopes : ScopeForest V) (kind : K) (id : ScopeId) : Option (V kind) :=
  match scopes.nodes[id]? with
  | none => none
  | some scope =>
    match scope.values kind with
    | some value => some value
    | none =>
      match scope.parent with
      -- a parent was opened before its scope, so the search ends
      | some parent => if parent < id then scopes.get? kind parent else none
      | none => none
termination_by id

/-- Whether a value of a kind is seen from a scope. -/
def contains (scopes : ScopeForest V) (kind : K) (id : ScopeId) : Bool :=
  match scopes.nodes[id]? with
  | none => false
  | some scope =>
    if (scope.values kind).isSome then true
    else
      match scope.parent with
      | some parent => if parent < id then scopes.contains kind parent else false
      | none => false
termination_by id

/-- The number of scopes above a scope. -/
def depth (scopes : ScopeForest V) (id : ScopeId) : Nat :=
  match scopes.nodes[id]? with
  | none => 0
  | some scope =>
    match scope.parent with
    | some parent => if parent < id then scopes.depth parent + 1 else 0
    | none => 0
termination_by id

/-- Changes what a scope itself holds of a kind. -/
def put [DecidableEq K] (scopes : ScopeForest V) (id : ScopeId) (kind : K)
    (value : Option (V kind)) : ScopeForest V :=
  ⟨scopes.nodes.modify id fun scope =>
    { scope with values := Scope.withValue scope.values kind value }⟩

/-- Puts a value into a scope, in the place of an earlier one of its kind. -/
def set [DecidableEq K] (scopes : ScopeForest V) (id : ScopeId) (kind : K) (value : V kind) :
    ScopeForest V :=
  scopes.put id kind (some value)

/-- Whether a scope itself holds a value of a kind, which is what its removal answers. -/
def holds (scopes : ScopeForest V) (id : ScopeId) (kind : K) : Bool :=
  match scopes.nodes[id]? with
  | some scope => (scope.values kind).isSome
  | none => false

/-- Takes a value out of a scope. -/
def remove [DecidableEq K] (scopes : ScopeForest V) (id : ScopeId) (kind : K) : ScopeForest V :=
  scopes.put id kind none

/-- What a scope sees depends on the parents and the values of the kind of the scopes up to it. -/
theorem get?_congr {first second : ScopeForest V} {kind : K} {id : ScopeId}
    (h : ∀ other ≤ id, (first.nodes[other]?).map (fun scope => (scope.parent, scope.values kind))
      = (second.nodes[other]?).map fun scope => (scope.parent, scope.values kind)) :
    first.get? kind id = second.get? kind id := by
  induction id using Nat.strongRecOn with
  | ind id ih =>
    have hid := h id (Nat.le_refl id)
    rw [get?, get?.eq_def second]
    cases hfirst : first.nodes[id]? with
    | none =>
      rw [hfirst, Option.map_none, eq_comm, Option.map_eq_none_iff] at hid
      rw [hid]
    | some scope =>
      rw [hfirst, Option.map_some, eq_comm, Option.map_eq_some_iff] at hid
      obtain ⟨other, hother, hsame⟩ := hid
      obtain ⟨hparent, hvalues⟩ := Prod.mk.inj hsame
      rw [hother]
      dsimp only
      rw [hparent, hvalues]
      cases scope.values kind with
      | some value => rfl
      | none =>
        cases scope.parent with
        | none => rfl
        | some parent =>
          dsimp only
          split
          · next hlt =>
            -- a lookup looks at older scopes only, so it stays below the bound
            exact ih parent hlt fun other hle =>
              h other (Nat.le_trans hle (Nat.le_of_lt hlt))
          · rfl

/-- A new scope changes nothing for those that were opened before. -/
theorem get?_openUnder (scopes : ScopeForest V) (parent : Option ScopeId) (kind : K)
    {id : ScopeId} (hid : id < scopes.nodes.size) :
    (scopes.openUnder parent).2.get? kind id = scopes.get? kind id := by
  refine get?_congr fun other hle => ?_
  rw [openUnder, Array.getElem?_push, if_neg (Nat.ne_of_lt (Nat.lt_of_le_of_lt hle hid))]

/-- A new scope sees what its parent sees. -/
theorem get?_openUnder_self (scopes : ScopeForest V) (kind : K) {parent : ScopeId}
    (hparent : parent < scopes.nodes.size) :
    (scopes.openUnder (some parent)).2.get? kind (scopes.openUnder (some parent)).1
      = scopes.get? kind parent := by
  have hnode : (scopes.openUnder (some parent)).2.nodes[scopes.nodes.size]?
      = some ⟨some parent, Scope.noValues⟩ := by
    rw [openUnder, Array.getElem?_push, if_pos rfl]
  rw [get?, show (scopes.openUnder (some parent)).1 = scopes.nodes.size from rfl, hnode]
  simp only [Scope.noValues, if_pos hparent]
  exact get?_openUnder scopes (some parent) kind hparent

/-- A new value changes nothing for the other kinds. -/
theorem get?_set_of_ne [DecidableEq K] (scopes : ScopeForest V) (scope : ScopeId)
    {kind other : K} (value : V kind) (hne : other ≠ kind) (id : ScopeId) :
    (scopes.set scope kind value).get? other id = scopes.get? other id := by
  refine get?_congr fun node _ => ?_
  rw [set, put, Array.getElem?_modify]
  split
  · rw [Option.map_map]
    congr 1
    funext scope
    simp only [Function.comp_apply, Scope.withValue, dif_neg hne]
  · rfl

/-- A scope sees its own value. -/
theorem get?_set_self [DecidableEq K] (scopes : ScopeForest V) (kind : K) (value : V kind)
    {id : ScopeId} (hid : id < scopes.nodes.size) :
    (scopes.set id kind value).get? kind id = some value := by
  rw [get?, set, put, Array.getElem?_modify, if_pos rfl, Array.getElem?_eq_getElem hid]
  simp [Scope.withValue]

end ScopeForest

/-- How many values a scope itself holds. -/
def Scopes.localSize (scopes : Scopes) (id : ScopeId) : Nat :=
  (Slot.all.filter fun slot => scopes.holds id slot).length

end Messaging
