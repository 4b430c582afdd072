import Messaging.Incoming.Context
import Messaging.Outgoing.Stages
import Messaging.Proofs.Service
import Messaging.World.Basic

/-!
# What is staged while a message is received

An attempt to process a message opens a list of staged operations and lets its scopes lead to it.
Whatever is sent from these scopes is added to the list, and nothing leaves the endpoint.

- `Moment` is the world with the log of an attempt, from which `staged` and `sent` read the
  operations that were staged and the batches that the transport took.
- `Spared` is what others leave alone while the attempt waits, and `terms` the contract with them.
- `Pending` says that the list holds what was staged and that nothing was sent, and `Sees` that a
  scope leads to the list.
- `Stages` says of a program that it keeps both.
-/

namespace Messaging.Redelivery

/-! ### The log of an attempt -/

/-- The operations that are staged with an exchange. -/
def stagedBy : Exchange → List Operation
  | ⟨.stage _ operations, _⟩ => operations
  | _ => []

/-- The batch that the transport took with an exchange. -/
def sentBy : Exchange → Option Batch
  | ⟨.dispatch batch, .ok ()⟩ => some batch
  | _ => none

/-- The batch that is handed to the transport with an exchange, and its answer. -/
def handedBy : Exchange → Option (Batch × Except TransportError Unit)
  | ⟨.dispatch batch, answer⟩ => some (batch, answer)
  | _ => none

/-- The scope that was opened with an exchange. -/
def scopeOf : Exchange → Option ScopeId
  | ⟨.openScope _, scope⟩ => some scope
  | _ => none

/-- The list of staged operations that was opened with an exchange. -/
def stagingOf : Exchange → Option StagingId
  | ⟨.openStaging, staging⟩ => some staging
  | _ => none

/-- The operations that were staged, first staged first. -/
def staged (log : List Exchange) : List Operation := log.flatMap stagedBy

/-- The batches that the transport took, first taken first. -/
def sent (log : List Exchange) : List Batch := log.filterMap sentBy

/-- The batches that were handed to the transport, taken or not, first handed first. -/
def handed (log : List Exchange) : List (Batch × Except TransportError Unit) :=
  log.filterMap handedBy

/-- A moment of an attempt. -/
structure Moment where
  /-- The world. -/
  world : World
  /-- What the attempt has asked for and was answered, first asked first. -/
  log : List Exchange := []

namespace Moment

/-- The moment after a request was answered. -/
def after (s : Moment) (effect : Effect) : Moment :=
  { world := (s.world.perform effect).2
    log := s.log ++ [⟨effect, (s.world.perform effect).1⟩] }

/-- What was staged after one more request. -/
theorem staged_after (s : Moment) (effect : Effect) :
    staged (s.after effect).log
      = staged s.log ++ stagedBy ⟨effect, (s.world.perform effect).1⟩ := by
  rw [staged, after, List.flatMap_append, List.flatMap_singleton]
  rfl

/-- What was sent after one more request. -/
theorem sent_after (s : Moment) (effect : Effect) :
    sent (s.after effect).log
      = sent s.log ++ (sentBy ⟨effect, (s.world.perform effect).1⟩).toList := by
  rw [sent, after, List.filterMap_append, List.filterMap_cons]
  cases sentBy ⟨effect, (s.world.perform effect).1⟩ <;> rfl

/-- Whether a scope was opened by the attempt. -/
def Owns (s : Moment) (scope : ScopeId) : Prop :=
  scope ∈ s.log.filterMap scopeOf ∧ scope < s.world.scopes.nodes.size

/-- Whether a list of staged operations was opened by the attempt. -/
def Keeps (s : Moment) (staging : StagingId) : Prop := staging ∈ s.log.filterMap stagingOf

/-- A list of staged operations that was opened stays one that was. -/
theorem Keeps.after {s : Moment} {staging : StagingId} (h : s.Keeps staging) (effect : Effect) :
    (s.after effect).Keeps staging := by
  rw [Keeps, Moment.after, List.filterMap_append]
  exact List.mem_append_left _ h

end Moment

/-! ### The contract with others -/

/-- How the requests of an attempt are answered. While it sleeps others go on, so that a sleep
itself changes nothing. -/
inductive Serves : Service Moment where
  /-- A sleep is over. -/
  | slept (s : Moment) (millis : Nat) : Serves s (.sleep millis) () s
  /-- Any other request is answered by the world. -/
  | performed {s : Moment} {effect : Effect} (hawake : ∀ millis, effect ≠ .sleep millis) :
      Serves s effect (s.world.perform effect).1 (s.after effect)

/-- Every request is answered. -/
theorem Serves.exists (s : Moment) (effect : Effect) : ∃ answer t, Serves s effect answer t := by
  by_cases hsleep : ∃ millis, effect = .sleep millis
  · obtain ⟨millis, rfl⟩ := hsleep
    exact ⟨(), s, .slept s millis⟩
  · exact ⟨_, _, .performed fun millis h => hsleep ⟨millis, h⟩⟩

/-- What others leave alone: what is seen of staged operations from the scopes of the attempt, the
lists that it opened, and the scopes that there are. -/
structure Spared (s t : Moment) : Prop where
  /-- Others write nothing into the log of the attempt. -/
  log : t.log = s.log
  /-- No scope is closed. -/
  opened : s.world.scopes.nodes.size ≤ t.world.scopes.nodes.size
  /-- What the scopes of the attempt lead to stays. -/
  scopes : ∀ scope, s.Owns scope →
    t.world.scopes.get? .staging scope = s.world.scopes.get? .staging scope
  /-- What the lists of the attempt hold stays. -/
  stagings : ∀ staging, s.Keeps staging → t.world.stagings[staging]? = s.world.stagings[staging]?

variable {s t u : Moment}

/-- The attempt owns its scopes whatever others do. -/
theorem Spared.owns (h : Spared s t) {scope : ScopeId} (hscope : s.Owns scope) : t.Owns scope := by
  refine ⟨?_, Nat.lt_of_lt_of_le hscope.2 h.opened⟩
  rw [h.log]
  exact hscope.1

/-- The attempt keeps its lists whatever others do. -/
theorem Spared.keeps (h : Spared s t) {staging : StagingId} (hstaging : s.Keeps staging) :
    t.Keeps staging := by
  rw [Moment.Keeps, h.log]
  exact hstaging

theorem Spared.refl (s : Moment) : Spared s s :=
  ⟨rfl, Nat.le_refl _, fun _ _ => rfl, fun _ _ => rfl⟩

/-- Others may do one thing after another. -/
theorem Spared.trans (hst : Spared s t) (htu : Spared t u) : Spared s u where
  log := htu.log.trans hst.log
  opened := Nat.le_trans hst.opened htu.opened
  scopes scope hscope := (htu.scopes scope (hst.owns hscope)).trans (hst.scopes scope hscope)
  stagings staging hstaging :=
    (htu.stagings staging (hst.keeps hstaging)).trans (hst.stagings staging hstaging)

/-- Under which conditions an attempt runs. -/
def terms : Contract Moment := ⟨Serves, Spared, fun _ _ => True⟩

/-- With an answered request is staged what it says. -/
theorem staged_of_served {effect : Effect} {answer : effect.Answer}
    (hserved : terms.among s effect answer u) :
    staged u.log = staged s.log ++ stagedBy ⟨effect, answer⟩ := by
  obtain ⟨t, hspared, hserved⟩ := hserved
  have hlog : t.log = s.log := hspared.log
  rw [← hlog]
  cases hserved with
  | slept => exact (List.append_nil _).symm
  | performed => exact t.staged_after effect

variable {α β : Type} {post : Except Panic α → Moment → Prop}

/-- A request of an attempt is answered in a world that others have left alone. -/
theorem assured_ask {effect : Effect} {f : effect.Answer → Act α}
    (hawake : ∀ millis, effect ≠ .sleep millis)
    (h : ∀ t, Spared s t → Assured terms post (f (t.world.perform effect).1) (t.after effect)) :
    Assured terms post ((Act.ask effect).bind f) s := by
  intro t hspared answer u hserved
  refine ⟨trivial, ?_⟩
  cases hserved with
  | slept => exact absurd rfl (hawake _)
  | performed => exact h t hspared

/-! ### Requests and the list -/

/-- A request that has nothing to do with the list of staged operations and sends nothing. -/
def IsAside : Effect → Prop
  | .dispatch _ | .stage .. | .takeStaged _ | .openStaging => False
  | .writeSlot _ slot _ => slot ≠ .staging
  | _ => True

/-- No request closes a scope. -/
theorem size_perform (world : World) (effect : Effect) :
    world.scopes.nodes.size ≤ (world.perform effect).2.scopes.nodes.size := by
  cases effect
  case openScope parent =>
    change _ ≤ (world.scopes.nodes.push _).size
    rw [Array.size_push]
    exact Nat.le_succ _
  case writeSlot scope slot value =>
    change _ ≤ (world.scopes.nodes.modify _ _).size
    exact Nat.le_of_eq Array.size_modify.symm
  case dispatch batch =>
    rw [World.perform, World.dispatch]
    split <;> exact Nat.le_refl _
  all_goals exact Nat.le_refl _

/-- A request that has nothing to do with the list leaves what is seen of it. -/
theorem get?_perform {world : World} {effect : Effect} (heffect : IsAside effect) {scope : ScopeId}
    (hscope : scope < world.scopes.nodes.size) :
    (world.perform effect).2.scopes.get? .staging scope = world.scopes.get? .staging scope := by
  cases effect
  case openScope parent => exact ScopeForest.get?_openUnder _ _ _ hscope
  case writeSlot id slot value => exact ScopeForest.get?_set_of_ne _ _ _ (Ne.symm heffect) _
  case dispatch batch => exact heffect.elim
  all_goals rfl

/-- A request that has nothing to do with the list leaves all of them. -/
theorem stagings_perform {world : World} {effect : Effect} (heffect : IsAside effect) :
    (world.perform effect).2.stagings = world.stagings := by
  cases effect
  case dispatch batch => exact heffect.elim
  case stage staging operations => exact heffect.elim
  case takeStaged staging => exact heffect.elim
  case openStaging => exact heffect.elim
  all_goals rfl

/-- A request that has nothing to do with the list stages nothing. -/
theorem stagedBy_aside {effect : Effect} (heffect : IsAside effect) (answer : effect.Answer) :
    stagedBy ⟨effect, answer⟩ = [] := by
  cases effect
  case stage staging operations => exact heffect.elim
  all_goals rfl

/-- A request that has nothing to do with the list sends nothing. -/
theorem sentBy_aside {effect : Effect} (heffect : IsAside effect) (answer : effect.Answer) :
    sentBy ⟨effect, answer⟩ = none := by
  cases effect
  case dispatch batch => exact heffect.elim
  all_goals rfl

/-- The attempt owns its scopes after any request. -/
theorem Moment.Owns.after {scope : ScopeId} (h : s.Owns scope) (effect : Effect) :
    (s.after effect).Owns scope := by
  refine ⟨?_, Nat.lt_of_lt_of_le h.2 (size_perform _ _)⟩
  rw [Moment.after, List.filterMap_append]
  exact List.mem_append_left _ h.1

/-- The attempt owns a scope that it has just opened. -/
theorem Moment.owns_openScope (s : Moment) (parent : Option ScopeId) :
    (s.after (.openScope parent)).Owns (s.world.perform (.openScope parent)).1 := by
  refine ⟨?_, ?_⟩
  · rw [Moment.after, List.filterMap_append]
    exact List.mem_append_right _ List.mem_cons_self
  · change s.world.scopes.nodes.size < (s.world.scopes.nodes.push _).size
    rw [Array.size_push]
    exact Nat.lt_succ_self _

/-- Between two moments nothing was staged or sent. -/
structure Quiet (s t : Moment) : Prop where
  /-- Nothing was staged. -/
  staged : staged t.log = staged s.log
  /-- Nothing was sent. -/
  sent : sent t.log = sent s.log

theorem Quiet.refl (s : Moment) : Quiet s s := ⟨rfl, rfl⟩

theorem Quiet.trans (hst : Quiet s t) (htu : Quiet t u) : Quiet s u :=
  ⟨htu.staged.trans hst.staged, htu.sent.trans hst.sent⟩

/-- What others do is not staged or sent by the attempt. -/
theorem Spared.quiet (h : Spared s t) : Quiet s t := ⟨congrArg _ h.log, congrArg _ h.log⟩

/-- With a request that has nothing to do with the list nothing is staged or sent. -/
theorem quiet_after (s : Moment) {effect : Effect} (heffect : IsAside effect) :
    Quiet s (s.after effect) where
  staged := by rw [Moment.staged_after, stagedBy_aside heffect, List.append_nil]
  sent := by rw [Moment.sent_after, sentBy_aside heffect, Option.toList_none, List.append_nil]

/-- A request that has nothing to do with the list goes before what is promised. -/
theorem assured_aside (effect : Effect) {f : effect.Answer → Act α} (heffect : IsAside effect)
    (h : ∀ answer t, Quiet s t → Assured terms post (f answer) t) :
    Assured terms post ((Act.ask effect).bind f) s := by
  intro t hspared answer u hserved
  refine ⟨trivial, h answer u (hspared.quiet.trans ?_)⟩
  cases hserved with
  | slept => exact Quiet.refl t
  | performed => exact quiet_after t heffect

/-! ### The list -/

/-- The list of staged operations holds what was staged. -/
structure Gathers (staging : StagingId) (s : Moment) : Prop where
  /-- The attempt has opened the list. -/
  kept : s.Keeps staging
  /-- The list holds everything that was staged. -/
  holds : s.world.stagings[staging]? = some (staged s.log)
  /-- Nothing that was staged is to be dispatched apart from the rest. -/
  together : ∀ operation ∈ staged s.log, operation.isolated = false

/-- The list of staged operations holds what was staged, and nothing was sent. -/
structure Pending (staging : StagingId) (s : Moment) : Prop where
  /-- The attempt has opened the list. -/
  kept : s.Keeps staging
  /-- The list holds everything that was staged. -/
  holds : s.world.stagings[staging]? = some (staged s.log)
  /-- Nothing that was staged is to be dispatched apart from the rest. -/
  together : ∀ operation ∈ staged s.log, operation.isolated = false
  /-- The transport took no batch. -/
  unsent : sent s.log = []

/-- A scope of the attempt leads to its list of staged operations. -/
structure Sees (staging : StagingId) (scope : ScopeId) (s : Moment) : Prop where
  /-- The scope is one of the attempt. -/
  owned : s.Owns scope
  /-- The list is found from it. -/
  found : s.world.scopes.get? .staging scope = some staging

/-- The list still holds what was staged, and the scopes that led to it still do. -/
structure Onward (staging : StagingId) (s t : Moment) : Prop where
  /-- The list holds what was staged. -/
  pending : Pending staging t
  /-- The scopes still lead to it. -/
  sees : ∀ scope, Sees staging scope s → Sees staging scope t

variable {staging : StagingId} {scope parent : ScopeId}

/-- Whatever others do, the list holds what was staged. -/
theorem Spared.gathers (h : Spared s t) (hs : Gathers staging s) : Gathers staging t := by
  refine ⟨h.keeps hs.kept, ?_, ?_⟩
  · rw [h.stagings staging hs.kept, h.log]
    exact hs.holds
  · rw [h.log]
    exact hs.together

/-- Whatever others do, the scopes of the attempt lead to the list. -/
theorem Spared.sees (h : Spared s t) (hscope : Sees staging scope s) : Sees staging scope t :=
  ⟨h.owns hscope.owned, (h.scopes scope hscope.owned).trans hscope.found⟩

/-- After a request that has nothing to do with the list it holds what was staged. -/
theorem Gathers.aside (hs : Gathers staging s) {effect : Effect} (heffect : IsAside effect) :
    Gathers staging (s.after effect) := by
  have hquiet := quiet_after s heffect
  refine ⟨hs.kept.after effect, ?_, ?_⟩
  · rw [hquiet.staged, Moment.after, stagings_perform heffect]
    exact hs.holds
  · rw [hquiet.staged]
    exact hs.together

/-- After such a request the scopes of the attempt lead to the list. -/
theorem Sees.aside (hscope : Sees staging scope s) {effect : Effect} (heffect : IsAside effect) :
    Sees staging scope (s.after effect) :=
  -- the scope was opened before, so the request is about another one or another slot
  ⟨hscope.owned.after effect, (get?_perform heffect hscope.owned.2).trans hscope.found⟩

/-- Staged operations are in the list. -/
theorem Gathers.stage (hs : Gathers staging s) (operations : List Operation)
    (htogether : ∀ operation ∈ operations, operation.isolated = false) :
    Gathers staging (s.after (.stage staging operations)) := by
  have hstaged : staged (s.after (.stage staging operations)).log = staged s.log ++ operations :=
    s.staged_after _
  refine ⟨hs.kept.after _, ?_, ?_⟩
  · change (s.world.stagings.modify staging (· ++ operations))[staging]? = _
    rw [hstaged, Array.getElem?_modify, if_pos rfl, hs.holds]
    rfl
  · rw [hstaged]
    exact List.forall_mem_append.2 ⟨hs.together, htogether⟩

/-- What is `Pending` gathers, and as nothing was sent yet the other way round. -/
theorem Pending.gathers (hs : Pending staging s) : Gathers staging s :=
  ⟨hs.kept, hs.holds, hs.together⟩

theorem Gathers.pending (hs : Gathers staging s) (hunsent : sent s.log = []) : Pending staging s :=
  ⟨hs.kept, hs.holds, hs.together, hunsent⟩

theorem Onward.refl (h : Pending staging s) : Onward staging s s := ⟨h, fun _ => id⟩

theorem Onward.trans (hst : Onward staging s t) (htu : Onward staging t u) : Onward staging s u :=
  ⟨htu.pending, fun scope hscope => htu.sees scope (hst.sees scope hscope)⟩

/-- Whatever others do, the list holds what was staged. -/
theorem Spared.onward (h : Spared s t) (hs : Pending staging s) : Onward staging s t where
  pending := (h.gathers hs.gathers).pending (h.quiet.sent.trans hs.unsent)
  sees _ := h.sees

/-- After a request that has nothing to do with the list it holds what was staged. -/
theorem Pending.aside (hs : Pending staging s) (effect : Effect) (heffect : IsAside effect) :
    Onward staging s (s.after effect) where
  pending := (hs.gathers.aside heffect).pending ((quiet_after s heffect).sent.trans hs.unsent)
  sees _ hscope := hscope.aside heffect

/-- A scope below one that leads to the list leads to it as well. -/
theorem Sees.openScope (h : Sees staging parent s) :
    Sees staging (s.world.perform (.openScope (some parent))).1
      (s.after (.openScope (some parent))) where
  owned := s.owns_openScope (some parent)
  found := (ScopeForest.get?_openUnder_self _ _ h.owned.2).trans h.found

/-- Staged operations are in the list. -/
theorem Pending.stage (hs : Pending staging s) (operations : List Operation)
    (htogether : ∀ operation ∈ operations, operation.isolated = false) :
    Onward staging s (s.after (.stage staging operations)) where
  pending := (hs.gathers.stage operations htogether).pending
    ((s.sent_after _).trans ((List.append_nil _).trans hs.unsent))
  sees _ hscope := ⟨hscope.owned.after _, hscope.found⟩

/-! ### Programs that stage -/

/-- From a moment on a program sends nothing and stages what it sends into the list, and when it
finishes its result is as said. -/
def Stages (staging : StagingId) (ends : α → Prop) (program : Act α) (s : Moment) : Prop :=
  Assured terms
    (fun result t => (∀ value, result = .ok value → ends value) ∧ Onward staging s t) program s

namespace Stages

variable {ends : α → Prop}

/-- A finished program sends nothing. -/
theorem done {value : α} (hs : Pending staging s) (hends : ends value) :
    Stages staging ends (.done value) s := by
  refine ⟨fun other hother => ?_, Onward.refl hs⟩
  cases hother
  exact hends

/-- A panic ends a program before it can say anything of its result. -/
theorem panic (payload : Panic) (hs : Pending staging s) :
    Stages staging ends (.panic payload) s := ⟨nofun, Onward.refl hs⟩

theorem imp {ends' : α → Prop} {program : Act α} (h : Stages staging ends program s)
    (hends : ∀ value, ends value → ends' value) : Stages staging ends' program s :=
  Assured.imp h fun _ _ hpost => ⟨fun value hvalue => hends value (hpost.1 value hvalue), hpost.2⟩

/-- One program after another. -/
theorem bind {middle : β → Prop} {program : Act β} {f : β → Act α}
    (h : Stages staging middle program s)
    (hf : ∀ value t, middle value → Onward staging s t → Stages staging ends (f value) t) :
    Stages staging ends (program.bind f) s := by
  -- after a panic the second program does not begin
  refine Assured.bind (Assured.imp h fun result t hpost => ?_)
  cases result with
  | error payload => exact ⟨nofun, hpost.2⟩
  | ok value =>
    refine Assured.imp (hf value t (hpost.1 value rfl) hpost.2) fun result u hlater => ?_
    exact ⟨hlater.1, hpost.2.trans hlater.2⟩

/-- A program finishes with one of its results. -/
theorem yields {program : Act α} (h : Stages staging ends program s) :
    Stages staging program.Yields program s :=
  (Assured.yields h).imp fun _ _ hpost => ⟨hpost.2, hpost.1.2⟩

/-- What is staged is staged whether the program panics or not. -/
theorem attempt {program : Act α} (h : Stages staging (fun _ => True) program s) :
    Stages staging (fun _ => True) program.attempt s :=
  Assured.attempt (Assured.imp h fun _ _ hpost => ⟨fun _ _ => trivial, hpost.2⟩)

/-- A request that leads onward. -/
theorem ask {effect : Effect} {f : effect.Answer → Act α} (hs : Pending staging s)
    (hawake : ∀ millis, effect ≠ .sleep millis)
    (h : ∀ t, Onward staging s t → Onward staging t (t.after effect) ∧
      Stages staging ends (f (t.world.perform effect).1) (t.after effect)) :
    Stages staging ends ((Act.ask effect).bind f) s :=
  assured_ask hawake fun t hspared => by
    have hst := hspared.onward hs
    obtain ⟨htu, hnext⟩ := h t hst
    exact Assured.imp hnext fun result v hpost => ⟨hpost.1, (hst.trans htu).trans hpost.2⟩

/-- A request that has nothing to do with the list. -/
theorem aside {effect : Effect} (heffect : IsAside effect) (hs : Pending staging s) :
    Stages staging (fun _ => True) (Act.ask effect) s := by
  intro t hspared answer u hserved
  refine ⟨trivial, fun _ _ => trivial, ?_⟩
  have hst := hspared.onward hs
  cases hserved with
  | slept => exact hst
  | performed => exact hst.trans (hst.pending.aside effect heffect)

/-- A scope below one that leads to the list. -/
theorem childScope {f : ScopeId → Act α} (hs : Pending staging s) (hparent : Sees staging parent s)
    (h : ∀ scope t, Onward staging s t → Sees staging scope t → Stages staging ends (f scope) t) :
    Stages staging ends ((Act.childScope parent).bind f) s :=
  ask hs nofun fun _ hst =>
    have htu := hst.pending.aside (.openScope (some parent)) trivial
    ⟨htu, h _ _ (hst.trans htu) (hst.sees parent hparent).openScope⟩

end Stages

end Messaging.Redelivery
