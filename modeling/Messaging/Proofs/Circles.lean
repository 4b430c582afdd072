import Mathlib.Data.List.Perm.Basic
import Mathlib.Logic.Relation
import Messaging.Pipeline.Order

/-!
# Circles of links

Links between positions are searched depth first, forwards and then backwards. The first search
lists the positions as it finishes them, the second one follows the links back in the reverse order
of that.

- `Leads` says that links lead from one position to another, and `Follows` that every position of a
  list comes after those that have links to it.
- `Explored` is what the first search keeps to, whatever it has on its stack, and `Settled` what
  this means for the positions that it has finished.
- `leads_of_cycleMember?` says that a position that the search names lies on a circle, and
  `follows_of_cycleMember?` that there is an order that follows all links if it names none.
-/

namespace Messaging.Pipeline

/-- Links lead from one position to another. -/
def Leads (links : List Link) : Nat → Nat → Prop :=
  Relation.TransGen fun first later => (first, later) ∈ links

/-- Every position of a list comes after those that have links to it, of which some were taken
before. -/
def Follows (links : List Link) : List Nat → List Nat → Prop
  | _, [] => True
  | taken, node :: rest =>
    (∀ first, (first, node) ∈ links → first ∈ taken) ∧ Follows links (node :: taken) rest

variable {links : List Link} {n : Nat} {node first later : Nat}
  {taken order stack seen finished nodes : List Nat}

/-- A link leads from its start to its end. -/
theorem leads_of_mem (h : (first, later) ∈ links) : Leads links first later := .single h

/-- `successors` and `predecessors` list the two ends of the links of a node. -/
@[simp]
theorem mem_successors : later ∈ successors links node ↔ (node, later) ∈ links := by
  simp [successors]

@[simp]
theorem mem_predecessors : first ∈ predecessors links node ↔ (first, node) ∈ links := by
  simp [predecessors]

/-! ### Orders -/

/-- In such a list without repetitions the first position of a link comes before the second. -/
theorem follows_iff (hnodup : order.Nodup) :
    Follows links taken order ↔
      ∀ first later, (first, later) ∈ links → later ∈ order →
        first ∈ taken ∨ order.idxOf first < order.idxOf later := by
  induction order generalizing taken with
  | nil => simp [Follows]
  | cons node rest ih =>
    obtain ⟨hnode, hrest⟩ := List.nodup_cons.1 hnodup
    rw [Follows, ih hrest]
    constructor
    · rintro ⟨hhead, htail⟩ first later hlink hlater
      by_cases hsame : later = node
      · exact .inl (hhead first (hsame ▸ hlink))
      · have hmem := (List.mem_cons.1 hlater).resolve_left hsame
        rw [List.idxOf_cons_ne _ (Ne.symm hsame)]
        -- the earlier end is the head, or both ends are in the rest
        by_cases hfirst : first = node
        · right
          simp [hfirst]
        · rw [List.idxOf_cons_ne _ (Ne.symm hfirst)]
          rcases htail first later hlink hmem with htaken | hlt
          · exact .inl ((List.mem_cons.1 htaken).resolve_left hfirst)
          · exact .inr (Nat.succ_lt_succ hlt)
    · intro h
      refine ⟨fun first hlink => ?_, fun first later hlink hlater => ?_⟩
      · have hfirst := h first node hlink List.mem_cons_self
        simpa using hfirst
      · have hsame : node ≠ later := fun hsame => hnode (hsame ▸ hlater)
        have hlt := h first later hlink (List.mem_cons_of_mem _ hlater)
        rw [List.idxOf_cons_ne _ hsame] at hlt
        by_cases hfirst : first = node
        · simp [hfirst]
        · rw [List.idxOf_cons_ne _ (Ne.symm hfirst)] at hlt
          exact hlt.imp (List.mem_cons_of_mem _) Nat.lt_of_succ_lt_succ

/-! ### The stack -/

/-- Those that were not seen are put on top of the stack. -/
theorem pushUnseen_eq (seen stack nodes : List Nat) :
    pushUnseen seen stack nodes
      = (nodes.filter fun node => !seen.contains node).reverse ++ stack := by
  induction nodes generalizing stack with
  | nil => rfl
  | cons node rest ih =>
    rw [pushUnseen, ih, List.filter_cons]
    cases seen.contains node <;> simp

/-! ### The search forwards -/

/-- What a finished position has links to was finished before it, or leads back to it. -/
def Settled (links : List Link) : List Nat → Prop
  | [] => True
  | node :: earlier =>
    (∀ later, (node, later) ∈ links → later ∈ earlier ∨ Leads links later node) ∧
      Settled links earlier

/-- If a finished position links to a node that is not finished, that node leads back to it. -/
theorem Settled.of_mem (h : Settled links finished) (hnode : node ∉ finished)
    (hfirst : first ∈ finished) (hlink : (first, node) ∈ links) : Leads links node first := by
  induction finished with
  | nil => cases hfirst
  | cons head earlier ih =>
    obtain ⟨hhead, hearlier⟩ := h
    rw [List.mem_cons, not_or] at hnode
    rcases List.mem_cons.1 hfirst with rfl | hfirst
    · exact (hhead node hlink).resolve_left hnode.2
    · exact ih hearlier hnode.2 hfirst

/-- A position that was met and not finished yet is on the stack. It leads to all that is above it,
and there or among what was seen is all that it has links to. -/
def Open (links : List Link) (stack seen : List Nat) (node : Nat) : Prop :=
  ∃ above below, stack = above ++ node :: below ∧ node ∉ above ∧
    (∀ later ∈ above, Leads links node later) ∧
      ∀ later, (node, later) ∈ links → later ∈ seen ∨ later ∈ above

/-- What the search keeps to. -/
structure Explored (links : List Link) (n : Nat) (stack seen finished : List Nat) : Prop where
  /-- There are `n` positions. -/
  bounded : ∀ node, node ∈ stack ∨ node ∈ seen → node < n
  /-- What was finished was seen. -/
  subset : finished ⊆ seen
  /-- Nothing is finished twice. -/
  nodup : finished.Nodup
  /-- Nothing that was seen is linked to itself. -/
  loopless : ∀ node ∈ seen, (node, node) ∉ links
  /-- What was finished is settled. -/
  settled : Settled links finished
  /-- What was not finished is open. -/
  opened : ∀ node ∈ seen, node ∉ finished → Open links stack seen node

namespace Explored

/-- A position that was finished already leaves the stack. -/
theorem pop (h : Explored links n (node :: stack) seen finished) (hnode : node ∈ finished) :
    Explored links n stack seen finished where
  bounded other hother := h.bounded other (hother.imp_left (List.mem_cons_of_mem _))
  subset := h.subset
  nodup := h.nodup
  loopless := h.loopless
  settled := h.settled
  opened other hseen hfinished := by
    obtain ⟨above, below, hstack, hnew, hleads, hlinks⟩ := h.opened other hseen hfinished
    cases above with
    | nil =>
      obtain ⟨rfl, -⟩ := List.cons.inj hstack
      exact absurd hnode hfinished
    | cons head above =>
      obtain ⟨rfl, rfl⟩ := List.cons.inj hstack
      refine ⟨above, below, rfl, fun hmem => hnew (List.mem_cons_of_mem _ hmem),
        fun later hlater => hleads later (List.mem_cons_of_mem _ hlater), fun later hlink => ?_⟩
      -- what has left the stack was seen
      rcases hlinks later hlink with hlater | hlater
      · exact .inl hlater
      · rcases List.mem_cons.1 hlater with rfl | hlater
        · exact .inl (h.subset hnode)
        · exact .inr hlater

/-- A position that is met a second time is finished, and with it all that it has links to, unless
this leads back to it. -/
theorem finish (h : Explored links n (node :: stack) seen finished) (hseen : node ∈ seen)
    (hnode : node ∉ finished) : Explored links n stack seen (node :: finished) := by
  have hsettled (later : Nat) (hlink : (node, later) ∈ links) :
      later ∈ finished ∨ Leads links later node := by
    obtain ⟨above, below, hstack, hnew, -, hlinks⟩ := h.opened node hseen hnode
    have habove : above = [] := by
      cases above with
      | nil => rfl
      | cons head above =>
        obtain ⟨rfl, -⟩ := List.cons.inj hstack
        exact absurd List.mem_cons_self hnew
    have hlater : later ∈ seen := (hlinks later hlink).resolve_right (by simp [habove])
    by_cases hfinished : later ∈ finished
    · exact .inl hfinished
    · -- it is open, so the position is above it on the stack
      obtain ⟨above, below, hstack, -, hleads, -⟩ := h.opened later hlater hfinished
      cases above with
      | nil =>
        obtain ⟨rfl, -⟩ := List.cons.inj hstack
        exact absurd hlink (h.loopless node hseen)
      | cons head above =>
        obtain ⟨rfl, -⟩ := List.cons.inj hstack
        exact .inr (hleads node List.mem_cons_self)
  have hfinished : Explored links n (node :: stack) seen (node :: finished) :=
    { bounded := h.bounded
      subset := List.cons_subset.2 ⟨hseen, h.subset⟩
      nodup := List.nodup_cons.2 ⟨hnode, h.nodup⟩
      loopless := h.loopless
      settled := ⟨hsettled, h.settled⟩
      opened := fun other hother hnew =>
        h.opened other hother fun hmem => hnew (List.mem_cons_of_mem _ hmem) }
  exact hfinished.pop List.mem_cons_self

/-- A position that is met for the first time stays on the stack, and on top of it come those that
it has links to. -/
theorem discover (h : Explored links n (node :: stack) seen finished)
    (hlinks : ∀ link ∈ links, link.2 < n) (hseen : node ∉ seen) (hloop : (node, node) ∉ links) :
    Explored links n (pushUnseen (node :: seen) (node :: stack) (successors links node))
      (node :: seen) finished := by
  -- what is pushed are the successors that were not seen
  rw [pushUnseen_eq]
  generalize hpushed : ((successors links node).filter
    fun later => !(node :: seen).contains later).reverse = pushed
  have hmem (later : Nat) :
      later ∈ pushed ↔ (node, later) ∈ links ∧ later ∉ node :: seen := by
    simp only [← hpushed, List.mem_reverse, List.mem_filter, mem_successors, Bool.not_eq_true',
      List.contains_eq_mem, decide_eq_false_iff_not]
  refine
    { bounded := fun other hother => ?_
      subset := fun other hother => List.mem_cons_of_mem _ (h.subset hother)
      nodup := h.nodup
      loopless := List.forall_mem_cons.2 ⟨hloop, h.loopless⟩
      settled := h.settled
      opened := fun other hother hfinished => ?_ }
  · rw [List.mem_append, List.mem_cons] at hother
    rcases hother with (hother | rfl | hother) | hother
    · exact hlinks _ ((hmem other).1 hother).1
    · exact h.bounded _ (.inl List.mem_cons_self)
    · exact h.bounded other (.inl (List.mem_cons_of_mem _ hother))
    · rcases List.mem_cons.1 hother with rfl | hother
      · exact h.bounded _ (.inl List.mem_cons_self)
      · exact h.bounded other (.inr hother)
  · rcases List.mem_cons.1 hother with rfl | hother
    · -- the new node is open: above it stand exactly its unseen successors
      refine ⟨pushed, stack, rfl, fun hpush => ((hmem _).1 hpush).2 List.mem_cons_self,
        fun later hlater => leads_of_mem ((hmem later).1 hlater).1, fun later hlink => ?_⟩
      by_cases hlater : later ∈ other :: seen
      · exact .inl hlater
      · exact .inr ((hmem later).2 ⟨hlink, hlater⟩)
    · -- an older open node has more above it, all of which it leads to by way of the new one
      obtain ⟨above, below, hstack, hnew, hleads, hcovered⟩ := h.opened other hother hfinished
      cases above with
      | nil =>
        obtain ⟨rfl, -⟩ := List.cons.inj hstack
        exact absurd hother hseen
      | cons head above =>
        obtain ⟨rfl, rfl⟩ := List.cons.inj hstack
        refine ⟨pushed ++ node :: above, below, by simp, fun hpush => ?_, fun later hlater => ?_,
          fun later hlink => ?_⟩
        · rcases List.mem_append.1 hpush with hpush | hpush
          · exact ((hmem other).1 hpush).2 (List.mem_cons_of_mem _ hother)
          · exact hnew hpush
        · rcases List.mem_append.1 hlater with hlater | hlater
          · exact (hleads node List.mem_cons_self).tail ((hmem later).1 hlater).1
          · exact hleads later hlater
        · exact (hcovered later hlink).imp (List.mem_cons_of_mem _)
            (List.mem_append_right _)

/-- Where nothing is on the stack all that was seen is finished. -/
theorem mem_finished (h : Explored links n [] seen finished) (hnode : node ∈ seen) :
    node ∈ finished := by
  by_contra hfinished
  obtain ⟨above, below, hstack, -⟩ := h.opened node hnode hfinished
  simp at hstack

/-- A search starts from a position. -/
theorem start (h : Explored links n [] seen finished) (hnode : node < n) :
    Explored links n [node] seen finished where
  bounded other hother := by
    rcases hother with hother | hother
    · exact List.mem_singleton.1 hother ▸ hnode
    · exact h.bounded other (.inr hother)
  subset := h.subset
  nodup := h.nodup
  loopless := h.loopless
  settled := h.settled
  opened _ hother hfinished := absurd (h.mem_finished hother) hfinished

end Explored

/-! ### How long the search takes -/

/-- How often the search may still go on: once for each entry of the stack, for each position that
was not seen, and for each of its links, which may bring an entry more. -/
def effort (links : List Link) (n : Nat) (stack seen : List Nat) : Nat :=
  stack.length + ((List.range n).filter fun node => !seen.contains node).length +
    (links.filter fun link => !seen.contains link.1).length

/-- Of some items those at a position are no longer among the unseen ones once it was met. -/
theorem length_unseen_cons {α : Type} (place : α → Nat) (items : List α) (hseen : node ∉ seen) :
    (items.filter fun item => !(node :: seen).contains (place item)).length +
        (items.filter fun item => place item = node).length
      = (items.filter fun item => !seen.contains (place item)).length := by
  rw [List.length_eq_length_filter_add (fun item => place item = node)
    (l := items.filter fun item => !seen.contains (place item)), List.filter_filter,
    List.filter_filter, Nat.add_comm]
  congr 2 <;> refine List.filter_congr fun item _ => ?_
  · by_cases hplace : place item = node <;> simp [hplace, hseen]
  · by_cases hplace : place item = node <;> simp [hplace]

/-- A position that is met for the first time brings no more entries than it has links. -/
theorem effort_discover (hnode : node < n) (hseen : node ∉ seen) :
    effort links n (pushUnseen (node :: seen) (node :: stack) (successors links node))
      (node :: seen) < effort links n (node :: stack) seen := by
  have hpushed : (pushUnseen (node :: seen) (node :: stack) (successors links node)).length
      ≤ (successors links node).length + (stack.length + 1) := by
    rw [pushUnseen_eq, List.length_append, List.length_reverse, List.length_cons]
    exact Nat.add_le_add_right (List.length_filter_le _ _) _
  have hsuccessors : (successors links node).length
      = (links.filter fun link => link.1 = node).length := by
    rw [successors, List.length_map, List.filter_reverse, List.length_reverse]
  -- the links of the node count no more, and as many nodes at most were pushed
  have hlinks : (links.filter fun link => !(node :: seen).contains link.1).length +
        (links.filter fun link => link.1 = node).length
      = (links.filter fun link => !seen.contains link.1).length :=
    length_unseen_cons _ links hseen
  have hnodes : ((List.range n).filter fun other => !(node :: seen).contains other).length +
        ((List.range n).filter fun other => other = node).length
      = ((List.range n).filter fun other => !seen.contains other).length :=
    length_unseen_cons _ (List.range n) hseen
  have hcounted : 0 < ((List.range n).filter fun other => other = node).length :=
    List.length_pos_of_mem (List.mem_filter.2 ⟨List.mem_range.2 hnode, by simp⟩)
  rw [effort, effort, List.length_cons]
  omega

/-- What a search comes to that is to see some positions. -/
inductive Searched (links : List Link) (n : Nat) (wanted : List Nat) :
    Except Nat (List Nat × List Nat) → Prop where
  /-- A position is linked to itself. -/
  | loop {member : Nat} (hloop : (member, member) ∈ links) :
      Searched links n wanted (.error member)
  /-- The positions were seen, and nothing is left on the stack. -/
  | ended {seen finished : List Nat} (hexplored : Explored links n [] seen finished)
      (hwanted : wanted ⊆ seen) : Searched links n wanted (.ok (seen, finished))

/-- What was found for some nodes is found for fewer. -/
theorem Searched.mono {wanted wanted' : List Nat} {result : Except Nat (List Nat × List Nat)}
    (h : Searched links n wanted result) (hwanted : wanted' ⊆ wanted) :
    Searched links n wanted' result := by
  cases h with
  | loop hloop => exact .loop hloop
  | ended hexplored hsubset => exact .ended hexplored (List.Subset.trans hwanted hsubset)

/-- The search sees all that is on its stack. -/
theorem explore_searched {fuel : Nat} (hlinks : ∀ link ∈ links, link.2 < n)
    (h : Explored links n stack seen finished) (hfuel : effort links n stack seen ≤ fuel) :
    Searched links n (stack ++ seen) (explore links fuel stack seen finished) := by
  induction fuel generalizing stack seen finished with
  | zero =>
    have hstack : stack = [] := List.length_eq_zero_iff.1 (by rw [effort] at hfuel; omega)
    subst hstack
    exact .ended h (List.Subset.refl _)
  | succ fuel ih =>
    cases stack with
    | nil => exact .ended h (List.Subset.refl _)
    | cons node stack =>
      rw [explore]
      simp only [List.contains_eq_mem, decide_eq_true_eq, mem_successors]
      split
      · -- the position is met again, and leaves the stack
        next hseen =>
        have hpop : Explored links n stack seen
            (if node ∈ finished then finished else node :: finished) := by
          split
          · next hfinished => exact h.pop hfinished
          · next hfinished => exact h.finish hseen hfinished
        refine (ih hpop ?_).mono (List.cons_subset.2 ⟨List.mem_append_right _ hseen,
          List.Subset.refl _⟩)
        rw [effort, List.length_cons] at hfuel
        rw [effort]
        omega
      · next hseen =>
        split
        · next hloop => exact .loop hloop
        · next hloop =>
          have hnode : node < n := h.bounded node (.inl List.mem_cons_self)
          refine (ih (h.discover hlinks hseen hloop) ?_).mono ?_
          · exact Nat.le_of_lt_succ (Nat.lt_of_lt_of_le (effort_discover hnode hseen) hfuel)
          · rw [pushUnseen_eq, List.append_assoc]
            have hunseen : seen ⊆ (node :: stack) ++ node :: seen :=
              List.Subset.trans (List.subset_cons_self _ _) (List.subset_append_right _ _)
            exact List.Subset.trans
              (List.append_subset.2 ⟨List.subset_append_left _ _, hunseen⟩)
              (List.subset_append_right _ _)

/-- The search from each of some positions sees them all. -/
theorem exploreAll_searched {fuel : Nat} {roots : List Nat}
    (hlinks : ∀ link ∈ links, link.2 < n) (hroots : ∀ root ∈ roots, root < n)
    (h : Explored links n [] seen finished) (hfuel : 1 + n + links.length ≤ fuel) :
    ∃ result, Searched links n (roots ++ seen) result ∧
      exploreAll links fuel roots seen finished = result.map (·.2) := by
  induction roots generalizing seen finished with
  | nil => exact ⟨_, .ended h (List.Subset.refl _), rfl⟩
  | cons root rest ih =>
    obtain ⟨hroot, hrest⟩ := List.forall_mem_cons.1 hroots
    rw [exploreAll]
    split
    · next hseen =>
      obtain ⟨result, hsearched, hresult⟩ := ih hrest h
      refine ⟨result, hsearched.mono (List.cons_subset.2 ⟨?_, List.Subset.refl _⟩), hresult⟩
      exact List.mem_append_right _ (by simpa using hseen)
    · -- a root that is new is searched with fuel for everything
      have heffort : effort links n [root] seen ≤ fuel := by
        have hnodes := List.length_filter_le (fun node => !seen.contains node) (List.range n)
        have hcount := List.length_filter_le (fun link => !seen.contains link.1) links
        rw [List.length_range] at hnodes
        rw [effort, List.length_singleton]
        omega
      have hfirst := explore_searched hlinks (h.start hroot) heffort
      generalize explore links fuel [root] seen finished = first at hfirst ⊢
      cases hfirst with
      | loop hloop => exact ⟨_, .loop hloop, rfl⟩
      | ended hexplored hwanted =>
        obtain ⟨result, hsearched, hresult⟩ := ih hrest hexplored
        obtain ⟨hroot, hseen⟩ := List.cons_subset.1 hwanted
        refine ⟨result, hsearched.mono (List.cons_subset.2 ⟨List.mem_append_right _ hroot, ?_⟩),
          hresult⟩
        exact List.append_subset.2 ⟨List.subset_append_left _ _,
          List.Subset.trans hseen (List.subset_append_right _ _)⟩

/-! ### The search backwards -/

/-- A position that the search backwards names lies on a circle. -/
theorem leads_of_traceBack {member : Nat} (hsettled : Settled links finished)
    (hnodup : finished.Nodup) (hnew : ∀ node ∈ finished, node ∉ seen)
    (hall : ∀ first later, (first, later) ∈ links → first ∈ seen ∨ first ∈ finished)
    (h : traceBack links finished seen = some member) : Leads links member member := by
  induction finished generalizing seen with
  | nil => cases h
  | cons node rest ih =>
    obtain ⟨hnode, hrest⟩ := List.nodup_cons.1 hnodup
    rw [traceBack, if_neg (by simpa using hnew node List.mem_cons_self)] at h
    split at h
    · next first others hunseen =>
      cases h
      have hfirst : member ∈ pushUnseen (node :: seen) [] (predecessors links node) :=
        hunseen ▸ List.mem_cons_self
      simp only [pushUnseen_eq, List.append_nil, List.mem_reverse, List.mem_filter,
        mem_predecessors, Bool.not_eq_true', List.contains_eq_mem, decide_eq_false_iff_not,
        List.mem_cons, not_or] at hfirst
      obtain ⟨hlink, hother, hfresh⟩ := hfirst
      -- it was finished before the position that it has a link to, which therefore leads to it
      have hmember : member ∈ rest := by
        simpa [hother] using (hall member node hlink).resolve_left hfresh
      exact (hsettled.2.of_mem hnode hmember hlink).head hlink
    · refine ih hsettled.2 hrest (fun other hother => ?_) (fun first later hlink => ?_) h
      · rw [List.mem_cons, not_or]
        exact ⟨fun hsame => hnode (hsame ▸ hother), hnew other (List.mem_cons_of_mem _ hother)⟩
      · rcases hall first later hlink with hfirst | hfirst
        · exact .inl (List.mem_cons_of_mem _ hfirst)
        · rcases List.mem_cons.1 hfirst with rfl | hfirst
          · exact .inl List.mem_cons_self
          · exact .inr hfirst

/-- If the search backwards names no position, the last finished comes first. -/
theorem follows_of_traceBack (hnodup : finished.Nodup) (hnew : ∀ node ∈ finished, node ∉ seen)
    (hloopless : ∀ node ∈ finished, (node, node) ∉ links)
    (h : traceBack links finished seen = none) : Follows links seen finished := by
  induction finished generalizing seen with
  | nil => trivial
  | cons node rest ih =>
    obtain ⟨hnode, hrest⟩ := List.nodup_cons.1 hnodup
    obtain ⟨hloop, hloops⟩ := List.forall_mem_cons.1 hloopless
    rw [traceBack, if_neg (by simpa using hnew node List.mem_cons_self)] at h
    split at h
    · cases h
    · next hnone =>
      refine ⟨fun first hlink => ?_, ih hrest (fun other hother => ?_) hloops h⟩
      · -- a predecessor that is not taken yet would have been found by the search back
        by_contra hfresh
        have hfirst : first ∈ pushUnseen (node :: seen) [] (predecessors links node) := by
          have hother : first ≠ node := fun hsame => hloop (hsame ▸ hlink)
          simp [pushUnseen_eq, hlink, hother, hfresh]
        rw [hnone] at hfirst
        cases hfirst
      · rw [List.mem_cons, not_or]
        exact ⟨fun hsame => hnode (hsame ▸ hother), hnew other (List.mem_cons_of_mem _ hother)⟩

/-! ### Both searches -/

/-- What the search forwards comes to: a position that is linked to itself, or a list of all
positions. -/
theorem exploreAll_cases (hlinks : ∀ link ∈ links, link.1 < n ∧ link.2 < n) :
    (∃ member, (member, member) ∈ links ∧ cycleMember? n links = some member) ∨
      ∃ finished, finished.Perm (List.range n) ∧ Settled links finished ∧
        (∀ node ∈ finished, (node, node) ∉ links) ∧
        cycleMember? n links = traceBack links finished [] := by
  have hnothing : Explored links n [] [] [] :=
    ⟨by simp, List.Subset.refl _, .nil, nofun, trivial, nofun⟩
  obtain ⟨result, hsearched, hresult⟩ := exploreAll_searched
    (fun link hlink => (hlinks link hlink).2)
    (fun root hroot => List.mem_range.1 hroot) hnothing
    (show 1 + n + links.length ≤ 2 * (n + links.length) + 2 by omega)
  rw [cycleMember?, hresult]
  cases hsearched with
  | loop hloop => exact .inl ⟨_, hloop, rfl⟩
  | @ended seen finished hexplored hwanted =>
    rw [List.append_nil] at hwanted
    refine .inr ⟨finished, ?_, hexplored.settled,
      fun node hnode => hexplored.loopless node (hexplored.subset hnode), rfl⟩
    -- every node is finished once, as all of them were roots
    refine (List.perm_ext_iff_of_nodup hexplored.nodup List.nodup_range).2 fun node => ?_
    constructor
    · intro hnode
      exact List.mem_range.2 (hexplored.bounded node (.inr (hexplored.subset hnode)))
    · intro hnode
      exact hexplored.mem_finished (hwanted hnode)

/-- A position that is named lies on a circle. -/
theorem leads_of_cycleMember? {member : Nat} (hlinks : ∀ link ∈ links, link.1 < n ∧ link.2 < n)
    (h : cycleMember? n links = some member) : Leads links member member := by
  rcases exploreAll_cases hlinks with ⟨other, hloop, hother⟩ |
    ⟨finished, hperm, hsettled, -, htrace⟩
  · obtain rfl : other = member := Option.some.inj (hother.symm.trans h)
    exact leads_of_mem hloop
  · refine leads_of_traceBack hsettled (hperm.nodup_iff.2 List.nodup_range)
      (fun _ _ => List.not_mem_nil)
      (fun first later hlink => .inr (hperm.mem_iff.2 (List.mem_range.2 (hlinks _ hlink).1)))
      (htrace.symm.trans h)

/-- If no position is named there is an order in which every position comes after those that have
links to it. -/
theorem follows_of_cycleMember? (hlinks : ∀ link ∈ links, link.1 < n ∧ link.2 < n)
    (h : cycleMember? n links = none) :
    ∃ order, order.Perm (List.range n) ∧ Follows links [] order := by
  rcases exploreAll_cases hlinks with ⟨other, -, hother⟩ | ⟨finished, hperm, -, hloopless, htrace⟩
  · cases hother.symm.trans h
  · exact ⟨finished, hperm, follows_of_traceBack (hperm.nodup_iff.2 List.nodup_range)
      (fun _ _ => List.not_mem_nil) hloopless (htrace.symm.trans h)⟩

end Messaging.Pipeline
