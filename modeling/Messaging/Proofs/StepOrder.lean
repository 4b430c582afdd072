import Mathlib.Data.List.Lex
import Messaging.Proofs.Circles
import Messaging.Proofs.Wishes

/-!
# The order of steps

Steps that ask for no circle run in the order in which the earliest registered step that may run
comes next.

- `Honours` says that an order gives the steps what they want, and `OnCircle` that a step wants to
  run before itself.
- `Counted` is what the loop that takes the steps keeps to, and `arrange_least` says that no order
  that gives the steps what they want comes before the one that it finds.
- `resolve_least` and `resolve_errors_exact` say what the order is, and when there is none.
-/

namespace Messaging.Pipeline

variable {placements : List Placement} {links : List Link} {n node : Nat}
  {taken waiting ready order nodes : List Nat}

/-! ### Taking a position early -/

theorem Follows.mono {taken' : List Nat} (h : Follows links taken order) (htaken : taken ⊆ taken') :
    Follows links taken' order := by
  induction order generalizing taken taken' with
  | nil => trivial
  | cons head rest ih =>
    obtain ⟨hhead, hrest⟩ := h
    exact ⟨fun first hlink => htaken (hhead first hlink),
      ih hrest (List.cons_subset_cons head htaken)⟩

/-- A position that waits for none may be taken before all others. -/
theorem Follows.erase (h : Follows links taken order)
    (hnode : ∀ first, (first, node) ∈ links → first ∈ taken) :
    Follows links (node :: taken) (order.erase node) := by
  induction order generalizing taken with
  | nil => trivial
  | cons head rest ih =>
    obtain ⟨hhead, hrest⟩ := h
    by_cases hsame : head = node
    · subst hsame
      rw [List.erase_cons_head]
      exact hrest
    · rw [List.erase_cons_tail (by simpa using hsame)]
      refine ⟨fun first hlink => List.mem_cons_of_mem _ (hhead first hlink), ?_⟩
      refine (ih hrest fun first hlink => List.mem_cons_of_mem _ (hnode first hlink)).mono ?_
      exact (List.Perm.swap head node taken).subset

/-! ### Counting what positions wait for -/

theorem getD_set {value other : Nat} (hnode : node < waiting.length) :
    (waiting.set node value).getD other 0
      = if other = node then value else waiting.getD other 0 := by
  rw [List.getD_eq_getElem?_getD, List.getElem?_set, List.getD_eq_getElem?_getD]
  by_cases hsame : other = node
  · simp [hsame, hnode]
  · simp [hsame, Ne.symm hsame]

/-- Different positions wait for one less, and are ready if they waited for one. -/
theorem release_spec (hnodes : nodes.Nodup) (hbounded : ∀ node ∈ nodes, node < waiting.length)
    (hready : ready.Nodup) (hnew : ∀ node ∈ nodes, node ∉ ready) :
    (release nodes waiting ready).1.length = waiting.length ∧
      (∀ node, (release nodes waiting ready).1.getD node 0
        = if node ∈ nodes then waiting.getD node 0 - 1 else waiting.getD node 0) ∧
      (release nodes waiting ready).2.Nodup ∧
      ∀ node, node ∈ (release nodes waiting ready).2 ↔
        node ∈ ready ∨ node ∈ nodes ∧ waiting.getD node 0 ≤ 1 := by
  induction nodes generalizing waiting ready with
  | nil => simp [release, hready]
  | cons head rest ih =>
    obtain ⟨hhead, hrest⟩ := List.nodup_cons.1 hnodes
    obtain ⟨hlt, hbounded⟩ := List.forall_mem_cons.1 hbounded
    obtain ⟨hfresh, hnew⟩ := List.forall_mem_cons.1 hnew
    rw [release]
    set left := waiting.getD head 0 - 1 with hleft
    set ready' := if left = 0 then head :: ready else ready with hready'
    -- the head is ready if this was the last step that it waited for
    have hmem (node : Nat) : node ∈ ready' ↔ node ∈ ready ∨ node = head ∧ left = 0 := by
      rw [hready']
      split
      · next hzero => simp [hzero, or_comm]
      · next hzero => simp [hzero]
    have hdistinct : ready'.Nodup := by
      rw [hready']
      split
      · exact List.nodup_cons.2 ⟨hfresh, hready⟩
      · exact hready
    have hbounded' : ∀ node ∈ rest, node < (waiting.set head left).length := by
      simpa using hbounded
    obtain ⟨hlength, hcounts, hnodup, hmembers⟩ := ih hrest hbounded' hdistinct
      (fun node hnode => by
        rw [hmem, not_or]
        exact ⟨hnew node hnode, fun hsame => hhead (hsame.1 ▸ hnode)⟩)
    refine ⟨by rw [hlength, List.length_set], fun node => ?_, hnodup, fun node => ?_⟩
    · -- each node is counted down once, as they are distinct
      rw [hcounts, getD_set hlt]
      by_cases hsame : node = head
      · simp [hsame, hhead, hleft]
      · simp [hsame]
    · rw [hmembers, hmem, getD_set hlt]
      by_cases hsame : node = head
      · subst hsame
        simp only [hhead, hleft, if_true, true_and, false_and, or_false, List.mem_cons,
          Nat.sub_eq_zero_iff_le]
      · simp [hsame]

theorem nodup_successors (h : links.Nodup) : (successors links node).Nodup := by
  refine ((List.nodup_reverse.2 h).filter _).map_on fun link hlink other hother hsame => ?_
  have hfirst : link.1 = node := by simpa using (List.mem_filter.1 hlink).2
  have hfirst' : other.1 = node := by simpa using (List.mem_filter.1 hother).2
  exact Prod.ext (hfirst.trans hfirst'.symm) hsame

theorem nodup_predecessors (h : links.Nodup) : (predecessors links node).Nodup := by
  refine ((List.nodup_reverse.2 h).filter _).map_on fun link hlink other hother hsame => ?_
  have hlater : link.2 = node := by simpa using (List.mem_filter.1 hlink).2
  have hlater' : other.2 = node := by simpa using (List.mem_filter.1 hother).2
  exact Prod.ext hsame (hlater.trans hlater'.symm)

/-- What the loop that takes positions keeps to. -/
structure Counted (links : List Link) (n : Nat) (taken waiting ready : List Nat) : Prop where
  /-- Each position has a count. -/
  length : waiting.length = n
  /-- It is that of the positions it waits for. -/
  counts : ∀ node < n, waiting.getD node 0
    = ((predecessors links node).filter fun first => !taken.contains first).length
  /-- No position is ready twice. -/
  nodup : ready.Nodup
  /-- Those are ready that wait for none. -/
  ready : ∀ node, node ∈ ready ↔ node < n ∧ node ∉ taken ∧ waiting.getD node 0 = 0
  /-- What was taken waits for none. -/
  closed : ∀ first later, (first, later) ∈ links → later ∈ taken → first ∈ taken

namespace Counted

/-- A position with a count of zero comes after those that have links to it. -/
theorem waits_none (h : Counted links n taken waiting ready) (hnode : node < n) :
    waiting.getD node 0 = 0 ↔ ∀ first, (first, node) ∈ links → first ∈ taken := by
  rw [h.counts node hnode, List.length_eq_zero_iff, List.filter_eq_nil_iff]
  simp

/-- At first no position was taken. -/
theorem start (links : List Link) (n : Nat) :
    Counted links n [] (waits n links)
      ((List.range n).filter fun node => (waits n links).getD node 0 = 0) where
  length := by simp [waits]
  counts node hnode := by simp [waits, hnode]
  nodup := List.nodup_range.filter _
  ready node := by simp
  closed := nofun

/-- A ready position is taken. -/
theorem take (h : Counted links n taken waiting ready) (hdistinct : links.Nodup)
    (hlinks : ∀ link ∈ links, link.1 < n ∧ link.2 < n) (hnode : node ∈ ready) :
    Counted links n (node :: taken)
      (release (successors links node) waiting (ready.erase node)).1
      (release (successors links node) waiting (ready.erase node)).2 := by
  obtain ⟨hlt, hfresh, hzero⟩ := (h.ready node).1 hnode
  have hfirsts := (h.waits_none hlt).1 hzero
  -- a position that waits for the new one is not ready
  have hpositive (later : Nat) (hlink : (node, later) ∈ links) : 0 < waiting.getD later 0 := by
    rw [h.counts later (hlinks _ hlink).2]
    exact List.length_pos_of_mem
      (List.mem_filter.2 ⟨mem_predecessors.2 hlink, by simpa using hfresh⟩)
  have hbounded (later : Nat) (hlater : later ∈ successors links node) : later < waiting.length :=
    h.length ▸ (hlinks _ (mem_successors.1 hlater)).2
  have hwaits (later : Nat) (hlater : later ∈ successors links node) :
      later ∉ ready.erase node := fun hready => by
    have hcount := hpositive later (mem_successors.1 hlater)
    have hnone := ((h.ready later).1 (List.mem_of_mem_erase hready)).2.2
    omega
  obtain ⟨hlength, hcounts, hnodup, hmem⟩ :=
    release_spec (nodup_successors hdistinct) hbounded (h.nodup.erase node) hwaits
  refine
    { length := hlength.trans h.length
      counts := fun later hlater => ?_
      nodup := hnodup
      ready := fun later => ?_
      closed := fun first later hlink hlater => ?_ }
  · have hone : ((predecessors links later).filter fun first => first = node).length
        = if node ∈ predecessors links later then 1 else 0 :=
      List.count_eq_length_filter.symm.trans (nodup_predecessors hdistinct).count
    rw [hcounts, h.counts later hlater, ← length_unseen_cons (fun first => first) _ hfresh, hone]
    simp only [mem_successors, mem_predecessors]
    split <;> rfl
  · rw [hmem, hcounts, h.nodup.mem_erase_iff, h.ready later]
    by_cases hlater : later ∈ successors links node
    · have hlink := mem_successors.1 hlater
      have hcount := hpositive later hlink
      have htaken : later ∉ node :: taken := fun htaken => by
        rcases List.mem_cons.1 htaken with rfl | htaken
        · exact hfresh (hfirsts _ hlink)
        · exact hfresh (h.closed node later hlink htaken)
      simp only [hlater, htaken, (hlinks _ hlink).2, if_true, true_and, not_false_iff,
        Nat.sub_eq_zero_iff_le]
      omega
    · simp only [hlater, if_false, false_and, or_false, List.mem_cons, not_or]
      tauto
  · rcases List.mem_cons.1 hlater with rfl | hlater
    · exact List.mem_cons_of_mem _ (hfirsts first hlink)
    · exact List.mem_cons_of_mem _ (h.closed first later hlink hlater)

end Counted

/-! ### The earliest order -/

/-- An order is another one, or has the lesser position where the two differ first. -/
def NoLater (order other : List Nat) : Prop :=
  order = other ∨ List.Lex (· < ·) order other

theorem NoLater.cons {other : List Nat} (h : NoLater order other) :
    NoLater (node :: order) (node :: other) :=
  h.imp (congrArg (node :: ·)) .cons

/-- No order of the positions that are left, in which each comes after those that have links to it,
comes before the one in which the earliest ready position is taken first. -/
theorem arrange_least (h : Counted links n taken waiting ready) (hdistinct : links.Nodup)
    (hlinks : ∀ link ∈ links, link.1 < n ∧ link.2 < n) (horder : order.Nodup)
    (hleft : ∀ node, node ∈ order ↔ node < n ∧ node ∉ taken)
    (hfollows : Follows links taken order) :
    (arrange links order.length waiting ready).Perm order ∧
      Follows links taken (arrange links order.length waiting ready) ∧
      NoLater (arrange links order.length waiting ready) order := by
  generalize hlength : order.length = fuel
  induction fuel generalizing taken waiting ready order with
  | zero =>
    obtain rfl := List.length_eq_zero_iff.1 hlength
    exact ⟨.nil, trivial, .inl rfl⟩
  | succ fuel ih =>
    obtain ⟨head, rest, rfl⟩ := List.exists_cons_of_length_eq_add_one hlength
    -- the first of the order is ready, so one is, and the earliest of those is no later
    have hhead : head ∈ ready := by
      obtain ⟨hlt, hfresh⟩ := (hleft head).1 List.mem_cons_self
      exact (h.ready head).2 ⟨hlt, hfresh, (h.waits_none hlt).2 hfollows.1⟩
    obtain ⟨first, hfirst⟩ := Option.isSome_iff_exists.1 (List.isSome_min?_of_mem hhead)
    obtain ⟨hready, hleast⟩ := List.min?_eq_some_iff.1 hfirst
    obtain ⟨hlt, hfresh, hzero⟩ := (h.ready first).1 hready
    have hmem : first ∈ head :: rest := (hleft first).2 ⟨hlt, hfresh⟩
    have hleft' (node : Nat) :
        node ∈ (head :: rest).erase first ↔ node < n ∧ node ∉ first :: taken := by
      rw [horder.mem_erase_iff, hleft, List.mem_cons, not_or]
      tauto
    obtain ⟨hperm, hrest, hearliest⟩ := ih (h.take hdistinct hlinks hready) (horder.erase first)
      hleft' (hfollows.erase ((h.waits_none hlt).1 hzero))
      (by rw [List.length_erase_of_mem hmem, hlength, Nat.add_sub_cancel])
    simp only [arrange, hfirst]
    refine ⟨(hperm.cons first).trans (List.perm_cons_erase hmem).symm,
      ⟨(h.waits_none hlt).1 hzero, hrest⟩, ?_⟩
    rcases Nat.lt_or_eq_of_le (hleast head hhead) with hearlier | rfl
    · exact .inr (.rel hearlier)
    · rw [List.erase_cons_head] at hearliest
      exact hearliest.cons

/-- The order of positions is the least one in which each comes after those that have links to
it. -/
theorem inOrder_least (hdistinct : links.Nodup) (hlinks : ∀ link ∈ links, link.1 < n ∧ link.2 < n)
    (hperm : order.Perm (List.range n)) (hfollows : Follows links [] order) :
    (inOrder n links).Perm (List.range n) ∧ Follows links [] (inOrder n links) ∧
      NoLater (inOrder n links) order := by
  have hlength : order.length = n := by rw [hperm.length_eq, List.length_range]
  obtain ⟨harranged, hfollows', hearliest⟩ := arrange_least (Counted.start links n) hdistinct hlinks
    (hperm.nodup_iff.2 List.nodup_range) (by simp [hperm.mem_iff]) hfollows
  rw [hlength] at harranged hfollows' hearliest
  exact ⟨harranged.trans hperm, hfollows', hearliest⟩

/-- An increasing list is the least one of its elements. -/
theorem noLater_of_pairwise {sorted : List Nat} (hsorted : sorted.Pairwise (· < ·))
    (hperm : order.Perm sorted) : NoLater sorted order := by
  induction sorted generalizing order with
  | nil => exact .inl hperm.eq_nil.symm
  | cons least rest ih =>
    obtain ⟨hleast, hrest⟩ := List.pairwise_cons.1 hsorted
    cases order with
    | nil => exact absurd hperm.symm.eq_nil (List.cons_ne_nil _ _)
    | cons first others =>
      rcases List.mem_cons.1 (hperm.subset List.mem_cons_self) with rfl | hfirst
      · exact (ih hrest hperm.cons_inv).cons
      · exact .inr (.rel (hleast first hfirst))

theorem NoLater.antisymm {other : List Nat} (h : NoLater order other)
    (hother : NoLater other order) : order = other := by
  rcases h with h | h
  · exact h
  · rcases hother with hother | hother
    · exact hother.symm
    · exact absurd hother (asymm h)

/-! ### The order of steps -/

/-- An order gives the steps what they want. -/
def Honours (placements : List Placement) (order : List Nat) : Prop :=
  ∀ first later, Wants placements first later → order.idxOf first < order.idxOf later

/-- Only the steps themselves want anything. -/
theorem honours_iff_forall_lt :
    Honours placements order ↔
      ∀ first < placements.length, ∀ later < placements.length,
        Wants placements first later → order.idxOf first < order.idxOf later :=
  ⟨fun h first _ later _ => h first later,
    fun h first later hwants => h first hwants.lt_length.1 later hwants.lt_length.2 hwants⟩

instance (placements : List Placement) (order : List Nat) : Decidable (Honours placements order) :=
  decidable_of_iff _ honours_iff_forall_lt.symm

/-- A step wants to run before itself, at once or by way of others. -/
def OnCircle (placements : List Placement) (position : Nat) : Prop :=
  Relation.TransGen (Wants placements) position position

/-- An order runs each step once, gives the steps what they want, and runs the step that was
registered first wherever this leaves a choice. -/
structure Earliest (placements : List Placement) (order : List Nat) : Prop where
  /-- It is an order of all steps. -/
  perm : order.Perm (List.range placements.length)
  /-- The steps get what they want. -/
  honours : Honours placements order
  /-- It is the least such order. -/
  least : ∀ other, other.Perm (List.range placements.length) → Honours placements other →
    NoLater order other

/-- The steps run as they were registered, if they want nothing else. -/
theorem Earliest.eq_range (h : Earliest placements order)
    (hrange : Honours placements (List.range placements.length)) :
    order = List.range placements.length :=
  (h.least _ (List.Perm.refl _) hrange).antisymm (noLater_of_pairwise List.pairwise_lt_range h.perm)

/-- An order that gives the steps what they want leaves no circle. -/
theorem Honours.not_onCircle {position : Nat} (h : Honours placements order) :
    ¬ OnCircle placements position := fun hcircle => by
  have hlt : Relation.TransGen (· < ·) (order.idxOf position) (order.idxOf position) :=
    hcircle.lift order.idxOf h
  rw [Relation.transGen_eq_self] at hlt
  exact Nat.lt_irrefl _ hlt

theorem honours_iff_follows {found : List Link} (hperm : order.Perm (List.range n))
    (hfound : ∀ first later, (first, later) ∈ found ↔ Wants placements first later)
    (hlinks : ∀ link ∈ found, link.1 < n ∧ link.2 < n) :
    Honours placements order ↔ Follows found [] order := by
  rw [follows_iff (hperm.nodup_iff.2 List.nodup_range)]
  refine forall₂_congr fun first later => ?_
  rw [← hfound]
  refine forall_congr' fun hlink => ?_
  have hlater : later ∈ order := hperm.mem_iff.2 (List.mem_range.2 (hlinks _ hlink).2)
  simp [hlater]

/-- What the order of a list of steps comes to. -/
inductive Resolution (placements : List Placement) : Except ConfigError (List Nat) → Prop where
  /-- A step refers to one that is not there. -/
  | unknown {step reference : String} (hfirst : firstUnknown? placements = some (step, reference)) :
      Resolution placements (.error (.unknownStep step reference))
  /-- A step wants to run before itself. -/
  | circle {position : Nat} {step : Placement} (hknown : firstUnknown? placements = none)
      (hstep : placements[position]? = some step) (hcircle : OnCircle placements position) :
      Resolution placements (.error (.cycle (cycleText step.id)))
  /-- There is an order. -/
  | ordered {order : List Nat} (hknown : firstUnknown? placements = none)
      (hearliest : Earliest placements order) : Resolution placements (.ok order)

/-- The order of steps with different ids. -/
theorem resolve_resolution (hnodup : (placements.map (·.id)).Nodup) :
    Resolution placements (resolve placements) := by
  rcases links_cases hnodup with ⟨step, reference, hfirst, hlinks⟩ |
    ⟨found, hknown, hlinks, hdistinct, hfound⟩
  · rw [resolve, hlinks]
    exact .unknown hfirst
  · have hbounded : ∀ link ∈ found, link.1 < placements.length ∧ link.2 < placements.length :=
      fun link hlink => ((hfound link.1 link.2).1 hlink).lt_length
    rw [resolve, hlinks]
    simp only [bind, Except.bind]
    -- a position on a circle is found, or the steps can be ordered
    cases hmember : cycleMember? placements.length found with
    | some position =>
      have hcircle := leads_of_cycleMember? hbounded hmember
      simp only [Leads, hfound] at hcircle
      obtain ⟨first, hwants, -⟩ := Relation.TransGen.head'_iff.1 hcircle
      obtain ⟨step, -, hstep, -⟩ := id hwants
      simp only [hstep, Option.map_some, Option.getD_some]
      exact .circle hknown hstep hcircle
    | none =>
      obtain ⟨order, hperm, hfollows⟩ := follows_of_cycleMember? hbounded hmember
      obtain ⟨hperm', hfollows', -⟩ := inOrder_least hdistinct hbounded hperm hfollows
      refine .ordered hknown
        { perm := hperm'
          honours := (honours_iff_follows hperm' hfound hbounded).2 hfollows'
          least := fun other hother hhonours => ?_ }
      exact (inOrder_least hdistinct hbounded hother
        ((honours_iff_follows hother hfound hbounded).1 hhonours)).2.2

namespace Resolution

variable {result : Except ConfigError (List Nat)}

/-- The first reference to a step that is not there is what is refused. -/
theorem unknownStep_iff {step reference : String} (h : Resolution placements result) :
    result = .error (.unknownStep step reference) ↔
      firstUnknown? placements = some (step, reference) := by
  cases h with
  | unknown hfirst => simp [hfirst]
  | circle hknown => simp [hknown]
  | ordered hknown => simp [hknown]

/-- A circle is refused, unless there is a reference to a step that is not there. -/
theorem cycle_iff (h : Resolution placements result) :
    (∃ text, result = .error (.cycle text)) ↔
      firstUnknown? placements = none ∧ ∃ position, OnCircle placements position := by
  cases h with
  | unknown hfirst => simp [hfirst]
  | circle hknown hstep hcircle => simpa [hknown] using ⟨_, hcircle⟩
  | ordered _ hearliest => simp [hearliest.honours.not_onCircle]

/-- The step that is named wants to run before itself. -/
theorem of_cycle {text : String} (h : Resolution placements (.error (.cycle text))) :
    ∃ position step, placements[position]? = some step ∧ OnCircle placements position ∧
      text = cycleText step.id := by
  cases h with
  | circle _ hstep hcircle => exact ⟨_, _, hstep, hcircle, rfl⟩

/-- Steps that ask for no other order run as they were registered. -/
theorem eq_range (h : Resolution placements result) (hknown : firstUnknown? placements = none)
    (hrange : Honours placements (List.range placements.length)) :
    result = .ok (List.range placements.length) := by
  cases h with
  | unknown hfirst => cases hknown.symm.trans hfirst
  | circle _ _ hcircle => exact absurd hcircle hrange.not_onCircle
  | ordered _ hearliest => rw [hearliest.eq_range hrange]

end Resolution

/-- Steps that refer to steps that are there, and of which none is to run before itself, have an
order: the least one that gives them what they want. -/
theorem resolve_earliest (hnodup : (placements.map (·.id)).Nodup)
    (hknown : ∀ step ∈ placements, ∀ reference ∈ step.before ++ step.after,
      Known placements reference)
    (hfree : ∀ position, ¬ OnCircle placements position) :
    ∃ order, resolve placements = .ok order ∧ Earliest placements order ∧
      (Honours placements (List.range placements.length) →
        order = List.range placements.length) := by
  have hresolution := resolve_resolution hnodup
  generalize resolve placements = result at hresolution
  cases hresolution with
  | unknown hfirst => cases (firstUnknown?_eq_none.2 hknown).symm.trans hfirst
  | circle _ _ hcircle => exact absurd hcircle (hfree _)
  | ordered _ hearliest => exact ⟨_, rfl, hearliest, hearliest.eq_range⟩

/-- The steps of a test of the order: the first is to run after all others. -/
def lateFirst : List Placement :=
  [⟨"a", [], ["c"]⟩, ⟨"b", ["d"], []⟩, ⟨"c", [], ["b", "d"]⟩, ⟨"d", [], []⟩]

theorem lateFirst_earliest :
    resolve lateFirst = .ok [1, 3, 2, 0] ∧ Earliest lateFirst [1, 3, 2, 0] := by
  have hhonours : Honours lateFirst [1, 3, 2, 0] := by decide
  have hnodup : (lateFirst.map (·.id)).Nodup := by decide
  obtain ⟨order, horder, hearliest, -⟩ := resolve_earliest hnodup (by decide) fun _ =>
    hhonours.not_onCircle
  have hresolve : resolve lateFirst = .ok [1, 3, 2, 0] := by decide
  cases horder.symm.trans hresolve
  exact ⟨hresolve, hearliest⟩

/-- Why there is no order of steps. A reference to a step that is not there is refused, the first
one by the registration of the steps, whatever circles there are; otherwise a circle is, and the
step that is named lies on one. -/
theorem resolve_errors_exact (hnodup : (placements.map (·.id)).Nodup) :
    ((∃ step reference, resolve placements = .error (.unknownStep step reference)) ↔
        ∃ step ∈ placements, ∃ reference ∈ step.before ++ step.after,
          ¬ Known placements reference) ∧
      (∀ step reference, resolve placements = .error (.unknownStep step reference) →
        firstUnknown? placements = some (step, reference)) ∧
      ((∃ text, resolve placements = .error (.cycle text)) ↔
        (∀ step ∈ placements, ∀ reference ∈ step.before ++ step.after,
          Known placements reference) ∧ ∃ position, OnCircle placements position) ∧
      (∀ text, resolve placements = .error (.cycle text) →
        ∃ position step, placements[position]? = some step ∧ OnCircle placements position ∧
          text = cycleText step.id) ∧
      ∀ error, resolve placements = .error error →
        (∃ step reference, error = .unknownStep step reference) ∨ ∃ text, error = .cycle text := by
  have hresolution := resolve_resolution hnodup
  refine ⟨?_, fun step reference => hresolution.unknownStep_iff.1, ?_, fun text htext => ?_,
    fun error herror => ?_⟩
  · simp only [hresolution.unknownStep_iff]
    rw [← Prod.exists (p := fun pair => firstUnknown? placements = some pair),
      ← Option.ne_none_iff_exists', ne_eq, firstUnknown?_eq_none]
    simp only [not_forall, exists_prop]
  · rw [hresolution.cycle_iff, firstUnknown?_eq_none]
  · rw [htext] at hresolution
    exact hresolution.of_cycle
  · -- an order is no error
    rw [herror] at hresolution
    cases hresolution with
    | unknown => exact .inl ⟨_, _, rfl⟩
    | circle => exact .inr ⟨_, rfl⟩

/-- The second and the third step are each to run before the other. -/
def ring : List Placement :=
  [⟨"a", [], []⟩, ⟨"b", ["c"], ["a"]⟩, ⟨"c", ["b"], []⟩]

theorem ring_refused :
    (ring.map (·.id)).Nodup ∧
      (∀ step reference, resolve ring ≠ .error (.unknownStep step reference)) ∧
      ∃ text position step, resolve ring = .error (.cycle text) ∧ ring[position]? = some step ∧
        OnCircle ring position ∧ text = cycleText step.id := by
  have hnodup : (ring.map (·.id)).Nodup := by decide
  have hresolve : resolve ring = .error (.cycle (cycleText "c")) := by decide
  obtain ⟨hunknown, -, -, hcycle, -⟩ := resolve_errors_exact hnodup
  refine ⟨hnodup, fun step reference hrefused => ?_, ?_⟩
  · have hstray := hunknown.1 ⟨step, reference, hrefused⟩
    exact absurd hstray (by decide)
  · obtain ⟨position, step, hstep, hcircle, htext⟩ := hcycle _ hresolve
    exact ⟨_, position, step, hresolve, hstep, hcircle, htext⟩

end Messaging.Pipeline
