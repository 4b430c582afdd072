import Mathlib
import Messaging.Proofs.Spinning

/-!
# What a query of the storage finds

The storage in memory is an unordered map, and a query goes over it once.

- `StoreCall` is an addition or a removal, and `TimeoutStore.replay` the storage after some of them.
- `gather` goes over timeouts in any order and sorts each into one of three cases;
  `covers_visit` is the invariant of this pass. `nextChunk_eq_gather` says that the query of the
  storage is such a pass.
- `Answers` says what a query has to find, and `query_complete` that every pass over the stored
  timeouts finds it.
-/

namespace Messaging

open Time (Instant Span)

namespace TimeoutStore

/-! ### Storages -/

/-- A change of the storage. -/
inductive StoreCall where
  /-- A timeout is added, unless its key is taken. -/
  | add (timeout : Timeout)
  /-- The timeout under a key is removed, if there is one. -/
  | remove (id : String)

/-- The storage after a change. -/
def StoreCall.apply (store : TimeoutStore) : StoreCall → TimeoutStore
  | add timeout =>
    match store.add timeout with
    | .ok store' => store'
    | .error _ => store
  | remove id => (store.remove id).2

/-- The storage after some changes. -/
def replay (calls : List StoreCall) : TimeoutStore := calls.foldl StoreCall.apply {}

/-- Every timeout stands under its own key. -/
def Keyed (store : TimeoutStore) : Prop := ∀ id timeout, store.peek? id = some timeout →
  timeout.id = id

/-- A change leaves every timeout under its own key. -/
theorem keyed_apply {store : TimeoutStore} (h : store.Keyed) (call : StoreCall) :
    (call.apply store).Keyed := by
  intro id timeout hpeek
  -- a timeout is added under its own id, and a removal leaves the others
  cases call with
  | add added =>
    rw [StoreCall.apply] at hpeek
    split at hpeek
    · next store' hadd =>
      rw [(peek?_add hadd).2] at hpeek
      split at hpeek
      · next hid =>
        cases hpeek
        exact hid.symm
      · exact h id timeout hpeek
    · exact h id timeout hpeek
  | remove removed =>
    rw [StoreCall.apply, peek?_remove] at hpeek
    split at hpeek
    · cases hpeek
    · exact h id timeout hpeek

theorem keyed_replay (calls : List StoreCall) : (replay calls).Keyed := by
  induction calls using List.reverseRecOn with
  | nil => exact nofun
  | append_singleton calls call ih =>
    rw [replay, List.foldl_append]
    exact keyed_apply ih call

/-- No two stored timeouts have one id. -/
theorem nodup_ids {store : TimeoutStore} (h : store.Keyed) : (store.toList.map (·.id)).Nodup := by
  have hids : store.toList.map (·.id) = store.timeouts.toList.map (·.1) := by
    rw [toList, List.map_map]
    refine List.map_congr_left fun entry hentry => ?_
    exact h entry.1 entry.2 (Table.get?_eq_some_iff.2 hentry)
  rw [hids]
  exact List.pairwise_map.2 (store.timeouts.ordered.imp fun hlt => (String.ne_of_lt hlt))

/-! ### The earliest of some instants -/

/-- What is known as the earliest of some instants is the least of them, or there are none. -/
def LeastOf (ts : Set Instant) : Option Instant → Prop
  | some t => IsLeast ts t
  | none => ts = ∅

/-- The earliest of two instants, one of which may be missing. -/
def earlier (known : Option Instant) (t : Instant) : Instant :=
  match known with
  | some u => u.min t
  | none => t

theorem LeastOf.insert {ts : Set Instant} {known : Option Instant} (h : LeastOf ts known)
    (t : Instant) : LeastOf (insert t ts) (some (earlier known t)) := by
  cases known with
  | none =>
    rw [show ts = ∅ from h]
    simp [LeastOf, earlier]
  | some u =>
    rw [LeastOf, earlier, Instant.min_eq, min_comm]
    exact IsLeast.insert t h

theorem LeastOf.unique {ts : Set Instant} {known known' : Option Instant} (h : LeastOf ts known)
    (h' : LeastOf ts known') : known = known' := by
  cases known with
  | none =>
    cases known' with
    | none => rfl
    | some t => exact absurd h'.1 (by rw [show ts = ∅ from h]; exact id)
  | some t =>
    cases known' with
    | none => exact absurd h.1 (by rw [show ts = ∅ from h']; exact id)
    | some t' => rw [IsLeast.unique h h']

theorem leastOf_earliest? (ts : List Instant) : LeastOf {t | t ∈ ts} (earliest? ts) := by
  induction ts with
  | nil => simp [LeastOf, earliest?]
  | cons first rest ih =>
    have hinsert : {t | t ∈ first :: rest} = insert first {t | t ∈ rest} := by
      ext t
      simp
    have hstep : earliest? (first :: rest) = some (earlier (earliest? rest) first) := by
      rw [earliest?]
      split
      · next u hrest =>
        rw [hrest, earlier, Instant.min_eq, Instant.min_eq, min_comm]
      · next hrest => rw [hrest, earlier]
    rw [hinsert, hstep]
    exact ih.insert first

/-! ### One pass -/

/-- What a pass has gathered so far. -/
structure Gathered where
  /-- The timeouts that are due, in the order of the pass. -/
  due : List DueTimeout := []
  /-- The earliest due time that is still to come. -/
  next : Option Instant := none

/-- One timeout more: it is due, or still to come, or was due before. -/
def visit (start now : Instant) (gathered : Gathered) (timeout : Timeout) : Gathered :=
  if start < timeout.due ∧ timeout.due ≤ now then
    { gathered with due := gathered.due ++ [⟨timeout.id, timeout.due⟩] }
  else if now < timeout.due then
    { gathered with next := some (earlier gathered.next timeout.due) }
  else gathered

/-- The answer of a pass over timeouts. -/
def gather (start now : Instant) (timeouts : List Timeout) : Chunk :=
  let gathered := timeouts.foldl (visit start now) {}
  { due := sortDue gathered.due
    next := gathered.next.getD (now.later emptyQueryDelay) }

/-- The timeouts that are due in time, as a query lists them. -/
def dueAmong (start now : Instant) (timeouts : List Timeout) : List DueTimeout :=
  (timeouts.filter fun t => start < t.due && t.due ≤ now).map fun t => ⟨t.id, t.due⟩

/-- The due times that are still to come. -/
def dueAfter (now : Instant) (timeouts : List Timeout) : Set Instant :=
  {due | now < due ∧ ∃ timeout ∈ timeouts, timeout.due = due}

variable {start now : Instant} {seen timeouts : List Timeout} {gathered : Gathered}
  {timeout : Timeout}

theorem dueAmong_append_of_due (hstart : start < timeout.due) (hnow : timeout.due ≤ now) :
    dueAmong start now (seen ++ [timeout])
      = dueAmong start now seen ++ [⟨timeout.id, timeout.due⟩] := by
  simp [dueAmong, hstart, hnow]

theorem dueAmong_append_of_not_due (h : ¬ (start < timeout.due ∧ timeout.due ≤ now)) :
    dueAmong start now (seen ++ [timeout]) = dueAmong start now seen := by
  simpa [dueAmong] using h

/-- A timeout that is still to come adds its due time. -/
theorem dueAfter_append_of_lt (h : now < timeout.due) :
    dueAfter now (seen ++ [timeout]) = insert timeout.due (dueAfter now seen) := by
  ext due
  simp only [dueAfter, Set.mem_ofPred_eq, Set.mem_insert_iff, List.mem_append, List.mem_singleton]
  constructor
  · rintro ⟨hdue, other, hseen | rfl, rfl⟩
    · exact .inr ⟨hdue, other, hseen, rfl⟩
    · exact .inl rfl
  · rintro (rfl | ⟨hdue, other, hseen, rfl⟩)
    · exact ⟨h, timeout, .inr rfl, rfl⟩
    · exact ⟨hdue, other, .inl hseen, rfl⟩

theorem dueAfter_append_of_le (h : timeout.due ≤ now) :
    dueAfter now (seen ++ [timeout]) = dueAfter now seen := by
  ext due
  simp only [dueAfter, Set.mem_ofPred_eq, List.mem_append, List.mem_singleton]
  constructor
  · rintro ⟨hdue, other, hseen | rfl, rfl⟩
    · exact ⟨hdue, other, hseen, rfl⟩
    · exact absurd hdue h.not_gt
  · rintro ⟨hdue, other, hseen, rfl⟩
    exact ⟨hdue, other, .inl hseen, rfl⟩

/-- What is gathered accounts for the timeouts seen so far. -/
structure Covers (start now : Instant) (seen : List Timeout) (gathered : Gathered) : Prop where
  /-- Those that are due are listed. -/
  due : gathered.due = dueAmong start now seen
  /-- Of those that are still to come, the earliest due time is known. -/
  next : LeastOf (dueAfter now seen) gathered.next

/-- A timeout more is accounted for. -/
theorem covers_visit (h : Covers start now seen gathered) (timeout : Timeout) :
    Covers start now (seen ++ [timeout]) (visit start now gathered timeout) := by
  rw [visit]
  -- it is due, it is still to come, or its time was before the query
  split
  · next hdue =>
    refine ⟨?_, ?_⟩
    · rw [dueAmong_append_of_due hdue.1 hdue.2, ← h.due]
    · rw [dueAfter_append_of_le hdue.2]
      exact h.next
  · next hdue =>
    have hsame : dueAmong start now seen = dueAmong start now (seen ++ [timeout]) :=
      (dueAmong_append_of_not_due hdue).symm
    split
    · next hwaits =>
      refine ⟨h.due.trans hsame, ?_⟩
      rw [dueAfter_append_of_lt hwaits]
      exact h.next.insert timeout.due
    · next hpast =>
      refine ⟨h.due.trans hsame, ?_⟩
      rw [dueAfter_append_of_le (not_lt.1 hpast)]
      exact h.next

/-- So is every timeout of a pass. -/
theorem covers_foldl (start now : Instant) (timeouts : List Timeout) :
    Covers start now timeouts (timeouts.foldl (visit start now) {}) := by
  induction timeouts using List.reverseRecOn with
  | nil => exact ⟨rfl, by simp [LeastOf, dueAfter]⟩
  | append_singleton seen timeout ih =>
    rw [List.foldl_append]
    exact covers_visit ih timeout

/-- The query of the storage is a pass over the stored timeouts. -/
theorem nextChunk_eq_gather (store : TimeoutStore) (start now : Instant) :
    store.nextChunk start now = gather start now store.toList := by
  have hcovers := covers_foldl start now store.toList
  have hwaiting : dueAfter now store.toList
      = {t | t ∈ (store.toList.filter fun t => now < t.due).map (·.due)} := by
    ext due
    simp only [dueAfter, Set.mem_ofPred_eq, List.mem_map, List.mem_filter, decide_eq_true_eq]
    constructor
    · rintro ⟨hdue, timeout, hmem, rfl⟩
      exact ⟨timeout, ⟨hmem, hdue⟩, rfl⟩
    · rintro ⟨timeout, ⟨hmem, hdue⟩, rfl⟩
      exact ⟨hdue, timeout, hmem, rfl⟩
  have hnext := hcovers.next
  rw [hwaiting] at hnext
  -- both find the same due timeouts, and the least of the times to come is one only
  rw [nextChunk, gather, hcovers.due, hnext.unique (leastOf_earliest? _)]
  rfl

/-! ### What is found -/

/-- The due times of stored timeouts that are still to come. -/
def comingTimes (store : TimeoutStore) (now : Instant) : Set Instant :=
  {due | now < due ∧ ∃ id timeout, store.peek? id = some timeout ∧ timeout.due = due}

/-- What a query of the storage has to find. Two of the fields ask that the time a minute from `now`
is `Instant.Representable`. It is, unless the clock reads within the last minute that instants
cover; to add a minute to such a reading is a panic, where `nextChunk` has `Instant.last`, and the
query has no answer that could be right. -/
structure Answers (store : TimeoutStore) (start now : Instant) (chunk : Chunk) : Prop where
  /-- No timeout is listed twice. -/
  once : (chunk.due.map (·.id)).Nodup
  /-- The list holds what is stored and due after the start, but not after the reading of the
  clock. -/
  listed : ∀ entry, entry ∈ chunk.due ↔ start < entry.due ∧ entry.due ≤ now ∧
    ∃ timeout, store.peek? entry.id = some timeout ∧ timeout.due = entry.due
  /-- The list goes by the due times. -/
  ordered : chunk.due.Pairwise fun first second => first.due ≤ second.due
  /-- The next query is made when the first of the timeouts to come is due. -/
  next : (store.comingTimes now).Nonempty → IsLeast (store.comingTimes now) chunk.next
  /-- Where there are none, it is made a minute later, if there is such a time. -/
  idle : store.comingTimes now = ∅ → (now.plus (.ofSeconds 60)).Representable →
    chunk.next = now.plus (.ofSeconds 60)
  /-- It is made later than the query. -/
  ahead : (store.comingTimes now).Nonempty ∨ (now.plus (.ofSeconds 60)).Representable →
    now < chunk.next

theorem mem_dueAmong {entry : DueTimeout} :
    entry ∈ dueAmong start now timeouts ↔
      ∃ timeout ∈ timeouts, start < timeout.due ∧ timeout.due ≤ now ∧
        entry = ⟨timeout.id, timeout.due⟩ := by
  simp only [dueAmong, List.mem_map, List.mem_filter, Bool.and_eq_true, decide_eq_true_eq,
    eq_comm (a := entry), and_assoc]

/-- What is stored is listed once in any order of the map. -/
theorem nodup_dueAmong (h : (timeouts.map (·.id)).Nodup) :
    ((dueAmong start now timeouts).map (·.id)).Nodup := by
  have hids : (dueAmong start now timeouts).map (·.id)
      = (timeouts.filter fun t => start < t.due && t.due ≤ now).map (·.id) := by
    simp [dueAmong, Function.comp_def]
  rw [hids]
  exact h.sublist (List.filter_sublist.map _)

/-- A pass over the stored timeouts finds what a query has to find, in whatever order it goes. -/
theorem answers_gather {store : TimeoutStore} (hkeyed : store.Keyed)
    (horder : timeouts.Perm store.toList) (start now : Instant) :
    Answers store start now (gather start now timeouts) := by
  have hcovers := covers_foldl start now timeouts
  have hcoming : dueAfter now timeouts = store.comingTimes now := by
    ext due
    simp only [dueAfter, comingTimes, Set.mem_ofPred_eq, horder.mem_iff, mem_toList]
    refine and_congr_right fun _ => ⟨?_, ?_⟩
    · rintro ⟨timeout, ⟨id, hpeek⟩, hdue⟩
      exact ⟨id, timeout, hpeek, hdue⟩
    · rintro ⟨id, timeout, hpeek, hdue⟩
      exact ⟨timeout, ⟨id, hpeek⟩, hdue⟩
  have hnext := hcovers.next
  rw [hcoming] at hnext
  -- the next query is at the first time to come
  have hleast : (store.comingTimes now).Nonempty →
      IsLeast (store.comingTimes now) (gather start now timeouts).next := by
    intro hsome
    rw [gather]
    cases hgathered : (timeouts.foldl (visit start now) {}).next with
    | none =>
      rw [hgathered] at hnext
      exact absurd hnext hsome.ne_empty
    | some next =>
      rw [hgathered] at hnext
      exact hnext
  -- and without one a minute later
  have hidle : store.comingTimes now = ∅ → (now.plus (.ofSeconds 60)).Representable →
      (gather start now timeouts).next = now.plus (.ofSeconds 60) := by
    intro hnone hclock
    have hnothing : LeastOf ∅ none := rfl
    rw [hnone] at hnext
    rw [gather, hnext.unique hnothing]
    exact if_pos hclock
  refine ⟨?_, fun entry => ?_, Timeouts.Manager.pairwise_sortDue _, hleast, hidle, ?_⟩
  · have hnodup : ((dueAmong start now timeouts).map (·.id)).Nodup :=
      nodup_dueAmong ((horder.map (·.id)).nodup_iff.2 (nodup_ids hkeyed))
    rw [gather, hcovers.due]
    exact ((List.mergeSort_perm ..).map _).nodup_iff.2 hnodup
  · rw [gather, sortDue, List.mem_mergeSort, hcovers.due, mem_dueAmong]
    constructor
    · rintro ⟨timeout, hmem, hstart, hnow, rfl⟩
      obtain ⟨id, hpeek⟩ := mem_toList.1 (horder.mem_iff.1 hmem)
      exact ⟨hstart, hnow, timeout, by rw [hkeyed id timeout hpeek, hpeek], rfl⟩
    · rintro ⟨hstart, hnow, timeout, hpeek, hdue⟩
      refine ⟨timeout, horder.mem_iff.2 (mem_toList.2 ⟨_, hpeek⟩), hdue ▸ hstart, hdue ▸ hnow, ?_⟩
      rw [hkeyed _ timeout hpeek, hdue]
  · intro hclock
    rcases (store.comingTimes now).eq_empty_or_nonempty with hnone | hsome
    · have hminute : (now.plus (.ofSeconds 60)).Representable :=
        hclock.resolve_left (Set.not_nonempty_iff_eq_empty.2 hnone)
      rw [hidle hnone hminute]
      exact now.lt_plus (by decide)
    · exact (hleast hsome).1.1

/-- Whatever was added and removed before, `nextChunk` is one pass of `gather` over the stored
timeouts and finds what it has to find, as `Answers` says; so would a pass in any other order. -/
theorem query_complete (calls : List StoreCall) (start now : Instant) :
    (replay calls).nextChunk start now = gather start now (replay calls).toList ∧
    Answers (replay calls) start now ((replay calls).nextChunk start now) ∧
    ∀ order : List Timeout, order.Perm (replay calls).toList →
      Answers (replay calls) start now (gather start now order) := by
  have hkeyed := keyed_replay calls
  have hpass := nextChunk_eq_gather (replay calls) start now
  refine ⟨hpass, ?_, fun order horder => answers_gather hkeyed horder start now⟩
  rw [hpass]
  exact answers_gather hkeyed (.refl _) start now

/-- A message that waits for a second. -/
def remindAt (id : String) (second : Int) : Timeout := ⟨id, "sales", [], ⟨second, 0⟩, ∅, "sales"⟩

/-- Five additions, of which one is refused and one taken back. -/
def reminderCalls : List StoreCall := [
  .add (remindAt "late" 99), .add (remindAt "early" 95), .add (remindAt "next" 130),
  .add (remindAt "early" 150), .add (remindAt "dropped" 110), .remove "dropped"]

theorem query_complete_reminders :
    Answers (replay reminderCalls) ⟨90, 0⟩ ⟨100, 0⟩
        ⟨[⟨"early", ⟨95, 0⟩⟩, ⟨"late", ⟨99, 0⟩⟩], ⟨130, 0⟩⟩ ∧
      Answers (replay reminderCalls) ⟨95, 0⟩ ⟨130, 0⟩
        ⟨[⟨"late", ⟨99, 0⟩⟩, ⟨"next", ⟨130, 0⟩⟩], ⟨190, 0⟩⟩ := by
  -- the map may be read from its end
  have hreversed : (replay reminderCalls).toList.reverse.Perm (replay reminderCalls).toList :=
    List.reverse_perm _
  have hfirst : gather ⟨90, 0⟩ ⟨100, 0⟩ (replay reminderCalls).toList.reverse
      = ⟨[⟨"early", ⟨95, 0⟩⟩, ⟨"late", ⟨99, 0⟩⟩], ⟨130, 0⟩⟩ := by cbv
  have hsecond : gather ⟨95, 0⟩ ⟨130, 0⟩ (replay reminderCalls).toList.reverse
      = ⟨[⟨"late", ⟨99, 0⟩⟩, ⟨"next", ⟨130, 0⟩⟩], ⟨190, 0⟩⟩ := by cbv
  rw [← hfirst, ← hsecond]
  exact ⟨(query_complete reminderCalls ⟨90, 0⟩ ⟨100, 0⟩).2.2 _ hreversed,
    (query_complete reminderCalls ⟨95, 0⟩ ⟨130, 0⟩).2.2 _ hreversed⟩

end TimeoutStore

end Messaging
