import Messaging.Proofs.Filing

/-!
# What a spin of the poller leaves behind

A spin of the poller queries the storage and requests the dispatch of what it finds, while others
store messages and send them on.

- `Covered` is the invariant of a spin: every stored timeout was requested, is still to be requested
  by the spin, or is due after a bound behind which queries start. `Settled` is what is left of it
  in the end.
- `requestAll_assured` goes through the timeouts of a chunk, and `spin_assured` says that a spin
  keeps to its contract whatever the others do.
-/

namespace Messaging.Timeouts.Manager

open Time (Instant Span)

variable {s t u : Scene} {address : String}

/-! ### Stored timeouts that are due -/

/-- The due times of `TimeoutStore.sortDue` do not decrease. -/
theorem pairwise_sortDue (entries : List DueTimeout) :
    (TimeoutStore.sortDue entries).Pairwise fun a b => a.due ≤ b.due := by
  have hsorted : (TimeoutStore.sortDue entries).Pairwise fun a b => decide (a.due ≤ b.due) :=
    List.pairwise_mergeSort
      (fun a b c hab hbc => by simpa using (of_decide_eq_true hab).trans (of_decide_eq_true hbc))
      (fun a b => by simpa using le_total a.due b.due) entries
  simpa using hsorted

/-- A chunk lists the stored timeouts that are due in time. -/
theorem mem_nextChunk {store : TimeoutStore} {start now : Instant} {entry : DueTimeout} :
    entry ∈ (store.nextChunk start now).due ↔
      ∃ x ∈ store.toList, start < x.due ∧ x.due ≤ now ∧ entry = ⟨x.id, x.due⟩ := by
  rw [TimeoutStore.nextChunk, TimeoutStore.sortDue, List.mem_mergeSort, List.mem_map]
  simp only [List.mem_filter, Bool.and_eq_true, decide_eq_true_eq]
  constructor
  · rintro ⟨x, ⟨hx, hstart, hnow⟩, rfl⟩
    exact ⟨x, hx, hstart, hnow, rfl⟩
  · rintro ⟨x, hx, hstart, hnow, rfl⟩
    exact ⟨x, ⟨hx, hstart, hnow⟩, rfl⟩

theorem pairwise_nextChunk (store : TimeoutStore) (start now : Instant) :
    (store.nextChunk start now).due.Pairwise fun a b => a.due ≤ b.due :=
  pairwise_sortDue _

/-! ### Requests of the storage -/

/-- Looking a timeout up fails, or finds what is stored. -/
theorem peekTimeout_answer {id : String} {answer : Except StorageError (Option Timeout)}
    (h : Serves s (.peekTimeout id) answer u) :
    (∃ error, answer = .error error) ∨ answer = .ok (s.stored? id) := by
  obtain ⟨t, -, -, hserve⟩ := h
  obtain ⟨rfl, rfl⟩ := Prod.mk.inj hserve
  exact Storage.peek_answer _ _

/-- A query fails, or finds what is stored and due at the time of the answer. -/
theorem nextChunk_answer {start : Instant} {answer : Except StorageError Chunk}
    (hhonest : ∀ call, s.world.site.storage.scripted call = none)
    (h : Serves s (.nextChunk start) answer u) :
    (∃ error, answer = .error error) ∨
      answer = .ok (s.world.site.storage.store.nextChunk start u.now) := by
  obtain ⟨t, -, -, hserve⟩ := h
  obtain ⟨rfl, rfl⟩ := Prod.mk.inj hserve
  exact Storage.nextChunk_answer _ _ _ hhonest

/-- The removal of a timeout that was sent on is a step aside. -/
theorem aside_of_removeTimeout {id : String} {answer : Except StorageError Bool} (hs : Sound s)
    (hsent : ∀ x, s.stored? id = some x → Sent s.log x)
    (h : Serves s (.removeTimeout id) answer u) : Aside s u := by
  obtain ⟨hstored, hstart, -⟩ := removeTimeout_stored h
  have hadds : ∀ x, Effect.removeTimeout id ≠ .addTimeout x := by simp
  have hpast : u.start ≤ u.now := hstart ▸ hs.past.trans h.now.1
  refine ⟨⟨(hs.filed.serves h hadds).sound (fun x hx => ?_) hpast, h.log_prefix⟩, h.now.1, hstart,
    fun other x hx => .inl (stored_of_serves h hadds hx)⟩
  have hx := accepted_of_serves h hadds hx
  have hkept := (hs.kept x hx).imp_right (And.imp_left fun hsent => hsent.mono h.log_prefix)
  rcases hstored with hsame | hremoved
  · rwa [hsame]
  · rw [hremoved]
    split
    · next hid =>
      refine .inr ⟨?_, rfl⟩
      -- what is removed was sent on, so it is accounted for without being stored
      rcases hkept with hx | ⟨hx, -⟩
      · exact (hsent x (hid ▸ hx)).mono h.log_prefix
      · exact hx
    · exact hkept

/-! ### The poller -/

/-- Every stored timeout was requested, is among some that are still to be requested, or is due
after a bound. Queries start no later than at the bound. -/
structure Covered (address : String) (rest : List DueTimeout) (bound : Instant) (s : Scene) :
    Prop where
  /-- Queries start no later than at the bound. -/
  start : s.start ≤ bound
  /-- The bound has passed. -/
  past : bound ≤ s.now
  /-- Every stored timeout is accounted for. -/
  stored : ∀ id x, s.stored? id = some x → Requested address s.log id ∨
    (∃ entry ∈ rest, entry.id = id ∧ entry.due = x.due) ∨ bound < x.due

/-- Every stored timeout was requested or is found by a later query. -/
def Settled (address : String) (s : Scene) : Prop := Covered address [] s.start s

variable {rest : List DueTimeout} {bound : Instant}

theorem requested_mono {log log' : List Exchange} {id : String} (h : Requested address log id)
    (hlog : log <+: log') : Requested address log' id := by
  obtain ⟨requestId, hmem⟩ := h
  exact ⟨requestId, hlog.subset hmem⟩

/-- Steps aside leave covered what is covered. -/
theorem Covered.aside (h : Covered address rest bound s) (hstep : Aside s u) :
    Covered address rest bound u where
  start := by rw [hstep.start]; exact h.start
  past := h.past.trans hstep.now
  stored id x hx := by
    rcases hstep.stored id x hx with hx | hdue
    · exact (h.stored id x hx).imp_left fun hrequested => requested_mono hrequested hstep.log
    · exact .inr (.inr (h.past.trans_lt hdue))

/-- Steps aside leave settled what is settled. -/
theorem Settled.aside (h : Settled address s) (hstep : Aside s u) : Settled address u := by
  have hcovered := Covered.aside h hstep
  rw [← hstep.start] at hcovered
  exact hcovered

/-- With nothing left to request everything is settled. -/
theorem Covered.settled (h : Covered address [] bound s) : Settled address s where
  start := le_rfl
  past := h.start.trans h.past
  stored id x hx := by
    rcases h.stored id x hx with hrequested | ⟨entry, hentry, -⟩ | hdue
    · exact .inl hrequested
    · exact absurd hentry List.not_mem_nil
    · exact .inr (.inr (h.start.trans_lt hdue))

/-- The contract of the poller: others step aside. -/
def pollerContract : Contract Scene where
  serves := Serves
  rely := Aside
  guarantee := Onward

/-- What is promised of the poller: in the end everything is settled. -/
def pollerPost (address : String) {α : Type} (_ : α) (s : Scene) : Prop := Settled address s

/-- A request that changes nothing that matters, and what follows it, keeps to the contract. -/
theorem assured_of_harmless {α : Type} {post : Except Panic α → Scene → Prop} (effect : Effect)
    {next : effect.Answer → Act α} {P : Scene → Prop}
    (heffect : Harmless effect) (hP : ∀ {s u}, P s → Aside s u → P u) (hs : P s)
    (hnext : ∀ t answer u, P t → Serves t effect answer u → P u →
      Assured pollerContract post (next answer) u) :
    Assured pollerContract post (Program.call (S := Effect.signature) effect next) s := by
  intro t hrely answer u hserved
  have haside := aside_of_serves hserved heffect hrely.sound
  exact ⟨haside.toOnward, hnext t answer u (hP hs hrely) hserved (hP (hP hs hrely) haside)⟩

/-- Once a timeout was requested, only the others are still to be requested. -/
theorem Covered.requested {entry : DueTimeout} {requestId : String}
    (h : Covered address (entry :: rest) bound s)
    (hserved : Serves s (.dispatch (requestBatch address requestId entry.id)) (.ok ()) u)
    (hstep : Aside s u) : Covered address rest bound u := by
  have hu := h.aside hstep
  refine ⟨hu.start, hu.past, fun id x hx => ?_⟩
  rcases hu.stored id x hx with hrequested | ⟨other, hother, hid, hdue⟩ | hdue
  · exact .inl hrequested
  · rcases List.mem_cons.1 hother with rfl | hother
    · refine .inl ⟨requestId, ?_⟩
      rw [hserved.log, ← hid]
      exact List.mem_append_right _ List.mem_cons_self
    · exact .inr (.inl ⟨other, hother, hid, hdue⟩)
  · exact .inr (.inr hdue)

/-- A change of the schedule that keeps the start of queries behind the bound leaves covered what is
covered. -/
theorem Covered.changeSchedule {change : Schedule → Schedule} {answer : Unit}
    (h : Covered address rest bound s) (hs : Sound s)
    (hserved : Serves s (.changeSchedule change) answer u)
    (hchange : (change s.world.site.schedule).start ≤ bound) :
    Onward s u ∧ Covered address rest bound u := by
  obtain ⟨hkept, hstart⟩ := kept_of_changeSchedule hserved
  rw [← hstart] at hchange
  have hpast : bound ≤ u.now := h.past.trans hkept.now
  refine ⟨⟨hkept.sound hs (hchange.trans hpast), hkept.log⟩, hchange, hpast, fun id x hx => ?_⟩
  rw [hkept.stored] at hx
  exact (h.stored id x hx).imp_left fun hrequested => requested_mono hrequested hkept.log

/-- When a timeout is refused, queries start before it again, and so before all that are still to be
requested. -/
theorem Covered.refused {entry : DueTimeout} {answer : Unit}
    (h : Covered address (entry :: rest) bound s) (hs : Sound s)
    (hsorted : (entry :: rest).Pairwise fun a b => a.due ≤ b.due)
    (hserved : Serves s (.changeSchedule (notRequested entry.due)) answer u) :
    Onward s u ∧ Settled address u := by
  obtain ⟨hkept, hstart⟩ := kept_of_changeSchedule hserved
  have hnext : u.start = Min.min s.start (entry.due.minus ⟨1⟩) := by
    rw [hstart, notRequested, Instant.min_eq]
    rfl
  have hle : u.start ≤ s.start := by rw [hnext]; exact min_le_left _ _
  have hpast : u.start ≤ u.now := hle.trans (hs.past.trans hkept.now)
  refine ⟨⟨hkept.sound hs hpast, hkept.log⟩, le_rfl, hpast, fun id x hx => ?_⟩
  rw [hkept.stored] at hx
  rcases h.stored id x hx with hrequested | ⟨other, hother, -, hdue⟩ | hdue
  · exact .inl (requested_mono hrequested hkept.log)
  · refine .inr (.inr ?_)
    have hfirst : entry.due ≤ other.due := by
      rcases List.mem_cons.1 hother with rfl | hother
      · exact le_rfl
      · exact (List.pairwise_cons.1 hsorted).1 other hother
    -- the chunk is in order, so that whatever is still to be requested is due after the refused one
    calc u.start ≤ entry.due.minus ⟨1⟩ := by rw [hnext]; exact min_le_right _ _
      _ < entry.due := Instant.minus_one_lt _
      _ ≤ x.due := hdue ▸ hfirst
  · exact .inr (.inr ((hle.trans h.start).trans_lt hdue))

/-- The poller keeps to its contract while it requests the timeouts of a chunk. -/
theorem requestAll_assured {entries : List DueTimeout}
    (hsorted : entries.Pairwise fun a b => a.due ≤ b.due)
    (hdue : ∀ entry ∈ entries, entry.due ≤ bound) (hs : Covered address entries bound s) :
    Assured pollerContract (pollerPost address) (requestAll address entries) s := by
  induction entries generalizing s with
  | nil => exact hs.settled
  | cons entry rest ih =>
    have hcovered {s u : Scene} (h : Covered address (entry :: rest) bound s) (hstep : Aside s u) :
        Covered address (entry :: rest) bound u := h.aside hstep
    -- an id, a request, a change of the schedule; others step aside in between
    refine assured_of_harmless .freshId trivial hcovered hs
      fun _ requestId u _ _ hu t hrely answer v hserved => ?_
    have haside := aside_of_serves hserved trivial hrely.sound
    have ht := hu.aside hrely
    refine ⟨haside.toOnward, ?_⟩
    cases answer with
    | error error =>
      intro t' hrely' _ w hserved'
      exact ((ht.aside haside).aside hrely').refused hrely'.sound hsorted hserved'
    | ok _ =>
      intro t' hrely' _ w hserved'
      have hrest := (ht.requested hserved haside).aside hrely'
      obtain ⟨honward, hw⟩ := hrest.changeSchedule hrely'.sound hserved' (by
        rw [requested, Instant.max_eq]
        exact max_le hrest.start (hdue entry List.mem_cons_self))
      exact ⟨honward, ih (List.pairwise_cons.1 hsorted).2
        (fun other hother => hdue other (List.mem_cons_of_mem _ hother)) hw⟩

/-- The schedule that is read is the one of the scene. -/
theorem readSchedule_answer {schedule : Schedule} (h : Serves s .readSchedule schedule u) :
    u.start = schedule.start := by
  obtain ⟨t, -, -, hserve⟩ := h
  obtain ⟨rfl, rfl⟩ := Prod.mk.inj hserve
  rfl

/-- When everything is settled, a chunk lists what is neither requested nor due later. -/
theorem covered_of_nextChunk {answer : Except StorageError Chunk} (hs : Sound s)
    (hsettled : Settled address s) (hserved : Serves s (.nextChunk s.start) answer u) :
    Covered address (s.world.site.storage.store.nextChunk s.start u.now).due u.now u := by
  obtain ⟨hkept, hstart⟩ := kept_of_serves hserved trivial
  refine ⟨?_, le_rfl, fun id x hx => ?_⟩
  · rw [hstart]
    exact hs.past.trans hkept.now
  · rw [hkept.stored] at hx
    rcases hsettled.stored id x hx with hrequested | ⟨entry, hentry, -⟩ | hdue
    · exact .inl (requested_mono hrequested hkept.log)
    · exact absurd hentry List.not_mem_nil
    · by_cases hnow : x.due ≤ u.now
      · have hmem : x ∈ s.world.site.storage.store.toList := TimeoutStore.mem_toList.2 ⟨id, hx⟩
        exact .inr (.inl ⟨⟨x.id, x.due⟩, mem_nextChunk.2 ⟨x, hmem, hdue, hnow, rfl⟩,
          (hs.origin id x hx).1, rfl⟩)
      · exact .inr (.inr (not_le.1 hnow))

/-- The timeouts of a chunk are due at the time of the query. -/
theorem due_le_of_mem_nextChunk {store : TimeoutStore} {start now : Instant} {entry : DueTimeout}
    (h : entry ∈ (store.nextChunk start now).due) : entry.due ≤ now := by
  obtain ⟨x, -, -, hnow, rfl⟩ := mem_nextChunk.1 h
  exact hnow

/-- A spin that begins when everything is settled keeps to the contract of the poller. -/
theorem spin_assured (hs : Settled address s) :
    Assured pollerContract (pollerPost address) (spin address) s := by
  have hsettled {s u : Scene} (h : Settled address s) (hstep : Aside s u) : Settled address u :=
    h.aside hstep
  refine assured_of_harmless .readSchedule trivial hsettled hs
    fun _ schedule u _ hread hu => ?_
  -- from here on queries start where the schedule says
  have hfixed {s u : Scene} (h : Settled address s ∧ s.start = schedule.start)
      (hstep : Aside s u) : Settled address u ∧ u.start = schedule.start :=
    ⟨h.1.aside hstep, hstep.start.trans h.2⟩
  refine assured_of_harmless .clock trivial hfixed ⟨hu, readSchedule_answer hread⟩
    fun _ now u _ _ hu => ?_
  rw [Program.done_bind]
  split
  · exact hu.1
  · intro t hrely answer v hserved
    obtain ⟨ht, hstart⟩ := hfixed hu hrely
    have haside := aside_of_serves hserved trivial hrely.sound
    refine ⟨haside.toOnward, ?_⟩
    rw [← hstart] at hserved
    have hcovered := covered_of_nextChunk hrely.sound ht hserved
    rcases nextChunk_answer hrely.sound.honest hserved with ⟨error, rfl⟩ | rfl
    · exact ht.aside haside
    · refine assured_of_harmless .querySucceeded trivial
        (fun h hstep => Covered.aside h hstep) hcovered fun _ _ u _ _ hu => ?_
      rw [Program.done_bind]
      have hall := requestAll_assured (pairwise_nextChunk _ _ _)
        (fun entry hentry => due_le_of_mem_nextChunk hentry) hu
      refine Assured.bind (hall.imp fun result u hu => ?_)
      match result with
      | .error payload => exact hu
      | .ok (.error error) => exact hu
      | .ok (.ok _) =>
        refine assured_of_harmless .clock trivial hsettled hu
          fun _ now u _ _ hu => ?_
        intro t hrely _ v hserved
        have ht := hu.aside hrely
        obtain ⟨honward, hv⟩ := Covered.changeSchedule ht hrely.sound hserved le_rfl
        exact ⟨honward, hv.settled⟩

end Messaging.Timeouts.Manager
