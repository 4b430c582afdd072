import Messaging.Proofs.Instants
import Messaging.Proofs.Service
import Messaging.Timeout.Poller

/-!
# Polling an arbitrary storage

A storage answers a query with every stored timeout that is due, in any order, or with a failure.

- `Polled` is what the poller has to do with, `Serves` the answers that it may get, and `Spins` a
  sequence of spins.
- `NothingLost` says that every timeout whose dispatch was never requested is still to be asked for.
- `Spin.Overtakes` describes a spin that stops behind a timeout that it has passed: one that is due
  no later than a requested timeout and earlier than the refused one.
- `nothingLost_iff_not_overtakes` says that such spins, and only they, lose a timeout. They exist
  (`spin_loses`), but not when the storage lists timeouts in the order of their due times
  (`nothingLost_of_sorted`).
-/

namespace Messaging.Timeouts

open Time (Instant)

/-! ### Requests in a log -/

/-- The batch that requests the dispatch of a timeout. -/
def requestBatch (address requestId id : String) : Batch :=
  .ofList [{ message := ⟨requestId, requestHeaders id, []⟩, route := .unicast address }]

/-- The dispatch of a timeout was requested with success. -/
def Requested (address : String) (log : List Exchange) (id : String) : Prop :=
  ∃ requestId, ⟨.dispatch (requestBatch address requestId id), .ok ()⟩ ∈ log

/-- The dispatch of a timeout was requested in vain. -/
def Refused (address : String) (log : List Exchange) (id : String) : Prop :=
  ∃ requestId error, ⟨.dispatch (requestBatch address requestId id), .error error⟩ ∈ log

/-- A request names the timeout that it is about. -/
theorem requestBatch_injective {address requestId id requestId' id' : String}
    (h : requestBatch address requestId id = requestBatch address requestId' id') : id = id' := by
  have hheaders : requestHeaders id = requestHeaders id' := by
    have hunicast := congrArg (fun batch => batch.unicast.map fun d => d.message.headers) h
    simpa [requestBatch, Batch.ofList, Batch.push] using hunicast
  have hfound := congrArg (fun headers => Table.get? headers Header.timeoutIdToDispatch) hheaders
  simpa [requestHeaders, Table.ofList] using hfound

/-- More requests make no difference to those that succeeded before. -/
theorem requested_append {address : String} {log own : List Exchange} {id : String} :
    Requested address (log ++ own) id ↔ Requested address log id ∨ Requested address own id := by
  simp only [Requested, List.mem_append, exists_or]

/-- More requests make no difference to those that were refused before. -/
theorem refused_append {address : String} {log own : List Exchange} {id : String} :
    Refused address (log ++ own) id ↔ Refused address log id ∨ Refused address own id := by
  simp only [Refused, List.mem_append, exists_or]

/-- What the poller asks for one timeout, with the answer of the dispatcher. -/
def asked (address requestId id : String) (answer : Except TransportError Unit)
    (change : Schedule → Schedule) : List Exchange :=
  [⟨.freshId, requestId⟩, ⟨.dispatch (requestBatch address requestId id), answer⟩,
    ⟨.changeSchedule change, ()⟩]

variable {address requestId id : String} {answer : Except TransportError Unit}
  {change : Schedule → Schedule}

/-- What is asked for one timeout requests no other one. -/
theorem requested_asked {other : String} :
    Requested address (asked address requestId id answer change) other ↔
      answer = .ok () ∧ id = other := by
  constructor
  · rintro ⟨requestId', hmem⟩
    simp only [asked, List.mem_cons, Exchange.mk.injEq, reduceCtorEq, false_and, or_false,
      false_or, Effect.dispatch.injEq, List.not_mem_nil] at hmem
    exact ⟨(eq_of_heq hmem.2).symm, (requestBatch_injective hmem.1).symm⟩
  · rintro ⟨rfl, rfl⟩
    exact ⟨requestId, by simp [asked]⟩

/-- What is asked for one timeout is refused for no other one. -/
theorem refused_asked {other : String} :
    Refused address (asked address requestId id answer change) other ↔
      (∃ error, answer = .error error) ∧ id = other := by
  constructor
  · rintro ⟨requestId', error, hmem⟩
    simp only [asked, List.mem_cons, Exchange.mk.injEq, reduceCtorEq, false_and, or_false,
      false_or, Effect.dispatch.injEq, List.not_mem_nil] at hmem
    exact ⟨⟨error, (eq_of_heq hmem.2).symm⟩, (requestBatch_injective hmem.1).symm⟩
  · rintro ⟨⟨error, rfl⟩, rfl⟩
    exact ⟨requestId, error, by simp [asked]⟩

/-! ### The surroundings of the poller -/

/-- What the poller has to do with. -/
structure Polled where
  /-- The schedule of queries. -/
  schedule : Schedule
  /-- A time that has passed. -/
  now : Instant
  /-- The requests of the poller so far with their answers, first asked first. -/
  log : List Exchange := []

/-- A request was answered. -/
def Polled.after (s : Polled) (effect : Effect) (answer : effect.Answer) : Polled :=
  { s with log := s.log ++ [⟨effect, answer⟩] }

/-- The answers that the poller may get. Time never goes back, a chunk holds the stored timeouts
that are due after the start of the query and not after some time between now and the answer, in
any order, and both storage and dispatcher may fail. -/
inductive Serves (stored : List DueTimeout) : Service Polled where
  /-- The schedule is read. -/
  | readSchedule (s : Polled) : Serves stored s .readSchedule s.schedule
      (s.after .readSchedule s.schedule)
  /-- The schedule is changed. -/
  | changeSchedule (s : Polled) (change : Schedule → Schedule) :
      Serves stored s (.changeSchedule change) ()
        ({ s with schedule := change s.schedule }.after (.changeSchedule change) ())
  /-- The time is read. -/
  | clock (s : Polled) {t : Instant} (ht : s.now ≤ t) :
      Serves stored s .clock t ({ s with now := t }.after .clock t)
  /-- An id is given. -/
  | freshId (s : Polled) (id : String) : Serves stored s .freshId id (s.after .freshId id)
  /-- The storage answers. -/
  | chunk (s : Polled) {start t : Instant} {chunk : Chunk} (ht : s.now ≤ t)
      (hchunk : ∀ entry, entry ∈ chunk.due ↔ entry ∈ stored ∧ start < entry.due ∧ entry.due ≤ t) :
      Serves stored s (.nextChunk start) (.ok chunk)
        ({ s with now := t }.after (.nextChunk start) (.ok chunk))
  /-- The storage fails. -/
  | storageFailed (s : Polled) (start : Instant) (error : StorageError) :
      Serves stored s (.nextChunk start) (.error error)
        (s.after (.nextChunk start) (.error error))
  /-- The success of the storage is noted. -/
  | querySucceeded (s : Polled) : Serves stored s .querySucceeded () (s.after .querySucceeded ())
  /-- A batch is dispatched or refused. -/
  | dispatch (s : Polled) (batch : Batch) (answer : Except TransportError Unit) :
      Serves stored s (.dispatch batch) answer (s.after (.dispatch batch) answer)

/-- A spin that has finished. -/
structure Spin where
  /-- The surroundings before. -/
  before : Polled
  /-- The surroundings afterwards. -/
  after : Polled

namespace Spin

/-- The requests of a spin with their answers. -/
def log (spin : Spin) : List Exchange := spin.after.log.drop spin.before.log.length

/-- The storage answered a spin with a chunk. -/
def Got (spin : Spin) (chunk : Chunk) : Prop :=
  ∃ start, ⟨.nextChunk start, .ok chunk⟩ ∈ spin.log

/-- A spin stops at a refused timeout after it has passed another one: the chunk lists a timeout
whose dispatch was never requested, due before the refused one, and one due no earlier whose
dispatch the spin did request. -/
def Overtakes (address : String) (spin : Spin) : Prop :=
  ∃ chunk, spin.Got chunk ∧
    ∃ refused ∈ chunk.due, Refused address spin.log refused.id ∧
      ∃ passed ∈ chunk.due, ¬ Requested address spin.after.log passed.id ∧
        passed.due ≤ refused.due.minus ⟨1⟩ ∧
          ∃ requested ∈ chunk.due, Requested address spin.log requested.id ∧
            passed.due ≤ requested.due

end Spin

/-- A sequence of spins over stored timeouts. Between two spins time may pass. -/
inductive Spins (address : String) (stored : List DueTimeout) : Polled → List Spin → Prop where
  /-- No spin. -/
  | nil (s : Polled) : Spins address stored s []
  /-- One spin and more after it. -/
  | cons {s t : Polled} {result : Except PollError Unit} {spins : List Spin}
      (hspin : Runs (Serves stored) (spin address) s result t)
      (hspins : Spins address stored t spins) : Spins address stored s (⟨s, t⟩ :: spins)

/-- Every stored timeout whose dispatch was never requested with success is due after the start of
the next query. -/
def NothingLost (address : String) (stored : List DueTimeout) (s : Polled) : Prop :=
  ∀ entry ∈ stored, Requested address s.log entry.id ∨ s.schedule.start < entry.due

/-! ### Requesting the timeouts of a chunk -/

section Requesting

variable {address : String} {stored : List DueTimeout} {s t u : Polled}

/-- The start of the next query once the dispatch of some timeouts was requested. -/
def passed (start : Instant) (entries : List DueTimeout) : Instant :=
  entries.foldl (fun start entry => start.max entry.due) start

/-- A query that starts after requested timeouts starts after each of them. -/
theorem passed_lt_iff {start limit : Instant} {entries : List DueTimeout} :
    passed start entries < limit ↔ start < limit ∧ ∀ entry ∈ entries, entry.due < limit := by
  induction entries generalizing start with
  | nil => simp [passed]
  | cons entry rest ih =>
    rw [passed, List.foldl_cons, ← passed, ih, Instant.max_eq, max_lt_iff, List.forall_mem_cons,
      and_assoc]

/-- The start of the next query after a timeout was refused, if one was. -/
def pulledBack (start : Instant) : Option DueTimeout → Instant
  | none => start
  | some refused => start.min (refused.due.minus ⟨1⟩)

/-- The poller has requested some timeouts in order and was then refused one, if any. -/
structure Requests (address : String) (s u : Polled) (done : List DueTimeout)
    (refused : Option DueTimeout) : Prop where
  /-- Every request was answered as it should. -/
  log : ∃ own, u.log = s.log ++ own ∧
    (∀ id, Requested address own id ↔ ∃ entry ∈ done, entry.id = id) ∧
    (∀ id, Refused address own id ↔ ∃ entry ∈ refused, entry.id = id) ∧
    ∀ start chunk, ⟨.nextChunk start, .ok chunk⟩ ∉ own
  /-- The next query starts behind what was requested, and in front of what was refused. -/
  start : u.schedule.start = pulledBack (passed s.schedule.start done) refused

/-- A timeout that was requested before the others is the first of those requested. -/
theorem Requests.cons {requestId : String} {change : Schedule → Schedule} {entry : DueTimeout}
    {done : List DueTimeout} {refused : Option DueTimeout}
    (hlog : t.log = s.log ++ asked address requestId entry.id (.ok ()) change)
    (hstart : t.schedule.start = s.schedule.start.max entry.due)
    (h : Requests address t u done refused) : Requests address s u (entry :: done) refused := by
  obtain ⟨⟨own, hown, hrequested, hrefused, hchunks⟩, hnext⟩ := h
  -- the exchanges of this request, and behind them those of the rest
  refine ⟨⟨asked address requestId entry.id (.ok ()) change ++ own, ?_, fun id => ?_, fun id => ?_,
    fun start chunk => ?_⟩, ?_⟩
  · rw [hown, hlog, List.append_assoc]
  · rw [requested_append, requested_asked, hrequested]
    simp
  · rw [refused_append, refused_asked, hrefused]
    simp
  · simpa [asked] using hchunks start chunk
  · rw [hnext, hstart]
    rfl

/-- The timeouts of a chunk are requested in order up to the first that is refused. -/
theorem requests_of_runs {entries : List DueTimeout} {result : Except PollError Unit}
    (h : Runs (Serves stored) (requestAll address entries) s result u) :
    Requests address s u entries none ∨
      ∃ done refused behind, entries = done ++ refused :: behind ∧
        Requests address s u done (some refused) := by
  -- by induction on the chunk: an entry is requested and the rest follows, or it is refused
  induction entries generalizing s with
  | nil =>
    obtain ⟨rfl, rfl⟩ := Runs.of_done h
    refine .inl ⟨⟨[], (List.append_nil _).symm, ?_, ?_, ?_⟩, rfl⟩
    · simp [Requested]
    · simp [Refused]
    · simp
  | cons entry rest ih =>
    obtain ⟨requestId, _, hid, h⟩ := Runs.of_call h
    obtain ⟨answer, _, hdispatch, h⟩ := Runs.of_call h
    cases hid
    cases hdispatch
    cases answer with
    | error error =>
      obtain ⟨_, _, hchange, h⟩ := Runs.of_call h
      cases hchange
      obtain ⟨rfl, rfl⟩ := Runs.of_done h
      refine .inr ⟨[], entry, rest, rfl,
        ⟨asked address requestId entry.id (.error error) (notRequested entry.due), ?_, fun id => ?_,
          fun id => ?_, fun start chunk => ?_⟩, rfl⟩
      · simp [Polled.after, asked, requestBatch]
      · simp [requested_asked]
      · simp [refused_asked]
      · simp [asked]
    | ok _ =>
      obtain ⟨_, _, hchange, h⟩ := Runs.of_call h
      cases hchange
      have hlog (t : Polled) :
          ((t.after .freshId requestId).after
            (.dispatch (requestBatch address requestId entry.id)) (.ok ())).log ++
              [⟨.changeSchedule (requested entry.due), ()⟩]
            = t.log ++ asked address requestId entry.id (.ok ()) (requested entry.due) := by
        simp [Polled.after, asked]
      rcases ih h with hall | ⟨done, refused, behind, rfl, hsome⟩
      · exact .inl (hall.cons (hlog s) rfl)
      · exact .inr ⟨entry :: done, refused, behind, rfl, hsome.cons (hlog s) rfl⟩

/-! ### One spin -/

/-- What a spin comes to: it asks for nothing, or it is answered with a chunk and requests some of
its timeouts, all of them unless one is refused. -/
inductive Spin.Course (address : String) (stored : List DueTimeout) (spin : Spin) : Prop where
  /-- No chunk was got. -/
  | idle (hlog : spin.after.log = spin.before.log ++ spin.log)
      (hgot : ∀ chunk, ¬ spin.Got chunk)
      (hstart : spin.after.schedule.start = spin.before.schedule.start)
  /-- A chunk was got. -/
  | queried {chunk : Chunk} {t : Instant} {done behind : List DueTimeout}
      {refused : Option DueTimeout} (hlog : spin.after.log = spin.before.log ++ spin.log)
      (hgot : ∀ other, spin.Got other ↔ other = chunk)
      (hchunk : ∀ entry, entry ∈ chunk.due ↔
        entry ∈ stored ∧ spin.before.schedule.start < entry.due ∧ entry.due ≤ t)
      (hdone : chunk.due = done ++ refused.toList ++ behind) (hall : refused = none → behind = [])
      (hrequested : ∀ id, Requested address spin.log id ↔ ∃ entry ∈ done, entry.id = id)
      (hrefused : ∀ id, Refused address spin.log id ↔ ∃ entry ∈ refused, entry.id = id)
      (hstart : spin.after.schedule.start
        = pulledBack (passed spin.before.schedule.start done) refused)

/-- The log of a spin is what its end adds to the log of its beginning. -/
theorem Spin.log_eq {own : List Exchange} (h : u.log = s.log ++ own) :
    (⟨s, u⟩ : Spin).log = own := by
  rw [log, h, List.drop_left]

/-- A spin without a chunk is idle. -/
theorem Spin.Course.of_idle (own : List Exchange) (hlog : u.log = s.log ++ own)
    (hgot : ∀ start chunk, ⟨.nextChunk start, .ok chunk⟩ ∉ own)
    (hstart : u.schedule.start = s.schedule.start) : Spin.Course address stored ⟨s, u⟩ := by
  have hown := Spin.log_eq hlog
  refine .idle (by rw [hown]; exact hlog) ?_ hstart
  rintro chunk ⟨start, hmem⟩
  rw [hown] at hmem
  exact hgot start chunk hmem

/-- What the poller asks before it requests the timeouts of a chunk. -/
def queriedLog (schedule : Schedule) (now start : Instant) (chunk : Chunk) : List Exchange :=
  [⟨.readSchedule, schedule⟩, ⟨.clock, now⟩, ⟨.nextChunk start, .ok chunk⟩, ⟨.querySucceeded, ()⟩]

/-- A spin that requests the timeouts of a chunk, and asks for no other one afterwards. -/
theorem Spin.Course.of_requests {before after : Polled} {schedule : Schedule}
    {now start limit : Instant} {chunk : Chunk} {done behind : List DueTimeout}
    {refused : Option DueTimeout} {rest : List Exchange}
    (hbefore : before.log = s.log ++ queriedLog schedule now start chunk)
    (hstart : before.schedule.start = s.schedule.start)
    (hchunk : ∀ entry, entry ∈ chunk.due ↔
      entry ∈ stored ∧ s.schedule.start < entry.due ∧ entry.due ≤ limit)
    (hdone : chunk.due = done ++ refused.toList ++ behind) (hall : refused = none → behind = [])
    (hrequests : Requests address before after done refused)
    (hafter : u.log = after.log ++ rest) (hsame : u.schedule.start = after.schedule.start)
    (hrest : ∀ effect answer, ⟨effect, answer⟩ ∈ rest →
      (∀ batch, effect ≠ .dispatch batch) ∧ ∀ start, effect ≠ .nextChunk start) :
    Spin.Course address stored ⟨s, u⟩ := by
  obtain ⟨⟨own, hown, hrequested, hrefused, hchunks⟩, hnext⟩ := hrequests
  have hlog : u.log = s.log ++ (queriedLog schedule now start chunk ++ own ++ rest) := by
    rw [hafter, hown, hbefore]
    simp only [List.append_assoc]
  have hspin := Spin.log_eq hlog
  have hnoRequest (id : String) : ¬ Requested address rest id := fun ⟨requestId, hmem⟩ =>
    (hrest _ _ hmem).1 _ rfl
  have hnoRefusal (id : String) : ¬ Refused address rest id := fun ⟨requestId, error, hmem⟩ =>
    (hrest _ _ hmem).1 _ rfl
  have hquery (id : String) : ¬ Requested address (queriedLog schedule now start chunk) id ∧
      ¬ Refused address (queriedLog schedule now start chunk) id := by
    simp [Requested, Refused, queriedLog]
  -- what was asked before and after the requests is neither a dispatch nor another query
  refine .queried (by rw [hspin]; exact hlog) (fun other => ?_) hchunk hdone hall (fun id => ?_)
    (fun id => ?_) ?_
  · rw [Spin.Got, hspin]
    constructor
    · rintro ⟨start', hmem⟩
      rw [List.mem_append, List.mem_append] at hmem
      rcases hmem with (hmem | hmem) | hmem
      · simp only [queriedLog, List.mem_cons, Exchange.mk.injEq, reduceCtorEq, false_and,
          Effect.nextChunk.injEq, List.not_mem_nil, or_false, false_or] at hmem
        exact Except.ok.inj (eq_of_heq hmem.2)
      · exact absurd hmem (hchunks start' other)
      · exact absurd rfl ((hrest _ _ hmem).2 start')
    · rintro rfl
      exact ⟨start, by simp [queriedLog]⟩
  · rw [hspin, requested_append, requested_append, hrequested]
    simp only [(hquery id).1, hnoRequest id, false_or, or_false]
  · rw [hspin, refused_append, refused_append, hrefused]
    simp only [(hquery id).2, hnoRefusal id, false_or, or_false]
  · rw [hsame, hnext, hstart]

/-- Every spin takes one of the two courses. -/
theorem Spin.course_of_runs {result : Except PollError Unit}
    (h : Runs (Serves stored) (spin address) s result u) :
    Spin.Course address stored ⟨s, u⟩ := by
  obtain ⟨schedule, _, hread, h⟩ := Runs.of_call h
  cases hread
  obtain ⟨now, _, hclock, h⟩ := Runs.of_call h
  cases hclock
  rw [Program.done_bind] at h
  split at h
  · obtain ⟨-, rfl⟩ := Runs.of_done h
    exact .of_idle [⟨.readSchedule, s.schedule⟩, ⟨.clock, now⟩]
      (by simp [Polled.after]) (by simp) rfl
  · obtain ⟨answer, _, hanswer, h⟩ := Runs.of_call h
    cases hanswer with
    | storageFailed _ _ error =>
      obtain ⟨-, rfl⟩ := Runs.of_done h
      exact .of_idle [⟨.readSchedule, s.schedule⟩, ⟨.clock, now⟩,
        ⟨.nextChunk s.schedule.start, .error error⟩] (by simp [Polled.after]) (by simp) rfl
    | @chunk _ _ limit chunk hlimit hchunk =>
      obtain ⟨_, before, hsucceeded, h⟩ := Runs.of_call h
      rw [Program.done_bind] at h
      obtain ⟨answer, after, hall, h⟩ := Runs.of_bind h
      have hbefore : before.log = s.log ++ queriedLog s.schedule now s.schedule.start chunk ∧
          before.schedule = s.schedule := by
        cases hsucceeded
        simp [Polled.after, queriedLog]
      -- whatever becomes of the requests, nothing more is requested afterwards
      have hends : ∃ rest, u.log = after.log ++ rest ∧
          u.schedule.start = after.schedule.start ∧
          ∀ effect answer, ⟨effect, answer⟩ ∈ rest →
            (∀ batch, effect ≠ .dispatch batch) ∧ ∀ start, effect ≠ .nextChunk start := by
        cases answer with
        | error error =>
          obtain ⟨-, rfl⟩ := Runs.of_done h
          exact ⟨[], (List.append_nil _).symm, rfl, nofun⟩
        | ok _ =>
          obtain ⟨later, _, hclock, h⟩ := Runs.of_call h
          cases hclock
          obtain ⟨_, _, hchange, h⟩ := Runs.of_call h
          cases hchange
          obtain ⟨-, rfl⟩ := Runs.of_done h
          refine ⟨[⟨.clock, later⟩, ⟨.changeSchedule _, ()⟩],
            by simp only [Polled.after, List.append_assoc]; rfl, rfl, fun effect answer hmem => ?_⟩
          simp only [List.mem_cons, Exchange.mk.injEq, List.not_mem_nil, or_false] at hmem
          rcases hmem with ⟨rfl, -⟩ | ⟨rfl, -⟩
          · exact ⟨nofun, nofun⟩
          · exact ⟨nofun, nofun⟩
      obtain ⟨rest, hafter, hsame, hrest⟩ := hends
      have hstart : before.schedule.start = s.schedule.start := by rw [hbefore.2]
      rcases requests_of_runs hall with hrequests | ⟨done, refused, behind, hdone, hrequests⟩
      · have hsplit : chunk.due = chunk.due ++ (none : Option DueTimeout).toList ++ [] := by simp
        exact .of_requests hbefore.1 hstart hchunk hsplit (fun _ => rfl) hrequests hafter hsame
          hrest
      · have hsplit : chunk.due = done ++ (some refused).toList ++ behind := by simp [hdone]
        exact .of_requests hbefore.1 hstart hchunk hsplit nofun hrequests hafter hsame hrest

/-- What a chunk lists was stored. -/
theorem mem_stored_of_mem {chunk : Chunk} {start limit : Instant} {entry : DueTimeout}
    (hchunk : ∀ entry, entry ∈ chunk.due ↔
      entry ∈ stored ∧ start < entry.due ∧ entry.due ≤ limit) (hentry : entry ∈ chunk.due) :
    entry ∈ stored :=
  ((hchunk entry).1 hentry).1

/-- A stored timeout that a query passes over is due no later than one of the chunk, and so the
chunk lists it. -/
theorem mem_chunk_of_passed {chunk : Chunk} {start limit : Instant} {done : List DueTimeout}
    {entry : DueTimeout}
    (hchunk : ∀ entry, entry ∈ chunk.due ↔
      entry ∈ stored ∧ start < entry.due ∧ entry.due ≤ limit)
    (hdone : ∀ other ∈ done, other ∈ chunk.due) (hentry : entry ∈ stored)
    (hstart : start < entry.due) (hpassed : entry.due ≤ passed start done) :
    entry ∈ chunk.due ∧ ∃ other ∈ done, entry.due ≤ other.due := by
  have hlate : ∃ other ∈ done, entry.due ≤ other.due := by
    by_contra hnone
    refine hpassed.not_gt (passed_lt_iff.2 ⟨hstart, fun other hother => ?_⟩)
    exact not_le.1 fun hle => hnone ⟨other, hother, hle⟩
  obtain ⟨other, hother, hle⟩ := hlate
  refine ⟨(hchunk entry).2 ⟨hentry, hstart, ?_⟩, other, hother, hle⟩
  exact hle.trans ((hchunk other).1 (hdone other hother)).2.2

variable {spin : Spin}

/-- A spin before which nothing was lost loses something if and only if it overtakes a timeout. -/
theorem Spin.Course.nothingLost_iff
    (hkeys : ∀ a ∈ stored, ∀ b ∈ stored, a.id = b.id → a = b)
    (hcourse : Spin.Course address stored spin)
    (hbefore : NothingLost address stored spin.before) :
    NothingLost address stored spin.after ↔ ¬ spin.Overtakes address := by
  cases hcourse with
  | idle hlog hgot hstart =>
    constructor
    · rintro - ⟨chunk, hchunk, -⟩
      exact hgot chunk hchunk
    · intro _ entry hentry
      rw [hlog, requested_append, hstart]
      exact (hbefore entry hentry).imp .inl id
  | @queried chunk limit done behind refused hlog hgot hchunk hdone hall hrequested hrefused
      hstart =>
    have hmem : ∀ entry ∈ done, entry ∈ chunk.due := fun entry hentry => by
      rw [hdone]
      exact List.mem_append_left _ (List.mem_append_left _ hentry)
    constructor
    -- what was passed is due behind neither a requested timeout nor the refused one
    · rintro hafter ⟨other, hother, r, hr, hrefusal, e, he, hnever, hearly, q, hq, hrequest, hlate⟩
      obtain rfl := (hgot other).1 hother
      obtain ⟨r', hr', hid⟩ := (hrefused r.id).1 hrefusal
      have hr'mem : r' ∈ other.due := by
        rw [hdone, Option.mem_def.1 hr']
        simp
      obtain rfl := hkeys r' (mem_stored_of_mem hchunk hr'mem) r (mem_stored_of_mem hchunk hr) hid
      obtain ⟨q', hq', hid⟩ := (hrequested q.id).1 hrequest
      obtain rfl := hkeys q' (mem_stored_of_mem hchunk (hmem q' hq')) q
        (mem_stored_of_mem hchunk hq) hid
      rcases hafter e (mem_stored_of_mem hchunk he) with hrequested' | hnext
      · exact hnever hrequested'
      · rw [hstart, Option.mem_def.1 hr', pulledBack, Instant.min_eq, min_lt_iff] at hnext
        rcases hnext with hnext | hnext
        · exact hlate.not_gt ((passed_lt_iff.1 hnext).2 q' hq')
        · exact hearly.not_gt hnext
    -- a lost timeout was passed by a requested one, and the refused one does not bring it back
    · intro hovertakes entry hentry
      by_contra hlost
      rw [not_or, not_lt, hstart] at hlost
      obtain ⟨hnever, hle⟩ := hlost
      have hfirst : spin.before.schedule.start < entry.due := by
        refine (hbefore entry hentry).resolve_left fun hrequested' => hnever ?_
        rw [hlog, requested_append]
        exact .inl hrequested'
      cases refused with
      | none =>
        obtain ⟨hlisted, -⟩ := mem_chunk_of_passed hchunk hmem hentry hfirst hle
        have hentryDone : entry ∈ done := by
          rw [hdone, hall rfl] at hlisted
          simpa using hlisted
        refine hnever ?_
        rw [hlog, requested_append]
        exact .inr ((hrequested entry.id).2 ⟨entry, hentryDone, rfl⟩)
      | some r =>
        rw [pulledBack, Instant.min_eq, le_min_iff] at hle
        obtain ⟨hlisted, q, hq, hlate⟩ := mem_chunk_of_passed hchunk hmem hentry hfirst hle.1
        refine hovertakes ⟨chunk, (hgot chunk).2 rfl, r, ?_, (hrefused r.id).2 ⟨r, rfl, rfl⟩, entry,
          hlisted, hnever, hle.2, q, hmem q hq, (hrequested q.id).2 ⟨q, hq, rfl⟩, hlate⟩
        rw [hdone]
        simp

end Requesting

/-! ### Sequences of spins -/

/-- Over any storage that answers its queries, in whatever order, a sequence of spins loses a stored
timeout if and only if one of the spins overtakes one. -/
theorem nothingLost_iff_not_overtakes {address : String} {stored : List DueTimeout} {s : Polled}
    {spins : List Spin} (hkeys : ∀ a ∈ stored, ∀ b ∈ stored, a.id = b.id → a = b)
    (hstart : ∀ entry ∈ stored, s.schedule.start < entry.due)
    (hspins : Spins address stored s spins) :
    (∀ spin ∈ spins, NothingLost address stored spin.after) ↔
      ∀ spin ∈ spins, ¬ spin.Overtakes address := by
  have hlost : NothingLost address stored s := fun entry hentry => .inr (hstart entry hentry)
  -- one spin after another, as long as nothing was lost before
  clear hstart
  induction hspins with
  | nil => simp
  | @cons s t result spins hspin hspins ih =>
    rw [List.forall_mem_cons, List.forall_mem_cons]
    have hone := (Spin.course_of_runs hspin).nothingLost_iff hkeys hlost
    constructor
    · rintro ⟨hfirst, hrest⟩
      exact ⟨hone.1 hfirst, (ih hfirst).1 hrest⟩
    · rintro ⟨hfirst, hrest⟩
      exact ⟨hone.2 hfirst, (ih (hone.2 hfirst)).2 hrest⟩

/-- Three timeouts that are due, the latest first and the earliest last. -/
def latestFirst : List DueTimeout :=
  [⟨"b", ⟨50, 0⟩⟩, ⟨"a", ⟨30, 0⟩⟩, ⟨"c", ⟨10, 0⟩⟩]

/-- A poller that has not asked for anything. -/
def Polled.fresh : Polled where
  schedule := { next := ⟨0, 0⟩, start := ⟨0, 0⟩, pushed := false }
  now := ⟨100, 0⟩

/-- The storage lists the timeouts as they are, the first request succeeds and the second one is
refused. -/
theorem exists_spin_latestFirst : ∃ result t,
    Runs (Serves latestFirst) (spin "dispatcher") .fresh result t ∧
      t.schedule.start = ⟨29, 999999999⟩ ∧
        ∀ id, Requested "dispatcher" t.log id → id = "b" := by
  have hchunk : ∀ entry, entry ∈ latestFirst ↔
      entry ∈ latestFirst ∧ (⟨0, 0⟩ : Instant) < entry.due ∧ entry.due ≤ ⟨100, 0⟩ := by
    have hdue : ∀ entry ∈ latestFirst,
        (⟨0, 0⟩ : Instant) < entry.due ∧ entry.due ≤ ⟨100, 0⟩ := by decide
    exact fun entry => ⟨fun h => ⟨h, hdue entry h⟩, And.left⟩
  refine ⟨?result, ?t, ?run, ?start, ?requested⟩
  -- the later timeout is asked for first and the schedule moves past the earlier one, whose request
  -- is then refused
  case run =>
    refine .call (.readSchedule _) (.call (.clock _ le_rfl) ?_)
    refine .call (@Serves.chunk _ _ _ _ ⟨latestFirst, ⟨160, 0⟩⟩ le_rfl hchunk) ?_
    refine .call (.querySucceeded _) (.call (.freshId _ "1") ?_)
    refine .call (.dispatch _ _ (.ok ())) (.call (.changeSchedule _ _) ?_)
    refine .call (.freshId _ "2") (.call (.dispatch _ _ (.error (.dispatch "refused"))) ?_)
    refine .call (.changeSchedule _ _) ?_
    exact Runs.done (Except.error (PollError.dispatch "a" (.dispatch "refused"))) _
  case start => rfl
  case requested =>
    rintro id ⟨requestId, hmem⟩
    simp only [Polled.after, List.mem_append, List.mem_singleton, Exchange.mk.injEq, reduceCtorEq,
      false_and, or_false, false_or, Effect.dispatch.injEq, Polled.fresh, List.not_mem_nil] at hmem
    rcases hmem with ⟨hbatch, -⟩ | ⟨-, hanswer⟩
    · have hb : requestBatch "dispatcher" requestId id = requestBatch "dispatcher" "1" "b" := hbatch
      exact requestBatch_injective hb
    · exact absurd (eq_of_heq hanswer) nofun

/-- A spin can lose a timeout, since the storage may list a later one first: with the latest of
three requested and the next one refused, the earliest is never asked for again. -/
theorem spin_loses : ¬ ∀ (address : String) (stored : List DueTimeout) (s : Polled)
    (spins : List Spin), (∀ a ∈ stored, ∀ b ∈ stored, a.id = b.id → a = b) →
      (∀ entry ∈ stored, s.schedule.start < entry.due) → Spins address stored s spins →
        ∀ spin ∈ spins, NothingLost address stored spin.after := by
  intro hclaim
  obtain ⟨result, t, hrun, hstart, hrequested⟩ := exists_spin_latestFirst
  have hkept := hclaim "dispatcher" latestFirst .fresh [⟨.fresh, t⟩] (by decide) (by decide)
    (.cons hrun (.nil t)) ⟨.fresh, t⟩ (by simp) ⟨"c", ⟨10, 0⟩⟩ (by simp [latestFirst])
  rcases hkept with hc | hlt
  · exact absurd (hrequested "c" hc) (by decide)
  · rw [hstart] at hlt
    exact absurd hlt (by decide)

/-- Of a spin over three timeouts, the latest listed first, it can be said when it loses one. -/
theorem nothingLost_iff_not_overtakes_latestFirst : ∃ t result,
    Runs (Serves latestFirst) (spin "dispatcher") .fresh result t ∧
      ((∀ spin ∈ [(⟨.fresh, t⟩ : Spin)], NothingLost "dispatcher" latestFirst spin.after) ↔
        ∀ spin ∈ [(⟨.fresh, t⟩ : Spin)], ¬ spin.Overtakes "dispatcher") := by
  obtain ⟨result, t, hrun, -, -⟩ := exists_spin_latestFirst
  exact ⟨t, result, hrun,
    nothingLost_iff_not_overtakes (by decide) (by decide) (.cons hrun (.nil t))⟩

/-! ### Storages that keep to the order of due times -/

/-- No spin overtakes a timeout when the storage lists them in the order of their due times. -/
theorem Spin.Course.not_overtakes_of_sorted {address : String} {stored : List DueTimeout}
    {spin : Spin} (hkeys : ∀ a ∈ stored, ∀ b ∈ stored, a.id = b.id → a = b)
    (hcourse : Spin.Course address stored spin)
    (hsorted : ∀ chunk, spin.Got chunk → chunk.due.Pairwise fun a b => a.due ≤ b.due) :
    ¬ spin.Overtakes address := by
  rintro ⟨other, hother, r, hr, hrefusal, e, he, hnever, hearly, -⟩
  cases hcourse with
  | idle _ hgot => exact hgot other hother
  | @queried chunk limit done behind refused hlog hgot hchunk hdone _ hrequested hrefused =>
    obtain rfl := (hgot other).1 hother
    obtain ⟨r', hr', hid⟩ := (hrefused r.id).1 hrefusal
    rw [Option.mem_def.1 hr', Option.toList_some, List.append_assoc, List.singleton_append] at hdone
    have hr'mem : r' ∈ other.due := by rw [hdone]; simp
    obtain rfl := hkeys r' (mem_stored_of_mem hchunk hr'mem) r (mem_stored_of_mem hchunk hr) hid
    -- what was not requested stands behind the refused timeout, and in order it is due later
    have hbehind : e ∈ r' :: behind := by
      rw [hdone, List.mem_append] at he
      refine he.resolve_left fun hmem => hnever ?_
      rw [hlog, requested_append]
      exact .inr ((hrequested e.id).2 ⟨e, hmem, rfl⟩)
    have hpairwise := hsorted other hother
    rw [hdone, List.pairwise_append, List.pairwise_cons] at hpairwise
    have hlate : r'.due ≤ e.due := by
      rcases List.mem_cons.1 hbehind with rfl | hmem
      · exact le_rfl
      · exact hpairwise.2.1.1 e hmem
    exact (Instant.minus_one_lt r'.due).not_ge (hlate.trans hearly)

/-- Over a storage that lists due timeouts in the order of their due times nothing is ever lost. -/
theorem nothingLost_of_sorted {address : String} {stored : List DueTimeout} {s : Polled}
    {spins : List Spin} (hkeys : ∀ a ∈ stored, ∀ b ∈ stored, a.id = b.id → a = b)
    (hstart : ∀ entry ∈ stored, s.schedule.start < entry.due)
    (hspins : Spins address stored s spins)
    (hsorted : ∀ spin ∈ spins, ∀ chunk, spin.Got chunk →
      chunk.due.Pairwise fun a b => a.due ≤ b.due) :
    ∀ spin ∈ spins, NothingLost address stored spin.after := by
  have hlost : NothingLost address stored s := fun entry hentry => .inr (hstart entry hentry)
  clear hstart
  induction hspins with
  | nil => simp
  | cons hspin hspins ih =>
    rw [List.forall_mem_cons] at hsorted ⊢
    have hcourse := Spin.course_of_runs hspin
    -- a sorted chunk overtakes nothing
    have hfirst := (hcourse.nothingLost_iff hkeys hlost).2
      (hcourse.not_overtakes_of_sorted hkeys hsorted.1)
    exact ⟨hfirst, ih hsorted.2 hfirst⟩

end Messaging.Timeouts
