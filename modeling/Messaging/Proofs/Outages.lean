import Mathlib.Data.List.DropRight
import Messaging.Proofs.Instants
import Messaging.Proofs.Requests
import Messaging.Proofs.Service
import Messaging.Timeout.Poller

/-!
# Outages of the timeout storage

The background poller tells a circuit breaker of every query that the storage fails to answer, and
raises a critical error once the breaker triggers. Storage and dispatcher answer as they like, and
between any two requests time may pass and timeouts may be registered.

- `Surroundings` is what the poller has to do with, and `Serves` says how it is answered;
  `serves_perform` says that the world answers so.
- `Round` is a round of the poller and `Rounds` a run of its loop. `Round.Course` lists what a round
  may come to.
- `Judged` is what is promised of a round, given the rounds before it: a critical error is raised
  for a failure that has lasted for the wait of the breaker, once until the storage answers again.
- `Inv` ties the state of the breaker to the rounds so far, and `critical_once_when_lasting` is the
  result.
-/

namespace Messaging.Timeouts.Polling

open Time (Instant Span)

variable {α β : Type}

/-! ### The surroundings of the loop -/

/-- A request with its answer and the time of the answer. -/
structure Entry where
  /-- The time, in milliseconds that have passed for sleepers. -/
  time : Nat
  /-- The request and its answer. -/
  exchange : Exchange

/-- What the loop of the poller has to do with. -/
structure Surroundings where
  /-- The schedule of queries. -/
  schedule : Schedule
  /-- The circuit breaker. -/
  breaker : Breaker
  /-- A time of day that has passed. -/
  now : Instant
  /-- Milliseconds that have passed for sleepers. -/
  stopwatch : Nat
  /-- The requests of the loop so far, first asked first. -/
  log : List Entry := []

/-- A request was answered. -/
def Surroundings.after (s : Surroundings) (effect : Effect) (answer : effect.Answer) :
    Surroundings :=
  { s with log := s.log ++ [⟨s.stopwatch, effect, answer⟩] }

/-- What may happen while the loop waits for an answer or sleeps: time passes, and timeouts are
registered, which makes the next query no later. -/
structure Meanwhile (s t : Surroundings) : Prop where
  /-- Nobody else has to do with the breaker. -/
  breaker : t.breaker = s.breaker
  /-- Nothing is asked. -/
  log : t.log = s.log
  /-- The next query is not put off. -/
  next : t.schedule.next ≤ s.schedule.next
  /-- The time of day does not go back. -/
  now : s.now ≤ t.now
  /-- Neither does the stopwatch. -/
  stopwatch : s.stopwatch ≤ t.stopwatch

/-- A request whose answer does not depend on the surroundings and leaves them alone. -/
def Indifferent : Effect → Prop
  | .readSchedule | .changeSchedule _ | .clock | .installBreaker _ | .querySucceeded | .queryFailed
  | .sleep _ => False
  | _ => True

/-- The answer to a request. Queries and dispatches among others may be answered with anything. -/
inductive Answers : Service Surroundings where
  /-- The schedule is read. -/
  | readSchedule (s : Surroundings) :
      Answers s .readSchedule s.schedule (s.after .readSchedule s.schedule)
  /-- The schedule is changed. -/
  | changeSchedule (s : Surroundings) (change : Schedule → Schedule) :
      Answers s (.changeSchedule change) ()
        ({ s with schedule := change s.schedule }.after (.changeSchedule change) ())
  /-- The time of day is read. -/
  | clock (s : Surroundings) : Answers s .clock s.now (s.after .clock s.now)
  /-- Another breaker takes the place of the first. -/
  | installBreaker (s : Surroundings) (breaker : Breaker) :
      Answers s (.installBreaker breaker) ()
        ({ s with breaker }.after (.installBreaker breaker) ())
  /-- The breaker is told of a success. -/
  | querySucceeded (s : Surroundings) :
      Answers s .querySucceeded ()
        ({ s with breaker := s.breaker.success }.after .querySucceeded ())
  /-- The breaker is told of a failure. -/
  | queryFailed (s : Surroundings) :
      Answers s .queryFailed (s.breaker.failure s.stopwatch).1
        ({ s with breaker := (s.breaker.failure s.stopwatch).2 }.after .queryFailed
          (s.breaker.failure s.stopwatch).1)
  /-- The loop sleeps. -/
  | sleep (s : Surroundings) (millis : Nat) :
      Answers s (.sleep millis) ()
        { s.after (.sleep millis) () with stopwatch := s.stopwatch + millis }
  /-- Any other request is answered. -/
  | other (s : Surroundings) {effect : Effect} (heffect : Indifferent effect)
      (answer : effect.Answer) : Answers s effect answer (s.after effect answer)

/-- A request is answered after some time. -/
def Serves : Service Surroundings := fun s effect answer u =>
  ∃ t, Meanwhile s t ∧ Answers t effect answer u

theorem Meanwhile.refl (s : Surroundings) : Meanwhile s s := ⟨rfl, rfl, le_rfl, le_rfl, le_rfl⟩

theorem Meanwhile.trans {s t u : Surroundings} (hst : Meanwhile s t) (htu : Meanwhile t u) :
    Meanwhile s u where
  breaker := htu.breaker.trans hst.breaker
  log := htu.log.trans hst.log
  next := htu.next.trans hst.next
  now := hst.now.trans htu.now
  stopwatch := hst.stopwatch.trans htu.stopwatch

/-- What the loop has to do with of a world. -/
def Surroundings.ofWorld (world : World) (now : Instant) (log : List Entry) : Surroundings where
  schedule := world.site.schedule
  breaker := world.site.breaker
  now := now
  stopwatch := world.stopwatch
  log := log

/-- An indifferent request leaves alone in the world what the loop has to do with. -/
theorem perform_of_indifferent {effect : Effect} (heffect : Indifferent effect) (world : World) :
    (world.perform effect).2.site.schedule = world.site.schedule ∧
      (world.perform effect).2.site.breaker = world.site.breaker ∧
        (world.perform effect).2.stopwatch = world.stopwatch := by
  cases effect
  case dispatch batch =>
    rw [World.perform, World.dispatch]
    split <;> exact ⟨rfl, rfl, rfl⟩
  all_goals first | exact ⟨rfl, rfl, rfl⟩ | exact heffect.elim

/-- The world answers every request so, at any time of day that is not earlier than one before. -/
theorem serves_perform (world : World) (effect : Effect) {now t : Instant} (ht : now ≤ t)
    (log : List Entry) :
    let performed := { world with clock := t }.perform effect
    Serves (.ofWorld world now log) effect performed.1
      (.ofWorld performed.2 t (log ++ [⟨world.stopwatch, effect, performed.1⟩])) := by
  intro performed
  refine ⟨.ofWorld world t log, ⟨rfl, rfl, le_rfl, ht, le_rfl⟩, ?_⟩
  -- a request that has nothing to do with the schedule, the breaker or the clocks changes none of
  -- them
  have hother (heffect : Indifferent effect) :
      Answers (.ofWorld world t log) effect performed.1
        (.ofWorld performed.2 t (log ++ [⟨world.stopwatch, effect, performed.1⟩])) := by
    obtain ⟨hschedule, hbreaker, hstopwatch⟩ :=
      perform_of_indifferent heffect { world with clock := t }
    have hsame : Surroundings.ofWorld performed.2 t
        (log ++ [⟨world.stopwatch, effect, performed.1⟩])
          = (Surroundings.ofWorld world t log).after effect performed.1 := by
      rw [Surroundings.ofWorld, hschedule, hbreaker, hstopwatch]
      rfl
    rw [hsame]
    exact .other _ heffect _
  cases effect
  case readSchedule => exact .readSchedule _
  case changeSchedule change => exact .changeSchedule _ change
  case clock => exact .clock _
  case installBreaker breaker => exact .installBreaker _ breaker
  case querySucceeded => exact .querySucceeded _
  case queryFailed => exact .queryFailed _
  case sleep millis => exact .sleep _ millis
  all_goals exact hother trivial

/-! ### Rounds -/

/-- What the storage answered, if it was asked. -/
def Entry.answer? : Entry → Option (Except StorageError Chunk)
  | ⟨_, .nextChunk _, answer⟩ => some answer
  | _ => none

/-- When the breaker was told of a failure, if it was. -/
def Entry.told? : Entry → Option Nat
  | ⟨time, .queryFailed, _⟩ => some time
  | _ => none

/-- The critical error that was raised, if one was, with its cause. -/
def Entry.critical? : Entry → Option (String × String)
  | ⟨_, .raiseCritical message cause, _⟩ => some (message, cause)
  | _ => none

/-- A round of the poller that has finished. -/
structure Round where
  /-- The surroundings before. -/
  before : Surroundings
  /-- The surroundings afterwards. -/
  after : Surroundings

namespace Round

/-- The requests of a round. -/
def log (round : Round) : List Entry := round.after.log.drop round.before.log.length

/-- What the storage answered in a round. -/
def answers (round : Round) : List (Except StorageError Chunk) := round.log.filterMap Entry.answer?

/-- When the breaker was told of failures in a round. -/
def told (round : Round) : List Nat := round.log.filterMap Entry.told?

/-- The critical errors that were raised in a round, with their causes. -/
def criticals (round : Round) : List (String × String) := round.log.filterMap Entry.critical?

/-- Whether the storage answered with timeouts in a round. -/
def answered (round : Round) : Bool := round.answers.any Except.isOk

end Round

/-- Runs of the loop. Between two rounds time passes and timeouts may be registered. -/
inductive Rounds (address text : String) (start : Surroundings) :
    List Round → Surroundings → Prop where
  /-- Before the first round. -/
  | none : Rounds address text start [] start
  /-- One round more. -/
  | next {rounds : List Round} {s t u : Surroundings} (hrounds : Rounds address text start rounds s)
      (hwait : Meanwhile s t) (hround : Runs Serves (round address text) t () u) :
      Rounds address text start (rounds ++ [⟨t, u⟩]) u

/-- The rounds since the last one in which the storage answered a query. -/
def sinceAnswer (rounds : List Round) : List Round := rounds.rtakeWhile fun round => !round.answered

/-- When the breaker was told of failures since the storage last answered a query. -/
def toldSince (rounds : List Round) : List Nat := (sinceAnswer rounds).flatMap Round.told

/-- The critical errors since the storage last answered a query. -/
def criticalsSince (rounds : List Round) : List (String × String) :=
  (sinceAnswer rounds).flatMap Round.criticals

/-- A failure at a time comes at least the wait of the breaker after the first failure since the
storage last answered a query, and no critical error was raised since then. -/
def Lasting (wait : Span) (past : List Round) (time : Nat) : Prop :=
  criticalsSince past = [] ∧
    ∃ since, (toldSince past).head? = some since ∧
      (Span.ofMillis since).nanos + wait.nanos ≤ (Span.ofMillis time).nanos

/-- What is promised of a round after the rounds before it. -/
structure Judged (text : String) (wait : Span) (past : List Round) (round : Round) : Prop where
  /-- The storage is asked at most once. -/
  asked : round.answers.length ≤ 1
  /-- The breaker is told, once, if the storage fails, and only then. -/
  told : (∃ error, round.answers = [.error error]) ↔ ∃ time, round.told = [time]
  /-- It is told of nothing else. -/
  other : (¬ ∃ error, round.answers = [.error error]) → round.told = []
  /-- A critical error is raised if a failure has lasted, and only then. -/
  critical : round.criticals ≠ [] ↔ ∃ time, round.told = [time] ∧ Lasting wait past time
  /-- The cause of a critical error is what the storage answered. -/
  cause : ∀ critical ∈ round.criticals,
    ∃ error, round.answers = [.error error] ∧ critical = (text, error.message)
  /-- There is at most one critical error until the storage answers a query again. -/
  once : (criticalsSince (past ++ [round])).length ≤ 1
  /-- A round without a failure of the storage raises no critical error and leaves the breaker
  disarmed, whether no query was due, or one was answered and a dispatch failed. -/
  calm : round.told = [] → round.criticals = [] ∧ round.after.breaker.state = .disarmed

/-! ### What a request changes -/

/-- A step of the loop that does not put off the next query. -/
structure Onward (s u : Surroundings) : Prop where
  /-- The next query is not put off. -/
  next : u.schedule.next ≤ s.schedule.next
  /-- The time of day does not go back. -/
  now : s.now ≤ u.now
  /-- Neither does the stopwatch. -/
  stopwatch : s.stopwatch ≤ u.stopwatch

/-- `Onward` is transitive: one request after the other. -/
theorem Onward.trans {s t u : Surroundings} (hst : Onward s t) (htu : Onward t u) : Onward s u :=
  ⟨htu.next.trans hst.next, hst.now.trans htu.now, hst.stopwatch.trans htu.stopwatch⟩

section Serves

variable {s u : Surroundings} {effect : Effect} {answer : effect.Answer}

/-- A request that does not change the schedule does not put off the next query. -/
theorem Serves.onward (h : Serves s effect answer u)
    (heffect : ∀ change, effect ≠ .changeSchedule change) : Onward s u := by
  obtain ⟨t, hwait, hanswer⟩ := h
  have hwaited : Onward s t := ⟨hwait.next, hwait.now, hwait.stopwatch⟩
  cases hanswer with
  | changeSchedule _ change => exact absurd rfl (heffect change)
  | sleep => exact hwaited.trans ⟨le_rfl, le_rfl, Nat.le_add_right _ _⟩
  | _ => exact hwaited.trans ⟨le_rfl, le_rfl, le_rfl⟩

/-- Only few requests have to do with the breaker. -/
theorem Serves.breaker (h : Serves s effect answer u)
    (hinstall : ∀ breaker, effect ≠ .installBreaker breaker) (hsucceeded : effect ≠ .querySucceeded)
    (hfailed : effect ≠ .queryFailed) : u.breaker = s.breaker := by
  obtain ⟨t, hwait, hanswer⟩ := h
  cases hanswer with
  | installBreaker _ breaker => exact absurd rfl (hinstall breaker)
  | querySucceeded => exact absurd rfl hsucceeded
  | queryFailed => exact absurd rfl hfailed
  | _ => exact hwait.breaker

/-- An answered request is the last one so far. -/
theorem Serves.log (h : Serves s effect answer u) :
    ∃ time, s.stopwatch ≤ time ∧ time ≤ u.stopwatch ∧
      u.log = s.log ++ [⟨time, effect, answer⟩] := by
  obtain ⟨t, hwait, hanswer⟩ := h
  refine ⟨t.stopwatch, hwait.stopwatch, ?_⟩
  rw [← hwait.log]
  cases hanswer with
  | sleep => exact ⟨Nat.le_add_right _ _, rfl⟩
  | _ => exact ⟨le_rfl, rfl⟩

/-- Requests are answered as things stand: the schedule that is read is the one that there is. -/
theorem schedule_of_readSchedule {schedule : Schedule} (h : Serves s .readSchedule schedule u) :
    u.schedule = schedule := by
  obtain ⟨t, -, hanswer⟩ := h
  cases hanswer with
  | readSchedule => rfl
  | other _ heffect => exact heffect.elim

theorem now_of_clock {now : Instant} (h : Serves s .clock now u) : u.now = now := by
  obtain ⟨t, -, hanswer⟩ := h
  cases hanswer with
  | clock => rfl
  | other _ heffect => exact heffect.elim

/-- A query that succeeds closes the breaker. -/
theorem breaker_of_querySucceeded {answer : Unit} (h : Serves s .querySucceeded answer u) :
    u.breaker = s.breaker.success := by
  obtain ⟨t, hwait, hanswer⟩ := h
  cases hanswer with
  | querySucceeded => rw [← hwait.breaker]; rfl
  | other _ heffect => exact heffect.elim

/-- The breaker is told of a failure at the time of the answer. -/
theorem breaker_of_queryFailed {answer : Bool} (h : Serves s .queryFailed answer u) :
    s.breaker.failure u.stopwatch = (answer, u.breaker) ∧
      u.log = s.log ++ [⟨u.stopwatch, .queryFailed, answer⟩] := by
  obtain ⟨t, hwait, hanswer⟩ := h
  cases hanswer with
  | queryFailed => rw [← hwait.breaker, ← hwait.log]; exact ⟨rfl, rfl⟩
  | other _ heffect => exact heffect.elim

end Serves

/-! ### One round -/

/-- A request that the breaker has nothing to do with. -/
def Calm : Effect → Prop
  | .nextChunk _ | .installBreaker _ | .querySucceeded | .queryFailed | .raiseCritical .. => False
  | _ => True

/-- Nothing of note is among calm requests. -/
theorem Calm.entry {entry : Entry} (h : Calm entry.exchange.effect) :
    entry.answer? = none ∧ entry.told? = none ∧ entry.critical? = none := by
  obtain ⟨time, effect, answer⟩ := entry
  cases effect
  case nextChunk => exact h.elim
  case queryFailed => exact h.elim
  case raiseCritical => exact h.elim
  all_goals exact ⟨rfl, rfl, rfl⟩

/-- The surroundings after some calm requests. -/
structure Calmly (s u : Surroundings) : Prop where
  /-- The breaker stays as it was. -/
  breaker : u.breaker = s.breaker
  /-- Only calm requests were made. -/
  log : ∃ own, u.log = s.log ++ own ∧ ∀ entry ∈ own, Calm entry.exchange.effect

theorem Calmly.trans {s t u : Surroundings} (hst : Calmly s t) (htu : Calmly t u) :
    Calmly s u := by
  obtain ⟨hbreaker, own, hown, hcalm⟩ := hst
  obtain ⟨hbreaker', own', hown', hcalm'⟩ := htu
  refine ⟨hbreaker'.trans hbreaker, own ++ own', ?_, ?_⟩
  · rw [hown', hown, List.append_assoc]
  · simpa [or_imp, forall_and] using ⟨hcalm, hcalm'⟩

theorem Calmly.refl (s : Surroundings) : Calmly s s := ⟨rfl, [], (List.append_nil _).symm, nofun⟩

/-- A calm request leaves the breaker alone. -/
theorem Serves.calmly {s u : Surroundings} {effect : Effect} {answer : effect.Answer}
    (h : Serves s effect answer u) (heffect : Calm effect) : Calmly s u := by
  obtain ⟨time, -, -, hlog⟩ := h.log
  refine ⟨h.breaker ?_ ?_ ?_, _, hlog, by simpa using heffect⟩
  · rintro breaker rfl
    exact heffect
  · rintro rfl
    exact heffect
  · rintro rfl
    exact heffect

/-- So does a program that makes only calm requests. -/
theorem calmly_of_runs {program : Act α} {result : α} {s u : Surroundings}
    (hprogram : program.Every Calm) (h : Runs Serves program s result u) : Calmly s u := by
  induction h with
  | done result s => exact .refl s
  | call hserved _ ih =>
    cases hprogram with
    | call heffect hnext => exact (hserved.calmly heffect).trans (ih (hnext _))

/-- The dispatch of timeouts has nothing to do with the breaker. -/
theorem calm_requestAll (address : String) (entries : List DueTimeout) :
    (requestAll address entries).Every Calm := by
  induction entries with
  | nil => exact .done _
  | cons entry rest ih =>
    refine .call trivial fun requestId => .call trivial fun answer => ?_
    cases answer with
    | error error => exact .call trivial fun _ => .done _
    | ok _ => exact .call trivial fun _ => ih

/-- What a round may come to. -/
inductive Round.Course (text : String) (round : Round) : Prop where
  /-- No query is due. -/
  | idle (hanswers : round.answers = []) (htold : round.told = [])
      (hcriticals : round.criticals = [])
      (hearly : round.before.now < round.before.schedule.next)
      (hbreaker : round.after.breaker = round.before.breaker)
  /-- The storage fails, and the breaker is told so at a time. -/
  | failed {error : StorageError} {time : Nat} (hanswers : round.answers = [.error error])
      (htold : round.told = [time])
      (hcriticals : round.criticals
        = if (round.before.breaker.failure time).1 then [(text, error.message)] else [])
      (hbreaker : round.after.breaker = (round.before.breaker.failure time).2)
      (hdue : round.after.schedule.next ≤ round.after.now)
      (hlater : round.before.stopwatch ≤ time ∧ time ≤ round.after.stopwatch)
  /-- The storage answers, whatever becomes of the dispatches. -/
  | answered {chunk : Chunk} (hanswers : round.answers = [.ok chunk]) (htold : round.told = [])
      (hcriticals : round.criticals = [])
      (hbreaker : round.after.breaker = round.before.breaker.success)

/-- What is noted of a round is what its own requests say. -/
theorem Round.lists_eq {s u : Surroundings} {own : List Entry} (h : u.log = s.log ++ own) :
    (⟨s, u⟩ : Round).answers = own.filterMap Entry.answer? ∧
      (⟨s, u⟩ : Round).told = own.filterMap Entry.told? ∧
        (⟨s, u⟩ : Round).criticals = own.filterMap Entry.critical? := by
  have hlog : (⟨s, u⟩ : Round).log = own := by rw [Round.log, h, List.drop_left]
  rw [answers, told, criticals, hlog]
  exact ⟨rfl, rfl, rfl⟩

/-- Calm requests are not noted. -/
theorem lists_of_calm {own : List Entry} (h : ∀ entry ∈ own, Calm entry.exchange.effect) :
    own.filterMap Entry.answer? = [] ∧ own.filterMap Entry.told? = [] ∧
      own.filterMap Entry.critical? = [] := by
  simp only [List.filterMap_eq_nil_iff]
  exact ⟨fun entry hentry => (h entry hentry).entry.1,
    fun entry hentry => (h entry hentry).entry.2.1,
    fun entry hentry => (h entry hentry).entry.2.2⟩

/-- A round in which the storage has failed tells the breaker so. -/
theorem Round.course_of_storageFailed {text : String} {error : StorageError} {own : List Entry}
    {s t u : Surroundings} (hlog : t.log = s.log ++ own)
    (hanswers : own.filterMap Entry.answer? = [.error error])
    (htold : own.filterMap Entry.told? = []) (hcriticals : own.filterMap Entry.critical? = [])
    (hbreaker : t.breaker = s.breaker) (hlater : s.stopwatch ≤ t.stopwatch)
    (hdue : t.schedule.next ≤ t.now) (h : Runs Serves (storageFailed text error) t () u) :
    Round.Course text ⟨s, u⟩ := by
  obtain ⟨trips, v, hfailed, h⟩ := Runs.of_call h
  obtain ⟨hfailure, hown⟩ := breaker_of_queryFailed hfailed
  have honward := hfailed.onward nofun
  rw [hbreaker] at hfailure
  rw [hlog, List.append_assoc] at hown
  have hdue : v.schedule.next ≤ v.now := (honward.next.trans hdue).trans honward.now
  have hlater : s.stopwatch ≤ v.stopwatch := hlater.trans honward.stopwatch
  -- the failure is counted and nothing more, or it trips the breaker and is told
  cases trips with
  | false =>
    obtain ⟨-, rfl⟩ := Runs.of_done h
    obtain ⟨ha, ht, hc⟩ := Round.lists_eq hown
    rw [List.filterMap_append, hanswers] at ha
    rw [List.filterMap_append, htold] at ht
    rw [List.filterMap_append, hcriticals] at hc
    exact .failed ha ht (by rw [hc, hfailure]; rfl) (by rw [hfailure]) hdue ⟨hlater, le_rfl⟩
  | true =>
    obtain ⟨_, w, hraised, h⟩ := Runs.of_call h
    obtain ⟨-, rfl⟩ := Runs.of_done h
    obtain ⟨time, -, -, hraisedLog⟩ := hraised.log
    rw [hown, List.append_assoc, List.append_assoc] at hraisedLog
    obtain ⟨ha, ht, hc⟩ := Round.lists_eq hraisedLog
    rw [List.filterMap_append, hanswers] at ha
    rw [List.filterMap_append, htold] at ht
    rw [List.filterMap_append, hcriticals] at hc
    have honward := hraised.onward nofun
    exact .failed ha ht (by rw [hc, hfailure]; rfl)
      (by rw [hfailure]; exact hraised.breaker nofun nofun nofun)
      ((honward.next.trans hdue).trans honward.now) ⟨hlater, honward.stopwatch⟩

/-- A dispatch that fails is no failure of the storage. -/
theorem requestAll_ne_storage {address : String} {entries : List DueTimeout} {s u : Surroundings}
    {result : Except PollError Unit} (h : Runs Serves (requestAll address entries) s result u)
    (error : StorageError) : result ≠ .error (.storage error) := by
  -- by induction on what is due: a request that is refused ends with its own error
  induction entries generalizing s with
  | nil =>
    obtain ⟨rfl, -⟩ := Runs.of_done h
    exact nofun
  | cons entry rest ih =>
    obtain ⟨requestId, _, -, h⟩ := Runs.of_call h
    obtain ⟨answer, _, -, h⟩ := Runs.of_call h
    cases answer with
    | error error =>
      obtain ⟨_, _, -, h⟩ := Runs.of_call h
      obtain ⟨rfl, -⟩ := Runs.of_done h
      exact nofun
    | ok _ =>
      obtain ⟨_, _, -, h⟩ := Runs.of_call h
      exact ih h

/-- Every round takes one of the three courses. -/
theorem Round.course_of_runs {address text : String} {s u : Surroundings}
    (h : Runs Serves (Timeouts.round address text) s () u) : Round.Course text ⟨s, u⟩ := by
  obtain ⟨result, v, hspin, hrest⟩ := Runs.of_bind h
  obtain ⟨schedule, s₁, hread, hspin⟩ := Runs.of_call hspin
  obtain ⟨now, s₂, hclock, hspin⟩ := Runs.of_call hspin
  have honward : Onward s s₂ := (hread.onward nofun).trans (hclock.onward nofun)
  have hbreaker : s₂.breaker = s.breaker :=
    (hclock.breaker nofun nofun nofun).trans (hread.breaker nofun nofun nofun)
  obtain ⟨time₁, -, -, hlog₁⟩ := hread.log
  obtain ⟨time₂, -, -, hlog₂⟩ := hclock.log
  rw [hlog₁, List.append_assoc] at hlog₂
  rw [Program.done_bind] at hspin
  split at hspin
  · next hearly =>
    obtain ⟨rfl, rfl⟩ := Runs.of_done hspin
    obtain ⟨-, rfl⟩ := Runs.of_done hrest
    obtain ⟨hanswers, htold, hcriticals⟩ := Round.lists_eq hlog₂
    refine .idle hanswers htold hcriticals ?_ hbreaker
    rw [← schedule_of_readSchedule hread, ← now_of_clock hclock] at hearly
    exact (honward.now.trans_lt hearly).trans_le (hread.onward nofun).next
  · next hdue =>
    have hdue : s₂.schedule.next ≤ s₂.now := by
      rw [← schedule_of_readSchedule hread, ← now_of_clock hclock, not_lt] at hdue
      exact (hclock.onward nofun).next.trans hdue
    obtain ⟨answer, s₃, hquery, hspin⟩ := Runs.of_call hspin
    obtain ⟨time₃, -, -, hlog₃⟩ := hquery.log
    rw [hlog₂, List.append_assoc] at hlog₃
    have honward₃ := hquery.onward nofun
    have hbreaker₃ : s₃.breaker = s.breaker :=
      (hquery.breaker nofun nofun nofun).trans hbreaker
    cases answer with
    | error error =>
      obtain ⟨rfl, rfl⟩ := Runs.of_done hspin
      exact Round.course_of_storageFailed hlog₃ rfl rfl rfl hbreaker₃
        (honward.trans honward₃).stopwatch ((honward₃.next.trans hdue).trans honward₃.now) hrest
    | ok chunk =>
      obtain ⟨_, s₄, hsucceeded, hspin⟩ := Runs.of_call hspin
      obtain ⟨time₄, -, -, hlog₄⟩ := hsucceeded.log
      rw [hlog₃, List.append_assoc] at hlog₄
      have hbreaker₄ := breaker_of_querySucceeded hsucceeded
      rw [hbreaker₃] at hbreaker₄
      rw [Program.done_bind] at hspin
      obtain ⟨requested, s₅, hall, hspin⟩ := Runs.of_bind hspin
      -- the breaker is not told of anything more, whatever became of the requests
      have hrestCalm : Calmly s₅ u := by
        cases requested with
        | error error =>
          obtain ⟨rfl, rfl⟩ := Runs.of_done hspin
          cases error with
          | storage error => exact absurd rfl (requestAll_ne_storage hall error)
          | dispatch id error =>
            obtain ⟨-, rfl⟩ := Runs.of_done hrest
            exact .refl _
        | ok _ =>
          obtain ⟨later, s₆, hclock, hspin⟩ := Runs.of_call hspin
          obtain ⟨_, s₇, hchange, hspin⟩ := Runs.of_call hspin
          obtain ⟨rfl, rfl⟩ := Runs.of_done hspin
          obtain ⟨-, rfl⟩ := Runs.of_done hrest
          exact (hclock.calmly trivial).trans (hchange.calmly trivial)
      obtain ⟨hbreaker₅, own, hlog₅, hown⟩ :=
        (calmly_of_runs (calm_requestAll _ _) hall).trans hrestCalm
      rw [hlog₄, List.append_assoc] at hlog₅
      obtain ⟨hanswers, htold, hcriticals⟩ := Round.lists_eq hlog₅
      obtain ⟨hnone, hnone', hnone''⟩ := lists_of_calm hown
      rw [List.filterMap_append, hnone] at hanswers
      rw [List.filterMap_append, hnone'] at htold
      rw [List.filterMap_append, hnone''] at hcriticals
      exact .answered hanswers htold hcriticals (hbreaker₅.trans hbreaker₄)

/-! ### The breaker and the rounds so far -/

variable {address text : String} {start s t u : Surroundings} {rounds past : List Round}
  {latest : Round}

/-- The state of a breaker that was told of failures, after critical errors were raised. -/
def stateAfter : List Nat → List (String × String) → Breaker.State
  | [], _ => .disarmed
  | since :: rest, [] => .armed since (rest.length + 1)
  | _ :: _, _ :: _ => .triggered

/-- What holds between two rounds. -/
structure Inv (name : String) (wait : Span) (rounds : List Round) (s : Surroundings) : Prop where
  /-- The state of the breaker tells of the rounds since the storage last answered. -/
  breaker : s.breaker = ⟨name, wait, stateAfter (toldSince rounds) (criticalsSince rounds)⟩
  /-- It was told of no failure in the future. -/
  past : ∀ time ∈ toldSince rounds, time ≤ s.stopwatch
  /-- After a failure another query is due. -/
  due : toldSince rounds ≠ [] → s.schedule.next ≤ s.now
  /-- Critical errors come of failures. -/
  told : toldSince rounds = [] → criticalsSince rounds = []
  /-- At most one was raised. -/
  once : (criticalsSince rounds).length ≤ 1

/-- A round in which the storage answered is where one begins to count anew. -/
theorem since_of_answered (past : List Round) (h : latest.answered = true) :
    toldSince (past ++ [latest]) = [] ∧ criticalsSince (past ++ [latest]) = [] := by
  rw [toldSince, criticalsSince, sinceAnswer, List.rtakeWhile_concat_neg _ _ _ (by simp [h])]
  exact ⟨rfl, rfl⟩

/-- Any other round counts as well. -/
theorem since_of_not_answered (past : List Round) (h : latest.answered = false) :
    toldSince (past ++ [latest]) = toldSince past ++ latest.told ∧
      criticalsSince (past ++ [latest]) = criticalsSince past ++ latest.criticals := by
  rw [toldSince, criticalsSince, sinceAnswer, List.rtakeWhile_concat_pos _ _ _ (by simp [h])]
  simp [toldSince, criticalsSince, sinceAnswer]

/-- A failure triggers the breaker if it has lasted, and is counted otherwise. -/
theorem failure_stateAfter (name : String) (wait : Span) {told : List Nat}
    {criticals : List (String × String)} {time : Nat} (critical : String × String)
    (htold : told = [] → criticals = []) (hpast : ∀ since ∈ told, since ≤ time) :
    let failed := Breaker.failure ⟨name, wait, stateAfter told criticals⟩ time
    (failed.1 = true ↔ criticals = [] ∧ ∃ since, told.head? = some since ∧
      (Span.ofMillis since).nanos + wait.nanos ≤ (Span.ofMillis time).nanos) ∧
      failed.2 = ⟨name, wait, stateAfter (told ++ [time])
        (criticals ++ if failed.1 then [critical] else [])⟩ := by
  -- one case for each state of the breaker
  match told, criticals with
  | [], _ =>
    rw [htold rfl]
    exact ⟨by simp [stateAfter, Breaker.failure], rfl⟩
  | since :: rest, [] =>
    intro failed
    have hsince : since ≤ time := hpast since List.mem_cons_self
    have hwait : wait.nanos ≤ (Span.ofMillis (time - since)).nanos ↔
        (Span.ofMillis since).nanos + wait.nanos ≤ (Span.ofMillis time).nanos := by
      simp only [Span.ofMillis]
      omega
    by_cases hlasting : wait.nanos ≤ (Span.ofMillis (time - since)).nanos
    · have hfailed : failed = (true, ⟨name, wait, .triggered⟩) := if_pos hlasting
      rw [hfailed]
      exact ⟨by simpa using hwait.1 hlasting, rfl⟩
    · have hfailed : failed = (false, ⟨name, wait, .armed since (rest.length + 1 + 1)⟩) :=
        if_neg hlasting
      rw [hfailed]
      refine ⟨by simpa using hwait.not.1 hlasting, ?_⟩
      simp [stateAfter]
  | since :: rest, first :: others =>
    exact ⟨by simp [stateAfter, Breaker.failure], rfl⟩

/-- While the loop waits the invariant is kept. -/
theorem Inv.meanwhile {name : String} {wait : Span} (hinv : Inv name wait rounds s)
    (hwait : Meanwhile s t) : Inv name wait rounds t where
  breaker := hwait.breaker.trans hinv.breaker
  past time htime := (hinv.past time htime).trans hwait.stopwatch
  due htold := (hwait.next.trans (hinv.due htold)).trans hwait.now
  told := hinv.told
  once := hinv.once

/-- A disarmed breaker, since the storage last answered, was told of nothing. -/
theorem Inv.of_disarmed {name : String} {wait : Span}
    (hbreaker : s.breaker = ⟨name, wait, .disarmed⟩) (htold : toldSince rounds = [])
    (hcriticals : criticalsSince rounds = []) : Inv name wait rounds s where
  breaker := by rw [hbreaker, htold]; rfl
  past := by simp [htold]
  due := fun h => absurd htold h
  told := fun _ => hcriticals
  once := by simp [hcriticals]

/-- A round without a failure of the storage is `Judged` if the breaker is disarmed afterwards and
no critical error was raised since the storage last answered. -/
theorem Judged.of_calm {wait : Span} (hasked : latest.answers.length ≤ 1)
    (hnone : ¬ ∃ error, latest.answers = [.error error]) (htold : latest.told = [])
    (hcriticals : latest.criticals = []) (hstate : latest.after.breaker.state = .disarmed)
    (hsince : criticalsSince (past ++ [latest]) = []) : Judged text wait past latest where
  asked := hasked
  told := by simp [hnone, htold]
  other := fun _ => htold
  critical := by simp [hcriticals, htold]
  cause := by simp [hcriticals]
  once := by simp [hsince]
  calm := fun _ => ⟨hcriticals, hstate⟩

/-- What `failure_stateAfter` says about the breaker before a round. -/
theorem Inv.failure {name : String} {wait : Span} (hinv : Inv name wait past s) {time : Nat}
    (hlater : s.stopwatch ≤ time) (critical : String × String) :
    ((s.breaker.failure time).1 = true ↔ Lasting wait past time) ∧
      (s.breaker.failure time).2 = ⟨name, wait, stateAfter (toldSince past ++ [time])
        (criticalsSince past ++ if (s.breaker.failure time).1 then [critical] else [])⟩ := by
  rw [hinv.breaker]
  exact failure_stateAfter name wait critical hinv.told fun since hmem =>
    (hinv.past since hmem).trans hlater

/-- After a failure there is at most one critical error since the storage last answered: one that
was raised before keeps the failure from being `Lasting`. -/
theorem Inv.once_of_failed {name : String} {wait : Span} (hinv : Inv name wait past s)
    {raised : List (String × String)} {time : Nat} (hlength : raised.length ≤ 1)
    (hraised : raised ≠ [] ↔ Lasting wait past time) :
    (criticalsSince past ++ raised).length ≤ 1 := by
  by_cases hnone : raised = []
  · rw [hnone, List.append_nil]
    exact hinv.once
  · rw [(hraised.1 hnone).1]
    exact hlength

/-- A failure of the storage keeps the invariant, and the round is as promised. -/
theorem Inv.round_failed {name : String} {wait : Span} (hinv : Inv name wait past latest.before)
    {error : StorageError} {time : Nat} (hanswers : latest.answers = [.error error])
    (htold : latest.told = [time])
    (hcriticals : latest.criticals
      = if (latest.before.breaker.failure time).1 then [(text, error.message)] else [])
    (hbreaker : latest.after.breaker = (latest.before.breaker.failure time).2)
    (hdue : latest.after.schedule.next ≤ latest.after.now)
    (hlater : latest.before.stopwatch ≤ time ∧ time ≤ latest.after.stopwatch) :
    Judged text wait past latest ∧ Inv name wait (past ++ [latest]) latest.after := by
  have hanswered : latest.answered = false := by rw [Round.answered, hanswers]; rfl
  obtain ⟨hsince, hsince'⟩ := since_of_not_answered past hanswered
  obtain ⟨htrips, hafter⟩ := hinv.failure hlater.1 (text, error.message)
  rw [← hcriticals] at hafter
  -- what is raised is what the breaker says, and this by the invariant is when the outage lasts
  have hraised : latest.criticals ≠ [] ↔ Lasting wait past time := by
    rw [← htrips, hcriticals]
    split <;> simp_all
  have honce : (criticalsSince (past ++ [latest])).length ≤ 1 := by
    rw [hsince']
    refine hinv.once_of_failed ?_ hraised
    rw [hcriticals]
    split <;> simp
  -- the failure is told by a stopwatch that has not gone back
  have hpast : ∀ since ∈ toldSince (past ++ [latest]), since ≤ latest.after.stopwatch := by
    rw [hsince, htold]
    intro since hmem
    rcases List.mem_append.1 hmem with hmem | hmem
    · exact ((hinv.past since hmem).trans hlater.1).trans hlater.2
    · rw [List.mem_singleton.1 hmem]
      exact hlater.2
  have hcause : ∀ critical ∈ latest.criticals,
      ∃ error, latest.answers = [.error error] ∧ critical = (text, error.message) := by
    intro critical hmem
    rw [hcriticals] at hmem
    split at hmem
    · exact ⟨error, hanswers, List.mem_singleton.1 hmem⟩
    · cases hmem
  -- what the claim says of this round, and the invariant for the next
  constructor
  · exact {
      asked := by simp [hanswers]
      told := by simp [hanswers, htold]
      other := fun h => absurd ⟨error, hanswers⟩ h
      critical := by simp [htold, hraised]
      cause := hcause
      once := honce
      calm := fun h => by simp [htold] at h }
  · exact {
      breaker := by rw [hbreaker, hafter, hsince, hsince', htold]
      past := hpast
      due := fun _ => hdue
      told := fun h => by simp [hsince, htold] at h
      once := honce }

/-- A round of the loop keeps the invariant and is as promised, whatever its `Round.Course`. -/
theorem Inv.round {name : String} {wait : Span} (hinv : Inv name wait past latest.before)
    (hcourse : latest.Course text) :
    Judged text wait past latest ∧ Inv name wait (past ++ [latest]) latest.after := by
  cases hcourse with
  | idle hanswers htold hcriticals hearly hbreaker =>
    have hanswered : latest.answered = false := by rw [Round.answered, hanswers]; rfl
    obtain ⟨hsince, hsince'⟩ := since_of_not_answered past hanswered
    -- after a failure a query is due, so there was none
    have hnone : toldSince past = [] := by
      by_contra hfailed
      exact (hinv.due hfailed).not_gt hearly
    rw [htold, hnone, List.append_nil] at hsince
    rw [hcriticals, hinv.told hnone, List.append_nil] at hsince'
    have hdisarmed : latest.after.breaker = ⟨name, wait, .disarmed⟩ := by
      rw [hbreaker, hinv.breaker, hnone]
      rfl
    exact ⟨.of_calm (by simp [hanswers]) (by simp [hanswers]) htold hcriticals
      (by rw [hdisarmed]) hsince', .of_disarmed hdisarmed hsince hsince'⟩
  | failed hanswers htold hcriticals hbreaker hdue hlater =>
    exact hinv.round_failed hanswers htold hcriticals hbreaker hdue hlater
  | answered hanswers htold hcriticals hbreaker =>
    have hanswered : latest.answered = true := by rw [Round.answered, hanswers]; rfl
    obtain ⟨hsince, hsince'⟩ := since_of_answered past hanswered
    have hdisarmed : latest.after.breaker = ⟨name, wait, .disarmed⟩ := by
      rw [hbreaker, hinv.breaker]
      rfl
    exact ⟨.of_calm (by simp [hanswers]) (by simp [hanswers]) htold hcriticals
      (by rw [hdisarmed]) hsince', .of_disarmed hdisarmed hsince hsince'⟩

/-- A run of the loop keeps the invariant, and all its rounds are as promised. -/
theorem Rounds.judged {name : String} {wait : Span} (hstart : Inv name wait [] start)
    (h : Rounds address text start rounds s) :
    Inv name wait rounds s ∧
      ∀ past latest later, rounds = past ++ latest :: later → Judged text wait past latest := by
  induction h with
  | none => exact ⟨hstart, by simp⟩
  | @next rounds s t u _ hwait hround ih =>
    obtain ⟨hinv, hjudged⟩ := ih
    obtain ⟨hlatest, hafter⟩ := (hinv.meanwhile hwait).round (Round.course_of_runs hround)
    refine ⟨hafter, fun past latest later hsplit => ?_⟩
    -- the round in question is the latest one or among those before it
    rcases List.eq_nil_or_concat later with rfl | ⟨others, last, rfl⟩
    · obtain ⟨rfl, hlast⟩ := List.append_inj' hsplit rfl
      obtain rfl := List.head_eq_of_cons_eq hlast
      exact hlatest
    · rw [List.concat_eq_append, ← List.cons_append, ← List.append_assoc] at hsplit
      exact hjudged past latest others (List.append_inj' hsplit rfl).1

/-- The surroundings after a round in which the storage fails at once. -/
def Surroundings.failed (s : Surroundings) (text : String) (error : StorageError) :
    Surroundings :=
  let queried := ((s.after .readSchedule s.schedule).after .clock s.now).after
    (.nextChunk s.schedule.start) (.error error)
  let failure := s.breaker.failure s.stopwatch
  let told := { queried with breaker := failure.2 }.after .queryFailed failure.1
  if failure.1 then told.after (.raiseCritical text error.message) () else told

/-- The storage may fail in any round in which a query is due. -/
theorem Rounds.failed (hrounds : Rounds address text start rounds s) (hwait : Meanwhile s t)
    (hdue : t.schedule.next ≤ t.now) (error : StorageError) :
    Rounds address text start (rounds ++ [⟨t, t.failed text error⟩]) (t.failed text error) := by
  refine .next hrounds hwait (.call ⟨t, .refl t, .readSchedule t⟩ (.call ⟨_, .refl _, .clock _⟩ ?_))
  have hquery : ¬ (t.after .readSchedule t.schedule).now < t.schedule.next := not_lt.2 hdue
  simp only [Program.done_bind]
  rw [if_neg hquery]
  -- a query may fail at any time
  have hanswer (s : Surroundings) : Serves s (.nextChunk t.schedule.start) (.error error)
      (s.after (.nextChunk t.schedule.start) (.error error)) :=
    ⟨s, .refl s, .other s (by trivial) _⟩
  refine .call (hanswer _) (.call ⟨_, .refl _, .queryFailed _⟩ ?_)
  change Runs Serves (if (t.breaker.failure t.stopwatch).1 = true then
    Act.raiseCritical text error.message else pure ()) _ () _
  rw [Surroundings.failed]
  split
  · exact .call ⟨_, .refl _, .other _ (by trivial) ()⟩ (.done () _)
  · exact .done () _

/-- **Only lasting outages are critical, and each once.** The world answers every request of the
loop as `Serves` allows, at any time of day that is not earlier than one before. Whatever storage
and dispatcher answer, and however time passes: every round of a run of the loop is `Judged` by the
rounds before it. -/
theorem critical_once_when_lasting :
    (∀ (world : World) (effect : Effect) (now t : Instant), now ≤ t → ∀ log,
      let performed := { world with clock := t }.perform effect
      Serves (.ofWorld world now log) effect performed.1
        (.ofWorld performed.2 t (log ++ [⟨world.stopwatch, effect, performed.1⟩]))) ∧
    ∀ (address text name : String) (wait : Span) (schedule : Schedule) (now : Instant)
      (stopwatch : Nat) (past : List Round) (latest : Round) (later : List Round)
      (s : Surroundings),
      Rounds address text ⟨schedule, { name, wait }, now, stopwatch, []⟩
        (past ++ latest :: later) s →
      Judged text wait past latest := by
  refine ⟨fun world effect now t ht => serves_perform world effect ht, ?_⟩
  intro address text name wait schedule now stopwatch past latest later s h
  -- at the start nothing was told and nothing raised
  refine (h.judged (.of_disarmed rfl ?_ ?_)).2 past latest later rfl
  · simp [toldSince, sinceAnswer]
  · simp [criticalsSince, sinceAnswer]

/-- A storage that fails a second after its first failure again has been out of reach for the wait
of a breaker of a second. -/
theorem critical_after_a_second :
    let lost : StorageError := .unavailable "connection refused"
    let first : Surroundings :=
      ⟨.initial ⟨0, 0⟩, { name := "storage", wait := .ofSeconds 1 }, ⟨0, 0⟩, 0, []⟩
    let second : Surroundings := { first.failed "lost" lost with stopwatch := 1000 }
    let latest : Round := ⟨second, second.failed "lost" lost⟩
    Judged "lost" (.ofSeconds 1) [⟨first, first.failed "lost" lost⟩] latest ∧
      latest.criticals = [("lost", lost.message)] := by
  intro lost first second latest
  have hfirst : Rounds "timeouts" "lost" first [⟨first, first.failed "lost" lost⟩]
      (first.failed "lost" lost) := Rounds.none.failed (.refl first) le_rfl lost
  -- a second goes by on the stopwatch only
  have hwait : Meanwhile (first.failed "lost" lost) second :=
    ⟨rfl, rfl, le_rfl, le_rfl, Nat.zero_le _⟩
  have hdue : second.schedule.next ≤ second.now := le_refl (⟨0, 0⟩ : Instant)
  obtain ⟨-, hjudged⟩ := critical_once_when_lasting
  exact ⟨hjudged "timeouts" "lost" "storage" (.ofSeconds 1) (.initial ⟨0, 0⟩) ⟨0, 0⟩ 0
    [⟨first, first.failed "lost" lost⟩] latest [] _ (hfirst.failed hwait hdue lost), by decide⟩

end Messaging.Timeouts.Polling
