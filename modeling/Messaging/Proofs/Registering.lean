import Messaging.Proofs.Interleaving

/-!
# Programs that register what they store

A program that adds a timeout to the storage tells the poller next when it is due. Between the two
anything may happen.

- `Registers` is what the programs beside the poller keep to: every timeout that is added is
  registered next, and the schedule is changed in no other way. `Begins` lists such programs.
- `View` is a scene with the due times that are yet to be registered, and `Beside` is what such
  programs do to it, as `beside_goOn` says.
-/

namespace Messaging.Timeouts.Manager.Interleaved

open Time (Instant)

variable {α : Type}

/-! ### Registrations -/

/-- Adds a timeout to the storage and has the poller know of it. -/
def enrol (x : Timeout) : Act StageResult := do
  match ← Act.ask (.addTimeout x) with
  | .error error => pure (.error (.storage error))
  | .ok () => do
    Act.ask (.changeSchedule (registered x.due))
    pure (.ok .completed)

/-- The due time that is to be registered after a request. -/
def owedAfter : (effect : Effect) → effect.Answer → Option Instant
  | .addTimeout x, .ok () => some x.due
  | _, _ => none

/-- The requests that may be made while a due time is to be registered, or none is. -/
def Proper (owed : Option Instant) (effect : Effect) : Prop :=
  match owed, effect with
  | some due, .changeSchedule change => change = registered due
  | some _, _ => False
  | none, .changeSchedule _ => False
  | none, _ => True

/-- A program registers every timeout right after its addition, and does nothing else to the
schedule of queries. It may begin with the registration of a due time. -/
def Registers : Option Instant → Act α → Prop
  | owed, .done _ => owed = none
  | owed, .panic _ => owed = none
  | owed, .call effect next =>
    Proper owed effect ∧ ∀ answer, Registers (owedAfter effect answer) (next answer)

theorem registers_enrol (x : Timeout) : Registers none (enrol x) := by
  refine ⟨trivial, fun answer => ?_⟩
  cases answer with
  | error error => rfl
  | ok _ => exact ⟨rfl, fun _ => rfl⟩

/-- A message that is stored is registered. -/
theorem registers_store (owner : String) (message : Message) :
    Registers none (store owner message) := by
  unfold store
  split
  · rfl
  · refine ⟨trivial, fun now => ?_⟩
    simp only [Program.done_bind]
    split
    · refine ⟨trivial, fun answer => ?_⟩
      cases answer <;> rfl
    · refine ⟨trivial, fun id => ⟨trivial, fun answer => ?_⟩⟩
      cases answer with
      | error error => rfl
      | ok _ => exact ⟨rfl, fun _ => rfl⟩

theorem registers_dispatchStored (isolated : Bool) (request : Message) :
    Registers none (dispatchStored isolated request) := by
  unfold dispatchStored
  split
  · rfl
  · refine ⟨trivial, fun answer => ?_⟩
    -- nothing is added on any of the ways through
    match answer with
    | .error error => rfl
    | .ok none => rfl
    | .ok (some timeout) =>
      refine ⟨trivial, fun now => ⟨trivial, fun answer => ?_⟩⟩
      match answer with
      | .error error => rfl
      | .ok _ =>
        refine ⟨trivial, fun answer => ?_⟩
        match answer with
        | .error error => rfl
        | .ok true => rfl
        | .ok false => rfl

/-- What may begin beside the poller: a message arrives that is to be stored, a request arrives to
send a stored message on, or somebody adds a timeout. -/
inductive Begins : Machine → Act StageResult → Prop where
  /-- A message arrives that is to be stored. -/
  | store (machine : Machine) (owner : String) (message : Message) :
      Begins machine (store owner message)
  /-- A request arrives to send a stored message on. -/
  | dispatch (machine : Machine) (isolated : Bool) (request : Message) :
      Begins machine (dispatchStored isolated request)
  /-- A timeout is added. -/
  | enrol (machine : Machine) (x : Timeout) : Begins machine (enrol x)

/-- What begins beside the poller registers what it adds. -/
theorem Begins.registers {machine : Machine} {program : Act StageResult}
    (h : Begins machine program) : Registers none program := by
  cases h with
  | store owner message => exact registers_store owner message
  | dispatch isolated request => exact registers_dispatchStored isolated request
  | enrol x => exact registers_enrol x

/-! ### Views -/

/-- A scene with the due times that are yet to be registered. -/
structure View where
  /-- The scene. -/
  scene : Scene
  /-- Whether a timeout with a due time was added and is yet to be registered. -/
  owed : Instant → Prop

/-- A query is planned for a due time, and the poller keeps to it. -/
def Noted (s : Scene) (due : Instant) : Prop := s.pushed = true ∧ s.next ≤ due

/-- What the programs beside the poller do to a view. -/
structure Beside (v w : View) : Prop where
  /-- The storage answers queries itself. -/
  honest : w.scene.Honest
  /-- Time does not go back. -/
  now : v.scene.now ≤ w.scene.now
  /-- The start of queries stays. -/
  start : w.scene.start = v.scene.start
  /-- The next query is not put off. -/
  next : w.scene.next ≤ v.scene.next
  /-- What the poller was told is not forgotten. -/
  pushed : v.scene.pushed = true → w.scene.pushed = true
  /-- A stored timeout is to be registered, or was, or it was stored before. -/
  stored : ∀ id x, w.scene.stored? id = some x →
    w.owed x.due ∨ Noted w.scene x.due ∨ v.scene.stored? id = some x ∧ ¬ v.owed x.due

variable {u v w : View}

theorem Beside.noted (h : Beside v w) {due : Instant} (hnoted : Noted v.scene due) :
    Noted w.scene due :=
  ⟨h.pushed hnoted.1, h.next.trans hnoted.2⟩

theorem Beside.trans (huv : Beside u v) (hvw : Beside v w) : Beside u w where
  honest := hvw.honest
  now := huv.now.trans hvw.now
  start := hvw.start.trans huv.start
  next := hvw.next.trans huv.next
  pushed h := hvw.pushed (huv.pushed h)
  stored id x hx := by
    rcases hvw.stored id x hx with howed | hnoted | ⟨hx, hfree⟩
    · exact .inl howed
    · exact .inr (.inl hnoted)
    · rcases huv.stored id x hx with howed | hnoted | hbefore
      · exact absurd howed hfree
      · exact .inr (.inl (hvw.noted hnoted))
      · exact .inr (.inr hbefore)

section Requests

variable {s u : Scene} {owed owed' : Instant → Prop}

/-- Nothing that matters to the poller happens while the schedule stays, nothing is stored and no
registration is left out. -/
theorem Beside.of_schedule_eq (hhonest : u.Honest) (hnow : s.now ≤ u.now)
    (hschedule : u.world.site.schedule = s.world.site.schedule)
    (hstored : ∀ id x, u.stored? id = some x → s.stored? id = some x)
    (howed : ∀ due, owed due → owed' due) : Beside ⟨s, owed⟩ ⟨u, owed'⟩ where
  honest := hhonest
  now := hnow
  start := congrArg Schedule.start hschedule
  next := (congrArg Schedule.next hschedule).le
  pushed h := (congrArg Schedule.pushed hschedule).trans h
  stored id x hx := by
    by_cases h : owed x.due
    · exact .inl (howed _ h)
    · exact .inr (.inr ⟨hstored id x hx, h⟩)

/-- A request that neither adds a timeout nor changes the schedule does nothing that matters to the
poller. -/
theorem Beside.of_serves {effect : Effect} {answer : effect.Answer}
    (hserved : Serves s effect answer u) (hadds : ∀ x, effect ≠ .addTimeout x)
    (hchanges : ∀ change, effect ≠ .changeSchedule change) (hs : s.Honest)
    (howed : ∀ due, owed due → owed' due) : Beside ⟨s, owed⟩ ⟨u, owed'⟩ :=
  .of_schedule_eq (honest_of_serves hserved hs) hserved.now.1
    (schedule_of_serves hserved hchanges) (fun _ _ => stored_of_serves hserved hadds) howed

/-- An addition is beside the poller when the due time of what was added is to be registered. -/
theorem Beside.of_addTimeout {x : Timeout} {answer : Except StorageError Unit}
    (hserved : Serves s (.addTimeout x) answer u) (hs : s.Honest)
    (howed : ∀ due, owed due → owed' due) (hself : answer = .ok () → owed' x.due) :
    Beside ⟨s, owed⟩ ⟨u, owed'⟩ := by
  have hhonest := honest_of_serves hserved hs
  have hschedule := schedule_of_serves hserved (by simp)
  -- the storage refuses the timeout, or it holds one more that is owed
  rcases (addTimeout_stored hserved).1 with ⟨-, hsame⟩ | ⟨hanswer, hadded⟩
  · exact .of_schedule_eq hhonest hserved.now.1 hschedule (fun id y hy => hsame id ▸ hy) howed
  · refine ⟨hhonest, hserved.now.1, congrArg Schedule.start hschedule,
      (congrArg Schedule.next hschedule).le, (congrArg Schedule.pushed hschedule).trans,
      fun id y hy => ?_⟩
    rw [hadded] at hy
    split at hy
    · cases hy
      exact .inl (hself hanswer)
    · by_cases h : owed y.due
      · exact .inl (howed _ h)
      · exact .inr (.inr ⟨hy, h⟩)

/-- A due time that is registered is noted. -/
theorem noted_of_registration {due : Instant} {answer : Unit}
    (hserved : Serves s (.changeSchedule (registered due)) answer u) :
    Noted u due ∧ u.next ≤ s.next ∧ u.start = s.start := by
  have hschedule := schedule_of_changeSchedule hserved
  have hnext : u.next = Min.min s.next due := by
    rw [← Instant.min_eq, Scene.next, hschedule]
    rfl
  refine ⟨⟨?_, hnext.trans_le (min_le_right _ _)⟩, hnext.trans_le (min_le_left _ _), ?_⟩
  · rw [Scene.pushed, hschedule]
    rfl
  · rw [Scene.start, hschedule]
    rfl

/-- A registration is beside the poller. -/
theorem Beside.of_registration {due : Instant} {answer : Unit}
    (hserved : Serves s (.changeSchedule (registered due)) answer u) (hs : s.Honest)
    (howed : ∀ other, owed other → other = due ∨ owed' other) : Beside ⟨s, owed⟩ ⟨u, owed'⟩ := by
  obtain ⟨hnoted, hnext, hstart⟩ := noted_of_registration hserved
  refine ⟨honest_of_serves hserved hs, hserved.now.1, hstart, hnext, fun _ => hnoted.1,
    fun id x hx => ?_⟩
  rw [(kept_of_changeSchedule hserved).1.stored] at hx
  by_cases h : owed x.due
  · rcases howed _ h with hdue | howed
    · exact .inr (.inl (hdue ▸ hnoted))
    · exact .inl howed
  · exact .inr (.inr ⟨hx, h⟩)

end Requests

theorem registered_injective {due due' : Instant} (h : registered due = registered due') :
    due = due' := by
  have hnext := congrArg (fun change => (change ⟨Max.max due due', due, false⟩).next) h
  simpa [registered, Instant.min_eq] using hnext

/-- Due times that are yet to be registered by some programs. -/
def Owed (programs : List (Act StageResult)) (due : Instant) : Prop :=
  ∃ program ∈ programs, Registers (some due) program

/-- What is yet to be registered is so by the program that goes on, or stays so. -/
theorem owed_replaced {earlier later : List (Act StageResult)} {before after : Act StageResult}
    {due : Instant} (h : Owed (earlier ++ before :: later) due) :
    Registers (some due) before ∨ Owed (earlier ++ after :: later) due := by
  obtain ⟨program, hprogram, hregisters⟩ := h
  rcases mem_replaced after hprogram with rfl | hmem
  · exact .inl hregisters
  · exact .inr ⟨program, hmem, hregisters⟩

/-- The view of the poller. -/
def viewOf (machine : Machine) : View := ⟨machine.scene, Owed machine.satellites⟩

/-- A program that registers what it adds is beside the poller with each request. -/
theorem beside_goOn {machine : Machine} {earlier later : List (Act StageResult)} {effect : Effect}
    {next : effect.Answer → Act StageResult} {answer : effect.Answer} {scene : Scene}
    {owed : Option Instant} (hhonest : machine.scene.Honest)
    (hsatellites : machine.satellites
      = earlier ++ Program.call (S := Effect.signature) effect next :: later)
    (hregisters : Registers owed (Program.call (S := Effect.signature) effect next))
    (hserved : Serves machine.scene effect answer scene) :
    Beside (viewOf machine) ⟨scene, Owed (earlier ++ next answer :: later)⟩ := by
  obtain ⟨hproper, hnext⟩ := hregisters
  have howed (due : Instant) (h : (viewOf machine).owed due) :
      Proper (some due) effect ∨ Owed (earlier ++ next answer :: later) due := by
    rw [viewOf, hsatellites] at h
    exact (owed_replaced h).imp_left And.left
  cases owed with
  | some due =>
    -- the registration of what was added before
    cases effect
    case changeSchedule change =>
      cases hproper
      exact .of_registration hserved hhonest fun other h =>
        (howed other h).imp_left fun h => (registered_injective h).symm
    all_goals exact hproper.elim
  | none =>
    -- nothing is to be registered by this program, so that what is stays to be registered
    cases effect
    case changeSchedule => exact hproper.elim
    case addTimeout x =>
      refine .of_addTimeout hserved hhonest
        (fun due h => (howed due h).resolve_left id) ?_
      rintro rfl
      exact ⟨_, by simp, hnext (.ok ())⟩
    all_goals
      exact .of_serves hserved nofun nofun hhonest fun due h => (howed due h).resolve_left id

end Messaging.Timeouts.Manager.Interleaved
