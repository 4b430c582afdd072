import Messaging.Proofs.TimeoutManager

/-!
# A timeout manager whose parts interleave freely

In `Manager.Step` a message reads the clock and is stored in one step. Here every request is a step
of its own, and which programs run next to the poller is left open.

- `Step` is one request of one of the parts, or something that happens elsewhere.
- `Step.of_satellites` says how a property of the programs beside the poller carries over.
-/

namespace Messaging.Timeouts.Manager

variable {s u : Scene}

/-! ### Requests and the schedule -/

/-- When the next query is made. -/
def Scene.next (s : Scene) : Time.Instant := s.world.site.schedule.next

/-- Whether a timeout was registered since the last query. -/
def Scene.pushed (s : Scene) : Bool := s.world.site.schedule.pushed

theorem Harmless.ne_addTimeout {effect : Effect} (h : Harmless effect) (x : Timeout) :
    effect ≠ .addTimeout x := by
  rintro rfl
  exact h

theorem Harmless.ne_changeSchedule {effect : Effect} (h : Harmless effect)
    (change : Schedule → Schedule) : effect ≠ .changeSchedule change := by
  rintro rfl
  exact h

/-- A request that does not change the schedule leaves it as it is. -/
theorem schedule_of_serves {effect : Effect} {answer : effect.Answer}
    (h : Serves s effect answer u) (heffect : ∀ change, effect ≠ .changeSchedule change) :
    u.world.site.schedule = s.world.site.schedule := by
  obtain ⟨t, -, -, hserve⟩ := h
  obtain ⟨rfl, rfl⟩ := Prod.mk.inj hserve
  have hharmless (hharmless : Harmless effect) :=
    (perform_of_harmless hharmless { s.world with clock := t }).2.2.1
  cases effect
  case changeSchedule change => exact absurd rfl (heffect change)
  case addTimeout => rfl
  case removeTimeout => rfl
  all_goals exact hharmless trivial

theorem schedule_of_changeSchedule {change : Schedule → Schedule} {answer : Unit}
    (h : Serves s (.changeSchedule change) answer u) :
    u.world.site.schedule = change s.world.site.schedule := by
  obtain ⟨t, -, -, hserve⟩ := h
  obtain ⟨rfl, rfl⟩ := Prod.mk.inj hserve
  rfl

theorem schedule_of_readSchedule {schedule : Schedule} (h : Serves s .readSchedule schedule u) :
    u.world.site.schedule = schedule := by
  obtain ⟨t, -, -, hserve⟩ := h
  obtain ⟨rfl, rfl⟩ := Prod.mk.inj hserve
  rfl

theorem now_of_clock {now : Time.Instant} (h : Serves s .clock now u) : u.now = now := by
  obtain ⟨t, -, -, hserve⟩ := h
  obtain ⟨rfl, rfl⟩ := Prod.mk.inj hserve
  rfl

namespace Interleaved

/-! ### Steps -/

/-- A step of a timeout manager, whose dispatch requests go to an address. What may begin beside the
poller is left open. -/
inductive Step (address : String) (begins : Machine → Act StageResult → Prop) :
    Machine → Machine → Prop where
  /-- A program begins. -/
  | begin {machine : Machine} {program : Act StageResult} (hbegins : begins machine program) :
      Step address begins machine { machine with satellites := program :: machine.satellites }
  /-- One of the programs goes on. -/
  | goOn {machine : Machine} {earlier later : List (Act StageResult)} {effect : Effect}
      {next : effect.Answer → Act StageResult} {answer : effect.Answer} {scene : Scene}
      (hsatellites : machine.satellites
        = earlier ++ Program.call (S := Effect.signature) effect next :: later)
      (hserved : Serves machine.scene effect answer scene) :
      Step address begins machine
        { machine with scene, satellites := earlier ++ next answer :: later }
  /-- One of the programs is done with. -/
  | finish {machine : Machine} {earlier later : List (Act StageResult)} {result : StageResult}
      (hsatellites : machine.satellites = earlier ++ .done result :: later) :
      Step address begins machine { machine with satellites := earlier ++ later }
  /-- A spin begins after the last one has ended. -/
  | spin {machine : Machine} (hspin : machine.spin = none) :
      Step address begins machine { machine with spin := some (spin address) }
  /-- The spin goes on. -/
  | poll {machine : Machine} {effect : Effect}
      {next : effect.Answer → Act (Except PollError Unit)} {answer : effect.Answer} {scene : Scene}
      (hspin : machine.spin = some (Program.call (S := Effect.signature) effect next))
      (hserved : Serves machine.scene effect answer scene) :
      Step address begins machine { machine with scene, spin := some (next answer) }
  /-- The spin ends. -/
  | rest {machine : Machine} {result : Except PollError Unit}
      (hspin : machine.spin = some (.done result)) :
      Step address begins machine { machine with spin := none }
  /-- The dispatcher changes, and whatever else is none of the timeout manager's business. -/
  | elsewhere {machine : Machine} {world : World}
      (hstorage : world.site.storage = machine.scene.world.site.storage)
      (hschedule : world.site.schedule = machine.scene.world.site.schedule)
      (hids : machine.scene.world.ids ≤ world.ids) :
      Step address begins machine { machine with scene := { machine.scene with world } }

variable {address : String} {begins : Machine → Act StageResult → Prop} {machine machine' : Machine}
  {α : Type}

/-- Of several programs one has become another. -/
theorem mem_replaced (before : Act α) {earlier later : List (Act α)} {after program : Act α}
    (h : program ∈ earlier ++ after :: later) :
    program = after ∨ program ∈ earlier ++ before :: later := by
  simp only [List.mem_append, List.mem_cons] at h ⊢
  rcases h with h | h | h
  · exact .inr (.inl h)
  · exact .inl h
  · exact .inr (.inr (.inr h))

/-- What holds of the programs that begin, and of what is left of a program after each answer, holds
of all programs beside the poller. -/
theorem Step.of_satellites {P : Act StageResult → Prop}
    (hbegins : ∀ program, begins machine program → P program)
    (hnext : ∀ (effect : Effect) (next : effect.Answer → Act StageResult) (answer : effect.Answer),
      P (Program.call (S := Effect.signature) effect next) → P (next answer))
    (hstep : Step address begins machine machine') (h : ∀ program ∈ machine.satellites, P program) :
    ∀ program ∈ machine'.satellites, P program := by
  intro program hprogram
  cases hstep with
  | begin hbegin =>
    rcases List.mem_cons.1 hprogram with rfl | hmem
    · exact hbegins _ hbegin
    · exact h program hmem
  | goOn hsatellites =>
    rw [hsatellites] at h
    rcases mem_replaced _ hprogram with rfl | hmem
    · exact hnext _ _ _ (h _ (by simp))
    · exact h program hmem
  | finish hsatellites =>
    rw [hsatellites] at h
    refine h program ?_
    rcases List.mem_append.1 hprogram with hmem | hmem
    · simp [hmem]
    · simp [hmem]
  | _ => exact h program hprogram

end Interleaved

end Messaging.Timeouts.Manager
