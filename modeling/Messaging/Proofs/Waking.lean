import Mathlib.Logic.Relation
import Messaging.Proofs.Registering

/-!
# The poller never oversleeps

Timeouts are added to the storage, the poller is told of each after its addition, and in between
anything may happen, a whole spin of the poller included.

- `Awake` is what holds of a view between two spins: the next query is made before any timeout is
  due that it may find. `Alert` is what holds from the answer to a query until the schedule is
  planned anew, and `spin_awake` goes through a spin.
- `PlansLast` says that a spin touches the plan once, in its last request, and puts no query off
  once a timeout was registered.
- `Inv` is the invariant of a timeout manager, and `never_oversleeps` is the result.
-/

namespace Messaging.Timeouts.Manager.Interleaved

open Time (Instant Span)
open Relation (ReflTransGen)

variable {address : String} {α : Type} {u v w : View}

/-! ### The next query of an answer -/

/-- The earliest of some instants is none of them only if there are none, and is not later than
any. -/
theorem earliest?_le {t : Instant} {ts : List Instant} (ht : t ∈ ts) :
    ∃ u, TimeoutStore.earliest? ts = some u ∧ u ≤ t := by
  induction ts with
  | nil => cases ht
  | cons first rest ih =>
    rw [TimeoutStore.earliest?]
    -- the earliest of all is no later than the head nor than that of the rest
    rcases List.mem_cons.1 ht with rfl | hrest
    · split
      · next u _ =>
        refine ⟨_, rfl, ?_⟩
        rw [Instant.min_eq]
        exact min_le_left _ _
      · exact ⟨_, rfl, le_rfl⟩
    · obtain ⟨u, hu, hle⟩ := ih hrest
      rw [hu]
      refine ⟨_, rfl, ?_⟩
      rw [Instant.min_eq]
      exact (min_le_right _ _).trans hle

/-- The next query is made before a stored timeout is due that is not due yet. -/
theorem nextChunk_next_le {store : TimeoutStore} {start now : Instant} {x : Timeout}
    (hx : x ∈ store.toList) (hdue : now < x.due) : (store.nextChunk start now).next ≤ x.due := by
  have hwaiting : x.due ∈ (store.toList.filter fun y => now < y.due).map (·.due) :=
    List.mem_map_of_mem (List.mem_filter.2 ⟨hx, decide_eq_true hdue⟩)
  obtain ⟨u, hu, hle⟩ := earliest?_le hwaiting
  rw [TimeoutStore.nextChunk, hu]
  exact hle

/-! ### A spin of the poller -/

/-- The next query is made before any stored timeout is due that it may find, unless it is to be
made at once, or the poller is yet to be told. -/
def Awake (v : View) : Prop :=
  ∀ id x, v.scene.stored? id = some x → v.scene.start < x.due →
    v.owed x.due ∨ v.scene.next ≤ Max.max v.scene.now x.due

/-- The next query is to be made at once. -/
def Early (v : View) : Prop := v.scene.next ≤ v.scene.now

/-- A query was answered with a time for the next one. Any stored timeout that a query may find is
yet to be requested, or due no earlier than that time, or the poller was told of it or is yet to
be. -/
structure Alert (rest : List DueTimeout) (next : Instant) (v : View) : Prop where
  /-- The schedule is as it was before the query, or a query is to be made even earlier. -/
  early : Early v
  /-- Every stored timeout is accounted for. -/
  stored : ∀ id x, v.scene.stored? id = some x → v.scene.start < x.due →
    v.owed x.due ∨ (∃ entry ∈ rest, entry.due = x.due) ∨ next ≤ x.due ∨ Noted v.scene x.due

theorem Early.beside (h : Early v) (hstep : Beside v w) : Early w :=
  (hstep.next.trans h).trans hstep.now

/-- A poller that is to make a query at once does not oversleep. -/
theorem Early.awake (h : Early v) : Awake v := fun _ _ _ _ => .inr (h.trans (le_max_left _ _))

theorem Awake.beside (h : Awake v) (hstep : Beside v w) : Awake w := by
  intro id x hx hstart
  rcases hstep.stored id x hx with howed | hnoted | ⟨hx, hfree⟩
  · exact .inl howed
  · exact .inr (hnoted.2.trans (le_max_right _ _))
  · rw [hstep.start] at hstart
    have hle := (h id x hx hstart).resolve_left hfree
    exact .inr ((hstep.next.trans hle).trans (max_le_max hstep.now le_rfl))

variable {rest : List DueTimeout} {next : Instant}

theorem Alert.beside (h : Alert rest next v) (hstep : Beside v w) : Alert rest next w where
  early := h.early.beside hstep
  stored id x hx hstart := by
    rcases hstep.stored id x hx with howed | hnoted | ⟨hx, hfree⟩
    · exact .inl howed
    · exact .inr (.inr (.inr hnoted))
    · rw [hstep.start] at hstart
      have hbefore := (h.stored id x hx hstart).resolve_left hfree
      exact .inr (hbefore.imp_right (Or.imp_right hstep.noted))

/-- The contract of the poller: others register what they add. -/
def pollerContract : Contract View where
  serves v effect answer w := Serves v.scene effect answer w.scene ∧ w.owed = v.owed
  rely := Beside
  guarantee _ w := w.scene.Honest

/-- A harmless request, and what follows it, keeps to the contract. -/
theorem assured_of_harmless {post : Except Panic α → View → Prop} (effect : Effect)
    {next : effect.Answer → Act α} {P : View → Prop} (heffect : Harmless effect)
    (hP : ∀ {v w}, P v → Beside v w → P w) (hv : P v)
    (hnext : ∀ u answer w, P u → Serves u.scene effect answer w.scene → P w →
      w.scene.Honest → Assured pollerContract post (next answer) w) :
    Assured pollerContract post (Program.call (S := Effect.signature) effect next) v := by
  rintro u hrely answer w ⟨hserved, howed⟩
  have hbeside : Beside u w :=
    .of_serves hserved heffect.ne_addTimeout heffect.ne_changeSchedule hrely.honest
      (by simp [howed])
  exact ⟨hbeside.honest, hnext u answer w (hP hv hrely) hserved (hP (hP hv hrely) hbeside)
    hbeside.honest⟩

/-- After the request of a timeout the others are yet to be requested. -/
theorem Alert.requested {entry : DueTimeout} {answer : Unit} (h : Alert (entry :: rest) next v)
    (hserved : Serves v.scene (.changeSchedule (requested entry.due)) answer w.scene)
    (howed : w.owed = v.owed) : Alert rest next w := by
  have hschedule := schedule_of_changeSchedule hserved
  have hnext : w.scene.next = v.scene.next := by
    rw [Scene.next, hschedule]
    rfl
  have hpushed : w.scene.pushed = v.scene.pushed := by
    rw [Scene.pushed, hschedule]
    rfl
  have hstart : w.scene.start = Max.max v.scene.start entry.due := by
    rw [← Instant.max_eq, Scene.start, hschedule]
    rfl
  refine ⟨(hnext.trans_le h.early).trans hserved.now.1, fun id x hx hdue => ?_⟩
  rw [(kept_of_changeSchedule hserved).1.stored] at hx
  rw [hstart, max_lt_iff] at hdue
  rw [howed, Noted, hpushed, hnext]
  refine (h.stored id x hx hdue.1).imp_right (Or.imp_left ?_)
  rintro ⟨other, hother, heq⟩
  rcases List.mem_cons.1 hother with rfl | hother
  -- queries start behind what was requested
  · exact absurd heq hdue.2.ne
  · exact ⟨other, hother, heq⟩

/-- The answer of a query accounts for what is stored. -/
theorem alert_of_nextChunk {answer : Except StorageError Chunk} (hv : Early v)
    (hserved : Serves v.scene (.nextChunk v.scene.start) answer w.scene) :
    Alert (v.scene.world.site.storage.store.nextChunk v.scene.start w.scene.now).due
      (v.scene.world.site.storage.store.nextChunk v.scene.start w.scene.now).next w := by
  obtain ⟨hkept, hstart⟩ := kept_of_serves hserved trivial
  have hnext : w.scene.next = v.scene.next :=
    congrArg Schedule.next (schedule_of_serves hserved (by simp))
  refine ⟨(hnext.trans_le hv).trans hserved.now.1, fun id x hx hdue => .inr ?_⟩
  rw [hkept.stored] at hx
  rw [hstart] at hdue
  have hmem : x ∈ v.scene.world.site.storage.store.toList := TimeoutStore.mem_toList.2 ⟨id, hx⟩
  by_cases hq : x.due ≤ w.scene.now
  · exact .inl ⟨⟨x.id, x.due⟩, mem_nextChunk.2 ⟨x, hmem, hdue, hq, rfl⟩, rfl⟩
  · exact .inr (.inl (nextChunk_next_le hmem (not_le.1 hq)))

/-- What a poller plans is no later than the answer of the query says, and no later than what it was
told meanwhile. -/
theorem planned_next_le (next latest : Instant) (schedule : Schedule) :
    (planned next latest schedule).next ≤ next ∧
      (schedule.pushed = true → (planned next latest schedule).next ≤ schedule.next) := by
  simp only [planned, Instant.min_eq, min_le_iff]
  by_cases hpushed : schedule.pushed = true
  · by_cases hlt : next < schedule.next
    · simp [hlt, hlt.le]
    · simp [hpushed, hlt, not_lt.1 hlt]
  · simp [hpushed]

/-- With nothing left to request the next query may be planned. -/
theorem Alert.planned {latest : Instant} {answer : Unit} (h : Alert [] next v)
    (hserved : Serves v.scene (.changeSchedule (planned next latest)) answer w.scene)
    (howed : w.owed = v.owed) : Awake w := by
  have hschedule := schedule_of_changeSchedule hserved
  obtain ⟨hle, hpushed⟩ := planned_next_le next latest v.scene.world.site.schedule
  rw [← hschedule] at hle hpushed
  have hstart : w.scene.start = v.scene.start := by
    rw [Scene.start, hschedule]
    rfl
  intro id x hx hdue
  rw [(kept_of_changeSchedule hserved).1.stored] at hx
  rw [hstart] at hdue
  rw [howed]
  -- a timeout is owed already, or the plan is no later than it asks for
  rcases h.stored id x hx hdue with howed | ⟨entry, hentry, -⟩ | hnext | hnoted
  · exact .inl howed
  · exact absurd hentry List.not_mem_nil
  · exact .inr ((hle.trans hnext).trans (le_max_right _ _))
  · exact .inr (((hpushed hnoted.1).trans hnoted.2).trans (le_max_right _ _))

/-- The promise of the requests for a chunk: either all were made, or the next query is to be made
at once. -/
def Requesting (next : Instant) (result : Except Panic (Except PollError Unit)) (v : View) : Prop :=
  match result with
  | .ok (.ok _) => Alert [] next v
  | _ => Early v

/-- The poller keeps to its contract while it requests the timeouts of a chunk. -/
theorem requestAll_alert {entries : List DueTimeout} (hv : Alert entries next v) :
    Assured pollerContract (Requesting next) (requestAll address entries) v := by
  induction entries generalizing v with
  | nil => exact hv
  | cons entry rest ih =>
    have hP {v w : View} (h : Alert (entry :: rest) next v) (hstep : Beside v w) :
        Alert (entry :: rest) next w := h.beside hstep
    -- an id, a request, a change of the schedule; others go on in between
    refine assured_of_harmless .freshId trivial hP hv fun _ requestId v _ _ hv _ => ?_
    refine assured_of_harmless (.dispatch _) trivial hP hv fun _ answer v _ _ hv _ => ?_
    cases answer with
    | error error =>
      rintro u hrely _ w ⟨hserved, -⟩
      have hnext : w.scene.next = u.scene.next := by
        rw [Scene.next, schedule_of_changeSchedule hserved]
        rfl
      exact ⟨honest_of_serves hserved hrely.honest,
        (hnext.trans_le (hv.beside hrely).early).trans hserved.now.1⟩
    | ok _ =>
      rintro u hrely _ w ⟨hserved, howed⟩
      exact ⟨honest_of_serves hserved hrely.honest,
        ih ((hv.beside hrely).requested hserved howed)⟩

/-- A spin has read the schedule, and others may have pulled the next query forward since. -/
structure Informed (schedule : Schedule) (v : View) : Prop where
  /-- The poller does not oversleep. -/
  awake : Awake v
  /-- The next query is not put off. -/
  next : v.scene.next ≤ schedule.next
  /-- The start of queries stays. -/
  start : v.scene.start = schedule.start

theorem Informed.beside {schedule : Schedule} (h : Informed schedule v) (hstep : Beside v w) :
    Informed schedule w :=
  ⟨h.awake.beside hstep, hstep.next.trans h.next, hstep.start.trans h.start⟩

/-- The promise of a spin: the poller does not oversleep after it. -/
def spinPost (_ : Except Panic α) (v : View) : Prop := Awake v

/-- A poller that does not oversleep does not do so after a spin either. -/
theorem spin_awake (hv : Awake v) : Assured pollerContract spinPost (spin address) v := by
  refine assured_of_harmless .readSchedule trivial Awake.beside hv
    fun u schedule w hu hserved hw _ => ?_
  have hread : Informed schedule w := by
    have hschedule := schedule_of_readSchedule hserved
    exact ⟨hw, (congrArg Schedule.next hschedule).le, congrArg Schedule.start hschedule⟩
  refine assured_of_harmless .clock trivial Informed.beside hread fun u now w _ hclock hw _ => ?_
  rw [Program.done_bind]
  split
  · exact hw.awake
  · next hdue =>
    have hearly : Early w :=
      (hw.next.trans (not_lt.1 hdue)).trans (now_of_clock hclock).ge
    rintro u hrely answer w' ⟨hserved, howed⟩
    refine ⟨honest_of_serves hserved hrely.honest, ?_⟩
    rw [← (hw.beside hrely).start] at hserved
    -- a query that failed leaves the plan as it is: it is due still
    rcases nextChunk_answer hrely.honest hserved with ⟨error, rfl⟩ | rfl
    · have hbeside : Beside u w' := .of_serves hserved nofun nofun hrely.honest (by simp [howed])
      exact ((hearly.beside hrely).beside hbeside).awake
    · have halert := alert_of_nextChunk (hearly.beside hrely) hserved
      refine assured_of_harmless .querySucceeded trivial Alert.beside halert
        fun _ _ v _ _ hv _ => ?_
      rw [Program.done_bind]
      refine Assured.bind ((requestAll_alert hv).imp fun result v hv => ?_)
      match result with
      | .error payload => exact Early.awake hv
      | .ok (.error error) => exact Early.awake hv
      | .ok (.ok _) =>
        refine assured_of_harmless .clock trivial Alert.beside hv fun _ now v _ _ hv _ => ?_
        rintro u hrely _ w ⟨hserved, howed⟩
        exact ⟨honest_of_serves hserved hrely.honest, (hv.beside hrely).planned hserved howed⟩

/-! ### What a spin does to the plan -/

/-- A change of the schedule that does not touch the next query. -/
def Neutral (change : Schedule → Schedule) : Prop :=
  ∀ schedule, (change schedule).next = schedule.next ∧ (change schedule).pushed = schedule.pushed

/-- A change of the schedule that does not put the next query off once a timeout was registered. -/
def Prompt (change : Schedule → Schedule) : Prop :=
  ∀ schedule, schedule.pushed = true → (change schedule).next ≤ schedule.next

/-- A program plans the next query at most once and then ends, and it does not put it off once a
timeout was registered. -/
def PlansLast : Act α → Prop
  | .done _ => True
  | .panic _ => True
  | .call effect next =>
    (∀ change, effect = .changeSchedule change →
      Neutral change ∨ Prompt change ∧ ∀ answer, ∃ result, next answer = .done result) ∧
    ∀ answer, PlansLast (next answer)

theorem plansLast_requestAll {β : Type} {f : Except PollError Unit → Act β}
    (hf : ∀ result, PlansLast (f result)) (entries : List DueTimeout) :
    PlansLast ((requestAll address entries).bind f) := by
  induction entries with
  | nil => exact hf _
  | cons entry rest ih =>
    refine ⟨nofun, fun requestId => ⟨nofun, fun answer => ?_⟩⟩
    cases answer with
    | error error =>
      refine ⟨?_, fun _ => hf _⟩
      -- the change of the schedule after a refusal leaves the time of the next query
      rintro _ ⟨⟩
      exact .inl fun _ => ⟨rfl, rfl⟩
    | ok _ =>
      refine ⟨?_, fun _ => ih⟩
      rintro _ ⟨⟩
      exact .inl fun _ => ⟨rfl, rfl⟩

/-- A spin plans the next query last. -/
theorem plansLast_spin : PlansLast (spin address) := by
  refine ⟨nofun, fun schedule => ⟨nofun, fun now => ?_⟩⟩
  simp only [Program.done_bind]
  split
  · trivial
  · refine ⟨nofun, fun answer => ?_⟩
    match answer with
    | .error error => trivial
    | .ok chunk =>
      refine ⟨nofun, fun _ => plansLast_requestAll (fun result => ?_) chunk.due⟩
      match result with
      | .error error => trivial
      | .ok _ =>
        refine ⟨nofun, fun now => ⟨?_, fun _ => trivial⟩⟩
        rintro _ ⟨⟩
        exact .inr ⟨fun schedule => (planned_next_le _ _ schedule).2, fun _ => ⟨_, rfl⟩⟩

/-! ### The machine -/

/-- The timeout managers that come about from one whose poller is to make its first query at
once. -/
inductive Reachable (address : String) : Machine → Prop where
  /-- The poller is new. -/
  | initial {world : World} {now : Instant}
      (hscripted : ∀ call, world.site.storage.scripted call = none)
      (hnext : world.site.schedule.next ≤ now) : Reachable address { scene := { world, now } }
  /-- One step more. -/
  | step {machine machine' : Machine} (hreach : Reachable address machine)
      (hstep : Step address Begins machine machine') : Reachable address machine'

/-- A timeout was added whose registration is the next thing to happen to it. -/
def Registering (machine : Machine) : Prop :=
  ∃ change next, Program.call (S := Effect.signature) (.changeSchedule change) next ∈
    machine.satellites

/-- A step that registers a due time. -/
inductive Registration (due : Instant) : Machine → Machine → Prop where
  /-- One of the programs goes on with the registration. -/
  | mk {machine : Machine} {earlier later : List (Act StageResult)} {next : Unit → Act StageResult}
      {scene : Scene}
      (hsatellites : machine.satellites = earlier ++
        Program.call (S := Effect.signature) (.changeSchedule (registered due)) next :: later)
      (hserved : Serves machine.scene (.changeSchedule (registered due)) () scene) :
      Registration due machine { machine with scene, satellites := earlier ++ next () :: later }

/-- A step while a spin is under way. -/
def During (address : String) (machine machine' : Machine) : Prop :=
  machine.spin ≠ none ∧ Step address Begins machine machine'

/-- A registration is a step like others. -/
theorem Reachable.registered {due : Instant} {machine told : Machine}
    (h : Reachable address machine) (htold : Registration due machine told) :
    Reachable address told := by
  obtain ⟨hsatellites, hserved⟩ := htold
  exact h.step (.goOn hsatellites hserved)

theorem Reachable.during {machine later : Machine} (h : Reachable address machine)
    (hduring : ReflTransGen (During address) machine later) : Reachable address later := by
  induction hduring with
  | refl => exact h
  | tail _ hstep ih => exact ih.step hstep.2

/-- What holds of a timeout manager at any time. -/
structure Inv (machine : Machine) : Prop where
  /-- The storage answers queries itself. -/
  honest : machine.scene.Honest
  /-- What was added is registered. -/
  satellites : ∀ program ∈ machine.satellites, ∃ owed, Registers owed program
  /-- What is left of a spin plans the next query last. -/
  plans : ∀ program, machine.spin = some program → PlansLast program
  /-- What is left of a spin keeps to its contract. -/
  poller : ∀ program, machine.spin = some program →
    Assured pollerContract spinPost program (viewOf machine)
  /-- Without a spin the poller does not oversleep. -/
  awake : machine.spin = none → Awake (viewOf machine)

variable {machine machine' : Machine}

theorem registers_next {effect : Effect} {next : effect.Answer → Act StageResult}
    {answer : effect.Answer}
    (h : ∃ owed, Registers owed (Program.call (S := Effect.signature) effect next)) :
    ∃ owed, Registers owed (next answer) := by
  obtain ⟨owed, -, hnext⟩ := h
  exact ⟨_, hnext answer⟩

/-- What a step comes to for the poller. -/
inductive Passes (address : String) (machine machine' : Machine) : Prop where
  /-- The programs beside it go on. -/
  | beside (hspin : machine'.spin = machine.spin)
      (hbeside : Beside (viewOf machine) (viewOf machine'))
  /-- A spin begins. -/
  | begins (hnone : machine.spin = none) (hspin : machine'.spin = some (spin address))
      (hview : viewOf machine' = viewOf machine)
  /-- The spin goes on. -/
  | asks {effect : Effect} {next : effect.Answer → Act (Except PollError Unit)}
      {answer : effect.Answer}
      (hcall : machine.spin = some (Program.call (S := Effect.signature) effect next))
      (hspin : machine'.spin = some (next answer))
      (hserved : Serves machine.scene effect answer machine'.scene)
      (howed : (viewOf machine').owed = (viewOf machine).owed)
  /-- The spin ends. -/
  | ends {result : Except PollError Unit} (hdone : machine.spin = some (.done result))
      (hspin : machine'.spin = none) (hview : viewOf machine' = viewOf machine)

/-- A step is one of the poller, or the programs beside it go on. -/
theorem Inv.passes (h : Inv machine) (hstep : Step address Begins machine machine') :
    Passes address machine machine' := by
  cases hstep with
  | begin hbegins =>
    refine .beside rfl (.of_schedule_eq h.honest le_rfl rfl (fun _ _ => id) fun due => ?_)
    rintro ⟨program, hprogram, hregisters⟩
    exact ⟨program, List.mem_cons_of_mem _ hprogram, hregisters⟩
  | @goOn earlier later effect next answer scene hsatellites hserved =>
    have hmem : Program.call (S := Effect.signature) effect next ∈ machine.satellites := by
      simp [hsatellites]
    obtain ⟨owed, hregisters⟩ := h.satellites _ hmem
    exact .beside rfl (beside_goOn h.honest hsatellites hregisters hserved)
  | @finish earlier later result hsatellites =>
    refine .beside rfl (.of_schedule_eq h.honest le_rfl rfl (fun _ _ => id) fun due => ?_)
    rintro ⟨program, hprogram, hregisters⟩
    rw [hsatellites, List.mem_append, List.mem_cons] at hprogram
    rcases hprogram with hmem | rfl | hmem
    · exact ⟨program, List.mem_append_left _ hmem, hregisters⟩
    -- a program that is done with has registered what it added
    · cases hregisters
    · exact ⟨program, List.mem_append_right _ hmem, hregisters⟩
  | spin hspin => exact .begins hspin rfl rfl
  | poll hspin hserved => exact .asks hspin rfl hserved rfl
  | rest hspin => exact .ends hspin rfl rfl
  | @elsewhere world hstorage hschedule hids =>
    have hhonest : ({ machine.scene with world } : Scene).Honest := fun call => by
      simpa [hstorage] using h.honest call
    refine .beside rfl
      (.of_schedule_eq hhonest le_rfl hschedule (fun id x hx => ?_) fun _ => id)
    rwa [Scene.stored?, hstorage] at hx

/-- Every step of a timeout manager keeps what holds of it. -/
theorem inv_step (h : Inv machine) (hstep : Step address Begins machine machine') :
    Inv machine' := by
  have hsatellites := hstep.of_satellites (fun program hbegins => ⟨none, hbegins.registers⟩)
    (fun _ _ _ => registers_next) h.satellites
  have hrefl : Beside (viewOf machine) (viewOf machine) :=
    .of_schedule_eq h.honest le_rfl rfl (fun _ _ => id) fun _ => id
  -- the contract of the spin that is under way carries the step
  cases h.passes hstep with
  | beside hspin hbeside =>
    refine ⟨hbeside.honest, hsatellites, ?_, ?_, ?_⟩
    · rw [hspin]
      exact h.plans
    · rw [hspin]
      intro program hprogram
      exact (h.poller program hprogram).stable Beside.trans
        (fun _ _ _ hstep hawake => Awake.beside hawake hstep) hbeside
    · rw [hspin]
      exact fun hnone => (h.awake hnone).beside hbeside
  | begins hnone hspin hview =>
    have hscene : machine'.scene = machine.scene := congrArg View.scene hview
    refine ⟨hscene ▸ h.honest, hsatellites, ?_, ?_, by simp [hspin]⟩
    · intro program hprogram
      cases hspin.symm.trans hprogram
      exact plansLast_spin
    · intro program hprogram
      cases hspin.symm.trans hprogram
      rw [hview]
      exact spin_awake (h.awake hnone)
  | asks hcall hspin hserved howed =>
    obtain ⟨hhonest, hnext⟩ := h.poller _ hcall _ hrefl _ (viewOf machine') ⟨hserved, howed⟩
    refine ⟨hhonest, hsatellites, ?_, ?_, by simp [hspin]⟩
    · intro program hprogram
      cases hspin.symm.trans hprogram
      exact (h.plans _ hcall).2 _
    · intro program hprogram
      cases hspin.symm.trans hprogram
      exact hnext
  | ends hdone hspin hview =>
    have hscene : machine'.scene = machine.scene := congrArg View.scene hview
    refine ⟨hscene ▸ h.honest, hsatellites, by simp [hspin], by simp [hspin], fun _ => ?_⟩
    rw [hview]
    exact h.poller _ hdone

theorem inv_of_reachable (h : Reachable address machine) : Inv machine := by
  induction h with
  | initial hscripted hnext =>
    exact ⟨hscripted, nofun, nofun, nofun, fun _ => Early.awake hnext⟩
  | step _ hstep ih => exact inv_step ih hstep

/-- What is left of a spin has planned the next query already, or it was registered a timeout since
the last plan and puts no query off. -/
theorem next_le_of_asks {scene scene' : Scene} {effect : Effect}
    {next : effect.Answer → Act (Except PollError Unit)} {answer : effect.Answer}
    (hplans : PlansLast (Program.call (S := Effect.signature) effect next))
    (hpushed : scene.pushed = true) (hserved : Serves scene effect answer scene') :
    scene'.next ≤ scene.next ∧
      (scene'.pushed = true ∨ ∃ result, next answer = .done result) := by
  by_cases heffect : ∃ change, effect = .changeSchedule change
  · obtain ⟨change, rfl⟩ := heffect
    have hschedule := schedule_of_changeSchedule hserved
    rw [Scene.next, Scene.pushed, hschedule]
    -- the schedule is changed by a refusal, or by the plan at the end
    rcases hplans.1 change rfl with hneutral | ⟨hprompt, hlast⟩
    · obtain ⟨hnext, hkept⟩ := hneutral scene.world.site.schedule
      exact ⟨hnext.le, .inl (hkept.trans hpushed)⟩
    · exact ⟨hprompt _ hpushed, .inr (hlast answer)⟩
  · have hschedule := schedule_of_serves hserved fun change h => heffect ⟨change, h⟩
    exact ⟨(congrArg Schedule.next hschedule).le,
      .inl ((congrArg Schedule.pushed hschedule).trans hpushed)⟩

/-- While a spin is under way, a query that was planned with a registered timeout is not put off,
not even by the plan that ends the spin. -/
theorem next_le_of_during (h : Inv machine) (hpushed : machine.scene.pushed = true)
    (hduring : ReflTransGen (During address) machine machine') :
    Inv machine' ∧ machine'.scene.next ≤ machine.scene.next ∧
      (machine'.scene.pushed = true ∨
        ∀ program, machine'.spin = some program → ∃ result, program = .done result) := by
  induction hduring with
  | refl => exact ⟨h, le_rfl, .inl hpushed⟩
  | @tail middle last _ hstep ih =>
    obtain ⟨hinv, hle, hplanned⟩ := ih
    refine ⟨inv_step hinv hstep.2, ?_⟩
    cases hinv.passes hstep.2 with
    | beside hspin hbeside =>
      rw [hspin]
      exact ⟨hbeside.next.trans hle, hplanned.imp_left hbeside.pushed⟩
    | begins hnone => exact absurd hnone hstep.1
    | asks hcall hspin hserved =>
      -- the spin goes on, so that it has not planned the next query yet
      have hpushed : middle.scene.pushed = true := by
        refine hplanned.resolve_right fun h => ?_
        obtain ⟨result, hresult⟩ := h _ hcall
        cases hresult
      obtain ⟨hnext, hkept⟩ := next_le_of_asks (hinv.plans _ hcall) hpushed hserved
      refine ⟨hnext.trans hle, hkept.imp_right fun hdone program hprogram => ?_⟩
      cases hspin.symm.trans hprogram
      exact hdone
    | ends _ hspin hview =>
      have hscene : last.scene = middle.scene := congrArg View.scene hview
      rw [hscene]
      exact ⟨hle, .inr (by simp [hspin])⟩

/-- While no spin is under way and no timeout is yet to be registered, the next query is made no
later than any stored timeout is due that it may find, or at once. A due time that is registered
while a spin is under way is not overwritten by the plan that ends the spin. -/
theorem never_oversleeps (hreach : Reachable address machine) :
    (machine.spin = none → ¬ Registering machine → ∀ id x, machine.scene.stored? id = some x →
        machine.scene.start < x.due →
          machine.scene.next ≤ Max.max machine.scene.now x.due) ∧
      ∀ due told later, Registration due machine told →
        ReflTransGen (During address) told later → later.scene.next ≤ due := by
  have hinv := inv_of_reachable hreach
  constructor
  · intro hspin hregistering id x hx hstart
    refine (hinv.awake hspin id x hx hstart).resolve_left ?_
    rintro ⟨program, hprogram, hregisters⟩
    -- a program with a registration to make makes it next
    cases program with
    | done result => cases hregisters
    | panic payload => cases hregisters
    | call effect next =>
      obtain ⟨hproper, -⟩ := hregisters
      cases effect
      case changeSchedule change => exact hregistering ⟨change, next, hprogram⟩
      all_goals exact hproper.elim
  · intro due told later htold hduring
    have hinv := inv_of_reachable (hreach.registered htold)
    obtain ⟨-, hserved⟩ := htold
    obtain ⟨hnoted, -⟩ := noted_of_registration hserved
    exact (next_le_of_during hinv hnoted.1 hduring).2.1.trans hnoted.2

/-- A timeout that is due in half a minute. -/
def reminder : Timeout where
  id := "t1"
  destination := "billing"
  body := []
  due := ⟨30, 0⟩
  headers := ∅
  owner := "sales"

/-- A timeout is stored and registered between the answer to a query, which says to ask again in a
minute, and the plan that ends the spin. -/
theorem never_oversleeps_reminder :
    (∃ machine, Reachable "dispatcher" machine ∧ machine.spin = none ∧ ¬ Registering machine ∧
      machine.scene.stored? reminder.id = some reminder ∧ machine.scene.start < reminder.due ∧
        machine.scene.next ≤ Max.max machine.scene.now reminder.due) ∧
      ∃ machine told later, Reachable "dispatcher" machine ∧
        Registration reminder.due machine told ∧ ReflTransGen (During "dispatcher") told later ∧
          later.spin = none ∧ later.scene.next ≤ reminder.due := by
  let t : Instant := ⟨0, 0⟩
  have ht : t ≤ Instant.last := by decide
  let scene : Scene := { world := { clock := t }, now := t }
  let asking := ((scene.serve t .readSchedule).2.serve t .clock).2
  let queried := (asking.serve t (.nextChunk scene.start)).2
  -- what is left of the spin once its query was answered
  let planning : Act (Except PollError Unit) := do
    Act.ask .querySucceeded
    let now ← Act.clock
    Act.ask (.changeSchedule (planned (t.later TimeoutStore.emptyQueryDelay)
      (now.later maxQueryDelay)))
    pure (.ok ())
  let completed : Act StageResult := .done (.ok .completed)
  let adding : Machine :=
    { scene := (queried.serve t (.addTimeout reminder)).2
      spin := some planning
      satellites := [Program.call (S := Effect.signature)
        (.changeSchedule (registered reminder.due)) fun _ => completed] }
  let told : Machine :=
    { scene := (adding.scene.serve t (.changeSchedule (registered reminder.due))).2
      spin := some planning
      satellites := [completed] }
  have hinitial : Reachable "dispatcher" { scene } := .initial (fun _ => rfl) (by decide)
  have hasking : Reachable "dispatcher" _ := ((hinitial.step (.spin rfl)).step
    (.poll rfl (serves_serve .readSchedule (le_refl t) ht))).step
    (.poll rfl (serves_serve .clock (le_refl t) ht))
  -- nothing is stored yet
  have hnothing : (asking.serve t (.nextChunk scene.start)).1
      = .ok ⟨[], t.later TimeoutStore.emptyQueryDelay⟩ :=
    congrArg Except.ok (TimeoutStore.nextChunk_empty _ _)
  have hanswer : Serves asking (.nextChunk scene.start)
      (.ok ⟨[], t.later TimeoutStore.emptyQueryDelay⟩) queried :=
    hnothing ▸ serves_serve (.nextChunk _) (le_refl t) ht
  have hqueried : Reachable "dispatcher" _ := hasking.step (.poll rfl hanswer)
  have hqueried : Reachable "dispatcher" { scene := queried, spin := some planning } := hqueried
  have hadding := (hqueried.step (.begin (.enrol _ reminder))).step
    (@Step.goOn _ _ _ [] [] _ _ _ _ rfl (serves_serve (.addTimeout reminder) (le_refl t) ht))
  have hadding : Reachable "dispatcher" adding := hadding
  have htold : Registration reminder.due adding told :=
    @Registration.mk _ adding [] [] (fun _ => completed) told.scene rfl
      (serves_serve (.changeSchedule (registered reminder.due)) (le_refl t) ht)
  have hfirst : During "dispatcher" told _ :=
    ⟨nofun, .poll rfl (serves_serve .querySucceeded (le_refl t) ht)⟩
  have hduring := (((ReflTransGen.single hfirst).tail
    ⟨nofun, .poll rfl (serves_serve .clock (le_refl t) ht)⟩).tail
    ⟨nofun, .poll rfl (serves_serve (.changeSchedule _) (le_refl t) ht)⟩).tail ⟨nofun, .rest rfl⟩
  have hreach := (hadding.registered htold).during hduring
  refine ⟨⟨_, hreach, rfl, ?_, rfl, by decide,
    (never_oversleeps hreach).1 rfl ?_ reminder.id reminder rfl (by decide)⟩,
    _, _, _, hadding, htold, hduring, rfl, (never_oversleeps hadding).2 _ _ _ htold hduring⟩
  all_goals
    rintro ⟨change, next, hmem⟩
    simp [told, completed] at hmem

end Messaging.Timeouts.Manager.Interleaved
