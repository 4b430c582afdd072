import Messaging.Proofs.Interleaving
import Messaging.Proofs.Requests

/-!
# No id is used twice

A message that is stored is given an id first and added under it later. In between others are given
ids too.

- `Draws` is what the programs beside the poller keep to: they add a timeout right after they were
  given its id. `reserved` lists the ids that were given and not yet used.
- `Issued` is the invariant, and `issued_step` says that every step keeps it.
-/

namespace Messaging.Timeouts.Manager.Interleaved

variable {α : Type} {s u : Scene}

/-! ### Programs -/

/-- The id under which a program adds a timeout next. -/
def reserved? : Act α → Option String
  | .call (.addTimeout x) _ => some x.id
  | _ => none

/-- The id that is given with an answer. -/
def drawn? : (effect : Effect) → effect.Answer → Option String
  | .freshId, id => some id
  | _, _ => none

/-- A program adds a timeout only right after it was given the id; `drawn` is the id that it was
given last, if that was its last request. -/
def Draws : Option String → Act α → Prop
  | _, .done _ => True
  | _, .panic _ => True
  | drawn, .call effect next =>
    (∀ x, effect = .addTimeout x → drawn = some x.id) ∧
      ∀ answer, Draws (drawn? effect answer) (next answer)

/-- The id under which a program adds a timeout next is the one that it was given last. -/
theorem Draws.drawn_eq {drawn : Option String} {program : Act α} (h : Draws drawn program)
    {id : String} (hid : reserved? program = some id) : drawn = some id := by
  cases program with
  | done result => cases hid
  | panic payload => cases hid
  | call effect next =>
    cases effect
    case addTimeout x => exact (h.1 x rfl).trans hid
    all_goals cases hid

theorem Draws.reserved?_eq_none {program : Act α} (h : Draws none program) :
    reserved? program = none := by
  cases hid : reserved? program with
  | none => rfl
  | some id => cases h.drawn_eq hid

/-- Storing a message draws an id for it. -/
theorem draws_store (owner : String) (message : Message) : Draws none (store owner message) := by
  unfold store
  split
  · trivial
  · refine ⟨nofun, fun now => ?_⟩
    simp only [Program.done_bind]
    split
    · refine ⟨nofun, fun answer => ?_⟩
      cases answer <;> trivial
    · refine ⟨nofun, fun id => ⟨?_, fun answer => ?_⟩⟩
      · rintro _ ⟨⟩
        rfl
      · cases answer with
        | error error => trivial
        | ok _ => exact ⟨nofun, fun _ => trivial⟩

theorem draws_dispatchStored (isolated : Bool) (request : Message) :
    Draws none (dispatchStored isolated request) := by
  unfold dispatchStored
  split
  · trivial
  · refine ⟨nofun, fun answer => ?_⟩
    match answer with
    | .error error => trivial
    | .ok none => trivial
    | .ok (some timeout) =>
      refine ⟨nofun, fun now => ⟨nofun, fun answer => ?_⟩⟩
      match answer with
      | .error error => trivial
      | .ok _ =>
        refine ⟨nofun, fun answer => ?_⟩
        match answer with
        | .error error => trivial
        | .ok true => trivial
        | .ok false => trivial

/-- A request that adds no timeout. -/
def AddsNone (effect : Effect) : Prop := ∀ x, effect ≠ .addTimeout x

theorem every_requestAll (address : String) (entries : List DueTimeout) :
    (requestAll address entries).Every AddsNone := by
  induction entries with
  | nil => exact .done _
  | cons entry rest ih =>
    refine .call nofun fun requestId => .call nofun fun answer => ?_
    cases answer with
    | error error => exact .call nofun fun _ => .done _
    | ok _ => exact .call nofun fun _ => ih

theorem every_spin (address : String) : (spin address).Every AddsNone := by
  refine .call nofun fun schedule => .call nofun fun now => ?_
  simp only [Program.done_bind]
  split
  · exact .done _
  · refine .call nofun fun answer => ?_
    match answer with
    | .error error => exact .done _
    | .ok chunk =>
      refine .call nofun fun _ => (every_requestAll address chunk.due).bind fun result => ?_
      match result with
      | .error error => exact .done _
      | .ok _ => exact .call nofun fun now => .call nofun fun _ => .done _

/-! ### The machine -/

/-- The ids that were given and under which programs are about to add a timeout. -/
def reserved (programs : List (Act StageResult)) : List String := programs.filterMap reserved?

/-- Some ids are different, and nothing was accepted under them. -/
structure Free (s : Scene) (ids : List String) : Prop where
  /-- No id is listed twice. -/
  nodup : ids.Nodup
  /-- The ids were given. -/
  given : ∀ id ∈ ids, ∃ n < s.world.ids, id = idText n
  /-- Nothing was accepted under them. -/
  unused : ∀ id ∈ ids, ∀ x, Accepted s.log x → x.id ≠ id

variable {ids ids' : List String}

theorem Free.perm (h : Free s ids) (hperm : ids.Perm ids') : Free s ids' where
  nodup := hperm.nodup h.nodup
  given id hid := h.given id (hperm.mem_iff.2 hid)
  unused id hid := h.unused id (hperm.mem_iff.2 hid)

/-- A request that adds nothing keeps ids free. -/
theorem Free.serves {effect : Effect} {answer : effect.Answer} (hs : Free s ids)
    (h : Serves s effect answer u) (heffect : AddsNone effect) : Free u ids where
  nodup := hs.nodup
  given id hid := by
    obtain ⟨n, hn, heq⟩ := hs.given id hid
    exact ⟨n, hn.trans_le (ids_le_of_serves h), heq⟩
  unused id hid x hx := hs.unused id hid x (accepted_of_serves h heffect hx)

/-- An id that is given is free and different from those given before. -/
theorem Free.freshId {id : String} (hs : Free s ids) (hfiled : Filed s)
    (h : Serves s .freshId id u) : Free u (id :: ids) := by
  -- ids are given in order, and those that were given before are smaller
  have hnew : id = idText s.world.ids ∧ u.world.ids = s.world.ids + 1 := by
    obtain ⟨t, -, -, hserve⟩ := h
    obtain ⟨rfl, rfl⟩ := Prod.mk.inj hserve
    exact ⟨rfl, rfl⟩
  have hother (n : Nat) (hn : n < s.world.ids) : idText n ≠ id := fun heq =>
    hn.ne (idText_injective (heq.trans hnew.1))
  have hu := hs.serves h nofun
  refine ⟨List.nodup_cons.2 ⟨fun hmem => ?_, hu.nodup⟩, ?_, ?_⟩
  · obtain ⟨n, hn, heq⟩ := hs.given id hmem
    exact hother n hn heq.symm
  · rintro other (_ | ⟨_, hmem⟩)
    · exact ⟨s.world.ids, by omega, hnew.1⟩
    · exact hu.given other hmem
  · rintro other (_ | ⟨_, hmem⟩) x hx
    · obtain ⟨n, hn, heq⟩ := hfiled.given x (accepted_of_serves h nofun hx)
      exact fun hid => hother n hn (heq.symm.trans hid)
    · exact hu.unused other hmem x hx

/-- Once a timeout was added under an id, the other ids are still free. -/
theorem Free.addTimeout {x : Timeout} {answer : Except StorageError Unit}
    (hs : Free s (x.id :: ids)) (h : Serves s (.addTimeout x) answer u) : Free u ids := by
  obtain ⟨hself, hnodup⟩ := List.nodup_cons.1 hs.nodup
  refine ⟨hnodup, fun id hid => ?_, fun id hid y hy => ?_⟩
  · obtain ⟨n, hn, heq⟩ := hs.given id (List.mem_cons_of_mem _ hid)
    exact ⟨n, hn.trans_le (ids_le_of_serves h), heq⟩
  · rw [h.log] at hy
    rcases accepted_of_addTimeout hy with hy | ⟨rfl, -⟩
    · exact hs.unused id (List.mem_cons_of_mem _ hid) y hy
    · rintro rfl
      exact hself hid

/-- What holds of the ids of a timeout manager at any time. -/
structure Issued (machine : Machine) : Prop where
  /-- What was accepted goes by different ids. -/
  filed : Filed machine.scene
  /-- Every program adds a timeout only right after it was given the id. -/
  draws : ∀ program ∈ machine.satellites, ∃ drawn, Draws drawn program
  /-- A spin adds nothing. -/
  spin : ∀ program, machine.spin = some program → program.Every AddsNone
  /-- The ids that are to be used are free. -/
  free : Free machine.scene (reserved machine.satellites)

variable {address : String} {begins : Machine → Act StageResult → Prop} {machine machine' : Machine}

theorem draws_next {effect : Effect} {next : effect.Answer → Act StageResult}
    {answer : effect.Answer}
    (h : ∃ drawn, Draws drawn (Program.call (S := Effect.signature) effect next)) :
    ∃ drawn, Draws drawn (next answer) := by
  obtain ⟨drawn, -, hnext⟩ := h
  exact ⟨_, hnext answer⟩

/-- The order of programs does not matter to what is reserved. -/
theorem reserved_perm (earlier later : List (Act StageResult)) (program : Act StageResult) :
    (reserved (earlier ++ program :: later)).Perm
      ((reserved? program).toList ++ reserved (earlier ++ later)) := by
  cases hprogram : reserved? program with
  | none => simp [hprogram, reserved]
  | some id => simp [hprogram, reserved]

/-- When a program goes on, ids stay different. -/
theorem free_goOn {earlier later : List (Act StageResult)} {effect : Effect}
    {next : effect.Answer → Act StageResult} {answer : effect.Answer} {drawn : Option String}
    (hfiled : Filed s)
    (hdraws : Draws drawn (Program.call (S := Effect.signature) effect next))
    (hfree : Free s
      (reserved (earlier ++ Program.call (S := Effect.signature) effect next :: later)))
    (hserved : Serves s effect answer u) :
    Filed u ∧ Free u (reserved (earlier ++ next answer :: later)) := by
  have hfree := hfree.perm (reserved_perm earlier later _)
  suffices h : Filed u ∧ Free u ((reserved? (next answer)).toList ++ reserved (earlier ++ later)) by
    exact ⟨h.1, h.2.perm (reserved_perm earlier later _).symm⟩
  by_cases hadds : AddsNone effect
  · have hrest : Free s (reserved (earlier ++ later)) := by
      have hnone : reserved? (Program.call (S := Effect.signature) effect next) = none := by
        cases effect
        case addTimeout => exact absurd rfl (hadds _)
        all_goals rfl
      rwa [hnone] at hfree
    refine ⟨hfiled.serves hserved hadds, ?_⟩
    cases hnext : reserved? (next answer) with
    | none => exact hrest.serves hserved hadds
    | some id =>
      -- what is to be added next goes by the id that was given with the answer
      have hdrawn := (hdraws.2 answer).drawn_eq hnext
      cases effect
      case freshId =>
        cases hdrawn
        exact hrest.freshId hfiled hserved
      all_goals cases hdrawn
  -- the id is used up, and the program has none until it is given the next
  · obtain ⟨x, rfl⟩ : ∃ x, effect = .addTimeout x := by
      simpa [AddsNone] using hadds
    have hself := List.mem_cons_self (a := x.id) (l := reserved (earlier ++ later))
    refine ⟨hfiled.addTimeout hserved (hfree.given _ hself) (hfree.unused _ hself), ?_⟩
    rw [(hdraws.2 answer).reserved?_eq_none]
    exact Free.addTimeout hfree hserved

/-- Every step keeps what holds of the ids, when the programs that begin draw ids for what they
add. -/
theorem issued_step (hbegins : ∀ machine program, begins machine program → Draws none program)
    (h : Issued machine) (hstep : Step address begins machine machine') : Issued machine' := by
  have hdraws := hstep.of_satellites (fun program hbegin => ⟨none, hbegins _ _ hbegin⟩)
    (fun _ _ _ => draws_next) h.draws
  -- only what goes on beside the poller changes which ids are held
  cases hstep with
  | begin hbegin =>
    refine ⟨h.filed, hdraws, h.spin, ?_⟩
    rw [reserved, List.filterMap_cons, (hbegins _ _ hbegin).reserved?_eq_none]
    exact h.free
  | goOn hsatellites hserved =>
    obtain ⟨drawn, hdrawn⟩ := h.draws _ (hsatellites ▸ List.mem_append_right _ List.mem_cons_self)
    have hfree := h.free
    rw [hsatellites] at hfree
    obtain ⟨hfiled, hfree⟩ := free_goOn h.filed hdrawn hfree hserved
    exact ⟨hfiled, hdraws, h.spin, hfree⟩
  | finish hsatellites =>
    have hfree := h.free
    rw [hsatellites] at hfree
    exact ⟨h.filed, hdraws, h.spin, hfree.perm (reserved_perm _ _ _)⟩
  | spin hspin =>
    refine ⟨h.filed, hdraws, fun program hprogram => ?_, h.free⟩
    cases hprogram
    exact every_spin address
  | poll hspin hserved =>
    cases h.spin _ hspin with
    | call hadds hnext =>
      refine ⟨h.filed.serves hserved hadds, hdraws, fun program hprogram => ?_,
        h.free.serves hserved hadds⟩
      cases hprogram
      exact hnext _
  | rest hspin => exact ⟨h.filed, hdraws, nofun, h.free⟩
  | @elsewhere world hstorage hschedule hids =>
    refine ⟨⟨fun call => ?_, fun x hx => ?_, h.filed.unique, fun id x hx => ?_⟩, hdraws, h.spin,
      ⟨h.free.nodup, fun id hid => ?_, h.free.unused⟩⟩
    · simpa [hstorage] using h.filed.honest call
    · obtain ⟨n, hn, heq⟩ := h.filed.given x hx
      exact ⟨n, hn.trans_le hids, heq⟩
    · rw [Scene.stored?, hstorage] at hx
      exact h.filed.origin id x hx
    · obtain ⟨n, hn, heq⟩ := h.free.given id hid
      exact ⟨n, hn.trans_le hids, heq⟩

end Messaging.Timeouts.Manager.Interleaved
