import Messaging.Proofs.Spinning

/-!
# No deferred message is lost

A timeout manager stores deferred messages, polls the storage and sends the stored messages on. Any
number of messages are stored and sent on at the same time; one spin of the poller follows another.

- `dispatchStored_assured` and `store_leadsAside` say that the parts beside the poller keep to their
  contract whatever the others do. A message reads the clock and is stored in one step (`lead`).
- `Machine` is a scene with what is under way, `Step` one request of one of the parts, and
  `Reachable` the closure of the steps. `Inv` is the invariant of the machine, and `inv_step` says
  that every step keeps it.
- `accounted_for` is the result: while no spin is under way every accepted timeout is to be found by
  a later query, or its dispatch was requested, or its message was sent on.
-/

namespace Messaging.Timeouts.Manager

open Time (Instant Span)

variable {s t u : Scene} {address : String}

/-! ### Storing and sending on -/

/-- The contract of everyone else: the poller goes on, and others step aside. -/
def satelliteContract : Contract Scene where
  serves := Serves
  rely := Onward
  guarantee := Aside

/-- Nothing is promised of the end of a satellite. -/
def satellitePost {α : Type} (_ : α) (_ : Scene) : Prop := True

/-- A timeout that somebody sends on was accepted. -/
theorem accepted_of_peekTimeout {id : String} {timeout : Timeout}
    (horigin : ∀ id x, s.stored? id = some x → x.id = id ∧ Accepted s.log x)
    (h : Serves s (.peekTimeout id) (.ok (some timeout)) u) :
    timeout.id = id ∧ Accepted u.log timeout := by
  rcases peekTimeout_answer h with ⟨error, herror⟩ | hfound
  · cases herror
  · obtain ⟨hid, haccepted⟩ := horigin id timeout (Except.ok.inj hfound).symm
    exact ⟨hid, haccepted.mono h.log_prefix⟩

/-- A request to send a timeout on keeps to the contract: what it removes it has sent on before. -/
theorem dispatchStored_assured (isolated : Bool) (request : Message) (s : Scene) :
    Assured satelliteContract satellitePost (dispatchStored isolated request) s := by
  rw [dispatchStored]
  split
  · trivial
  · next id _ =>
    intro t hrely answer u hserved
    refine ⟨aside_of_serves hserved trivial hrely.sound, ?_⟩
    match answer with
    | .error error => trivial
    | .ok none => trivial
    | .ok (some timeout) =>
      obtain ⟨hid, haccepted⟩ := accepted_of_peekTimeout hrely.sound.origin hserved
      intro t hrely now v hserved
      have hclock := aside_of_serves hserved trivial hrely.sound
      refine ⟨hclock, ?_⟩
      intro t' hrely' answer w hserved'
      have hdispatch := aside_of_serves hserved' trivial hrely'.sound
      refine ⟨hdispatch, ?_⟩
      match answer with
      | .error error => trivial
      | .ok _ =>
        have hsent : Sent w.log timeout := by
          refine ⟨Time.Wire.write now, isolated, ?_⟩
          rw [hserved'.log]
          exact List.mem_append_right _ List.mem_cons_self
        have haccepted' : Accepted w.log timeout :=
          haccepted.mono (((hrely.log.trans hclock.log).trans hrely'.log).trans hdispatch.log)
        intro t'' hrely'' answer x hserved''
        -- what stands under the id by now is what was sent, as no other timeout has the id
        refine ⟨aside_of_removeTimeout hrely''.sound (fun y hy => ?_) hserved'', ?_⟩
        · obtain ⟨hid', hy⟩ := hrely''.sound.origin id y hy
          rw [hrely''.sound.unique y timeout hy (haccepted'.mono hrely''.log) (hid'.trans hid.symm)]
          exact hsent.mono hrely''.log
        · match answer with
          | .error error => trivial
          | .ok true => trivial
          | .ok false => trivial

/-- The first requests of a message that is to be stored, which are answered in one step at a time:
what is left of the program, and the scene that is reached. -/
def lead (t : Instant) {α : Type} : Act α → Scene → Act α × Scene
  | .done result, s => (.done result, s)
  | .panic payload, s => (.panic payload, s)
  | .call effect next, s =>
    match effect, next with
    | .clock, next => lead t (next (s.serve t .clock).1) (s.serve t .clock).2
    | .freshId, next => lead t (next (s.serve t .freshId).1) (s.serve t .freshId).2
    | .addTimeout timeout, next =>
      lead t (next (s.serve t (.addTimeout timeout)).1) (s.serve t (.addTimeout timeout)).2
    | effect, next => (.call effect next, s)

/-- The time that a program reads at first is the time of the step. -/
theorem lead_clock {α : Type} (t : Instant) (f : Instant → Act α) (s : Scene) :
    lead t (Act.clock >>= f) s = lead t (f t) (s.serve t .clock).2 := rfl

/-- To add a timeout with a new id that is not yet due is a step aside. -/
theorem aside_of_addTimeout {x : Timeout} {answer : Except StorageError Unit} {n : Nat}
    (hs : Sound s) (hid : x.id = idText n) (hn : n < s.world.ids)
    (hfresh : ∀ y, Accepted s.log y → y.id ≠ x.id) (hdue : s.now < x.due)
    (h : Serves s (.addTimeout x) answer u) : Aside s u := by
  obtain ⟨hstored, hstart, -⟩ := addTimeout_stored h
  have hfiled := hs.filed.addTimeout h ⟨n, hn, hid⟩ hfresh
  have hpast : u.start ≤ u.now := hstart ▸ hs.past.trans h.now.1
  -- what was sent before stays sent, as the log only grows
  have hkept (y : Timeout) (hy : Accepted s.log y) :
      s.stored? y.id = some y ∨ Sent u.log y ∧ s.stored? y.id = none :=
    (hs.kept y hy).imp_right (And.imp_left fun hsent => hsent.mono h.log_prefix)
  rcases hstored with ⟨⟨error, rfl⟩, hsame⟩ | ⟨rfl, hadded⟩
  · refine ⟨⟨hfiled.sound (fun y hy => ?_) hpast, h.log_prefix⟩, h.now.1, hstart,
      fun id y hy => .inl (hsame id ▸ hy)⟩
    rw [h.log] at hy
    rw [hsame]
    exact hkept y ((accepted_of_addTimeout hy).resolve_right nofun)
  · refine ⟨⟨hfiled.sound (fun y hy => ?_) hpast, h.log_prefix⟩, h.now.1, hstart,
      fun id y hy => ?_⟩
    · rw [h.log] at hy
      rw [hadded]
      rcases accepted_of_addTimeout hy with hy | ⟨rfl, -⟩
      · rw [if_neg (hfresh y hy)]
        exact hkept y hy
      · exact .inl (if_pos rfl)
    · rw [hadded] at hy
      split at hy
      · cases hy
        exact .inr hdue
      · exact .inl hy

/-- A request at a time that has not passed is served. -/
theorem serves_serve {t : Instant} (effect : Effect) (ht : s.now ≤ t) (hlast : t ≤ Instant.last) :
    Serves s effect (s.serve t effect).1 (s.serve t effect).2 :=
  ⟨t, ht, hlast, rfl⟩

/-- A message that is not nearly due is due later than the time at which it is stored. -/
theorem lt_due_of_not_immediate {t due : Instant} (hlast : t ≤ Instant.last)
    (h : ¬ due ≤ t.later immediateWithin) : t < due :=
  Instant.lt_of_later_lt (by decide) hlast (not_le.1 h)

/-- After its first requests, answered in one step at a time, a program is a step aside from a
scene, and what is left of it keeps to the contract. -/
def LeadsAside (t : Instant) (s : Scene) (program : Act StageResult) (u : Scene) : Prop :=
  Aside s (lead t program u).2 ∧
    Assured satelliteContract satellitePost (lead t program u).1 (lead t program u).2

/-- Storing a message is a step aside at first, and what is left of it keeps to the contract. -/
theorem store_leadsAside {t : Instant} (owner : String) (message : Message) (hs : Sound s)
    (ht : s.now ≤ t) (hlast : t ≤ Instant.last) : LeadsAside t s (store owner message) s := by
  rw [store]
  split
  · exact ⟨Aside.refl hs, trivial⟩
  · next due destination _ =>
    let clocked := (s.serve t .clock).2
    have hclocked := aside_of_serves (serves_serve .clock ht hlast) trivial hs
    rw [LeadsAside, lead_clock, ← LeadsAside]
    split
    · refine ⟨hclocked, fun t hrely answer u hserved =>
        ⟨aside_of_serves hserved trivial hrely.sound, ?_⟩⟩
      match answer with
      | .error error => trivial
      | .ok _ => trivial
    · next hlate =>
      have hnow : clocked.now ≤ t := le_rfl
      let named := (clocked.serve t .freshId).2
      have hserved := serves_serve .freshId hnow hlast
      have hnamed := aside_of_serves hserved trivial hclocked.sound
      let x : Timeout :=
        { id := idText clocked.world.ids, destination, body := message.body, due
          headers := message.headers, owner }
      have hadd := serves_serve (s := named) (.addTimeout x) le_rfl hlast
      have hadded : Aside named (named.serve t (.addTimeout x)).2 := by
        refine aside_of_addTimeout hnamed.sound rfl (Nat.lt_succ_self _) (fun y hy hid => ?_)
          (lt_due_of_not_immediate hlast hlate) hadd
        -- the new id was given to nobody before
        obtain ⟨n, hn, hyid⟩ :=
          hclocked.sound.given y ((kept_of_serves hserved trivial).1.accepted y hy)
        exact absurd (idText_injective (hyid.symm.trans hid)) hn.ne
      change LeadsAside t s (Program.bind (.done (named.serve t (.addTimeout x)).1) _)
        (named.serve t (.addTimeout x)).2
      have haside := (hclocked.trans hnamed).trans hadded
      rw [Program.done_bind]
      split
      · exact ⟨haside, trivial⟩
      · refine ⟨haside, fun t hrely answer u hserved => ⟨?_, trivial⟩⟩
        obtain ⟨hkept, hstart⟩ := kept_of_changeSchedule hserved
        exact hkept.aside hrely.sound hstart

/-! ### The machine -/

/-- A timeout manager at work. -/
structure Machine where
  /-- What its parts share. -/
  scene : Scene
  /-- What is left of the spin that is under way, if one is. -/
  spin : Option (Act (Except PollError Unit)) := none
  /-- What is left of the messages that are being stored or sent on. -/
  satellites : List (Act StageResult) := []

/-- A step of a timeout manager, whose dispatch requests go to an address. -/
inductive Step (address owner : String) : Machine → Machine → Prop where
  /-- A message arrives that is to be stored. -/
  | store {machine : Machine} {t : Instant} {message : Message} (ht : machine.scene.now ≤ t)
      (hlast : t ≤ Instant.last) :
      Step address owner machine
        { machine with
          scene := (lead t (store owner message) machine.scene).2
          satellites := (lead t (store owner message) machine.scene).1 :: machine.satellites }
  /-- A request arrives to send a stored message on. -/
  | dispatch {machine : Machine} (isolated : Bool) (request : Message) :
      Step address owner machine
        { machine with satellites := dispatchStored isolated request :: machine.satellites }
  /-- One of the messages goes on. -/
  | goOn {machine : Machine} {earlier later : List (Act StageResult)} {effect : Effect}
      {next : effect.Answer → Act StageResult} {answer : effect.Answer} {scene : Scene}
      (hsatellites : machine.satellites
        = earlier ++ Program.call (S := Effect.signature) effect next :: later)
      (hserved : Serves machine.scene effect answer scene) :
      Step address owner machine
        { machine with scene, satellites := earlier ++ next answer :: later }
  /-- One of the messages is done with. -/
  | finish {machine : Machine} {earlier later : List (Act StageResult)} {result : StageResult}
      (hsatellites : machine.satellites = earlier ++ .done result :: later) :
      Step address owner machine { machine with satellites := earlier ++ later }
  /-- A spin begins after the last one has ended. -/
  | spin {machine : Machine} (hspin : machine.spin = none) :
      Step address owner machine { machine with spin := some (spin address) }
  /-- The spin goes on. -/
  | poll {machine : Machine} {effect : Effect}
      {next : effect.Answer → Act (Except PollError Unit)} {answer : effect.Answer} {scene : Scene}
      (hspin : machine.spin = some (Program.call (S := Effect.signature) effect next))
      (hserved : Serves machine.scene effect answer scene) :
      Step address owner machine { machine with scene, spin := some (next answer) }
  /-- The spin ends. -/
  | rest {machine : Machine} {result : Except PollError Unit}
      (hspin : machine.spin = some (.done result)) :
      Step address owner machine { machine with spin := none }
  /-- The dispatcher changes, and whatever else is none of the timeout manager's business. -/
  | elsewhere {machine : Machine} {world : World}
      (hstorage : world.site.storage = machine.scene.world.site.storage)
      (hschedule : world.site.schedule = machine.scene.world.site.schedule)
      (hids : machine.scene.world.ids ≤ world.ids) :
      Step address owner machine { machine with scene := { machine.scene with world } }

/-- The timeout managers that come about from one over an empty storage. -/
inductive Reachable (address owner : String) : Machine → Prop where
  /-- Nothing is stored and nothing was asked. -/
  | initial {world : World} {now : Instant} (hstore : world.site.storage.store = {})
      (hscripted : ∀ call, world.site.storage.scripted call = none)
      (hstart : world.site.schedule.start ≤ now) :
      Reachable address owner { scene := { world, now } }
  /-- One step more. -/
  | step {machine machine' : Machine} (hreach : Reachable address owner machine)
      (hstep : Step address owner machine machine') : Reachable address owner machine'

/-- What holds of a timeout manager at any time. -/
structure Inv (address : String) (machine : Machine) : Prop where
  /-- The scene is sound. -/
  sound : Sound machine.scene
  /-- What is left of a spin keeps to its contract. -/
  poller : ∀ program, machine.spin = some program →
    Assured pollerContract (pollerPost address) program machine.scene
  /-- Without a spin everything is settled. -/
  settled : machine.spin = none → Settled address machine.scene
  /-- What is left of the messages keeps to their contract. -/
  satellites : ∀ program ∈ machine.satellites,
    Assured satelliteContract satellitePost program machine.scene

/-- Whatever others do, the poller goes on keeping to its contract. -/
theorem pollerContract_stable {program : Act (Except PollError Unit)}
    (h : Assured pollerContract (pollerPost address) program s) (hstep : Aside s u) :
    Assured pollerContract (pollerPost address) program u :=
  h.stable Aside.trans (fun _ _ _ hstep hsettled => Settled.aside hsettled hstep) hstep

/-- Whatever the poller and others do, a satellite goes on keeping to its contract. -/
theorem satelliteContract_stable {program : Act StageResult}
    (h : Assured satelliteContract satellitePost program s) (hstep : Onward s u) :
    Assured satelliteContract satellitePost program u :=
  h.stable Onward.trans (fun _ _ _ _ _ => trivial) hstep

/-- A step aside, after which there are other satellites. -/
theorem Inv.aside {machine : Machine} (h : Inv address machine) (hstep : Aside machine.scene u)
    {satellites : List (Act StageResult)}
    (hsatellites : ∀ program ∈ satellites, program ∈ machine.satellites ∨
      Assured satelliteContract satellitePost program u) :
    Inv address { machine with scene := u, satellites } where
  sound := hstep.sound
  poller program hprogram := pollerContract_stable (h.poller program hprogram) hstep
  settled hspin := (h.settled hspin).aside hstep
  satellites program hprogram := (hsatellites program hprogram).elim
    (fun hmem => satelliteContract_stable (h.satellites program hmem) hstep.toOnward) id

/-- Over an empty storage everything is settled. -/
theorem inv_initial {world : World} {now : Instant} (hstore : world.site.storage.store = {})
    (hscripted : ∀ call, world.site.storage.scripted call = none)
    (hstart : world.site.schedule.start ≤ now) : Inv address { scene := { world, now } } where
  sound :=
    -- the store is empty, so there is nothing to account for
    have hnone (id : String) (x : Timeout) :
        ({ world, now } : Scene).stored? id ≠ some x := by
      rw [Scene.stored?, hstore]
      nofun
    { given := nofun
      unique := nofun
      origin := fun id x hx => absurd hx (hnone id x)
      kept := nofun
      past := hstart
      honest := hscripted }
  poller := nofun
  settled _ :=
    { start := le_rfl
      past := hstart
      stored := fun id x hx => by
        rw [Scene.stored?, hstore] at hx
        cases hx }
  satellites := nofun

/-- Every step of a timeout manager keeps what holds of it. -/
theorem inv_step {owner : String} {machine machine' : Machine} (h : Inv address machine)
    (hstep : Step address owner machine machine') : Inv address machine' := by
  cases hstep with
  | @store t message ht hlast =>
    obtain ⟨haside, hassured⟩ := store_leadsAside owner message h.sound ht hlast
    refine h.aside haside fun program hprogram => ?_
    rcases List.mem_cons.1 hprogram with rfl | hmem
    · exact .inr hassured
    · exact .inl hmem
  | dispatch isolated request =>
    refine h.aside (Aside.refl h.sound) fun program hprogram => ?_
    rcases List.mem_cons.1 hprogram with rfl | hmem
    · exact .inr (dispatchStored_assured isolated request _)
    · exact .inl hmem
  | @goOn earlier later effect next answer scene hsatellites hserved =>
    have hmem : Program.call (S := Effect.signature) effect next ∈ machine.satellites := by
      rw [hsatellites]
      exact List.mem_append_right _ List.mem_cons_self
    obtain ⟨haside, hnext⟩ := h.satellites _ hmem machine.scene ⟨h.sound, List.prefix_rfl⟩
      answer scene hserved
    refine h.aside haside fun program hprogram => ?_
    rw [hsatellites]
    rcases List.mem_append.1 hprogram with hmem | hmem
    · exact .inl (List.mem_append_left _ hmem)
    · rcases List.mem_cons.1 hmem with rfl | hmem
      · exact .inr hnext
      · exact .inl (List.mem_append_right _ (List.mem_cons_of_mem _ hmem))
  | @finish earlier later result hsatellites =>
    refine h.aside (Aside.refl h.sound) fun program hprogram => .inl ?_
    rw [hsatellites]
    rcases List.mem_append.1 hprogram with hmem | hmem
    · exact List.mem_append_left _ hmem
    · exact List.mem_append_right _ (List.mem_cons_of_mem _ hmem)
  -- a spin begins in a settled scene, which is all that its contract asks for
  | spin hspin =>
    refine ⟨h.sound, fun program hprogram => ?_, nofun, h.satellites⟩
    cases hprogram
    exact spin_assured (h.settled hspin)
  -- a request of the poller is onward only, which is what the satellites rely on
  | @poll effect next answer scene hspin hserved =>
    obtain ⟨honward, hnext⟩ := h.poller _ hspin machine.scene (Aside.refl h.sound) answer scene
      hserved
    refine ⟨honward.sound, fun program hprogram => ?_, nofun, fun program hprogram => ?_⟩
    · cases hprogram
      exact hnext
    · exact satelliteContract_stable (h.satellites program hprogram) honward
  | rest hspin =>
    exact ⟨h.sound, nofun, fun _ => h.poller _ hspin, h.satellites⟩
  | @elsewhere world hstorage hschedule hids =>
    have hkept : Kept machine.scene { machine.scene with world } :=
      ⟨List.prefix_rfl, fun _ => id, le_rfl, hids,
        fun id => congrArg (fun storage => storage.store.peek? id) hstorage,
        congrArg Storage.scripted hstorage⟩
    exact h.aside (hkept.aside h.sound (congrArg Schedule.start hschedule))
      fun program hprogram => .inl hprogram

/-- What holds of a timeout manager holds at any time. -/
theorem inv_of_reachable {owner : String} {machine : Machine}
    (h : Reachable address owner machine) : Inv address machine := by
  induction h with
  | initial hstore hscripted hstart => exact inv_initial hstore hscripted hstart
  | step _ hstep ih => exact inv_step ih hstep

/-- While no spin is under way, every timeout that was accepted is stored and due after the start of
the next query, or it is stored and its dispatch was requested, or it was sent on to its destination
and is gone. -/
theorem accounted_for {owner : String} {machine : Machine}
    (hreach : Reachable address owner machine) (hspin : machine.spin = none) {x : Timeout}
    (haccepted : Accepted machine.scene.log x) :
    machine.scene.stored? x.id = some x ∧ machine.scene.start < x.due ∨
      machine.scene.stored? x.id = some x ∧ Requested address machine.scene.log x.id ∨
        Sent machine.scene.log x ∧ machine.scene.stored? x.id = none := by
  have hinv := inv_of_reachable hreach
  rcases hinv.sound.kept x haccepted with hstored | hsent
  · rcases (hinv.settled hspin).stored x.id x hstored with hrequested | ⟨entry, hentry, -⟩ | hdue
    · exact .inr (.inl ⟨hstored, hrequested⟩)
    · exact absurd hentry List.not_mem_nil
    · exact .inl ⟨hstored, hdue⟩
  · exact .inr (.inr hsent)

/-- A message that is due at half a minute past midnight waits to be found by a later query. -/
theorem accounted_for_waiting :
    let message : Message :=
      ⟨"m1", Table.ofList [(Header.timeoutExpire, "2024-01-01 00:00:30:000000 Z"),
        (Header.timeoutRouteExpiredTo, "billing")], []⟩
    let x : Timeout := ⟨idText 0, "billing", [], ⟨1704067230, 0⟩, message.headers, "sales"⟩
    ∃ machine, Reachable "dispatcher" "sales" machine ∧ machine.spin = none ∧
      Accepted machine.scene.log x ∧
        (machine.scene.stored? x.id = some x ∧ machine.scene.start < x.due ∨
          machine.scene.stored? x.id = some x ∧ Requested "dispatcher" machine.scene.log x.id ∨
            Sent machine.scene.log x ∧ machine.scene.stored? x.id = none) := by
  intro message x
  let scene : Scene := { world := { clock := ⟨0, 0⟩ }, now := ⟨0, 0⟩ }
  have hstored : Reachable "dispatcher" "sales"
      { scene := (lead ⟨0, 0⟩ (store "sales" message) scene).2
        satellites := [(lead ⟨0, 0⟩ (store "sales" message) scene).1] } :=
    (Reachable.initial rfl (fun _ => rfl) (by decide)).step (.store le_rfl (by decide))
  -- the message is not due soon, so it is stored
  have hlog : (lead ⟨0, 0⟩ (store "sales" message) scene).2.log
      = [⟨.clock, ⟨0, 0⟩⟩, ⟨.freshId, idText 0⟩, ⟨.addTimeout x, .ok ()⟩] := by
    have hread : readDeferred message = .ok (⟨1704067230, 0⟩, "billing") := rfl
    have hlate : ¬ (⟨1704067230, 0⟩ : Instant) ≤ (⟨0, 0⟩ : Instant).later immediateWithin := by
      decide
    rw [store, hread]
    dsimp only
    rw [lead_clock, if_neg hlate]
    rfl
  have haccepted : Accepted (lead ⟨0, 0⟩ (store "sales" message) scene).2.log x := by
    rw [Accepted, hlog]
    exact List.mem_cons_of_mem _ (List.mem_cons_of_mem _ List.mem_cons_self)
  exact ⟨_, hstored, rfl, haccepted, accounted_for hstored rfl haccepted⟩

end Messaging.Timeouts.Manager
