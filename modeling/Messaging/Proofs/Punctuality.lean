import Messaging.Proofs.Deferring
import Messaging.Proofs.Issuing
import Messaging.Proofs.WireTimes

/-!
# No deferred message is sent on early

A deferred message carries its due time in a header. A timeout manager reads it there, sends the
message on at once when it is nearly due, and stores it otherwise. What is stored is sent on when
the poller asks for it.

- `Reached` says that a clock has come to a second before an instant, and `NotEarly` what this means
  next to leap seconds.
- `Warranted` lists what a timeout manager may dispatch at a time, and `Timely` says that all that
  was dispatched was warranted. `store_assured`, `dispatchStored_assured` and `spin_assured` say
  that its parts keep to this.
- `never_early` is the result, for a message that a stage of the sender has deferred.
-/

namespace Messaging.Timeouts.Manager.Interleaved.Punctual

open Time (Instant Span)

variable {α : Type} {s t u : Scene} {log log' : List Exchange} {now now' due : Instant}

/-! ### A second before an instant -/

/-- An instant that a clock may show. -/
def Shown (now : Instant) : Prop := Instant.firstSecond ≤ now.seconds ∧ now ≤ Instant.last

/-- The clock has come to a second before an instant. -/
def Reached (due now : Instant) : Prop := ∃ t, Shown t ∧ t ≤ now ∧ due ≤ t.later immediateWithin

/-- A clock that has `Reached` a due time does not go back behind it. -/
theorem Reached.mono (h : Reached due now) (hnow : now ≤ now') : Reached due now' := by
  obtain ⟨t, ht, hle, hdue⟩ := h
  exact ⟨t, ht, hle.trans hnow, hdue⟩

/-- Headers say when a message is due. -/
def Dated (headers : Headers) (due : Instant) : Prop :=
  ∃ text, headers.get? Header.timeoutExpire = some text ∧ Time.Wire.read text = .ok due

/-- Headers are `Dated` with one due time at most. -/
theorem Dated.unique {headers : Headers} {due' : Instant} (h : Dated headers due)
    (h' : Dated headers due') : due = due' := by
  obtain ⟨text, hget, hread⟩ := h
  obtain ⟨text', hget', hread'⟩ := h'
  cases hget.symm.trans hget'
  exact Except.ok.inj (hread.symm.trans hread')

/-- A message that is read as a deferred one says when it is due. -/
theorem dated_of_readDeferred {message : Message} {destination : String}
    (h : readDeferred message = .ok (due, destination)) : Dated message.headers due := by
  rw [readDeferred] at h
  split at h
  · cases h
  · next text hget =>
    split at h
    · cases h
    · next read hread =>
      split at h
      · cases h
      · cases h
        exact ⟨text, hget, hread⟩

/-- A message that was stored does not say any more when it was due. -/
theorem not_dated_expiredMessage (x : Timeout) (timeSent : String) :
    ¬ Dated (expiredMessage x timeSent).headers due := by
  rintro ⟨text, hget, -⟩
  rw [expiredMessage, Table.get?_insert_of_ne _ _ (by decide),
    Table.get?_insert_of_ne _ _ (by decide), Table.get?_erase, if_neg (by decide), Table.get?_erase,
    if_pos rfl] at hget
  cases hget

/-- The message of an expired timeout names the id of the timeout. -/
theorem get?_relatedToTimeoutId (x : Timeout) (timeSent : String) :
    (expiredMessage x timeSent).headers.get? Header.relatedToTimeoutId = some x.id := by
  rw [expiredMessage, Table.get?_insert_self]

/-- A request of the poller has three headers. -/
theorem get?_requestHeaders {id key : String} (hcontrol : key ≠ Header.controlMessage)
    (hintent : key ≠ Header.messageIntent) (hid : key ≠ Header.timeoutIdToDispatch) :
    (requestHeaders id).get? key = none := by
  change Table.get? (((Table.empty.insert _ _).insert _ _).insert _ _) key = none
  rw [Table.get?_insert_of_ne _ _ hid, Table.get?_insert_of_ne _ _ hintent,
    Table.get?_insert_of_ne _ _ hcontrol]
  rfl

/-- What the poller asks for is not `Dated`, so it is not sent on by its own due time. -/
theorem not_dated_requestHeaders (id : String) : ¬ Dated (requestHeaders id) due := by
  rintro ⟨text, hget, -⟩
  rw [get?_requestHeaders (by decide) (by decide) (by decide)] at hget
  cases hget

/-- Such a request is never the message of an expired timeout. -/
theorem requestHeaders_ne_expiredMessage (id : String) (x : Timeout) (timeSent : String) :
    requestHeaders id ≠ (expiredMessage x timeSent).headers := by
  intro hsame
  have hrelated := get?_relatedToTimeoutId x timeSent
  rw [← hsame, get?_requestHeaders (by decide) (by decide) (by decide)] at hrelated
  cases hrelated

/-! ### What is dispatched -/

/-- The batch of one message to one address. -/
def parcel (address : String) (message : Message) (isolated : Bool) : Batch :=
  .ofList [{ message, route := .unicast address, isolated }]

/-- A `parcel` tells which message it holds. -/
theorem message_eq_of_parcel {address address' : String} {message message' : Message}
    {isolated isolated' : Bool}
    (h : parcel address message isolated = parcel address' message' isolated') :
    message = message' := by
  have hunicast := congrArg (fun batch => batch.unicast.map (·.message)) h
  simpa [parcel, Batch.ofList, Batch.push] using hunicast

/-- A timeout with an id was accepted and is due. -/
def Ripe (log : List Exchange) (now : Instant) (id : String) : Prop :=
  ∃ x, Accepted log x ∧ x.id = id ∧ x.due ≤ now

/-- What a timeout manager may dispatch at a time. -/
inductive Warranted (log : List Exchange) (now : Instant) : Message → Prop where
  /-- A message that says when it is due, and nearly is. -/
  | direct {message : Message} {due : Instant} (hdated : Dated message.headers due)
      (hreached : Reached due now) : Warranted log now message
  /-- The message of a timeout that is due. -/
  | expired {x : Timeout} (timeSent : String) (haccepted : Accepted log x) (hdue : x.due ≤ now) :
      Warranted log now (expiredMessage x timeSent)
  /-- A request to dispatch a timeout that is due. -/
  | request {id : String} (requestId : String) (hripe : Ripe log now id) :
      Warranted log now ⟨requestId, requestHeaders id, []⟩

/-- A timeout that is `Ripe` stays so with more requests in the log and a later clock. -/
theorem Ripe.mono {id : String} (h : Ripe log now id) (hlog : log <+: log') (hnow : now ≤ now') :
    Ripe log' now' id := by
  obtain ⟨x, haccepted, hid, hdue⟩ := h
  exact ⟨x, haccepted.mono hlog, hid, hdue.trans hnow⟩

/-- So does what may be dispatched stay `Warranted`. -/
theorem Warranted.mono {message : Message} (h : Warranted log now message) (hlog : log <+: log')
    (hnow : now ≤ now') : Warranted log' now' message := by
  cases h with
  | direct hdated hreached => exact .direct hdated (hreached.mono hnow)
  | expired timeSent haccepted hdue =>
    exact .expired timeSent (haccepted.mono hlog) (hdue.trans hnow)
  | request requestId hripe => exact .request requestId (hripe.mono hlog hnow)

/-- A message that says when it is due may be dispatched when it nearly is. -/
theorem Warranted.reached {message : Message} (h : Warranted log now message)
    (hdated : Dated message.headers due) : Reached due now := by
  cases h with
  | direct hdated' hreached => exact hdated.unique hdated' ▸ hreached
  | expired => exact absurd hdated (not_dated_expiredMessage _ _)
  | request => exact absurd hdated (not_dated_requestHeaders _)

/-- A timeout may be asked for when it is due. -/
theorem Warranted.ripe_of_request {id requestId : String}
    (h : Warranted log now ⟨requestId, requestHeaders id, []⟩) : Ripe log now id := by
  generalize hmessage : (⟨requestId, requestHeaders id, []⟩ : Message) = message at h
  cases h with
  | direct hdated =>
    rw [← hmessage] at hdated
    exact absurd hdated (not_dated_requestHeaders id)
  | expired =>
    exact absurd (congrArg Message.headers hmessage) (requestHeaders_ne_expiredMessage _ _ _)
  | request requestId' hripe =>
    have hids := congrArg (fun m : Message => m.headers.get? Header.timeoutIdToDispatch) hmessage
    simp only [requestHeaders, Table.ofList, List.foldl_cons, List.foldl_nil,
      Table.get?_insert_self, Option.some.injEq] at hids
    exact hids ▸ hripe

/-- All that was dispatched was warranted, and what was accepted says when it is due. -/
structure Timely (log : List Exchange) (now : Instant) : Prop where
  /-- All that was dispatched, with success or not, may still be dispatched. -/
  dispatched : ∀ address message isolated answer,
    ⟨.dispatch (parcel address message isolated), answer⟩ ∈ log → Warranted log now message
  /-- The headers of what was accepted say when it is due. -/
  dated : ∀ x, Accepted log x → Dated x.headers x.due

/-- What a timeout manager may ask for. -/
def Allowed (s : Scene) : Effect → Prop
  | .dispatch batch =>
    ∃ address message isolated, batch = parcel address message isolated ∧
      Warranted s.log s.now message
  | .addTimeout x => Dated x.headers x.due
  | _ => True

/-- What may be asked for keeps what is dispatched warranted. -/
theorem Timely.serves {effect : Effect} {answer : effect.Answer} (hs : Timely s.log s.now)
    (h : Serves s effect answer u) (heffect : Allowed s effect) : Timely u.log u.now := by
  constructor
  · intro address message isolated answer' hmem
    refine Warranted.mono ?_ h.log_prefix h.now.1
    rw [h.log, List.mem_append, List.mem_singleton, Exchange.mk.injEq] at hmem
    rcases hmem with hmem | ⟨rfl, -⟩
    · exact hs.dispatched _ _ _ _ hmem
    · obtain ⟨_, message', _, hparcel, hwarranted⟩ := heffect
      exact message_eq_of_parcel hparcel ▸ hwarranted
  · intro x hx
    rw [Accepted, h.log, List.mem_append, List.mem_singleton, Exchange.mk.injEq] at hx
    rcases hx with hx | ⟨rfl, -⟩
    · exact hs.dated x hx
    · exact heffect

/-! ### The parts of a timeout manager -/

/-- How a scene goes on, whoever makes a request. -/
structure Goes (s u : Scene) : Prop where
  /-- The requests so far stay. -/
  log : s.log <+: u.log
  /-- Time does not go back. -/
  now : s.now ≤ u.now
  /-- The clock shows an instant that there is. -/
  shown : Shown u.now
  /-- What was accepted goes by different ids. -/
  filed : Filed u

/-- `Goes` is transitive, so that it can be what others do in the `contract`. -/
theorem Goes.trans (hst : Goes s t) (htu : Goes t u) : Goes s u :=
  ⟨hst.log.trans htu.log, hst.now.trans htu.now, htu.shown, htu.filed⟩

/-- A request that is served leaves the clock at an instant that there is. -/
theorem shown_of_serves {effect : Effect} {answer : effect.Answer}
    (h : Serves s effect answer u) (hs : Shown s.now) : Shown u.now := by
  obtain ⟨hnow, hlast⟩ := h.now
  have hfirst := hs.1
  rw [Instant.le_iff] at hnow
  exact ⟨by omega, hlast⟩

/-- Every request that is served `Goes` on from its scene. -/
theorem Goes.of_serves {effect : Effect} {answer : effect.Answer} (h : Serves s effect answer u)
    (hs : Shown s.now) (hu : Filed u) : Goes s u :=
  ⟨h.log_prefix, h.now.1, shown_of_serves h hs, hu⟩

/-- The contract of every part: what it dispatches is warranted. -/
def contract : Contract Scene where
  serves := Serves
  rely := Goes
  guarantee s u := Timely s.log s.now → Timely u.log u.now

/-- A request that is allowed, and what follows it, keeps to the contract. -/
theorem assured_request {effect : Effect} {next : effect.Answer → Act α}
    (hallowed : ∀ t, Goes s t → Allowed t effect)
    (hnext : ∀ t answer u, Goes s t → Serves t effect answer u → s.log <+: u.log → s.now ≤ u.now →
      Assured contract satellitePost (next answer) u) :
    Assured contract satellitePost (Program.call (S := Effect.signature) effect next) s := by
  intro t hrely answer u hserved
  exact ⟨fun ht => ht.serves hserved (hallowed t hrely), hnext t answer u hrely hserved
    (hrely.log.trans hserved.log_prefix) (hrely.now.trans hserved.now.1)⟩

/-- A message is sent on at once only if it is nearly due, and its headers say when. -/
theorem store_assured (owner : String) (message : Message) (s : Scene) :
    Assured contract satellitePost (store owner message) s := by
  unfold store
  split
  · trivial
  · next due destination hread =>
    have hdated := dated_of_readDeferred hread
    refine assured_request (fun _ _ => trivial) fun t now u ht hserved _ _ => ?_
    rw [Program.done_bind]
    split
    · next hnear =>
      have hreached : Reached due u.now :=
        ⟨now, now_of_clock hserved ▸ shown_of_serves hserved ht.shown, (now_of_clock hserved).ge,
          hnear⟩
      -- the message is sent on at a later time than the one that was compared with
      refine assured_request
        (fun v hv => ⟨_, _, _, rfl, .direct hdated (hreached.mono hv.now)⟩)
        fun _ answer _ _ _ _ _ => ?_
      cases answer <;> trivial
    · refine assured_request (fun _ _ => trivial) fun _ id _ _ _ _ _ => ?_
      refine assured_request (fun _ _ => hdated) fun _ answer _ _ _ _ _ => ?_
      cases answer with
      | error error => trivial
      | ok _ => exact assured_request (fun _ _ => trivial) fun _ _ _ _ _ _ _ => trivial

/-- A stored message is sent on only once it is due. -/
theorem dispatchStored_assured (isolated : Bool) {request : Message}
    (hripe : ∀ id, request.header? Header.timeoutIdToDispatch = some id → Ripe s.log s.now id) :
    Assured contract satellitePost (dispatchStored isolated request) s := by
  unfold dispatchStored
  split
  · trivial
  · next id hid =>
    refine assured_request (fun _ _ => trivial) fun t answer u ht hserved hlog hnow => ?_
    match answer with
    | .error error => trivial
    | .ok none => trivial
    | .ok (some x) =>
      obtain ⟨hxid, haccepted⟩ := accepted_of_peekTimeout ht.filed.origin hserved
      obtain ⟨y, hy, hyid, hdue⟩ := (hripe id hid).mono ht.log ht.now
      -- what was asked for is what is found
      obtain rfl := ht.filed.unique x y (accepted_of_serves hserved nofun haccepted) hy
        (hxid.trans hyid.symm)
      have hdue : x.due ≤ u.now := hdue.trans hserved.now.1
      refine assured_request (fun _ _ => trivial) fun _ now v _ _ hlog hnow => ?_
      refine assured_request (fun w hw => ⟨_, _, _, rfl,
        .expired _ (haccepted.mono (hlog.trans hw.log)) (hdue.trans (hnow.trans hw.now))⟩)
        fun _ answer _ _ _ _ _ => ?_
      match answer with
      | .error error => trivial
      | .ok _ =>
        refine assured_request (fun _ _ => trivial) fun _ answer _ _ _ _ _ => ?_
        match answer with
        | .error error => trivial
        | .ok true => trivial
        | .ok false => trivial

/-- The poller asks for timeouts that are due. -/
theorem requestAll_assured (address : String) {entries : List DueTimeout}
    (hripe : ∀ entry ∈ entries, Ripe s.log s.now entry.id) :
    Assured contract satellitePost (requestAll address entries) s := by
  induction entries generalizing s with
  | nil => trivial
  | cons entry rest ih =>
    obtain ⟨hfirst, hrest⟩ := List.forall_mem_cons.1 hripe
    -- an id, a request, a change of the schedule; what is due meanwhile stays so
    refine assured_request (fun _ _ => trivial) fun _ requestId u _ _ hlog hnow => ?_
    refine assured_request (fun v hv => ⟨_, _, _, rfl,
      .request _ (hfirst.mono (hlog.trans hv.log) (hnow.trans hv.now))⟩)
      fun _ answer v _ _ hlog' hnow' => ?_
    cases answer with
    | error error => exact assured_request (fun _ _ => trivial) fun _ _ _ _ _ _ _ => trivial
    | ok _ =>
      refine assured_request (fun _ _ => trivial) fun _ _ w _ _ hlog'' hnow'' => ?_
      exact ih fun other hother => (hrest other hother).mono ((hlog.trans hlog').trans hlog'')
        ((hnow.trans hnow').trans hnow'')

/-- A spin of the poller keeps to the `contract` of the satellites. -/
theorem spin_assured (address : String) (s : Scene) :
    Assured contract satellitePost (spin address) s := by
  refine assured_request (fun _ _ => trivial) fun _ schedule _ _ _ _ _ => ?_
  refine assured_request (fun _ _ => trivial) fun _ now _ _ _ _ _ => ?_
  rw [Program.done_bind]
  split
  · trivial
  · refine assured_request (fun _ _ => trivial) fun t answer u ht hserved _ _ => ?_
    rcases nextChunk_answer ht.filed.honest hserved with ⟨error, rfl⟩ | rfl
    · trivial
    · refine assured_request (fun _ _ => trivial) fun _ _ v _ _ hlog hnow => ?_
      rw [Program.done_bind]
      refine Assured.bind ((requestAll_assured address fun entry hentry => ?_).imp
        fun result w _ => ?_)
      -- what a query finds was accepted, and is due when it is answered
      · obtain ⟨x, hx, -, hdue, rfl⟩ := mem_nextChunk.1 hentry
        obtain ⟨id, hstored⟩ := TimeoutStore.mem_toList.1 hx
        obtain ⟨-, haccepted⟩ := ht.filed.origin id x hstored
        exact ⟨x, haccepted.mono (hserved.log_prefix.trans hlog), rfl, hdue.trans hnow⟩
      · match result with
        | .error payload => trivial
        | .ok (.error error) => trivial
        | .ok (.ok _) =>
          refine assured_request (fun _ _ => trivial) fun _ now _ _ _ _ _ => ?_
          exact assured_request (fun _ _ => trivial) fun _ _ _ _ _ _ _ => trivial

/-! ### The machine -/

/-- The poller has asked for a timeout. -/
def Asked (address : String) (log : List Exchange) (id : String) : Prop :=
  ∃ requestId answer, ⟨.dispatch (requestBatch address requestId id), answer⟩ ∈ log

/-- What may begin beside the poller: a message arrives that is to be stored, or a request of the
poller arrives. A message that is handed back after a failure arrives anew. -/
inductive Begins (address : String) : Machine → Act StageResult → Prop where
  /-- A message arrives that is to be stored. -/
  | store (machine : Machine) (owner : String) (message : Message) :
      Begins address machine (store owner message)
  /-- A request arrives to send a stored message on. -/
  | dispatch {machine : Machine} (isolated : Bool) {request : Message}
      (hasked : ∀ id, request.header? Header.timeoutIdToDispatch = some id →
        Asked address machine.scene.log id) :
      Begins address machine (dispatchStored isolated request)

/-- The timeout managers that come about from one over an empty storage. -/
inductive Reachable (address : String) : Machine → Prop where
  /-- Nothing is stored and nothing was asked. -/
  | initial {world : World} {now : Instant} (hstore : world.site.storage.store = {})
      (hscripted : ∀ call, world.site.storage.scripted call = none) (hshown : Shown now) :
      Reachable address { scene := { world, now } }
  /-- One step more. -/
  | step {machine machine' : Machine} (hreach : Reachable address machine)
      (hstep : Step address (Begins address) machine machine') : Reachable address machine'

/-- What holds of a timeout manager at any time. -/
structure Inv (machine : Machine) : Prop where
  /-- Ids are different. -/
  issued : Issued machine
  /-- The clock shows an instant that there is. -/
  shown : Shown machine.scene.now
  /-- All that was dispatched was warranted. -/
  timely : Timely machine.scene.log machine.scene.now
  /-- What is left of the programs beside the poller keeps to the contract. -/
  satellites : ∀ program ∈ machine.satellites,
    Assured contract satellitePost program machine.scene
  /-- What is left of a spin does so too. -/
  spin : ∀ program, machine.spin = some program →
    Assured contract satellitePost program machine.scene

variable {address : String} {machine machine' : Machine}

/-- Whatever `Begins` stores a timeout only under an id that it has just drawn. -/
theorem Begins.draws {program : Act StageResult} (h : Begins address machine program) :
    Draws none program := by
  cases h with
  | store owner message => exact draws_store owner message
  | dispatch isolated => exact draws_dispatchStored isolated _

/-- Whatever `Begins` in a machine with the invariant keeps to the `contract`. -/
theorem Inv.begins {program : Act StageResult} (h : Inv machine)
    (hbegins : Begins address machine program) :
    Assured contract satellitePost program machine.scene := by
  cases hbegins with
  | store owner message => exact store_assured owner message _
  | dispatch isolated hasked =>
    refine dispatchStored_assured isolated fun id hid => ?_
    obtain ⟨requestId, answer, hmem⟩ := hasked id hid
    exact (h.timely.dispatched _ _ _ _ hmem).ripe_of_request

/-- A program that keeps to the `contract` still does after others went on. -/
theorem contract_stable {program : Act α} (h : Assured contract satellitePost program s)
    (hgoes : Goes s u) : Assured contract satellitePost program u :=
  h.stable Goes.trans (fun _ _ _ _ _ => trivial) hgoes

/-- Every step of a timeout manager keeps what holds of it. -/
theorem inv_step (h : Inv machine) (hstep : Step address (Begins address) machine machine') :
    Inv machine' := by
  have hissued := issued_step (fun _ _ => Begins.draws) h.issued hstep
  have hrefl : Goes machine.scene machine.scene :=
    ⟨List.prefix_rfl, le_rfl, h.shown, h.issued.filed⟩
  cases hstep with
  | begin hbegins =>
    exact ⟨hissued, h.shown, h.timely,
      List.forall_mem_cons.2 ⟨h.begins hbegins, h.satellites⟩, h.spin⟩
  | @goOn earlier later effect next answer scene hsatellites hserved =>
    have hmem : Program.call (S := Effect.signature) effect next ∈ machine.satellites := by
      simp [hsatellites]
    obtain ⟨htimely, hnext⟩ := h.satellites _ hmem _ hrefl answer scene hserved
    -- the programs that wait rely on no more than what every request does to the scene
    have hgoes : Goes machine.scene scene := .of_serves hserved h.shown hissued.filed
    refine ⟨hissued, hgoes.shown, htimely h.timely, fun program hprogram => ?_,
      fun program hprogram => contract_stable (h.spin program hprogram) hgoes⟩
    rcases mem_replaced (Program.call (S := Effect.signature) effect next) hprogram with rfl | hmem
    · exact hnext
    · exact contract_stable (h.satellites program (hsatellites ▸ hmem)) hgoes
  | finish hsatellites =>
    refine ⟨hissued, h.shown, h.timely, fun program hprogram => h.satellites program ?_, h.spin⟩
    rw [hsatellites]
    rcases List.mem_append.1 hprogram with hmem | hmem
    · simp [hmem]
    · simp [hmem]
  | spin hspin =>
    refine ⟨hissued, h.shown, h.timely, h.satellites, fun program hprogram => ?_⟩
    cases hprogram
    exact spin_assured address _
  | @poll effect next answer scene hspin hserved =>
    obtain ⟨htimely, hnext⟩ := h.spin _ hspin _ hrefl answer scene hserved
    have hgoes : Goes machine.scene scene := .of_serves hserved h.shown hissued.filed
    refine ⟨hissued, hgoes.shown, htimely h.timely,
      fun program hprogram => contract_stable (h.satellites program hprogram) hgoes,
      fun program hprogram => ?_⟩
    cases hprogram
    exact hnext
  | rest hspin => exact ⟨hissued, h.shown, h.timely, h.satellites, nofun⟩
  | @elsewhere world =>
    have hgoes : Goes machine.scene { machine.scene with world } :=
      ⟨List.prefix_rfl, le_rfl, h.shown, hissued.filed⟩
    exact ⟨hissued, h.shown, h.timely,
      fun program hprogram => contract_stable (h.satellites program hprogram) hgoes,
      fun program hprogram => contract_stable (h.spin program hprogram) hgoes⟩

/-- The invariant along a run, by its steps. -/
theorem inv_of_reachable (h : Reachable address machine) : Inv machine := by
  induction h with
  | @initial world now hstore hscripted hshown =>
    have hnone (id : String) (x : Timeout) : ({ world, now } : Scene).stored? id ≠ some x := by
      unfold Scene.stored?
      rw [hstore]
      nofun
    have hfiled : Filed { world, now } :=
      { honest := hscripted
        given := nofun
        unique := nofun
        origin := fun id x hx => absurd hx (hnone id x) }
    exact ⟨⟨hfiled, nofun, nofun, ⟨.nil, nofun, nofun⟩⟩, hshown, ⟨nofun, nofun⟩, nofun, nofun⟩
  | step _ hstep ih => exact inv_step ih hstep

/-! ### Deferred messages -/

/-- A message with one destination after it was deferred. -/
def handedOn (manager destination : String) (due : Instant) (context : RoutingContext) :
    RoutingContext :=
  { context with
    message := { context.message with
      headers := deferredHeaders destination due context.message.headers }
    routes := [.unicast manager]
    constraints := context.constraints.filter fun constraint => !constraint.isDelay }

/-- The deferring stage of a sender whose clock shows `now` hands a message on in another
context. -/
def Defers (manager : String) (now : Instant) (context context' : RoutingContext) : Prop :=
  ∀ next, ∃ rest, routeDeferred manager next context
      = Program.call (S := Effect.signature) .clock rest ∧ rest now = next.run context'

/-- The due time of a message is that of its first delay. -/
theorem dueAt?_of_filter {constraints others : List Constraint} {constraint : Constraint}
    (h : constraints.filter (·.isDelay) = constraint :: others) :
    dueAt? constraints now = constraint.dueAt? now := by
  induction constraints with
  | nil => cases h
  | cons first rest ih =>
    have hfirst := Deferring.isSome_dueAt? first now
    rw [List.filter_cons] at h
    rw [dueAt?, List.findSome?_cons]
    split at h
    · next hdelay =>
      obtain ⟨rfl, -⟩ := List.cons.inj h
      obtain ⟨due, hdue⟩ := Option.isSome_iff_exists.1 (hfirst.trans hdelay)
      rw [hdue]
    · next hother =>
      have hnone : first.dueAt? now = none := by simpa [hother] using hfirst
      rw [hnone]
      exact ih h

/-- A message with a due time and one destination is deferred. -/
theorem defers_handedOn {manager destination : String} {context : RoutingContext}
    (hdue : dueAt? context.constraints now = some due)
    (hroutes : context.routes = [.unicast destination]) :
    Defers manager now context (handedOn manager destination due context) := by
  intro next
  refine ⟨_, rfl, ?_⟩
  simp only [hdue, hroutes, oneAddress?, Program.done_bind]
  rfl

/-- A delay leads to an instant that there is. -/
theorem representable_of_dueAt? {constraint : Constraint}
    (hbefore : ∀ t, constraint = .notBefore t → t.Representable)
    (h : constraint.dueAt? now = some due) : due.Representable := by
  cases constraint with
  | discardAfter span => cases h
  | delayBy span =>
    cases h
    rw [Instant.later]
    split
    · next hrepresentable => exact hrepresentable
    · decide
  | notBefore t =>
    cases h
    exact hbefore due rfl

/-- A message that is to be delivered in five seconds. -/
def reminder : RoutingContext where
  message := ⟨"m1", ∅, []⟩
  routes := [.unicast "billing"]
  constraints := [.delayBy (.ofSeconds 5)]
  scope := 0

end Messaging.Timeouts.Manager.Interleaved.Punctual
