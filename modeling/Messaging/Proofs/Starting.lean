import Messaging.Endpoint.Running
import Messaging.Memory.Transport
import Messaging.Proofs.Attempt
import Messaging.Proofs.Launching
import Messaging.Proofs.Permits
import Messaging.Proofs.StepOrder

/-!
# What a started endpoint receives with

An endpoint on the transport in memory is started on a host, without steps of the user.

- `Comes` says what a part of the start comes to, and `Comes.of_bind` takes it apart.
- `sendingSide_builtIn` and `receivePipeline_builtIn` say what the pipelines of the endpoint are.
- `Mans` says that a pump of a host has a run, and `mans_of_start` that the pump of the input queue
  has one that runs the pipeline of received messages.
-/

namespace Messaging.Redelivery

open Assembly Endpoint

/-! ### The pipelines -/

/-- The steps of the main pipeline without those of the user. -/
def builtInSet (settings : Settings) (resolver : Resolver) (faults : Option (Chain FaultContext)) :
    EndpointSteps :=
  { name := mainPipeline, steps := builtInSteps settings resolver faults }

section Pipelines

variable (settings : Settings) (resolver : Resolver) (faults : Option (Chain FaultContext))

/-- Without steps of the user the main pipeline has the built-in ones. -/
theorem mainSteps_builtIn :
    mainSteps settings resolver { name := mainPipeline } faults
      = .ok (builtInSet settings resolver faults) := rfl

/-- The elements of a list at all its positions. -/
theorem filterMap_getElem?_range {α : Type} (items : List α) :
    ((List.range items.length).filterMap fun index => items[index]?) = items := by
  induction items with
  | nil => rfl
  | cons first rest ih =>
    rw [List.length_cons, List.range_succ_eq_map, List.filterMap_cons, List.filterMap_map]
    exact congrArg (first :: ·) ih

/-- Steps that ask for no other order run as they were registered. -/
theorem resolved_of_honours {name : String} {steps : List EndpointStep}
    {placements : List Pipeline.Placement} (hplacements : steps.map Step.placement = placements)
    (hnodup : (placements.map (·.id)).Nodup) (hknown : Pipeline.firstUnknown? placements = none)
    (hrange : Pipeline.Honours placements (List.range placements.length)) :
    StepSet.resolved (C := ContextKind.Context) { name, steps } = .ok steps := by
  subst hplacements
  have hresolve := (Pipeline.resolve_resolution hnodup).eq_range hknown hrange
  rw [List.length_map] at hresolve
  rw [StepSet.resolved, StepSet.effective]
  simp only [StepSet.applyAll, bind, Except.bind, hresolve, filterMap_getElem?_range]

/-- What the built-in steps ask of their order; there are more of them with an input queue, and with
a timeout manager. -/
def builtInPlacements (receives manages : Bool) : List Pipeline.Placement :=
  (if receives then
    [⟨Recovery.moveFaultsStep, [], []⟩,
      ⟨Recovery.firstLevelRetriesStep, [], [Recovery.moveFaultsStep]⟩]
    else []) ++
  [⟨Outgoing.resolveRoutesStep, [], []⟩] ++
  (if manages then [⟨Timeouts.routeDeferredStep, [], []⟩] else [])

/-- Where the `builtInSteps` go depends on two settings only. -/
theorem placement_builtInSteps :
    (builtInSteps settings resolver faults).map Step.placement
      = builtInPlacements settings.localAddress.isSome settings.timeoutManagerAddress.isSome := by
  rw [builtInSteps]
  cases settings.localAddress <;> cases settings.timeoutManagerAddress <;> rfl

/-- The built-in steps run in the order in which they are registered. -/
theorem resolved_builtInSet :
    (builtInSet settings resolver faults).resolved
      = .ok (builtInSteps settings resolver faults) := by
  refine resolved_of_honours (placement_builtInSteps settings resolver faults) ?_ ?_ ?_ <;>
    cases settings.localAddress.isSome <;> cases settings.timeoutManagerAddress.isSome <;> decide

/-- What the built-in stages of outgoing messages of an endpoint are told. -/
def outboundOf (serializer : Serializer) (capabilities : Capabilities) : Outbound :=
  ⟨resolver, settings.timeoutManagerAddress, serializer, capabilities⟩

/-- The pipelines of outgoing messages hold the built-in stages. -/
theorem sendingSide_builtIn (serializer : Serializer) (capabilities : Capabilities) :
    sendingSide (builtInSet settings resolver faults) serializer capabilities
      = .ok (outboundOf settings resolver serializer capabilities).sending := by
  rw [sendingSide, outboundOf]
  simp only [StepSet.build, resolved_builtInSet]
  rw [builtInSteps]
  cases settings.localAddress <;> cases settings.timeoutManagerAddress <;> rfl

/-- What the built-in stages of received messages of an endpoint are told. -/
def inboundOf (parts : EndpointParts) (capabilities : Capabilities) (main : String) : Inbound :=
  { outboundOf settings resolver parts.serializer capabilities with
    handlers := parts.handlers
    endpointName := settings.endpointName
    localAddress := main
    errorQueue := settings.errorQueue
    maxRetries := settings.maxRetries }

/-- The pipeline of received messages holds the built-in stages. -/
theorem receivePipeline_builtIn (parts : EndpointParts) (capabilities : Capabilities)
    {main : String} (hmain : settings.localAddress = some main) :
    let inbound := inboundOf settings resolver parts capabilities main
    receivePipeline (builtInSet settings resolver (some inbound.sending.fault)) parts
        (inbound.operations settings.endpointName (some main))
      = .ok inbound.pipeline := by
  intro inbound
  rw [receivePipeline, incomingPipeline]
  simp only [StepSet.build, resolved_builtInSet]
  rw [builtInSteps, hmain]
  cases settings.timeoutManagerAddress <;> rfl

end Pipelines

/-! ### Taking a start apart -/

variable {α β : Type} {site : SiteId} {host host' host'' : Host}

/-- A program that is driven goes through its first part before its second. -/
theorem drive_bind (program : Life α) (f : α → Life β) (host : Host) :
    Host.drive site (program.bind f) host
      = match Host.drive site program host with
        | (.ok result, host) => Host.drive site (f result) host
        | (.error payload, host) => (.error payload, host) := by
  induction program generalizing host with
  | done => rfl
  | panic => rfl
  | call request next ih => exact ih _ _

/-- What a host makes of a program is one of the results that `Program.Yields` allows. -/
theorem yields_of_drive {program : Life α} {result : α}
    (h : (Host.drive site program host).1 = .ok result) : program.Yields result := by
  induction program generalizing host with
  | done value =>
    cases h
    exact .done _
  | panic payload => cases h
  | call request next ih => exact .call (ih _ h)

/-- A part of a start comes to a result on a host. -/
def Comes (site : SiteId) (host : Host) (start : Start α) (result : α) (host' : Host) : Prop :=
  Host.drive site start.run host = (.ok (.ok result), host')

namespace Comes

/-- What a start comes to on a host it gives with some answers. -/
theorem gives {start : Start α} {result : α} (h : Comes site host start result host') :
    Gives start result := yields_of_drive (congrArg Prod.fst h)

/-- A start comes to a result if its parts do. -/
theorem of_bind {start : Start α} {f : α → Start β} {result : β}
    (h : Comes site host (start >>= f) result host'') :
    ∃ middle host', Comes site host start middle host' ∧
      Comes site host' (f middle) result host'' := by
  rw [Comes, ExceptT.run_bind] at h
  change Host.drive site (Program.bind start.run _) host = _ at h
  rw [drive_bind] at h
  generalize hstart : Host.drive site start.run host = driven at h
  obtain ⟨outcome, host'⟩ := driven
  match outcome, h with
  | .ok (.ok middle), h => exact ⟨middle, host', hstart, h⟩

/-- What the configuration allows is had at once. -/
theorem of_configured {outcome : Except ConfigError α} {f : α → Start β} {result : β}
    (h : Comes site host (configured outcome >>= f) result host') :
    ∃ value, outcome = .ok value ∧ Comes site host (f value) result host' := by
  cases outcome with
  | ok value => exact ⟨value, rfl, h⟩
  | error error => cases h

/-- A program that refuses nothing is driven. -/
theorem of_always {program : Life α} {result : α}
    (h : Comes site host (always program) result host') :
    Host.drive site program host = (.ok result, host') := by
  change Host.drive site (Program.bind program fun value => .done (Except.ok value)) host = _ at h
  rw [drive_bind] at h
  generalize hdriven : Host.drive site program host = driven at h ⊢
  obtain ⟨outcome, host''⟩ := driven
  match outcome, h with
  | .ok value, h =>
    cases h
    rfl

/-- A program of the transport is driven and does not refuse. -/
theorem of_transported {program : Life (Except TransportError α)} {result : α}
    (h : Comes site host (transported program) result host') :
    Host.drive site program host = (.ok (.ok result), host') := by
  change Host.drive site
    (Program.bind program fun outcome => .done (outcome.mapError EndpointError.transport)) host = _
    at h
  rw [drive_bind] at h
  generalize hdriven : Host.drive site program host = driven at h ⊢
  obtain ⟨outcome, host''⟩ := driven
  match outcome, h with
  | .ok (.ok value), h =>
    cases h
    rfl

theorem of_pure {value result : α} (h : Comes site host (pure value : Start α) result host') :
    result = value ∧ host' = host := by
  cases h
  exact ⟨rfl, rfl⟩

theorem not_throw {error : EndpointError} {result : α} :
    ¬ Comes site host (throw error : Start α) result host' := nofun

end Comes

/-! ### Pumps that have a run -/

/-- A pump of a host has a run that has received nothing yet. -/
structure Mans (key : PumpKey) (id : RunId) (run : PumpRun) (host : Host) : Prop where
  /-- The pump runs. -/
  running : (host.pump? key).bind PumpState.running = some id
  /-- The run belongs to the host. -/
  pumps : Pumps id run host
  /-- The run is as it was started. -/
  fresh : host.run? id = some run
  /-- No task holds a permission of it. -/
  unheld : held id host = 0

/-- A run as it is started. -/
def startedRun (site : SiteId) (entry : PumpEntry) (queue : String) (concurrency : Concurrency)
    (receiver : TaskId) : PumpRun :=
  { site, entry, queue, receiver, permits := concurrency.getD Host.defaultConcurrency }

/-- A run that has received nothing yet has all permissions. -/
theorem Mans.limited {key : PumpKey} {id : RunId} {run : PumpRun} (h : Mans key id run host) :
    Limited id run.permits host := by
  intro run' hrun'
  cases h.fresh.symm.trans hrun'
  have hunheld := h.unheld
  omega

variable {id : RunId} {run : PumpRun} {key : PumpKey}

/-- An endpoint that acts while it starts changes no pump. -/
theorem SamePumps.drive_act (site : SiteId) {γ : Type} (program : Act γ) (host : Host) :
    SamePumps host (Host.drive site (Life.act program) host).2 := by
  induction program generalizing host with
  | done => exact .refl host
  | panic => exact .refl host
  | call effect next ih =>
    -- each request of the program is one act
    refine (SamePumps.inSite host site fun world => world.perform effect).trans ?_
    exact ih _ _

/-- A pump has its run on every host with the same tasks and runs where it runs. -/
theorem Mans.congr (h : Mans key id run host)
    (hrunning : (host'.pump? key).bind PumpState.running = some id)
    (htasks : host'.tasks = host.tasks) (hnext : host'.nextTask = host.nextTask)
    (hruns : host'.runs = host.runs) : Mans key id run host' where
  running := hrunning
  pumps := h.pumps.congr htasks hnext hruns
  fresh := by
    rw [Host.run?, hruns]
    exact h.fresh
  unheld := by
    rw [held, htasks]
    exact h.unheld

/-- A pump has its run on every host with the same pumps. -/
theorem Mans.of_same (h : Mans key id run host) (hsame : SamePumps host host') :
    Mans key id run host' := by
  refine h.congr ?_ hsame.tasks hsame.nextTask hsame.runs
  rw [hsame.pump?]
  exact h.running

/-- An endpoint that starts leaves the pumps as they are where its parts act. -/
theorem Comes.samePumps {γ : Type} {program : Act γ} {result : γ}
    (h : Comes site host (always (Life.act program)) result host') : SamePumps host host' := by
  have hsame := SamePumps.drive_act site program host
  rwa [h.of_always] at hsame

/-! ### Starting pumps -/

/-- Setting up another pump changes no run. -/
theorem Mans.initPump (h : Mans key id run host) {other : PumpKey} (hne : other ≠ key)
    (entry : PumpEntry) (settings : PumpSettings) :
    Mans key id run (host.initPump other entry settings).2 := by
  unfold Host.initPump
  dsimp only
  split
  -- the queue may be purged first, which is nothing but acting on the world
  · have hpurged : Mans key id run
        (if settings.purge then host.modifyBroker (·.purge settings.inputQueue) else host) := by
      split
      · exact h.of_same (.inSite ..)
      · exact h
    generalize (if settings.purge then host.modifyBroker (·.purge settings.inputQueue) else host)
      = purged at hpurged ⊢
    split
    · refine hpurged.congr ?_ rfl rfl rfl
      rw [Host.pump?_modifyPump_of_ne _ (Ne.symm hne)]
      · exact hpurged.running
      · exact fun _ => rfl
    · refine hpurged.congr ?_ rfl rfl rfl
      obtain ⟨pump, hpump, hrunning⟩ := Option.bind_eq_some_iff.1 hpurged.running
      rw [Host.pump?, List.find?_append]
      rw [Host.pump?] at hpump
      rw [hpump]
      exact hrunning
  · exact h

/-- A host keeps its runs when another one starts. -/
theorem run?_push (hrun : host.run? id = some run) (other : PumpRun) :
    Host.run? { host with runs := host.runs.push other } id = some run := by
  obtain ⟨hlt, -⟩ := Array.getElem?_eq_some_iff.1 hrun
  rw [Host.run?, Array.getElem?_push_lt hlt, ← Array.getElem?_eq_getElem hlt]
  exact hrun

/-- Tasks are in order when another run starts. -/
theorem orderly_push (horderly : host.Orderly) (other : PumpRun) :
    Host.Orderly { host with runs := host.runs.push other } := by
  refine horderly.congr rfl rfl ?_
  rw [Array.size_push]
  exact Nat.le_succ _

/-- The task of a run that starts is part of a run that has started. -/
theorem started_push (host : Host) (other : PumpRun) (started : RunId)
    (hstarted : (Job.receive host.runs.size .acquiring).run? = some started) :
    started < (host.runs.push other).size := by
  cases hstarted
  rw [Array.size_push]
  exact Nat.lt_succ_self _

/-- A pump has its run when another one starts. -/
theorem Mans.pushRun (h : Mans key id run host) (other : PumpRun) :
    Mans key id run { host with runs := host.runs.push other } where
  running := h.running
  pumps :=
    { orderly := orderly_push h.pumps.orderly other
      known := by
        obtain ⟨run', hrun', hsame⟩ := h.pumps.known
        exact ⟨run', run?_push hrun' other, hsame⟩
      named := h.pumps.named
      receiving := h.pumps.receiving }
  fresh := run?_push h.fresh other
  unheld := h.unheld

/-- A new task that does not hold a permission changes no run. -/
theorem Mans.spawn (h : Mans key id run host) (site : SiteId) (job : Job)
    (hjob : ∀ run, job.run? = some run → run < host.runs.size) (hheld : heldBy id job = 0) :
    Mans key id run (host.spawn site job).2 where
  running := h.running
  pumps := (Idles.spawn h.pumps site hjob).pumps
  fresh := h.fresh
  unheld := by rw [held_spawn, h.unheld, hheld]

/-- Starting another pump changes no run. -/
theorem Mans.startPump (h : Mans key id run host) {other : PumpKey} (hne : other ≠ key)
    (concurrency : Concurrency) : Mans key id run (host.startPump other concurrency).2 := by
  unfold Host.startPump
  split
  · exact h
  · split
    · exact h
    · next pump _ _ _ =>
      -- the run counts as started before its task begins, as the two do not meet
      have hpush := h.pushRun
        (startedRun other.site pump.entry pump.queue concurrency host.nextTask)
      have hspawn := hpush.spawn other.site _ (started_push host _) rfl
      refine hspawn.congr ?_ rfl rfl rfl
      dsimp only
      rw [Host.pump?_modifyPump_of_ne _ (Ne.symm hne)]
      · exact h.running
      · exact fun _ => rfl

/-- A background poller changes no run. -/
theorem Mans.startPoller (h : Mans key id run host) (site : SiteId) (address text : String) :
    Mans key id run (host.startPoller site address text) := by
  have hspawn := h.spawn site
    (.repeating Timeouts.pollingPause (Timeouts.round address text) true) nofun rfl
  exact hspawn.congr hspawn.running rfl rfl rfl

/-- Neither does the clearing of counters. -/
theorem Mans.startCleaner (h : Mans key id run host) (site : SiteId) (interval : Time.Span)
    (counters : List CounterId) : Mans key id run (host.startCleaner site interval counters) := by
  unfold Host.startCleaner
  split
  · exact h
  · have hspawn := h.spawn site (.clear interval.millis counters false) nofun rfl
    exact hspawn.congr hspawn.running rfl rfl rfl

/-- A pump that is started for the first time has a run. -/
theorem mans_startPump (horderly : host.Orderly) {pump : PumpState}
    (hpump : host.pump? key = some pump) (hidle : pump.running = none)
    (concurrency : Concurrency) :
    Mans key host.runs.size
      (startedRun key.site pump.entry pump.queue concurrency host.nextTask)
      (host.startPump key concurrency).2 := by
  rw [Host.startPump, hpump]
  dsimp only
  rw [hidle]
  -- the entry holds the run, the receiver is spawned for it, and nothing is under way
  refine ⟨?_, ?_, Array.getElem?_push_size, ?_⟩
  · dsimp only
    rw [Host.pump?_modifyPump]
    · refine (congrArg (fun found => (Option.map _ found).bind PumpState.running) hpump).trans ?_
      rw [Option.map_some, if_pos rfl]
      rfl
    · exact fun _ => rfl
  · have hpush := orderly_push horderly
      (startedRun key.site pump.entry pump.queue concurrency host.nextTask)
    have hspawn := hpush.spawn key.site (started_push host _)
    refine ⟨hspawn.congr rfl rfl (Nat.le_refl _), ⟨_, Array.getElem?_push_size, rfl, rfl, rfl, rfl⟩,
      Nat.lt_succ_self _, ?_⟩
    intro task htask
    have hnew := Host.task?_spawn horderly key.site (.receive host.runs.size .acquiring)
      host.nextTask
    rw [if_pos rfl] at hnew
    cases hnew.symm.trans htask
    exact ⟨_, rfl⟩
  · have hheld := held_spawn host.runs.size host key.site (.receive host.runs.size .acquiring)
    rw [held_eq_zero horderly (Nat.le_refl _)] at hheld
    exact hheld

/-- A pump that is set up for the first time does not run yet. -/
theorem initPump_ok {entry : PumpEntry} {settings : PumpSettings}
    (h : host.initPump key entry settings = (.ok (), host')) (hnone : host.pump? key = none)
    (horderly : host.Orderly) :
    host'.Orderly ∧ host'.pump? key = some { key, entry, queue := settings.inputQueue } := by
  unfold Host.initPump at h
  dsimp only at h
  split at h
  · -- a queue that is purged belongs to the broker, not to a pump
    have hpurged : SamePumps host
        (if settings.purge then host.modifyBroker (·.purge settings.inputQueue) else host) := by
      split
      · exact .inSite ..
      · exact .refl host
    generalize (if settings.purge then host.modifyBroker (·.purge settings.inputQueue) else host)
      = purged at hpurged h
    rw [← hpurged.pump?] at hnone
    rw [hnone] at h
    cases h
    refine ⟨(hpurged.orderly horderly).congr rfl rfl (Nat.le_refl _), ?_⟩
    rw [Host.pump?] at hnone
    rw [Host.pump?, List.find?_append, hnone]
    simp
  · cases h

/-! ### Starting an endpoint -/

/-- Sets a pump up and starts it. -/
def setUp (host : Host) (key : PumpKey) (entry : PumpEntry) (settings : PumpSettings)
    (concurrency : Concurrency) : Except TransportError Unit × Host :=
  match host.initPump key entry settings with
  | (.error error, host) => (.error error, host)
  | (.ok (), host) => host.startPump key concurrency

/-- A pump that is set up for the first time has a run. -/
theorem mans_of_setUp (horderly : host.Orderly) (hnone : host.pump? key = none)
    {entry : PumpEntry} {settings : PumpSettings} {concurrency : Concurrency}
    (h : (setUp host key entry settings concurrency).1 = .ok ()) :
    ∃ id task, Mans key id (startedRun key.site entry settings.inputQueue concurrency task)
      (setUp host key entry settings concurrency).2 := by
  rw [setUp] at h ⊢
  generalize hinit : host.initPump key entry settings = initialised at h ⊢
  obtain ⟨_ | _, middle⟩ := initialised
  · cases h
  · obtain ⟨hmiddle, hpump⟩ := initPump_ok hinit hnone horderly
    exact ⟨_, _, mans_startPump hmiddle hpump rfl concurrency⟩

/-- Setting another pump up and starting it changes no run. -/
theorem Mans.setUp (h : Mans key id run host) {other : PumpKey} (hne : other ≠ key)
    (entry : PumpEntry) (settings : PumpSettings) (concurrency : Concurrency) :
    Mans key id run (Redelivery.setUp host other entry settings concurrency).2 := by
  rw [Redelivery.setUp]
  have hinit := h.initPump hne entry settings
  generalize host.initPump other entry settings = initialised at hinit ⊢
  obtain ⟨_ | _, middle⟩ := initialised
  · exact hinit
  · exact hinit.startPump hne concurrency

section Starting

variable (settings : Settings) (receiver : Receiver) (grace : Time.Span) {index : Nat}

/-- What a host does for a pump in memory. -/
theorem drive_startPump (site : SiteId) (index : Nat) (host : Host) :
    ∃ pumpSettings : PumpSettings, pumpSettings.inputQueue = receiver.inputQueue ∧
      Host.drive site (Endpoint.startPump settings receiver (Memory.pump grace index)) host
        = (.ok (setUp host ⟨site, index⟩ receiver.entry pumpSettings receiver.concurrency).1,
          (setUp host ⟨site, index⟩ receiver.entry pumpSettings receiver.concurrency).2) := by
  refine ⟨{ inputQueue := receiver.inputQueue, errorQueue := settings.errorQueue
            purge := receiver.purge, mode := settings.transactionMode }, rfl, ?_⟩
  rw [Endpoint.startPump, setUp]
  simp only [Memory.pump, Life.ask, Program.bind_eq, Program.call_bind, Program.done_bind,
    Host.drive, Host.serve]
  generalize host.initPump ⟨site, index⟩ receiver.entry _ = initialised
  obtain ⟨_ | _, host'⟩ := initialised <;> rfl

variable {settings receiver grace}

/-- A run as it is started for a receiver. -/
def receiverRun (site : SiteId) (receiver : Receiver) (task : TaskId) : PumpRun :=
  startedRun site receiver.entry receiver.inputQueue receiver.concurrency task

/-- The pump of a receiver that was not set up before has a run that does what the receiver does. -/
theorem mans_of_startPump (horderly : host.Orderly) (hnone : host.pump? ⟨site, index⟩ = none)
    (h : Host.drive site (Endpoint.startPump settings receiver (Memory.pump grace index)) host
      = (.ok (.ok ()), host')) :
    ∃ id task, Mans ⟨site, index⟩ id (receiverRun site receiver task) host' := by
  obtain ⟨pumpSettings, hqueue, hdrive⟩ :=
    drive_startPump settings receiver grace site index host
  rw [hdrive] at h
  obtain ⟨hok, hhost⟩ := Prod.mk.inj h
  obtain ⟨id, task, hmans⟩ := mans_of_setUp horderly hnone (Except.ok.inj hok)
  rw [hhost, hqueue] at hmans
  exact ⟨id, task, hmans⟩

variable (settings receiver grace)

/-- The start of another pump changes no run. -/
theorem Mans.drive_startPump (h : Mans key id run host) (hne : (⟨site, index⟩ : PumpKey) ≠ key) :
    Mans key id run
      (Host.drive site (Endpoint.startPump settings receiver (Memory.pump grace index))
        host).2 := by
  obtain ⟨pumpSettings, -, hdrive⟩ :=
    Redelivery.drive_startPump settings receiver grace site index host
  rw [hdrive]
  exact h.setUp hne receiver.entry pumpSettings receiver.concurrency

variable {receiver grace}

/-- Neither does the start of several others. -/
theorem Mans.drive_startPumps (h : Mans ⟨site, 0⟩ id run host) {side : ReceiveSide}
    (hside : side.pump = Memory.pump grace) (receivers : List Receiver) (index : Nat) :
    Mans ⟨site, 0⟩ id run
      (Host.drive site (startPumps settings side receivers (index + 1)) host).2 := by
  -- by induction on the receivers: each has a pump of its own, none of them the first one
  induction receivers generalizing index host with
  | nil => exact h
  | cons receiver rest ih =>
    have hother : (⟨site, index + 1⟩ : PumpKey) ≠ ⟨site, 0⟩ := by
      rintro ⟨⟩
    have hfirst := h.drive_startPump settings receiver grace hother
    rw [startPumps, hside]
    change Mans _ _ _ (Host.drive site (Program.bind _ _) host).2
    rw [drive_bind]
    generalize Host.drive site
      (Endpoint.startPump settings receiver (Memory.pump grace (index + 1))) host = driven
      at hfirst ⊢
    obtain ⟨_ | (_ | _), host'⟩ := driven
    · exact hfirst
    · exact hfirst
    · have hrest := ih hfirst (index + 1)
      change Mans _ _ _ (Host.drive site (Program.bind _ _) host').2
      rw [drive_bind]
      generalize Host.drive site (startPumps settings side rest (index + 1 + 1)) host' = driven
        at hrest ⊢
      obtain ⟨_ | _, _⟩ := driven
      · exact hrest
      · exact hrest

variable {settings}

/-- Once pumps are started, the first one has a run that does what the first receiver does. -/
theorem mans_of_startPumps (horderly : host.Orderly) (hnone : host.pump? ⟨site, 0⟩ = none)
    {side : ReceiveSide} (hside : side.pump = Memory.pump grace) {rest : List Receiver}
    {pumps : List (Receiver × Pump)}
    (h : Host.drive site (startPumps settings side (receiver :: rest) 0) host
      = (.ok (none, pumps), host')) :
    ∃ id task, Mans ⟨site, 0⟩ id (receiverRun site receiver task) host' := by
  rw [startPumps, hside] at h
  change Host.drive site (Program.bind _ _) host = _ at h
  rw [drive_bind] at h
  generalize hfirst : Host.drive site (Endpoint.startPump settings receiver (Memory.pump grace 0))
    host = driven at h
  obtain ⟨_ | (_ | _), middle⟩ := driven
  · cases h
  · cases h
  · obtain ⟨id, task, hmans⟩ := mans_of_startPump horderly hnone hfirst
    refine ⟨id, task, ?_⟩
    -- the first pump has its run, and the others leave it alone
    have hrest := hmans.drive_startPumps settings hside rest 0
    change Host.drive site (Program.bind _ _) middle = _ at h
    rw [drive_bind] at h
    generalize Host.drive site (startPumps settings side rest (0 + 1)) middle = driven at h hrest
    obtain ⟨_ | _, last⟩ := driven
    · cases h
    · rw [(Prod.mk.inj h).2] at hrest
      exact hrest

end Starting

/-- An endpoint that receives is started with a run of its first pump. -/
theorem mans_of_startReceiving {side : ReceiveSide} {running running' : Running} {grace : Time.Span}
    {receiver : Receiver} {rest : List Receiver} (hside : side.pump = Memory.pump grace)
    (horderly : host.Orderly) (hnone : host.pump? ⟨site, 0⟩ = none)
    (h : Comes site host (startReceiving side running (receiver :: rest)) running' host') :
    running'.settings = running.settings ∧
      ∃ id task, Mans ⟨site, 0⟩ id (receiverRun site receiver task) host' := by
  rw [startReceiving] at h
  obtain ⟨_, -, h⟩ := h.of_configured
  obtain ⟨_, middle, hqueues, h⟩ := h.of_bind
  have hsame := SamePumps.drive_act site
    (side.createQueues (Assembly.bindings running.settings (receiver :: rest))
      running.settings.endpointName) host
  rw [hqueues.of_transported] at hsame
  obtain ⟨⟨failure, pumps⟩, started, hstarted, h⟩ := h.of_bind
  cases failure with
  | some error =>
    obtain ⟨_, _, -, h⟩ := h.of_bind
    exact (Comes.not_throw h).elim
  | none =>
    obtain ⟨id, task, hmans⟩ := mans_of_startPumps (hsame.orderly horderly)
      ((hsame.pump? _).trans hnone) hside hstarted.of_always
    dsimp only at h
    -- the background poller is a task more, if there is one at all
    have hpolls : ∃ polled, Mans ⟨site, 0⟩ id (receiverRun site receiver task) polled ∧
        Comes site polled (do
        always (Life.ask (.startCleaner running.settings.cleanupInterval
          [.retries, .forwards, .satellites]))
        pure { running with pumps, polls := running.settings.timeouts.isSome, cleans := true })
        running' host' := by
      cases htimeouts : running.settings.timeouts with
      | none =>
        rw [htimeouts] at h
        exact ⟨started, hmans, h⟩
      | some timeouts =>
        rw [htimeouts] at h
        obtain ⟨_, polled, hpolled, h⟩ := h.of_bind
        cases hpolled
        exact ⟨_, hmans.startPoller site timeouts.dispatcherAddress _, h⟩
    obtain ⟨polled, hpolled, h⟩ := hpolls
    obtain ⟨_, cleaned, hcleaned, h⟩ := h.of_bind
    cases hcleaned
    obtain ⟨rfl, rfl⟩ := h.of_pure
    exact ⟨rfl, id, task, hpolled.startCleaner ..⟩

/-! ### A whole start -/

section Start

variable {config : Config} {parts : EndpointParts} {running : Running} {settings : Settings}
  {operations : Operations} {main : String} {pipeline : Chain ReceiveContext}

/-- The receiving side of an endpoint is that of `Memory.provide`. -/
structure InMemory (side : ReceiveSide) : Prop where
  /-- Its pumps are in memory. -/
  pump : ∃ grace, side.pump = Memory.pump grace
  /-- So are the queues that it creates. -/
  createQueues : side.createQueues = Memory.createQueues

/-- What `connectReceive` connects is in memory; it is nothing for an endpoint that only sends. -/
theorem Comes.of_connectReceive {connection : Option String} {side : Option ReceiveSide}
    (h : Comes site host (connectReceive (Memory.provide config) settings connection) side host') :
    SamePumps host host' ∧ side.isSome = !settings.sendOnly ∧
      ∀ receives, side = some receives → InMemory receives := by
  rw [connectReceive] at h
  -- an endpoint that only sends connects nothing
  split at h
  · next hsendOnly =>
    obtain ⟨rfl, rfl⟩ := h.of_pure
    exact ⟨.refl _, by rw [hsendOnly]; rfl, fun _ hnone => by cases hnone⟩
  · next hreceives =>
    split at h
    · exact (not_throw h).elim
    · next connect hconnect =>
      obtain ⟨receives, connected, hconnected, h⟩ := h.of_bind
      obtain ⟨rfl, rfl⟩ := h.of_pure
      refine ⟨hconnected.samePumps, by simpa using hreceives, ?_⟩
      rintro _ ⟨⟩
      rw [Memory.provide] at hconnect
      dsimp only at hconnect
      split at hconnect
      · cases hconnect
      · cases hconnect
        cases hconnected
        exact ⟨⟨_, rfl⟩, rfl⟩

/-- A start that goes on was not refused. -/
theorem Comes.of_unless {refused : Prop} [Decidable refused] {error : EndpointError}
    {f : β → Start α} {rest : Start α} {result : α}
    (h : Comes site host (if refused then throw error >>= f else rest) result host') :
    Comes site host rest result host' := by
  split at h
  · obtain ⟨_, _, hthrown, -⟩ := h.of_bind
    exact (not_throw hthrown).elim
  · exact h

/-- What is settled and built when `startReceiving` begins. -/
structure Built (config : Config) (parts : EndpointParts) (settings : Settings)
    (operations : Operations) (main : String) (pipeline : Chain ReceiveContext) : Prop where
  /-- The settings are those of the configuration. -/
  settled : Settings.resolve config Memory.transport Memory.capabilities = .ok settings
  /-- The endpoint has an input queue. -/
  receives : settings.localAddress = some main
  /-- The pipelines hold the steps of the main pipeline, those of outgoing messages without the
  steps that forward failed messages. -/
  pipelines :
    let resolver :=
      resolver config Memory.transport Memory.capabilities settings parts.subscribers
    ∃ steps sending all, mainSteps settings resolver parts.steps none = .ok steps ∧
      sendingSide steps parts.serializer Memory.capabilities = .ok sending ∧
      operations = {
        outgoing := sending.outgoing, routing := sending.routing
        endpointName := settings.endpointName, localAddress := settings.localAddress } ∧
      mainSteps settings resolver parts.steps (some sending.fault) = .ok all ∧
      receivePipeline all parts operations = .ok pipeline

/-- Without steps of the user the pipeline of received messages holds the built-in stages. -/
theorem Built.exists_inbound (h : Built config parts settings operations main pipeline)
    (hsteps : parts.steps = { name := mainPipeline }) :
    ∃ inbound : Inbound, inbound.handlers = parts.handlers ∧
      inbound.errorQueue = settings.errorQueue ∧
      pipeline = inbound.pipeline := by
  obtain ⟨steps, sending, all, hmain, hsending, rfl, hall, hpipeline⟩ := h.pipelines
  rw [hsteps] at hmain hall
  -- without steps of the user all pipelines are the built-in ones
  cases (mainSteps_builtIn ..).symm.trans hmain
  cases (sendingSide_builtIn ..).symm.trans hsending
  cases (mainSteps_builtIn ..).symm.trans hall
  have hbuilt := receivePipeline_builtIn settings
    (resolver config Memory.transport Memory.capabilities settings parts.subscribers) parts
    Memory.capabilities h.receives
  rw [h.receives] at hpipeline
  cases hbuilt.symm.trans hpipeline
  exact ⟨_, rfl, rfl, rfl⟩

/-- A start in memory ends with `startReceiving`, before which no pump changes; for an endpoint that
only sends it ends without. -/
theorem Comes.of_start (h : Comes site host (start config Memory.transport parts) running host') :
    (config.sendOnly = true ∧ SamePumps host host') ∨
      ∃ settings operations main pipeline side prepared,
        Built config parts settings operations main pipeline ∧ InMemory side ∧
          SamePumps host prepared ∧
          Comes site prepared (startReceiving side {
              settings, operations, subscriptions := (Memory.provide config).subscriptions }
            (receivers settings main pipeline)) running host' := by
  rw [start] at h
  obtain ⟨_, ⟨⟩, h⟩ := h.of_configured
  obtain ⟨settings, hsettled, h⟩ := h.of_configured
  obtain ⟨hsendOnly, hlocal⟩ := localAddress_of_resolve hsettled
  obtain ⟨_, connected, hconnected, h⟩ := h.of_bind
  obtain ⟨_, -, h⟩ := h.of_configured
  obtain ⟨side, received, hreceived, h⟩ := h.of_bind
  obtain ⟨hreceive, hsome, hside⟩ := hreceived.of_connectReceive
  rw [hsendOnly] at hsome
  have hsame := hconnected.samePumps.trans hreceive
  dsimp only at h
  -- a timeout manager without a storage is refused
  replace h := h.of_unless
  obtain ⟨steps, hsteps, h⟩ := h.of_configured
  obtain ⟨sending, hsending, h⟩ := h.of_configured
  cases side with
  | none =>
    obtain ⟨-, rfl⟩ := h.of_pure
    exact .inl ⟨by simpa using hsome, hsame⟩
  | some side =>
    have hreceives : ¬ config.sendOnly = true := by simpa using hsome
    rw [if_neg hreceives] at hlocal
    rw [hlocal] at h
    obtain ⟨all, hall, h⟩ := h.of_configured
    obtain ⟨pipeline, hpipeline, h⟩ := h.of_configured
    have hbuilt : Built config parts settings _ _ pipeline :=
      ⟨hsettled, hlocal, steps, sending, all, hsteps, hsending, rfl, hall, by rwa [hlocal]⟩
    rw [hlocal] at hbuilt
    -- what a timeout manager polls with is prepared before the pumps start
    split at h
    · obtain ⟨_, prepared, hprepared, h⟩ := h.of_bind
      exact .inr ⟨settings, _, _, pipeline, side, prepared, hbuilt, hside side rfl,
        hsame.trans hprepared.samePumps, h⟩
    · exact .inr ⟨settings, _, _, pipeline, side, received, hbuilt, hside side rfl, hsame, h⟩

/-- The pump of the input queue of an endpoint that is started on a host has a run, which does what
the first of its `receivers` does. -/
theorem Comes.mans (horderly : host.Orderly) (hnone : host.pump? ⟨site, 0⟩ = none)
    (hreceives : config.sendOnly = false)
    (h : Comes site host (start config Memory.transport parts) running host') :
    ∃ settings operations main pipeline, Built config parts settings operations main pipeline ∧
      running.settings = settings ∧
      ∃ receiver rest, receivers settings main pipeline = receiver :: rest ∧
        ∃ id task, Mans ⟨site, 0⟩ id (receiverRun site receiver task) host' := by
  rcases h.of_start with ⟨hsendOnly, -⟩ | ⟨settings, operations, main, pipeline, side, prepared,
    hbuilt, hside, hsame, h⟩
  · rw [hreceives] at hsendOnly
    cases hsendOnly
  · obtain ⟨grace, hpump⟩ := hside.pump
    obtain ⟨hsettings, id, task, hmans⟩ := mans_of_startReceiving hpump
      (hsame.orderly horderly) ((hsame.pump? _).trans hnone) h
    exact ⟨settings, operations, main, pipeline, hbuilt, hsettings, _, _, rfl, id, task, hmans⟩

/-- What a run does with messages is to pass them through a pipeline of built-in stages. -/
def Works (inbound : Inbound) (run : PumpRun) : Prop :=
  ∃ receiver : Receiver, receiver.pipeline = inbound.pipeline ∧ run.entry = receiver.entry

/-- The run of the input queue of a started endpoint without steps of the user passes messages
through the built-in stages. -/
theorem mans_of_start (hsteps : parts.steps = { name := mainPipeline }) (horderly : host.Orderly)
    (hnone : host.pump? ⟨site, 0⟩ = none)
    (h : Comes site host (start config Memory.transport parts) running host')
    (hid : (host'.pump? ⟨site, 0⟩).bind PumpState.running = some id)
    (hrun : host'.run? id = some run) :
    ∃ inbound, inbound.handlers = parts.handlers ∧
      inbound.errorQueue = running.settings.errorQueue ∧
      running.settings.localAddress = some run.queue ∧
      run.permits = (running.settings.maxConcurrency.bind Concurrency.ofSetting).getD
        Host.defaultConcurrency ∧
      Works inbound run ∧ Pumps id run host' ∧ Limited id run.permits host' := by
  -- an endpoint that receives nothing has no pump that runs
  have hreceives : config.sendOnly = false := by
    rcases h.of_start with ⟨-, hsame⟩ | ⟨settings, operations, main, pipeline, _, _, hbuilt, -⟩
    · rw [hsame.pump?, hnone] at hid
      cases hid
    · obtain ⟨-, hlocal⟩ := localAddress_of_resolve hbuilt.settled
      rw [hbuilt.receives] at hlocal
      by_contra hsendOnly
      rw [if_pos (by simpa using hsendOnly)] at hlocal
      cases hlocal
  obtain ⟨settings, operations, main, pipeline, hbuilt, rfl, _, _, ⟨⟩, id', task, hmans⟩ :=
    h.mans horderly hnone hreceives
  obtain ⟨inbound, hhandlers, herror, rfl⟩ := hbuilt.exists_inbound hsteps
  cases hmans.running.symm.trans hid
  cases hmans.fresh.symm.trans hrun
  exact ⟨inbound, hhandlers, herror, hbuilt.receives, rfl, ⟨_, rfl, rfl⟩, hmans.pumps,
    hmans.limited⟩

end Start

end Messaging.Redelivery
