import Messaging.Proofs.Canonical
import Messaging.Proofs.Conversing
import Messaging.Proofs.Dispatching
import Messaging.Proofs.Remaining
import Messaging.Proofs.Returning
import Messaging.Proofs.Starting
import Messaging.Proofs.Stamping

/-!
# The queues that an endpoint sends to of its own accord

An endpoint in memory sends failed messages to the error queue, messages that are to be delayed to
its timeout manager, and the requests of its background poller to a side queue of that.

- `internalQueues` are the queues of an endpoint. `exists_of_start` says that a start creates them,
  and `nodup_inputQueues` that the endpoint receives from different ones.
- `SendsTo` says of a request that it sends to one address only, and `Arrives` that it does not fail
  for want of a queue.
- `InternalWork` are the programs of an endpoint that send of its own accord. `Undisturbed` says of
  the steps of the user that they leave destinations alone, and `InternalWork.holds` that the
  programs send to one of the queues then.
- `internal_destinations_exist` is the result for every endpoint that receives.
-/

namespace Messaging.Endpoint

open Redelivery (Comes)
open Conversation (Holds Lasts Passes Forwards Admits)
open Timeouts.Returning (Queue settle)
open Host (Later Finds Remains)

/-! ### The queues -/

/-- The side queues of the timeout manager of an endpoint, if it runs one. -/
def sideQueues (settings : Settings) : List String :=
  match settings.timeouts with
  | some timeouts => [timeouts.storageAddress, timeouts.dispatcherAddress]
  | none => []

/-- The queues of an endpoint that receives: its input queue, the error queue and its side
queues. -/
def internalQueues (settings : Settings) (main : String) : List String :=
  main :: settings.errorQueue :: sideQueues settings

variable {config : Config} {parts : EndpointParts} {settings : Settings} {main : String}
  {pipeline : Chain ReceiveContext}

/-- The `receivers` of an endpoint are that of its main queue and those of the `sideQueues`. -/
theorem inputQueue_receivers (settings : Settings) (main : String)
    (pipeline : Chain ReceiveContext) :
    (receivers settings main pipeline).map Receiver.inputQueue = main :: sideQueues settings := by
  rw [receivers, sideQueues]
  cases settings.timeouts <;> rfl

/-- `Bindings.addNew` adds an address unless it is there. -/
theorem mem_addNew {addresses : List String} {address other : String} :
    other ∈ Bindings.addNew addresses address ↔ other ∈ addresses ∨ other = address := by
  rw [Bindings.addNew]
  split
  · next hcontains =>
    have hmem : address ∈ addresses := by simpa using hcontains
    exact ⟨.inl, fun h => h.elim id fun hsame => hsame ▸ hmem⟩
  · rw [List.mem_append, List.mem_singleton]

/-- An endpoint needs the queues that it receives from, and the error queue. -/
theorem mem_bindings {receivers : List Receiver} {address : String} :
    address ∈ (Assembly.bindings settings receivers).receiving ++
        (Assembly.bindings settings receivers).sending ↔
      address ∈ receivers.map Receiver.inputQueue ∨ address = settings.errorQueue := by
  -- by induction on the receivers: each adds its queue and leaves the senders alone
  have hreceiving (bindings : Bindings) :
      (receivers.foldl (fun (bindings : Bindings) (receiver : Receiver) =>
          bindings.receive receiver.inputQueue) bindings).sending = bindings.sending ∧
        (address ∈ (receivers.foldl (fun (bindings : Bindings) (receiver : Receiver) =>
          bindings.receive receiver.inputQueue) bindings).receiving ↔
            address ∈ bindings.receiving ∨ address ∈ receivers.map Receiver.inputQueue) := by
    induction receivers generalizing bindings with
    | nil => simp
    | cons receiver rest ih =>
      obtain ⟨hsending, hmem⟩ := ih (bindings.receive receiver.inputQueue)
      refine ⟨hsending, hmem.trans ?_⟩
      rw [Bindings.receive, mem_addNew, List.map_cons, List.mem_cons, or_assoc]
  obtain ⟨hsending, hmem⟩ := hreceiving {}
  rw [List.mem_append, Assembly.bindings, Bindings.send, hsending, mem_addNew]
  dsimp only
  rw [hmem]
  simp

/-- The `internalQueues` are what the bindings of the endpoint name. -/
theorem mem_internalQueues (pipeline : Chain ReceiveContext) {address : String} :
    address ∈ internalQueues settings main ↔
      address ∈ (Assembly.bindings settings (receivers settings main pipeline)).receiving ++
        (Assembly.bindings settings (receivers settings main pipeline)).sending := by
  rw [mem_bindings, inputQueue_receivers, internalQueues]
  simp only [List.mem_cons]
  tauto

/-! ### Different queues -/

/-- The side queues of an endpoint in memory are named after its input queue. -/
theorem sideAddresses_of_resolve
    (h : Settings.resolve config Memory.transport Memory.capabilities = .ok settings)
    {timeouts : TimeoutSettings} (htimeouts : settings.timeouts = some timeouts) :
    timeouts.storageAddress = Memory.inputQueue config ++ ("." ++ Timeouts.storageSatellite) ∧
      timeouts.dispatcherAddress
        = Memory.inputQueue config ++ ("." ++ Timeouts.dispatchSatellite) := by
  have hsettled : settings.timeouts = Settings.timeoutSettings config Memory.transport
      Memory.capabilities { owner :=
        { endpoint := config.endpointName, discriminator := config.discriminator } } := by
    simp only [Settings.resolve, bind, Except.bind] at h
    split at h
    · cases h
    · split at h
      · cases h
      · cases h
        rfl
  rw [htimeouts, Settings.timeoutSettings] at hsettled
  split at hsettled
  · -- with storage and delays both addresses begin with the input queue
    cases hsettled
  · cases hsettled
    exact ⟨String.append_assoc .., String.append_assoc ..⟩

/-- An endpoint in memory receives from different queues: each address is longer than the one
before, also in its canonical form. -/
theorem nodup_inputQueues
    (h : Settings.resolve config Memory.transport Memory.capabilities = .ok settings) :
    ((Memory.inputQueue config :: sideQueues settings).map canonicalAddress).Nodup := by
  cases htimeouts : settings.timeouts with
  | none => simp [sideQueues, htimeouts]
  | some timeouts =>
    obtain ⟨hstorage, hdispatcher⟩ := sideAddresses_of_resolve h htimeouts
    -- the name of one satellite begins with that of the other, so the three addresses get longer
    have hsatellites : "." ++ Timeouts.dispatchSatellite
        = ("." ++ Timeouts.storageSatellite) ++ "Dispatcher" := rfl
    rw [hsatellites, ← String.append_assoc, ← hstorage] at hdispatcher
    have hfirst : (canonicalAddress (Memory.inputQueue config)).length
        < (canonicalAddress timeouts.storageAddress).length := by
      rw [hstorage]
      exact length_canonicalAddress_append _ (by decide) (by decide)
    have hsecond : (canonicalAddress timeouts.storageAddress).length
        < (canonicalAddress timeouts.dispatcherAddress).length := by
      rw [hdispatcher]
      exact length_canonicalAddress_append _ (by decide) (by decide)
    have hne {address other : String}
        (hlength : (canonicalAddress address).length < (canonicalAddress other).length) :
        canonicalAddress address ≠ canonicalAddress other := fun hsame =>
      absurd (congrArg String.length hsame) (Nat.ne_of_lt hlength)
    simp only [sideQueues, htimeouts, List.map_cons, List.map_nil, List.nodup_cons,
      List.mem_cons, List.not_mem_nil, or_false, not_or, not_false_eq_true, List.nodup_nil,
      and_true]
    exact ⟨⟨hne hfirst, hne (hfirst.trans hsecond)⟩, hne hsecond⟩

/-! ### Creating the queues -/

variable {site : SiteId} {host host' : Host}

/-- Once queues are created they exist, whatever comes next. -/
theorem queueExists_createAll {α : Type} (site : SiteId) (f : Unit → Act α)
    (addresses : List String) (host : Host) {address : String} (hmem : address ∈ addresses) :
    (Host.drive site (Life.act ((Memory.createAll addresses).bind f))
      host).2.world.broker.queueExists address = true := by
  induction addresses generalizing host with
  | nil => cases hmem
  | cons first rest ih =>
    change (Host.drive site (Life.act ((Memory.createAll rest).bind f))
      (host.serve site (.act (.createQueue first))).2).2.world.broker.queueExists address = true
    rcases List.mem_cons.1 hmem with rfl | hrest
    · -- the queue is there once it was asked for, and it stays
      refine Host.remains_drive site _ _ address ?_
      let f (world : World) : Bool × World := world.perform (.createQueue address)
      have hcreate : f (host.worldAt site)
          = ((f (host.worldAt site)).1, (f (host.worldAt site)).2) := rfl
      obtain ⟨created, hcreated, halike⟩ := Host.inSite_eq hcreate
      change (host.inSite site f).2.world.broker.queueExists address = true
      rw [hcreated, halike.world]
      exact Broker.queueExists_createQueue.2 (.inl rfl)
    · exact ih _ hrest

/-- After `Memory.createQueues` all queues of the bindings exist. -/
theorem queueExists_createQueues (site : SiteId) {bindings : Bindings} (identity : String)
    (host : Host) {address : String} (hmem : address ∈ bindings.receiving ++ bindings.sending) :
    (Host.drive site (Life.act (Memory.createQueues bindings identity))
      host).2.world.broker.queueExists address = true :=
  queueExists_createAll site (fun _ => .done (Except.ok () : Except TransportError Unit)) _ host
    hmem

/-- A start that `Comes` to a result lets every queue exist that did. -/
theorem remains_of_comes {α : Type} {start : Start α} {result : α}
    (h : Comes site host start result host') : Remains host host' := by
  have hremains := Host.remains_drive site start.run host
  rwa [h] at hremains

/-- The background poller of an endpoint has a task that requests dispatches at an address. -/
def Polls (site : SiteId) (address : String) (host : Host) : Prop :=
  ∃ id task, (site, id) ∈ host.pollers ∧ (id, task) ∈ host.tasks ∧ task.site = site ∧
    task.job = .repeating Timeouts.pollingPause (Timeouts.round address Timeouts.storageLost) true

/-- Another task changes nothing about a background poller. -/
theorem Polls.startCleaner {address : String} (h : Polls site address host)
    (interval : Time.Span) (counters : List CounterId) :
    Polls site address (host.startCleaner site interval counters) := by
  obtain ⟨id, task, hpoller, htask, hsite, hjob⟩ := h
  rw [Host.startCleaner]
  split
  · exact ⟨id, task, hpoller, htask, hsite, hjob⟩
  · exact ⟨id, task, hpoller, List.mem_append_left _ htask, hsite, hjob⟩

/-- `Host.startPoller` leaves a task that `Polls` for the address. -/
theorem polls_startPoller (site : SiteId) (address : String) (host : Host) :
    Polls site address (host.startPoller site address Timeouts.storageLost) :=
  ⟨host.nextTask, _, List.mem_append_right _ List.mem_cons_self,
    List.mem_append_right _ List.mem_cons_self, rfl, rfl⟩

/-- What an endpoint in memory that receives has once it is started: its queues, and a background
poller for its timeout manager. -/
structure Provided (site : SiteId) (settings : Settings) (main : String) (host : Host) : Prop where
  queues : ∀ address ∈ internalQueues settings main, host.world.broker.queueExists address = true
  polls : ∀ timeouts, settings.timeouts = some timeouts →
    Polls site timeouts.dispatcherAddress host

/-- The receiving side of an endpoint starts with the queues and the background poller. -/
theorem provided_of_startReceiving {side : ReceiveSide} {running running' : Running}
    (hside : side.createQueues = Memory.createQueues)
    (h : Comes site host
      (startReceiving side running (receivers running.settings main pipeline)) running' host') :
    Provided site running.settings main host' := by
  rw [startReceiving] at h
  obtain ⟨_, -, h⟩ := h.of_configured
  obtain ⟨_, created, hcreated, h⟩ := h.of_bind
  rw [hside] at hcreated
  -- the queues are made first, and nothing that follows deletes one
  have hqueues : ∀ address ∈ internalQueues running.settings main,
      host'.world.broker.queueExists address = true := by
    intro address hmem
    refine remains_of_comes h address ?_
    have hcreate := queueExists_createQueues site running.settings.endpointName host
      ((mem_internalQueues pipeline).1 hmem)
    rwa [hcreated.of_transported] at hcreate
  refine ⟨hqueues, fun timeouts htimeouts => ?_⟩
  obtain ⟨⟨failure, pumps⟩, started, -, h⟩ := h.of_bind
  cases failure with
  -- a pump that fails ends the start without a result
  | some error =>
    obtain ⟨_, _, -, h⟩ := h.of_bind
    exact (Comes.not_throw h).elim
  | none =>
    dsimp only at h
    rw [htimeouts] at h
    obtain ⟨_, polled, hpolled, h⟩ := h.of_bind
    cases hpolled
    obtain ⟨_, cleaned, hcleaned, h⟩ := h.of_bind
    cases hcleaned
    obtain ⟨-, rfl⟩ := h.of_pure
    exact (polls_startPoller site timeouts.dispatcherAddress started).startCleaner ..

/-- An endpoint in memory that receives starts with its queues and its background poller. -/
theorem provided_of_start {running : Running} (hreceives : config.sendOnly = false)
    (h : Comes site host (start config Memory.transport parts) running host') :
    running.settings.localAddress = some (Memory.inputQueue config) ∧
      Provided site running.settings (Memory.inputQueue config) host' := by
  rcases h.of_start with ⟨hsendOnly, -⟩ | ⟨settings, operations, main, pipeline, side, prepared,
    hbuilt, hside, -, hstarts⟩
  · rw [hreceives] at hsendOnly
    cases hsendOnly
  · obtain ⟨-, hmain⟩ := localAddress_of_resolve hbuilt.settled
    rw [if_neg (by simp [hreceives]), hbuilt.receives] at hmain
    cases hmain
    obtain ⟨-, hsettings, -⟩ := startReceiving_gives hstarts.gives
    dsimp only at hsettings
    rw [hsettings]
    exact ⟨hbuilt.receives, provided_of_startReceiving hside.createQueues hstarts⟩

/-! ### Requests that arrive -/

/-- A request sends to one address only, if it sends at all. -/
def SendsTo (address : String) : Effect → Prop
  | .dispatch batch => ∀ operation ∈ batch.toList, operation.route = .unicast address
  | .stage _ operations => ∀ operation ∈ operations, operation.route = .unicast address
  | _ => True

/-- A request sends to one address only, and it does not fail for want of a queue, in whatever world
an endpoint of a host makes it. -/
structure Arrives (host : Host) (address : String) (effect : Effect) : Prop where
  sends : SendsTo address effect
  found : ∀ batch, effect = .dispatch batch → ∀ site world, Finds host site world →
    world.site.outlet = .broker → ∀ missing,
      (world.dispatch batch).1 ≠ .error (.queueNotFound missing)

/-- A queue that a dispatch misses is that of a message for one address. -/
theorem exists_unicast_of_dispatch {world : World} (houtlet : world.site.outlet = .broker)
    {batch : Batch} {missing : String}
    (h : (world.dispatch batch).1 = .error (.queueNotFound missing)) :
    ∃ delivery ∈ batch.unicast, world.broker.queueExists delivery.target = false ∧
      missing = canonicalAddress delivery.target := by
  have hdispatch : (world.dispatch batch).1 = (world.broker.deliver world.clock batch).1 := by
    simp only [World.dispatch, houtlet, World.readClock]
  rw [hdispatch, Broker.deliver] at h
  split at h
  · cases h
  · next error hdeliveries =>
    obtain rfl := Except.error.inj h
    exact Broker.exists_unicast_of_queueNotFound hdeliveries

/-- A queue that exists on a host is not missed by any of its endpoints. -/
theorem ne_of_missing {address : String} (hexists : host.world.broker.queueExists address = true)
    {world : World} (hworld : Finds host site world) (houtlet : world.site.outlet = .broker)
    {batch : Batch} {missing : String}
    (h : (world.dispatch batch).1 = .error (.queueNotFound missing)) :
    missing ≠ canonicalAddress address := by
  obtain ⟨delivery, -, hmissing, rfl⟩ := exists_unicast_of_dispatch houtlet h
  intro hsame
  have hfound := Host.queueExists_of_finds hworld hexists
  rw [Broker.queueExists, Broker.queue?, ← hsame, ← Broker.queue?, ← Broker.queueExists, hmissing]
    at hfound
  cases hfound

/-- What is sent to the address of a queue that exists arrives. -/
theorem admits_arrives {address : String} (hexists : host.world.broker.queueExists address = true) :
    Admits (fun operation => operation.route = .unicast address)
      (fun log => ∀ exchange ∈ log, Arrives host address exchange.effect) where
  lasts log effect answer haside hlog := by
    refine List.forall_mem_append.2 ⟨hlog, List.forall_mem_singleton.2 ⟨?_, ?_⟩⟩
    · cases effect <;> trivial
    · rintro batch rfl
      exact haside.elim
  stage log staging operations hall hlog :=
    List.forall_mem_append.2 ⟨hlog, List.forall_mem_singleton.2 ⟨hall, nofun⟩⟩
  dispatch log operations answer hall hlog := by
    have hsends : ∀ operation ∈ (Batch.ofList operations).toList,
        operation.route = .unicast address :=
      fun operation hmem => hall operation (Batch.mem_toList_ofList.1 hmem)
    refine List.forall_mem_append.2 ⟨hlog, List.forall_mem_singleton.2 ⟨hsends, ?_⟩⟩
    -- a batch is refused for a queue that is missing, and this one is not
    rintro _ ⟨⟩ other world hworld houtlet missing hmissing
    obtain ⟨delivery, hdelivery, -, htarget⟩ := exists_unicast_of_dispatch houtlet hmissing
    have hroute := hsends _ (List.mem_append_left _ (List.mem_map_of_mem hdelivery))
    refine ne_of_missing hexists hworld houtlet hmissing ?_
    rw [htarget, Route.unicast.inj hroute]

/-! ### Steps that leave destinations alone -/

/-- Contexts of routed messages, and of failed ones, lead to the same place. -/
def SameWay : (kind : ContextKind) → kind.Context → kind.Context → Prop
  | .routing, context, context' =>
    context'.routes = context.routes ∧ context'.constraints = context.constraints
  | .fault, context, context' => context'.errorQueue = context.errorQueue
  | _, _, _ => True

/-- A step of routed or of failed messages runs the rest of its pipeline on contexts that lead to
the same place, and its other requests send nothing. Steps of other kinds may do anything. -/
def Straight (kind : ContextKind) (stage : Stage kind.Context) : Prop :=
  kind = .routing ∨ kind = .fault → ∀ next context,
    Passes (fun _ _ => False) (SameWay kind context) next (stage next context)

/-- The steps of the user leave the destinations of routed and of failed messages alone. -/
structure Undisturbed (user : EndpointSteps) : Prop where
  steps : ∀ step ∈ user.steps, Straight step.kind step.behavior
  replacements : ∀ step ∈ user.replacements, Straight step.kind step.behavior

/-- A main pipeline without steps of the user is `Undisturbed`. -/
theorem undisturbed_builtIn : Undisturbed { name := mainPipeline } := ⟨nofun, nofun⟩

/-- A routed message is bound for an address: to be delayed, it goes to the timeout manager, and
else it has no other route. -/
structure Bound (manager : Option String) (address : String) (context : RoutingContext) :
    Prop where
  delayed : (∃ constraint ∈ context.constraints, constraint.isDelay = true) →
    manager = some address
  prompt : (∀ constraint ∈ context.constraints, constraint.isDelay = false) →
    context.routes = [.unicast address]

/-- On contexts that lead to an address a stage keeps what the rest of its pipeline keeps. -/
def Leads (manager : Option String) (address : String) (ok : List Exchange → Prop) :
    (kind : ContextKind) → Stage kind.Context → Prop
  | .routing, stage => Forwards (Bound manager address) ok stage
  | .fault, stage => Forwards (fun context => context.errorQueue = address) ok stage
  | _, _ => True

variable {manager : Option String} {address : String} {ok : List Exchange → Prop}

/-- A stage that is `Straight` `Leads` to whatever address the stages inside of it lead to. -/
theorem Straight.leads {kind : ContextKind} {stage : Stage kind.Context} (h : Straight kind stage)
    (hlasts : Lasts ok) : Leads manager address ok kind stage := by
  cases kind with
  | routing =>
    intro next hnext context hcontext
    refine (h (.inl rfl) next context).holds hlasts (fun _ _ h => h.elim) ?_
    -- routes and constraints are the same inside, so the message leads to the same place
    rintro context' ⟨hroutes, hconstraints⟩
    refine hnext context' ⟨?_, ?_⟩
    · rw [hconstraints]
      exact hcontext.delayed
    · rw [hconstraints, hroutes]
      exact hcontext.prompt
  | fault =>
    intro next hnext context hcontext
    exact (h (.inr rfl) next context).holds hlasts (fun _ _ h => h.elim)
      fun context' hsame => hnext context' (hsame.trans hcontext)
  | _ => trivial

/-- The step that defers messages leads those that are to be delayed to the timeout manager. -/
theorem routeDeferred_forwards (hlasts : Lasts ok) (manager : String) :
    Forwards (Bound (some manager) address) ok (Timeouts.routeDeferred manager) := by
  intro next hnext context hcontext
  rw [Timeouts.routeDeferred]
  refine hlasts.bind_ask .clock trivial fun now => ?_
  split
  · exact hnext context hcontext
  · next due hdue =>
    split
    · exact .done _
    · have hmanager := Option.some.inj (hcontext.delayed (Deferring.exists_isDelay hdue))
      refine hnext _ ⟨?_, fun _ => by rw [hmanager]⟩
      rintro ⟨constraint, hmem, hdelay⟩
      simp [hdelay] at hmem

/-- Of the `Assembly.builtInSteps` the one that defers sends to the timeout manager, and the others
leave the routes alone. -/
theorem builtInSteps_leads (hlasts : Lasts ok) (settings : Settings) (resolver : Resolver)
    (faults : Option (Chain FaultContext)) :
    ∀ step ∈ Assembly.builtInSteps settings resolver faults,
      Leads settings.timeoutManagerAddress address ok step.kind step.behavior := by
  intro step hstep
  rw [Assembly.builtInSteps, List.mem_append, List.mem_append] at hstep
  -- recovery is of received messages, and of the two steps of routed ones only one changes a route
  obtain (hrecovery | hrouting) | hdeferral := hstep
  · split at hrecovery
    · simp only [Assembly.recoverySteps, List.mem_cons, List.not_mem_nil, or_false] at hrecovery
      obtain rfl | rfl := hrecovery <;> trivial
    · cases hrecovery
  · cases List.mem_singleton.1 hrouting
    trivial
  · split at hdeferral
    · next manager hmanager =>
      cases List.mem_singleton.1 hdeferral
      rw [hmanager]
      exact routeDeferred_forwards hlasts manager
    · cases hdeferral

/-! ### The pipelines -/

/-- The transport in memory keeps no delays. -/
theorem supports_eq_false {constraint : Constraint} (h : constraint.isDelay = true) :
    Memory.capabilities.supports constraint.kind = false := by
  cases constraint with
  | discardAfter => cases h
  | delayBy | notBefore => rfl

/-- The last stage sends a message to the address that it is bound for, or not at all. -/
theorem dispatchLast_bound
    (hadmits : Admits (fun operation => operation.route = .unicast address) ok)
    {context : RoutingContext} (hcontext : Bound manager address context) :
    Holds ok (Outgoing.dispatchLast Memory.capabilities context) := by
  by_cases hdelay : ∃ constraint ∈ context.constraints, constraint.isDelay = true
  · -- the deferral step was taken away by the user, and the message is refused
    obtain ⟨constraint, hmem, hisDelay⟩ := hdelay
    rw [Outgoing.dispatchLast]
    split
    · exact .done _
    · next hnone =>
      have hsupported := List.find?_eq_none.1 hnone constraint hmem
      rw [supports_eq_false hisDelay] at hsupported
      exact absurd rfl hsupported
  · have hprompt : ∀ constraint ∈ context.constraints, constraint.isDelay = false :=
      fun constraint hmem => Bool.eq_false_iff.2 fun h => hdelay ⟨constraint, hmem, h⟩
    refine Conversation.dispatchLast_holds hadmits context fun operation hoperation => ?_
    rw [Outgoing.operations, hcontext.prompt hprompt] at hoperation
    cases List.mem_singleton.1 hoperation
    rfl

section Pipelines

variable {resolver : Resolver} {user steps : EndpointSteps} {serializer : Serializer}
  {sending : Assembly.SendingSide}
  (hsteps : Assembly.mainSteps settings resolver user none = .ok steps) (huser : Undisturbed user)
  (hadmits : Admits (fun operation => operation.route = .unicast address) ok)
include hsteps huser hadmits

/-- The stages of the pipelines of an endpoint lead to an address what is bound for it. -/
theorem leads_of_build {kind : ContextKind} {last : LastStage kind.Context}
    {pipeline : Chain kind.Context} (h : steps.build kind last = .ok pipeline) :
    (∀ stage ∈ pipeline.steps, Leads settings.timeoutManagerAddress address ok kind stage.2) ∧
      pipeline.terminator = last :=
  Assembly.forall_stages hsteps (builtInSteps_leads hadmits.lasts settings resolver none)
    (fun step hstep => (huser.steps step hstep).leads hadmits.lasts)
    (fun step hstep => (huser.replacements step hstep).leads hadmits.lasts) h

variable (hsending : Assembly.sendingSide steps serializer Memory.capabilities = .ok sending)
include hsending

/-- The pipeline of routed messages sends a message to the address that it is bound for. -/
theorem routing_bound {context : RoutingContext}
    (hcontext : Bound settings.timeoutManagerAddress address context) :
    Holds ok (sending.routing.invoke context) := by
  obtain ⟨hstages, hlast⟩ := leads_of_build hsteps huser hadmits
    (Assembly.sendingSide_eq_ok hsending).1
  refine Conversation.chain_forwards hstages ?_ context hcontext
  rw [hlast]
  exact fun _ => dispatchLast_bound hadmits

/-- The pipeline of failed messages sends a message to the error queue that it is told. -/
theorem fault_bound {context : FaultContext} (hcontext : context.errorQueue = address) :
    Holds ok (sending.fault.result context) := by
  obtain ⟨hstages, hlast⟩ := leads_of_build hsteps huser hadmits
    (Assembly.sendingSide_eq_ok hsending).2.2.2
  refine Holds.result (Conversation.chain_forwards hstages ?_ context hcontext)
  rw [hlast]
  rintro context rfl
  refine hadmits.lasts.bind_ask (.openScope _) trivial fun scope =>
    Holds.bind (.result ?_) fun _ _ => .done _
  exact routing_bound hsteps huser hadmits hsending ⟨nofun, fun _ => rfl⟩

end Pipelines

/-- A message of a side queue that has failed too often is sent to the error queue. -/
theorem settle_bound {queue : Queue}
    (hadmits : Admits (fun operation => operation.route = .unicast queue.errorQueue) ok)
    (ended : StageResult × ReceiveContext) : Holds ok (settle queue ended) := by
  have hlasts := hadmits.lasts
  obtain ⟨failure | outcome, context⟩ := ended
  · refine hlasts.bind_ask (.countFailure ..) trivial fun failures => ?_
    split
    · exact .done _
    · refine Holds.bind (hlasts.bind_ask .clock trivial fun now => .done _) fun message _ => ?_
      refine Holds.bind (.ask fun log answer => ?_) fun sent _ => ?_
      · exact hadmits.dispatch log _ answer (List.forall_mem_singleton.2 rfl)
      · cases sent with
        | ok => exact hlasts.bind_ask (.clearFailures ..) trivial fun _ => .done _
        | error error => exact hlasts.bind_ask (.raiseCritical ..) trivial fun _ => .done _
  · exact .done _

/-- The dispatch of timeouts is requested at one address. -/
theorem requestAll_bound
    (hadmits : Admits (fun operation => operation.route = .unicast address) ok)
    (entries : List DueTimeout) : Holds ok (Timeouts.requestAll address entries) := by
  have hlasts := hadmits.lasts
  induction entries with
  | nil => exact .done _
  | cons entry rest ih =>
    have hrequest : Holds ok (Timeouts.requestDispatch address entry.id) := by
      refine hlasts.bind_ask .freshId trivial fun requestId => .ask fun log answer => ?_
      exact hadmits.dispatch log _ answer (List.forall_mem_singleton.2 rfl)
    refine hrequest.bind fun requested _ => ?_
    cases requested with
    | error error => exact hlasts.bind_ask (.changeSchedule _) trivial fun _ => .done _
    | ok => exact hlasts.bind_ask (.changeSchedule _) trivial fun _ => ih

/-- A round of the background poller sends to the address of its requests. -/
theorem round_bound (hadmits : Admits (fun operation => operation.route = .unicast address) ok)
    (text : String) : Holds ok (Timeouts.round address text) := by
  have hlasts := hadmits.lasts
  -- of all that a round asks for only the requests for what is due are dispatched
  have hspin : Holds ok (Timeouts.spin address) := by
    refine hlasts.bind_ask .readSchedule trivial fun schedule => ?_
    refine hlasts.bind_ask .clock trivial fun now => ?_
    split
    · exact .done _
    · refine hlasts.bind_ask (.nextChunk schedule.start) trivial fun answer => ?_
      cases answer with
      | error error => exact .done _
      | ok chunk =>
        refine hlasts.bind_ask .querySucceeded trivial fun _ => ?_
        refine (requestAll_bound hadmits chunk.due).bind fun requested _ => ?_
        cases requested with
        | error error => exact .done _
        | ok =>
          refine hlasts.bind_ask .clock trivial fun now => ?_
          exact hlasts.bind_ask (.changeSchedule _) trivial fun _ => .done _
  refine hspin.bind fun spun _ => ?_
  match spun with
  | .error (.storage error) =>
    refine hlasts.bind_ask .queryFailed trivial fun lost => ?_
    split
    · exact hlasts.ask (.raiseCritical ..) trivial
    · exact .done _
  | .error (.dispatch id error) => exact .done _
  | .ok () => exact .done _

/-! ### What an endpoint sends of its own accord -/

/-- The programs of an endpoint that send of its own accord, each to an address. -/
inductive InternalWork (config : Config) (parts : EndpointParts) (settings : Settings)
    (sending : Assembly.SendingSide) : String → {α : Type} → Act α → Prop where
  /-- The step that forwards failed messages goes on after the stages behind it. -/
  | forwarding (huser : Undisturbed parts.steps) (main : String)
      (ended : StageResult × ReceiveContext) :
      InternalWork config parts settings sending settings.errorQueue
        (Recovery.settleFault {
          pipeline := mainPipeline, faults := some sending.fault
          errorQueue := settings.errorQueue, localAddress := main } ended)
  /-- So does the recovery from failures in a side queue. -/
  | recovery (pipeline localAddress : String) (ended : StageResult × ReceiveContext) :
      InternalWork config parts settings sending settings.errorQueue
        (settle ⟨pipeline, settings.errorQueue, localAddress⟩ ended)
  /-- A message that is to be delayed is routed, while no other endpoint is asked to do that. -/
  | deferral (huser : Undisturbed parts.steps) (halone : config.timeouts.alternateAddress = none)
      {manager : String} (hmanager : settings.timeoutManagerAddress = some manager)
      {context : RoutingContext}
      (hdelay : ∃ constraint ∈ context.constraints, constraint.isDelay = true) :
      InternalWork config parts settings sending manager (sending.routing.invoke context)
  /-- The background poller of the timeout manager makes a round. -/
  | polling {timeouts : TimeoutSettings} (htimeouts : settings.timeouts = some timeouts)
      (text : String) :
      InternalWork config parts settings sending timeouts.dispatcherAddress
        (Timeouts.round timeouts.dispatcherAddress text)

/-- Without another timeout manager, messages that are to be delayed go to the own one. -/
theorem storageAddress_of_resolve {transport : Transport} {capabilities : Capabilities}
    (h : Settings.resolve config transport capabilities = .ok settings)
    (halone : config.timeouts.alternateAddress = none) {manager : String}
    (hmanager : settings.timeoutManagerAddress = some manager) :
    ∃ timeouts, settings.timeouts = some timeouts ∧ manager = timeouts.storageAddress := by
  cases (Deferring.managedAt_of_resolve h hmanager).1 with
  | own htimeouts => exact ⟨_, htimeouts, rfl⟩
  | other _ haddress =>
    rw [halone] at haddress
    cases haddress

/-- What an endpoint sends of its own accord goes to one of its queues. -/
theorem InternalWork.mem {transport : Transport} {capabilities : Capabilities}
    (hsettled : Settings.resolve config transport capabilities = .ok settings)
    {sending : Assembly.SendingSide} {α : Type} {program : Act α}
    (h : InternalWork config parts settings sending address program) (main : String) :
    address ∈ internalQueues settings main := by
  cases h with
  | forwarding | recovery => simp [internalQueues]
  | deferral _ halone hmanager =>
    obtain ⟨timeouts, htimeouts, rfl⟩ := storageAddress_of_resolve hsettled halone hmanager
    simp [internalQueues, sideQueues, htimeouts]
  | polling htimeouts => simp [internalQueues, sideQueues, htimeouts]

/-- An endpoint sends to that address only. -/
theorem InternalWork.holds {running : Running} {infrastructure : Infrastructure}
    {steps : EndpointSteps} {sending : Assembly.SendingSide}
    (hlaunched : Launched config Memory.transport parts running infrastructure steps sending)
    {α : Type} {program : Act α}
    (h : InternalWork config parts running.settings sending address program)
    (hadmits : Admits (fun operation => operation.route = .unicast address) ok) :
    Holds ok program := by
  have hprovided := hlaunched.provided
  cases hprovided
  -- one case for each way in which an endpoint sends for itself
  cases h with
  | forwarding huser main ended =>
    exact Conversation.settleFault_lasts hadmits.lasts rfl
      (fun _ hqueue => fault_bound hlaunched.collected huser hadmits hlaunched.built hqueue) ended
  | recovery pipeline localAddress ended => exact settle_bound hadmits ended
  | deferral huser _ hmanager hdelay =>
    refine routing_bound hlaunched.collected huser hadmits hlaunched.built ⟨fun _ => hmanager, ?_⟩
    -- a message without a delay is not of this kind
    intro hprompt
    obtain ⟨constraint, hmem, hisDelay⟩ := hdelay
    rw [hprompt constraint hmem] at hisDelay
    cases hisDelay
  | polling _ text => exact round_bound hadmits text

/-! ### The result -/

/-- The queues of an endpoint that was started in memory are there for what it sends of its own
accord. -/
structure Supplied (config : Config) (parts : EndpointParts) (site : SiteId) (running : Running)
    (sending : Assembly.SendingSide) (started : Host) : Prop where
  /-- The endpoint receives from its input queue and its side queues. -/
  inputQueues : running.inputQueues = Memory.inputQueue config :: sideQueues running.settings
  /-- These are different queues. -/
  distinct : (running.inputQueues.map canonicalAddress).Nodup
  /-- Its queues exist, whatever has happened since the start. -/
  exist : ∀ later, Later started later →
    ∀ address ∈ internalQueues running.settings (Memory.inputQueue config),
      later.world.broker.queueExists address = true
  /-- No dispatch by any endpoint of the host misses one of them. -/
  found : ∀ other world, Finds started other world → world.site.outlet = .broker →
    ∀ batch missing, (world.dispatch batch).1 = .error (.queueNotFound missing) →
      ∀ address ∈ internalQueues running.settings (Memory.inputQueue config),
        missing ≠ canonicalAddress address
  /-- Messages that are to be delayed go to the timeout manager of the endpoint, unless another one
  is configured. -/
  manages : config.timeouts.alternateAddress = none →
    ∀ manager, running.settings.timeoutManagerAddress = some manager →
      ∃ timeouts, running.settings.timeouts = some timeouts ∧ manager = timeouts.storageAddress
  /-- A timeout manager has a background poller, which requests dispatches at its side queue. -/
  polls : ∀ timeouts, running.settings.timeouts = some timeouts →
    Polls site timeouts.dispatcherAddress started
  /-- What the endpoint sends of its own accord goes to one of its queues, and it arrives. -/
  work : ∀ {address : String} {α : Type} {program : Act α},
    InternalWork config parts running.settings sending address program →
      address ∈ internalQueues running.settings (Memory.inputQueue config) ∧
        Holds (fun log => ∀ exchange ∈ log, Arrives started address exchange.effect) program

/-- **Internal destinations always exist.** When an endpoint that receives has started in memory,
its input queue, the error queue and the side queues of its timeout manager exist and go on to
exist; what it sends of its own accord goes there and never fails for want of a queue; and the
queues that it receives from are different ones. -/
theorem internal_destinations_exist {running : Running} {started : Host}
    (hreceives : config.sendOnly = false)
    (hstart : Comes site host (start config Memory.transport parts) running started) :
    ∃ infrastructure steps sending,
      Launched config Memory.transport parts running infrastructure steps sending ∧
        Supplied config parts site running sending started := by
  obtain ⟨infrastructure, steps, sending, hlaunched⟩ := launched_of_start hstart.gives
  refine ⟨infrastructure, steps, sending, hlaunched, ?_⟩
  obtain ⟨hmain, hprovided⟩ := provided_of_start hreceives hstart
  have hsettled : Settings.resolve config Memory.transport Memory.capabilities
      = .ok running.settings := by
    have hinfrastructure := hlaunched.provided
    cases hinfrastructure
    exact hlaunched.settled
  -- what the pumps listen to are the queues of the receivers
  have hinputs : running.inputQueues
      = Memory.inputQueue config :: sideQueues running.settings := by
    obtain ⟨_, pipeline, -, -, hpumps⟩ := hlaunched.receiving _ hmain
    rw [Running.inputQueues, ← inputQueue_receivers _ _ pipeline, ← hpumps, List.map_map]
    rfl
  exact {
    inputQueues := hinputs
    distinct := by
      rw [hinputs]
      exact nodup_inputQueues hsettled
    exist := fun later hlater address hmem =>
      Host.remains_of_later hlater address (hprovided.queues address hmem)
    found := fun other world hworld houtlet batch missing hmissing address hmem =>
      ne_of_missing (hprovided.queues address hmem) hworld houtlet hmissing
    manages := fun halone manager hmanager => storageAddress_of_resolve hsettled halone hmanager
    polls := hprovided.polls
    work := fun hwork => by
      have hmem := hwork.mem hsettled (Memory.inputQueue config)
      exact ⟨hmem, hwork.holds hlaunched (admits_arrives (hprovided.queues _ hmem))⟩ }

/-- An instance of an endpoint, with a timeout manager, whose names have capital letters and white
space around them. -/
def market : Config where
  endpointName := " Market"
  discriminator := some "EU "
  errorQueue := " Errors"

/-- The endpoint is started on a host without queues, and it may forward failed messages. -/
theorem internal_destinations_exist_market :
    ∃ running started infrastructure steps sending,
      Comes 0 Redelivery.salesHost (start market Memory.transport { hasStorage := true }) running
        started ∧
      Launched market Memory.transport { hasStorage := true } running infrastructure steps
        sending ∧
      Supplied market { hasStorage := true } 0 running sending started ∧
      internalQueues running.settings (Memory.inputQueue market)
        = [" Market-EU ", "errors", " Market-EU .Timeouts", " Market-EU .TimeoutsDispatcher"] ∧
      ∀ ended, Holds
        (fun log => ∀ exchange ∈ log, Arrives started running.settings.errorQueue exchange.effect)
        (Recovery.settleFault {
          pipeline := mainPipeline, faults := some sending.fault
          errorQueue := running.settings.errorQueue, localAddress := " Market-EU " } ended) := by
  obtain ⟨running, started, hstart, hqueues⟩ : ∃ running started,
      Comes 0 Redelivery.salesHost (start market Memory.transport { hasStorage := true }) running
        started ∧
      internalQueues running.settings (Memory.inputQueue market)
        = [" Market-EU ", "errors", " Market-EU .Timeouts", " Market-EU .TimeoutsDispatcher"] :=
    ⟨_, _, rfl, rfl⟩
  obtain ⟨infrastructure, steps, sending, hlaunched, hsupplied⟩ :=
    internal_destinations_exist rfl hstart
  exact ⟨running, started, infrastructure, steps, sending, hstart, hlaunched, hsupplied, hqueues,
    fun ended => (hsupplied.work (.forwarding undisturbed_builtIn _ ended)).2⟩

end Messaging.Endpoint
