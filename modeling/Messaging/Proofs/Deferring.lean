import Messaging.Proofs.Starting

/-!
# Messages that are to be delayed

A message with a delay is sent on by the transport, which keeps the delay, or by a timeout manager,
which keeps it in its place. Which of the two is settled when an endpoint is configured, and the
stages of outgoing messages follow it.

- `ManagedAt` says where the timeout manager of a configuration receives.
- `Fate` lists what may become of a message with a delay.
- `Outbound.routing_fate` and `Outbound.outgoing_fate` say that nothing else does, whatever the
  surroundings answer to the stages.
-/

namespace Messaging.Deferring

open Redelivery Timeouts

/-! ### Any answers at all -/

/-- Requests get any answers, and what was asked is written down. -/
def anyAnswers : Contract (List Exchange) where
  serves log effect answer after := after = log ++ [⟨effect, answer⟩]
  rely := Eq
  guarantee _ _ := True

variable {α : Type} {post : Except Panic α → List Exchange → Prop} {log : List Exchange}

theorem assured_ask {effect : Effect} {f : effect.Answer → Act α}
    (h : ∀ answer, Assured anyAnswers post (f answer) (log ++ [⟨effect, answer⟩])) :
    Assured anyAnswers post ((Act.ask effect).bind f) log := by
  rintro _ rfl answer _ rfl
  exact ⟨trivial, h answer⟩

/-- What was written down stays. -/
theorem assured_grows {program : Act α} (h : Assured anyAnswers post program log) :
    Assured anyAnswers (fun ended after => post ended after ∧ log <+: after) program log := by
  induction program generalizing log with
  | done result => exact ⟨h, List.prefix_rfl⟩
  | panic payload => exact ⟨h, List.prefix_rfl⟩
  | call effect next ih =>
    rintro _ rfl answer _ rfl
    obtain ⟨-, hnext⟩ := h _ rfl answer _ rfl
    refine ⟨trivial, (ih answer hnext).imp fun ended after hended => ?_⟩
    exact ⟨hended.1, (List.prefix_append _ _).trans hended.2⟩

/-- Nothing was sent or staged. -/
structure Still (log : List Exchange) : Prop where
  sent : sent log = []
  staged : staged log = []

/-- Some operations were sent in one batch or staged, and nothing else was. -/
inductive Left (operations : List Operation) (log : List Exchange) : Prop where
  /-- The transport took them. -/
  | sent (hsent : sent log = [.ofList operations]) (hstaged : staged log = [])
  /-- They wait for the end of a receive. -/
  | staged (hsent : Redelivery.sent log = []) (hstaged : Redelivery.staged log = operations)

theorem sent_append (log : List Exchange) (exchange : Exchange) :
    sent (log ++ [exchange]) = sent log ++ (sentBy exchange).toList := by
  cases h : sentBy exchange <;> simp [sent, h]

theorem staged_append (log : List Exchange) (exchange : Exchange) :
    staged (log ++ [exchange]) = staged log ++ stagedBy exchange := by
  simp [staged]

/-- Requests that have nothing to do with operations send and stage nothing. -/
theorem Still.aside (h : Still log) (effect : Effect) (heffect : IsAside effect)
    (answer : effect.Answer) : Still (log ++ [⟨effect, answer⟩]) where
  sent := by simp [sent_append, sentBy_aside heffect, h.sent]
  staged := by simp [staged_append, stagedBy_aside heffect, h.staged]

/-! ### Where the timeout manager is -/

/-- The address at which the timeout manager of a configuration receives. -/
inductive ManagedAt (config : Config) (transport : Transport) (settings : Settings) :
    String → Prop where
  /-- An endpoint that may receive runs its own. -/
  | own {timeouts : TimeoutSettings} (htimeouts : settings.timeouts = some timeouts)
      (henabled : config.timeouts.enabled = true) (hreceives : config.sendOnly = false)
      (halone : config.timeouts.alternateAddress = none) :
      ManagedAt config transport settings timeouts.storageAddress
  /-- The configuration names that of another endpoint. -/
  | other {address : String} (hruns : settings.timeouts = none)
      (haddress : config.timeouts.alternateAddress = some address) :
      ManagedAt config transport settings (transport.canonical address)

variable {config : Config} {transport : Transport} {capabilities : Capabilities}
  {settings : Settings}

/-- What an accepted configuration says about its timeout manager. -/
theorem timeouts_of_resolve (h : Settings.resolve config transport capabilities = .ok settings) :
    ∃ main : LogicalAddress,
      settings.timeouts = Settings.timeoutSettings config transport capabilities main ∧
      settings.timeoutManagerAddress
        = Settings.managerAddress config transport capabilities settings.timeouts := by
  simp only [Settings.resolve, bind, Except.bind] at h
  split at h
  · cases h
  · split at h
    · cases h
    · cases h
      exact ⟨_, rfl, rfl⟩

/-- An endpoint that runs a timeout manager meets all conditions for one. -/
theorem prerequisites_of_timeouts {main : LogicalAddress} {timeouts : TimeoutSettings}
    (h : Settings.timeoutSettings config transport capabilities main = some timeouts) :
    config.timeouts.enabled = true ∧ config.sendOnly = false ∧
      config.timeouts.alternateAddress = none ∧ capabilities.supportsDelay = false := by
  rw [Settings.timeoutSettings] at h
  split at h
  · cases h
  · next hmissing =>
    simpa [Feature.missing?, Feature.timeoutManager] using hmissing

/-- Deferred messages go to the timeout manager of the configuration, and only where the transport
does not defer by itself. -/
theorem managedAt_of_resolve {manager : String}
    (h : Settings.resolve config transport capabilities = .ok settings)
    (hmanager : settings.timeoutManagerAddress = some manager) :
    ManagedAt config transport settings manager ∧ capabilities.supportsDelay = false := by
  obtain ⟨main, htimeouts, haddress⟩ := timeouts_of_resolve h
  rw [hmanager] at haddress
  -- the endpoint runs a timeout manager itself, or is told of another one
  cases hruns : settings.timeouts with
  | some timeouts =>
    obtain ⟨henabled, hreceives, halone, hnative⟩ :=
      prerequisites_of_timeouts (htimeouts.symm.trans hruns)
    rw [hruns] at haddress
    cases haddress
    exact ⟨.own hruns henabled hreceives halone, hnative⟩
  | none =>
    simp only [hruns, Settings.managerAddress] at haddress
    split at haddress
    · cases haddress
    · next hnative =>
      obtain ⟨address, hother, rfl⟩ := Option.map_eq_some_iff.1 haddress.symm
      exact ⟨.other hruns hother, by simpa using hnative⟩

/-! ### What becomes of a message -/

/-- What may become of a message with some constraints, of which one is a delay. -/
inductive Fate (manager : Option String) (capabilities : Capabilities)
    (constraints : List Constraint) (destinations : Except RoutingError (List Route)) :
    StageResult → List Exchange → Prop where
  /-- Sending fails, and nothing is on its way. -/
  | failed {failure : Failure} {log : List Exchange} (hstill : Still log) :
      Fate manager capabilities constraints destinations (.error failure) log
  /-- There is nobody to send to. -/
  | nowhere {log : List Exchange} (hroutes : destinations = .ok []) (hstill : Still log) :
      Fate manager capabilities constraints destinations (.ok .completed) log
  /-- The message goes to the timeout manager, with its due time and its one destination in the
  headers in the place of the delays. -/
  | deferred {log : List Exchange} {address destination : String} {operation : Operation}
      {now due : Time.Instant} (hroutes : destinations = .ok [.unicast destination])
      (hmanager : manager = some address) (hleft : Left [operation] log)
      (hroute : operation.route = .unicast address)
      (hconstraints : operation.constraints = constraints.filter fun c => !c.isDelay)
      (hdestination : operation.message.headers.get? Header.timeoutRouteExpiredTo
        = some destination)
      (hexpire : operation.message.headers.get? Header.timeoutExpire
        = some (Time.Wire.write due))
      (hnow : (⟨.clock, now⟩ : Exchange) ∈ log) (hdue : dueAt? constraints now = some due) :
      Fate manager capabilities constraints destinations (.ok .completed) log
  /-- The message goes to all destinations with all its constraints, and the transport keeps
  each. -/
  | carried {log : List Exchange} {routes : List Route} {operations : List Operation}
      (hroutes : destinations = .ok routes) (hsome : routes ≠ [])
      (hleft : Left operations log) (hall : operations.map (·.route) = routes)
      (hconstraints : ∀ operation ∈ operations, operation.constraints = constraints)
      (hsupported : ∀ constraint ∈ constraints, capabilities.supports constraint.kind = true) :
      Fate manager capabilities constraints destinations (.ok .completed) log

/-- What the last stage does with a routed message. -/
inductive Leaves (capabilities : Capabilities) (context : RoutingContext) :
    StageResult → List Exchange → Prop where
  | failed {failure : Failure} {log : List Exchange} (hstill : Still log) :
      Leaves capabilities context (.error failure) log
  | nowhere {log : List Exchange} (hroutes : context.routes = []) (hstill : Still log) :
      Leaves capabilities context (.ok .completed) log
  | left {log : List Exchange} (hroutes : context.routes ≠ [])
      (hsupported : ∀ constraint ∈ context.constraints,
        capabilities.supports constraint.kind = true)
      (hleft : Left (Outgoing.operations context) log) :
      Leaves capabilities context (.ok .completed) log

/-- A program of stages ends without a panic, and its result and what was asked are as promised. -/
def Ends {C : Type} (P : StageResult → List Exchange → Prop) (program : Act (StageResult × C))
    (log : List Exchange) : Prop :=
  Assured anyAnswers
    (fun ended after => ∃ result context, ended = .ok (result, context) ∧ P result after)
    program log

theorem Ends.imp {C : Type} {P Q : StageResult → List Exchange → Prop}
    {program : Act (StageResult × C)} (h : Ends P program log)
    (hPQ : ∀ result after, log <+: after → P result after → Q result after) :
    Ends Q program log := by
  refine (assured_grows h).imp ?_
  rintro _ after ⟨⟨result, context, rfl, hresult⟩, hlog⟩
  exact ⟨result, context, rfl, hPQ result after hlog hresult⟩

/-- A stage that runs another pipeline ends as that one does. -/
theorem Ends.nested {C D : Type} {P : StageResult → List Exchange → Prop} {pipeline : Chain C}
    {inner : C} {outer : D} (h : Ends P (pipeline.invoke inner) log) :
    Ends P ((pipeline.result inner).bind fun result => .done (result, outer)) log := by
  refine Assured.bind (Assured.bind (Assured.imp h ?_))
  rintro _ after ⟨result, context, rfl, hresult⟩
  exact ⟨result, outer, rfl, hresult⟩

/-- A batch is sent as a whole or not at all. -/
theorem dispatchNow_ends {capabilities : Capabilities} {context : RoutingContext}
    (hlog : Still log) (hroutes : context.routes ≠ [])
    (hsupported : ∀ constraint ∈ context.constraints,
      capabilities.supports constraint.kind = true) :
    Ends (Leaves capabilities context)
      ((Outgoing.dispatchNow (.ofList (Outgoing.operations context))).bind
        fun result => .done (result, context)) log := by
  refine assured_ask fun answer => ?_
  -- the batch was sent, or nothing was
  cases answer with
  | ok =>
    refine ⟨_, _, rfl, .left hroutes hsupported (.sent ?_ ?_)⟩
    · simp [sent_append, hlog.sent, sentBy]
    · simp [staged_append, hlog.staged, stagedBy]
  | error error =>
    refine ⟨_, _, rfl, .failed ⟨?_, ?_⟩⟩
    · simp [sent_append, hlog.sent, sentBy]
    · simp [staged_append, hlog.staged, stagedBy]

/-- The last stage sends or stages what a message says, with its constraints, if the transport
keeps them. -/
theorem dispatchLast_ends (capabilities : Capabilities) (context : RoutingContext)
    (hlog : Still log) :
    Ends (Leaves capabilities context) (Outgoing.dispatchLast capabilities context) log := by
  rw [Outgoing.dispatchLast]
  split
  · exact ⟨_, _, rfl, .failed hlog⟩
  · next hnone =>
    have hsupported : ∀ constraint ∈ context.constraints,
        capabilities.supports constraint.kind = true := by
      simpa using hnone
    split
    · next hempty => exact ⟨_, _, rfl, .nowhere (List.isEmpty_iff.1 hempty) hlog⟩
    · next hsome =>
      have hroutes : context.routes ≠ [] := fun h => hsome (List.isEmpty_iff.2 h)
      split
      · exact dispatchNow_ends hlog hroutes hsupported
      · -- inside of a receive the message is staged
        refine assured_ask fun staging => ?_
        have hlog' := hlog.aside (.readSlot context.scope .staging) trivial staging
        generalize log ++ [_] = log' at hlog' ⊢
        cases staging with
        | none => exact dispatchNow_ends hlog' hroutes hsupported
        | some staging =>
          refine assured_ask fun _ => ⟨_, _, rfl, .left hroutes hsupported (.staged ?_ ?_)⟩
          · simp [sent_append, hlog'.sent, sentBy]
          · simp [staged_append, hlog'.staged, stagedBy]

/-! ### The pipelines -/

theorem isSome_dueAt? (constraint : Constraint) (now : Time.Instant) :
    (constraint.dueAt? now).isSome = constraint.isDelay := by
  cases constraint <;> rfl

/-- A message with a delay has a due time. -/
theorem dueAt?_of_isDelay {constraints : List Constraint}
    (h : ∃ constraint ∈ constraints, constraint.isDelay = true) (now : Time.Instant) :
    ∃ due, dueAt? constraints now = some due := by
  rw [← Option.isSome_iff_exists, dueAt?, List.isSome_findSome?, List.any_eq_true]
  simpa only [isSome_dueAt?] using h

theorem oneAddress?_eq_some {routes : List Route} {destination : String}
    (h : oneAddress? routes = some destination) : routes = [.unicast destination] := by
  unfold oneAddress? at h
  split at h <;> simp_all

/-- The header of a deferred message that says where it goes. -/
theorem get?_routeExpiredTo (destination : String) (due : Time.Instant) (headers : Headers) :
    (deferredHeaders destination due headers).get? Header.timeoutRouteExpiredTo
      = some destination := by
  rw [deferredHeaders, Table.get?_insert_of_ne _ _ (by decide),
    Table.get?_insert_of_ne _ _ (by decide), Table.get?_insert_self]

/-- The header of a deferred message that says when. -/
theorem get?_expire (destination : String) (due : Time.Instant) (headers : Headers) :
    (deferredHeaders destination due headers).get? Header.timeoutExpire
      = some (Time.Wire.write due) := by
  rw [deferredHeaders, Table.get?_insert_of_ne _ _ (by decide), Table.get?_insert_self]

variable (outbound : Outbound)

/-- What becomes of a routed message with a delay. -/
theorem routing_fate (context : RoutingContext)
    (hdelay : ∃ constraint ∈ context.constraints, constraint.isDelay = true) (hlog : Still log) :
    Ends (Fate outbound.manager outbound.capabilities context.constraints (.ok context.routes))
      (outbound.sending.routing.invoke context) log := by
  obtain ⟨resolver, manager, serializer, capabilities⟩ := outbound
  cases manager with
  | none =>
    -- no stage defers, so the message keeps its delays up to the last stage
    refine (dispatchLast_ends capabilities context hlog).imp fun result after _ hleaves => ?_
    cases hleaves with
    | failed hstill => exact .failed hstill
    | nowhere hroutes hstill => exact .nowhere (congrArg _ hroutes) hstill
    | left hroutes hsupported hleft =>
      refine .carried rfl hroutes hleft ?_ ?_ hsupported
      · rw [Outgoing.operations, List.map_map]
        exact List.map_id _
      · simp [Outgoing.operations]
  | some address =>
    change Ends _ (routeDeferred address _ context) log
    rw [routeDeferred]
    refine assured_ask fun now => ?_
    have hlog' := hlog.aside .clock trivial now
    have hnow : (⟨.clock, now⟩ : Exchange) ∈ log ++ [⟨.clock, now⟩] := by simp
    generalize log ++ [_] = log' at hlog' hnow ⊢
    obtain ⟨due, hdue⟩ := dueAt?_of_isDelay hdelay now
    rw [hdue]
    dsimp only
    split
    · exact ⟨_, _, rfl, .failed hlog'⟩
    · next destination hone =>
      have hroutes := oneAddress?_eq_some hone
      refine Ends.imp (dispatchLast_ends capabilities _ hlog') fun result after hgrown hleaves => ?_
      cases hleaves with
      | failed hstill => exact .failed hstill
      | nowhere hnone => cases hnone
      | left _ _ hleft =>
        exact .deferred (congrArg _ hroutes) rfl hleft rfl rfl (get?_routeExpiredTo ..)
          (get?_expire ..) (hgrown.subset hnow) hdue

/-- What becomes of a written message with a delay. -/
theorem physical_fate (context : PhysicalContext)
    (hdelay : ∃ constraint ∈ context.constraints, constraint.isDelay = true) (hlog : Still log) :
    Ends (Fate outbound.manager outbound.capabilities context.constraints (.ok context.routes))
      (outbound.sending.physical.invoke context) log := by
  refine assured_ask fun scope => Ends.nested ?_
  exact routing_fate outbound
    { message := _, routes := context.routes, constraints := context.constraints, scope } hdelay
    (hlog.aside (.openScope _) trivial scope)

/-- What becomes of a message with a delay and routes that is to be written. -/
theorem serialize_fate (context : OutgoingContext)
    (hdelay : ∃ constraint ∈ context.constraints, constraint.isDelay = true) (hlog : Still log) :
    Ends (Fate outbound.manager outbound.capabilities context.constraints (.ok context.routes))
      (Outgoing.serialize outbound.serializer outbound.sending.physical context) log := by
  rw [Outgoing.serialize]
  split
  · exact ⟨_, _, rfl, .failed hlog⟩
  · refine assured_ask fun scope => Ends.nested ?_
    exact physical_fate outbound
      { messageId := _, headers := _, body := _, routes := context.routes
        constraints := context.constraints, scope } hdelay (hlog.aside (.openScope _) trivial scope)

/-- The routes of an outgoing message: those that it has, or those that are found for it. -/
def destinations (resolver : Resolver) (context : OutgoingContext) :
    Except RoutingError (List Route) :=
  if context.routes.isEmpty then
    resolver.resolve context.intent context.message.messageType context.messageId
      context.destination context.toSelf
  else .ok context.routes

/-- What becomes of an outgoing message with a delay. -/
theorem outgoing_fate (context : OutgoingContext)
    (hdelay : ∃ constraint ∈ context.constraints, constraint.isDelay = true) (hlog : Still log) :
    Ends (Fate outbound.manager outbound.capabilities context.constraints
        (destinations outbound.resolver context))
      (outbound.sending.outgoing.invoke context) log := by
  change Ends _ (Outgoing.resolveRoutes outbound.resolver _ context) log
  rw [Outgoing.resolveRoutes, destinations]
  split
  · split
    · next routes hroutes =>
      rw [hroutes]
      exact serialize_fate outbound { context with routes } hdelay hlog
    · exact ⟨_, _, rfl, .failed hlog⟩
  · exact serialize_fate outbound context hdelay hlog

/-- A delay is never dropped: with the built-in steps of an accepted configuration a message with a
delay fails to be sent, has no destination, goes to the timeout manager of the configuration with
its due time in the headers, or is sent with all its constraints by a transport that keeps them.
This holds whatever the surroundings answer. -/
theorem delay_never_dropped
    (hsettings : Settings.resolve config transport capabilities = .ok settings)
    (resolver : Resolver) (serializer : Serializer) (faults : Option (Chain FaultContext)) :
    (∀ manager, settings.timeoutManagerAddress = some manager →
      ManagedAt config transport settings manager ∧ capabilities.supports .delayBy = false) ∧
    ∃ steps side,
      Assembly.mainSteps settings resolver { name := mainPipeline } faults = .ok steps ∧
      Assembly.sendingSide steps serializer capabilities = .ok side ∧
      (∀ context : OutgoingContext,
        (∃ constraint ∈ context.constraints, constraint.isDelay = true) →
        Ends (Fate settings.timeoutManagerAddress capabilities context.constraints
            (destinations resolver context))
          (side.outgoing.invoke context) []) ∧
      ∀ context : RoutingContext,
        (∃ constraint ∈ context.constraints, constraint.isDelay = true) →
        Ends (Fate settings.timeoutManagerAddress capabilities context.constraints
            (.ok context.routes))
          (side.routing.invoke context) [] := by
  refine ⟨fun manager => managedAt_of_resolve hsettings, _, _,
    mainSteps_builtIn settings resolver faults,
    sendingSide_builtIn settings resolver faults serializer capabilities, ?_, ?_⟩
  · intro context hdelay
    exact outgoing_fate (outboundOf settings resolver serializer capabilities) context hdelay
      ⟨rfl, rfl⟩
  · intro context hdelay
    exact routing_fate (outboundOf settings resolver serializer capabilities) context hdelay
      ⟨rfl, rfl⟩

/-- An endpoint that leaves its delays to the timeout manager of another. -/
def shop : Config :=
  { endpointName := "shop", timeouts := { alternateAddress := some " Clock" } }

/-- The settings of the endpoint on the transport in memory, which keeps no delays. -/
def shopSettings : Settings where
  endpointName := "shop"
  host := { endpoint := "shop" }
  localAddress := some "shop"
  errorQueue := "error"
  sendOnly := false
  transactionMode := .receiveOnly
  maxConcurrency := none
  maxRetries := 5
  purgeOnStartup := false
  cleanupInterval := .ofSeconds 300
  timeoutManagerAddress := some "clock"
  timeouts := none

theorem resolve_shop :
    Settings.resolve shop Memory.transport Memory.capabilities = .ok shopSettings := rfl

/-- A message to one address with both kinds of delay. -/
def reminder : OutgoingContext where
  messageId := "m"
  intent := .send
  message := ⟨"Reminder", .null⟩
  headers := ∅
  destination := some "billing"
  toSelf := false
  constraints := [.discardAfter (.ofSeconds 60), .delayBy (.ofSeconds 5), .notBefore ⟨0, 0⟩]
  routes := []
  scope := 0

theorem delay_never_dropped_reminder :
    ∃ steps side,
      Assembly.mainSteps shopSettings ⟨∅, none, Memory.capabilities.policy, none⟩
        { name := mainPipeline } none = .ok steps ∧
      Assembly.sendingSide steps .json Memory.capabilities = .ok side ∧
      Ends (Fate (some "clock") Memory.capabilities reminder.constraints
          (.ok [.unicast "billing"]))
        (side.outgoing.invoke reminder) [] := by
  obtain ⟨-, steps, side, hsteps, hside, houtgoing, -⟩ := delay_never_dropped resolve_shop
    ⟨∅, none, Memory.capabilities.policy, none⟩ .json none
  exact ⟨steps, side, hsteps, hside, houtgoing reminder ⟨.delayBy (.ofSeconds 5), by decide, rfl⟩⟩

end Messaging.Deferring
