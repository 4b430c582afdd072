import Messaging.Endpoint.Running

/-!
# What a started endpoint is made of

An endpoint starts on any transport, and its surroundings may answer in any way.

- `Gives` says that a part of the start may come to a result, and `Gives.of_bind` takes it apart.
- `Settled` says which settings come from a configuration.
- `Launched` says what a started endpoint consists of, and `launched_of_start` that the start makes
  it so.
-/

namespace Messaging.Endpoint

variable {α β : Type}

/-- With some answers to its requests a part of a start comes to a result. -/
def Gives (start : Start α) (result : α) : Prop := start.run.Yields (.ok result)

namespace Gives

/-- A start comes to a result if its parts do. -/
theorem of_bind {start : Start α} {f : α → Start β} {result : β}
    (h : Gives (start >>= f) result) : ∃ middle, Gives start middle ∧ Gives (f middle) result := by
  rw [Gives, ExceptT.run_bind] at h
  obtain ⟨middle, hstart, h⟩ := Program.Yields.of_bind h
  match middle, h with
  | .ok middle, h => exact ⟨middle, hstart, h⟩
  | .error error, h => cases h.of_done

/-- What the configuration allows is had at once. -/
theorem of_configured {outcome : Except ConfigError α} {f : α → Start β} {result : β}
    (h : Gives (configured outcome >>= f) result) :
    ∃ value, outcome = .ok value ∧ Gives (f value) result := by
  cases outcome with
  | ok value => exact ⟨value, rfl, h⟩
  | error error => cases h

/-- A program that refuses nothing is run. -/
theorem of_always {program : Life α} {result : α} (h : Gives (always program) result) :
    program.Yields result := by
  change (Program.bind program fun value => .done (Except.ok value)).Yields _ at h
  obtain ⟨value, hprogram, h⟩ := h.of_bind
  cases h.of_done
  exact hprogram

theorem of_pure {value result : α} (h : Gives (pure value : Start α) result) : result = value := by
  cases Program.Yields.of_done h
  rfl

theorem not_throw {error : EndpointError} {result : α} :
    ¬ Gives (throw error : Start α) result := by
  intro h
  cases Program.Yields.of_done h

end Gives

/-! ### Settings -/

section Settings

variable {config : Config} {transport : Transport} {capabilities : Capabilities}
  {settings : Settings}

/-- An endpoint that receives does so at the address that its transport gives to its name. -/
theorem localAddress_of_resolve
    (h : Settings.resolve config transport capabilities = .ok settings) :
    settings.sendOnly = config.sendOnly ∧
      settings.localAddress = if config.sendOnly then none else some (transport.address {
        owner := transport.bindLocal
          { endpoint := config.endpointName, discriminator := config.discriminator } }) := by
  rw [Settings.resolve] at h
  cases hvalid : Settings.validate config with
  | error error =>
    rw [hvalid] at h
    cases h
  | ok _ =>
    cases hmode : negotiateMode capabilities.mode config.transactionMode with
    | error error =>
      rw [hvalid, hmode] at h
      cases h
    | ok mode =>
      rw [hvalid, hmode] at h
      cases h
      exact ⟨rfl, rfl⟩

end Settings

/-! ### Starting -/

/-- Pumps that are all started belong to the receivers that they were started for. -/
theorem map_fst_of_startPumps {settings : Settings} {side : ReceiveSide} {receivers : List Receiver}
    {index : Nat} {pumps : List (Receiver × Pump)}
    (h : (startPumps settings side receivers index).Yields (none, pumps)) :
    pumps.map (·.1) = receivers := by
  induction receivers generalizing index pumps with
  | nil =>
    cases h.of_done
    rfl
  | cons receiver rest ih =>
    rw [startPumps] at h
    obtain ⟨outcome, -, h⟩ := h.of_bind
    match outcome, h with
    | .error error, h => cases h.of_done
    | .ok (), h =>
      obtain ⟨⟨failure, started⟩, hstarted, h⟩ := h.of_bind
      cases h.of_done
      rw [List.map_cons, ih hstarted]

/-- What an endpoint that has started consists of: its settings, the steps of its main pipeline
without those that forward failed messages, and the pipelines of outgoing messages. -/
structure Launched (config : Config) (transport : Transport) (parts : EndpointParts)
    (running : Running) (infrastructure : Infrastructure) (steps : EndpointSteps)
    (sending : Assembly.SendingSide) : Prop where
  /-- The transport is initialised. -/
  provided : transport.provide config = .ok infrastructure
  /-- The settings are those of the configuration. -/
  settled :
    Settings.resolve config transport infrastructure.capabilities = .ok running.settings
  /-- The steps are collected. -/
  collected : Assembly.mainSteps running.settings
    (resolver config transport infrastructure.capabilities running.settings parts.subscribers)
    parts.steps none = .ok steps
  /-- The pipelines of outgoing messages are built from them. -/
  built :
    Assembly.sendingSide steps parts.serializer infrastructure.capabilities = .ok sending
  /-- Messages are sent through these pipelines. -/
  operations : running.operations = {
    outgoing := sending.outgoing, routing := sending.routing
    endpointName := running.settings.endpointName
    localAddress := running.settings.localAddress }
  /-- Subscriptions are those of the transport. -/
  subscriptions : running.subscriptions = infrastructure.subscriptions
  /-- An endpoint with an input queue receives from it, and from the side queues of its timeout
  manager. -/
  receiving : ∀ main, running.settings.localAddress = some main →
    ∃ steps pipeline,
      Assembly.mainSteps running.settings
        (resolver config transport infrastructure.capabilities running.settings parts.subscribers)
        parts.steps (some sending.fault) = .ok steps ∧
      Assembly.receivePipeline steps parts running.operations = .ok pipeline ∧
      running.pumps.map (·.1) = receivers running.settings main pipeline

section Start

variable {config : Config} {transport : Transport} {parts : EndpointParts} {running : Running}

/-- The receiving side of an endpoint only adds its pumps. -/
theorem startReceiving_gives {side : ReceiveSide} {receivers : List Receiver} {running' : Running}
    (h : Gives (startReceiving side running receivers) running') :
    running'.pumps.map (·.1) = receivers ∧ running'.settings = running.settings ∧
      running'.operations = running.operations ∧
      running'.subscriptions = running.subscriptions := by
  rw [startReceiving] at h
  obtain ⟨_, -, h⟩ := h.of_configured
  obtain ⟨_, -, h⟩ := h.of_bind
  obtain ⟨⟨failure, pumps⟩, hpumps, h⟩ := h.of_bind
  cases failure with
  | some error =>
    obtain ⟨_, -, h⟩ := h.of_bind
    exact (Gives.not_throw h).elim
  | none =>
    have hend : running' = { running with
        pumps, polls := running.settings.timeouts.isSome, cleans := true } := by
      dsimp only at h
      -- the poller is started for a timeout manager only
      split at h
      · obtain ⟨_, -, h⟩ := h.of_bind
        obtain ⟨_, -, h⟩ := h.of_bind
        exact h.of_pure
      · obtain ⟨_, -, h⟩ := h.of_bind
        exact h.of_pure
    subst hend
    exact ⟨map_fst_of_startPumps hpumps.of_always, rfl, rfl, rfl⟩

/-- An endpoint that sends only has no input queue. -/
theorem connectReceive_gives {infrastructure : Infrastructure} {settings : Settings}
    {connection : Option String} {side : Option ReceiveSide}
    (h : Gives (connectReceive infrastructure settings connection) side) :
    side.isSome = !settings.sendOnly := by
  rw [connectReceive] at h
  split at h
  · next hsendOnly => rw [h.of_pure, hsendOnly]; rfl
  · next hsendOnly =>
    split at h
    · exact (Gives.not_throw h).elim
    · obtain ⟨_, -, h⟩ := h.of_bind
      rw [h.of_pure, Bool.eq_false_iff.2 hsendOnly]
      rfl

/-- A started endpoint was launched from its configuration and its parts. -/
theorem launched_of_start (h : Gives (start config transport parts) running) :
    ∃ infrastructure steps sending,
      Launched config transport parts running infrastructure steps sending := by
  rw [start] at h
  obtain ⟨infrastructure, hprovided, h⟩ := h.of_configured
  obtain ⟨settings, hsettled, h⟩ := h.of_configured
  obtain ⟨_, -, h⟩ := h.of_bind
  obtain ⟨_, -, h⟩ := h.of_configured
  obtain ⟨side, hside, h⟩ := h.of_bind
  have hside := connectReceive_gives hside
  dsimp only at h
  by_cases hstorage : settings.timeouts.isSome ∧ ¬ parts.hasStorage
  · rw [if_pos hstorage] at h
    obtain ⟨_, hthrown, -⟩ := h.of_bind
    exact (Gives.not_throw hthrown).elim
  · rw [if_neg hstorage] at h
    obtain ⟨steps, hsteps, h⟩ := h.of_configured
    obtain ⟨sending, hsending, h⟩ := h.of_configured
    refine ⟨infrastructure, steps, sending, ?_⟩
    obtain ⟨hsendOnly, hlocal⟩ := localAddress_of_resolve hsettled
    cases hmain : settings.localAddress with
    | none =>
      rw [hmain] at h
      have hend : running = {
          settings, subscriptions := infrastructure.subscriptions
          operations := {
            outgoing := sending.outgoing, routing := sending.routing
            endpointName := settings.endpointName, localAddress := none } } := by
        cases side <;> exact h.of_pure
      subst hend
      refine ⟨hprovided, hsettled, hsteps, hsending, ?_, rfl, fun main hmain' => ?_⟩
      · rw [← hmain]
      · cases hmain.symm.trans hmain'
    | some main =>
      -- an endpoint with an input queue has a receiving side
      cases side with
      | none =>
        have hsend : config.sendOnly = true := by simpa [hsendOnly] using hside
        rw [hlocal, if_pos hsend] at hmain
        cases hmain
      | some side =>
        rw [hmain] at h
        obtain ⟨all, hall, h⟩ := h.of_configured
        obtain ⟨pipeline, hpipeline, h⟩ := h.of_configured
        have hreceiving : Gives (startReceiving side {
            settings, subscriptions := infrastructure.subscriptions
            operations := {
              outgoing := sending.outgoing, routing := sending.routing
              endpointName := settings.endpointName, localAddress := some main } }
            (receivers settings main pipeline)) running := by
          split at h
          · obtain ⟨_, -, h⟩ := h.of_bind
            exact h
          · exact h
        obtain ⟨hpumps, hsettings, hoperations, hsubscriptions⟩ := startReceiving_gives hreceiving
        dsimp only at hsettings hoperations hsubscriptions
        rw [← hsettings] at hsettled hsteps hall hpumps hmain
        refine ⟨hprovided, hsettled, hsteps, hsending, ?_, hsubscriptions, fun main' hmain' => ?_⟩
        · rw [hoperations, hmain, hsettings]
        · cases hmain.symm.trans hmain'
          refine ⟨all, pipeline, hall, ?_, hpumps⟩
          rw [hoperations]
          exact hpipeline

end Start

end Messaging.Endpoint
