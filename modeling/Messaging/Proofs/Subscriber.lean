import Messaging.Proofs.Carrying
import Messaging.Proofs.Starting

/-!
# The queue that an endpoint subscribes

An endpoint in memory asks the broker that it shares with others to subscribe its own input queue.

- `Records` says that a program does to a broker what one `BrokerEvent` says, whatever has been done
  to the broker before, and `Manages` that two programs subscribe the queue of an address and end
  its subscription.
- `SubscribesInput` says of an accepted configuration that its subscription manager and the session
  of every endpoint that starts with it manage one address, and that this names the queue that the
  pump of the endpoint receives from. `subscribesInput_of_resolve` proves it.
- `publish_follows_subscriptions` puts it beside `publish_reaches_subscribers`, in terms of the same
  histories.
-/

namespace Messaging

open Broker Endpoint
open Redelivery (Comes)

/-! ### Requests that become history -/

/-- `program` succeeds, and it goes on with the history of the broker by `event`. -/
def Records {ε : Type} (program : Act (Except ε Unit)) (event : BrokerEvent) : Prop :=
  ∀ (events : List BrokerEvent) (world : World), world.broker = replay events →
    Finishes program world fun result after =>
      result = .ok () ∧ after.broker = replay (events ++ [event])

/-- For each message type, `subscribe` and `unsubscribe` are programs that begin and end the
subscription of the queue of `address`. -/
structure Manages {ε : Type} (subscribe unsubscribe : String → Act (Except ε Unit))
    (address : String) : Prop where
  /-- The one records a subscription. -/
  subscribe : ∀ messageType, Records (subscribe messageType) (.subscribe messageType address)
  /-- The other records that it ends. -/
  unsubscribe : ∀ messageType, Records (unsubscribe messageType) (.unsubscribe messageType address)

section Requests

variable {messageType address : String} {event : BrokerEvent}

/-- A request that does to the broker what `event` says records it. -/
theorem records_ask {ε : Type} {effect : Effect} {f : effect.Answer → Act (Except ε Unit)}
    (heffect : ∀ world : World, (world.perform effect).2.broker = event.apply world.broker)
    (hf : ∀ answer, f answer = .done (.ok ())) : Records ((Act.ask effect).bind f) event := by
  intro events world hworld
  refine ⟨.ok (), (world.perform effect).2, ?_, rfl, ?_⟩
  · change World.run (f _) _ = _
    rw [hf]
    rfl
  · rw [heffect, hworld, replay_concat]

/-- The manager that `Memory.subscriptions` makes for an address manages it. -/
theorem manages_subscriptions (address : String) (scope : ScopeId) :
    Manages ((Memory.subscriptions address).subscribe · scope)
      ((Memory.subscriptions address).unsubscribe · scope) address where
  subscribe _ := records_ask (fun _ => rfl) fun _ => rfl
  unsubscribe _ := records_ask (fun _ => rfl) fun _ => rfl

/-- The session of an endpoint records what its subscription manager records. -/
theorem records_changeSubscription {running : Running} {manager : Subscriptions}
    (hmanager : running.subscriptions = some manager)
    {change : Subscriptions → ScopeId → Act (Except TransportError Unit)}
    (h : ∀ scope, Records (change manager scope) event) :
    Records (running.changeSubscription change) event := by
  intro events world hworld
  rw [Running.changeSubscription, hmanager]
  -- a scope is opened for the manager, which leaves the broker alone
  obtain ⟨result, after, hrun, rfl, hafter⟩ :=
    h _ events (world.perform (.openScope none)).2 hworld
  exact Finishes.bind ⟨_, _, rfl, Finishes.bind ⟨_, after, hrun, .ok (), after, rfl, rfl, hafter⟩⟩

/-- After the one request a queue is subscribed, after the other it is not. -/
theorem subscribed_of_same {main : String}
    (hsame : canonicalAddress address = canonicalAddress main) (events : List BrokerEvent) :
    Subscribed (events ++ [.subscribe messageType address]) messageType main ∧
      ¬ Subscribed (events ++ [.unsubscribe messageType address]) messageType main := by
  simp [Subscribed, latest?_concat, BrokerEvent.subscription?, hsame]

end Requests

/-! ### An endpoint that receives -/

/-- Of an endpoint in memory with the configuration `config`: it asks the broker about the queue of
`address` only, and that is the queue `main` that it receives from. -/
structure SubscribesInput (config : Config) (main address : String) : Prop where
  /-- The transport provides a subscription manager for the address. -/
  provided : (Memory.provide config).subscriptions = some (Memory.subscriptions address)
  /-- The address names the input queue. -/
  same : canonicalAddress address = canonicalAddress main
  /-- The manager begins and ends subscriptions of that queue. -/
  manages : ∀ scope, Manages ((Memory.subscriptions address).subscribe · scope)
    ((Memory.subscriptions address).unsubscribe · scope) address
  /-- In the history of the broker these are subscriptions of the input queue. -/
  subscribed : ∀ events messageType,
    Subscribed (events ++ [.subscribe messageType address]) messageType main ∧
      ¬ Subscribed (events ++ [.unsubscribe messageType address]) messageType main
  /-- Every endpoint that starts has this manager, its session manages the same address, and the
  first of its pumps is for the input queue. -/
  session : ∀ parts running, Gives (start config Memory.transport parts) running →
    running.subscriptions = some (Memory.subscriptions address) ∧
      Manages running.subscribe running.unsubscribe address ∧
      ∃ receiver pump rest, running.pumps = (receiver, pump) :: rest ∧ receiver.inputQueue = main
  /-- On a host where it starts, the run of that pump receives from the input queue. -/
  receives : ∀ parts running site host started, host.Orderly → host.pump? ⟨site, 0⟩ = none →
    Comes site host (start config Memory.transport parts) running started →
      ∃ id run, (started.pump? ⟨site, 0⟩).bind PumpState.running = some id ∧
        started.run? id = some run ∧ run.queue = main

/-- An endpoint subscribes the queue that it receives from. -/
theorem subscribesInput_of_resolve {config : Config} {settings : Settings} {main : String}
    (hsettings : Settings.resolve config Memory.transport Memory.capabilities = .ok settings)
    (hmain : settings.localAddress = some main) :
    ∃ address, SubscribesInput config main address := by
  obtain ⟨-, hlocal⟩ := localAddress_of_resolve hsettings
  rw [hmain] at hlocal
  split at hlocal
  · cases hlocal
  · next hreceives =>
    cases hlocal
    have hsubscriptions : (Memory.provide config).subscriptions
        = some (Memory.subscriptions (Memory.inputQueue config)) := by
      rw [Memory.provide]
      exact if_neg hreceives
    refine ⟨Memory.inputQueue config, hsubscriptions, rfl, manages_subscriptions _,
      fun events _ => subscribed_of_same rfl events, fun parts running hstart => ?_,
      fun parts running site host started horderly hnone hstart => ?_⟩
    · obtain ⟨infrastructure, steps, sending, hlaunched⟩ := launched_of_start hstart
      cases hlaunched.provided
      cases hlaunched.settled.symm.trans hsettings
      have hrunning := hlaunched.subscriptions.trans hsubscriptions
      have hmanages := manages_subscriptions (Memory.inputQueue config)
      obtain ⟨_, pipeline, -, -, hpumps⟩ := hlaunched.receiving _ hmain
      refine ⟨hrunning, ⟨fun messageType => ?_, fun messageType => ?_⟩, ?_⟩
      · exact records_changeSubscription hrunning fun scope =>
          (hmanages scope).subscribe messageType
      · exact records_changeSubscription hrunning fun scope =>
          (hmanages scope).unsubscribe messageType
      · rw [Endpoint.receivers] at hpumps
        cases hall : running.pumps with
        | nil =>
          rw [hall] at hpumps
          cases hpumps
        | cons first rest =>
          rw [hall, List.map_cons] at hpumps
          exact ⟨first.1, first.2, rest, rfl, by rw [(List.cons.inj hpumps).1]⟩
    · obtain ⟨_, _, main, _, hbuilt, rfl, _, _, ⟨⟩, id, task, hmans⟩ :=
        hstart.mans horderly hnone (by simpa using hreceives)
      have hqueue := hbuilt.receives
      cases hbuilt.settled.symm.trans hsettings
      cases hqueue.symm.trans hmain
      exact ⟨id, _, hmans.running, hmans.fresh, rfl⟩

/-- **Publishing follows the history of the broker.** A batch of publishes adds one copy of a
message to each queue that exists and that is `Subscribed` to its type by the history, and nothing
to others; and what the subscription manager of an endpoint that receives adds to the history are
subscriptions of the queue that its main pump receives from. -/
theorem publish_follows_subscriptions :
    (∀ (events : List BrokerEvent) (now : Time.Instant) (publishes : List Delivery)
      (broker' : Broker), (replay events).deliver now ⟨[], publishes⟩ = (.ok (), broker') →
      ∀ address,
        (HasQueue events address → ∃ waiting copies,
          (replay events).queue? address = some waiting ∧
          broker'.queue? address = some (waiting ++ copies) ∧
          List.Forall₂ (IsCopy now)
            (publishes.filter fun delivery => Subscribed events delivery.target address) copies) ∧
        (¬ HasQueue events address → broker'.queue? address = none)) ∧
    (∀ (config : Config) (settings : Settings) (main : String),
      Settings.resolve config Memory.transport Memory.capabilities = .ok settings →
      settings.localAddress = some main → ∃ address, SubscribesInput config main address) :=
  ⟨fun events _ _ _ h => publish_reaches_subscribers events h,
    fun _ _ _ hsettings hmain => subscribesInput_of_resolve hsettings hmain⟩

/-- A queue that is no longer subscribed, and a subscription of a queue that does not exist. -/
def ordersHistory : List BrokerEvent := [
  .createQueue "shipping", .subscribe "OrderPlaced" "Shipping",
  .subscribe "OrderPlaced" "nowhere", .unsubscribe "OrderPlaced" " SHIPPING"]

/-- An endpoint whose name has a capital letter, and white space in front. -/
def billing : Config where
  endpointName := " Billing"
  timeouts := { enabled := false }

/-- A host whose broker has the history `ordersHistory`. -/
def ordersHost : Host :=
  (({ world := { clock := ⟨0, 0⟩, broker := replay ordersHistory } } : Host).addSite {}).2

/-- The history once `billing` was started and has subscribed to orders. -/
def billingHistory : List BrokerEvent :=
  ordersHistory ++ [.createQueue " Billing", .createQueue "error"] ++
    [.subscribe "OrderPlaced" "Billing"]

/-- The endpoint starts and subscribes to orders. An order that is then published gets into the
queue that its pump receives from, and into no other. -/
theorem publish_follows_subscriptions_orders :
    ∃ running started after broker', Comes 0 ordersHost (start billing Memory.transport {}) running
        started ∧
      World.run (running.subscribe "OrderPlaced") started.world = (.ok (.ok ()), after) ∧
      after.broker.deliver ⟨0, 0⟩ ⟨[], [orderPlaced]⟩ = (.ok (), broker') ∧
      (∃ id run copy, started.run? id = some run ∧ IsCopy ⟨0, 0⟩ orderPlaced copy ∧
        broker'.queue? run.queue = some [copy]) ∧
      broker'.queue? "shipping" = some [] ∧ broker'.queue? "nowhere" = none := by
  obtain ⟨running, started, hstart, hstarted⟩ : ∃ running started,
      Comes 0 ordersHost (start billing Memory.transport {}) running started ∧
        started.world.broker
          = replay (ordersHistory ++ [.createQueue " Billing", .createQueue "error"]) :=
    ⟨_, _, rfl, rfl⟩
  obtain ⟨hreaches, hinput⟩ := publish_follows_subscriptions
  obtain ⟨address, hinput⟩ := hinput billing _ " Billing" rfl rfl
  obtain ⟨-, hmanages, -⟩ := hinput.session {} running hstart.gives
  obtain ⟨id, run, -, hrun, hqueue⟩ :=
    hinput.receives {} running 0 ordersHost started ⟨nofun, List.nodup_nil, nofun⟩ rfl hstart
  -- the broker has the history in which the input queue is subscribed
  obtain ⟨_, after, hsubscribe, rfl, hafter⟩ :=
    hmanages.subscribe "OrderPlaced" _ started.world hstarted
  have hsame : canonicalAddress address = canonicalAddress "Billing" :=
    hinput.same.trans (by decide +kernel)
  have hhistory : after.broker = replay billingHistory := by
    rw [hafter, billingHistory, replay_concat, replay_concat]
    simp only [BrokerEvent.apply, Broker.subscribe, hsame]
  have hsucceeds : ((replay billingHistory).deliver ⟨0, 0⟩ ⟨[], [orderPlaced]⟩).1 = .ok () := by
    decide +kernel
  generalize hdeliver : (replay billingHistory).deliver ⟨0, 0⟩ ⟨[], [orderPlaced]⟩ = delivered
    at hsucceeds
  obtain ⟨_, broker'⟩ := delivered
  cases hsucceeds
  have hpublish := hreaches billingHistory ⟨0, 0⟩ [orderPlaced] broker' hdeliver
  refine ⟨running, started, after, broker', hstart, hsubscribe, by rw [hhistory, hdeliver],
    ?_, ?_, (hpublish "nowhere").2 ?_⟩
  · obtain ⟨waiting, copies, hwaiting, hreached, hcopies⟩ := (hpublish " Billing").1
      ⟨" Billing", by simp [billingHistory], rfl⟩
    have hempty : (replay billingHistory).queue? " Billing" = some [] := by decide +kernel
    have hsubscribed : Subscribed billingHistory orderPlaced.target " Billing" := by
      decide +kernel
    cases hempty.symm.trans hwaiting
    rw [List.filter_cons, if_pos (by simpa using hsubscribed)] at hcopies
    obtain _ | ⟨hcopy, ⟨⟩⟩ := hcopies
    exact ⟨id, run, _, hrun, hcopy, by rw [hqueue]; exact hreached⟩
  · obtain ⟨waiting, copies, hwaiting, hreached, hcopies⟩ := (hpublish "shipping").1
      ⟨"shipping", by simp [billingHistory, ordersHistory], rfl⟩
    have hempty : (replay billingHistory).queue? "shipping" = some [] := by decide +kernel
    have hended : ¬ Subscribed billingHistory orderPlaced.target "shipping" := by decide +kernel
    cases hempty.symm.trans hwaiting
    rw [List.filter_cons, if_neg (by simpa using hended)] at hcopies
    cases hcopies
    exact hreached
  · rw [← queueExists_replay]
    decide +kernel

end Messaging
