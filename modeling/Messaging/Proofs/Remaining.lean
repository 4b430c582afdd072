import Mathlib.Logic.Relation
import Messaging.Host.Run
import Messaging.Proofs.Addressing
import Messaging.Proofs.Advance
import Messaging.Proofs.Moving

/-!
# Queues that remain

Once a queue exists it stays, whatever the endpoints of a host and the users of its broker do.

- `Remains` says of two hosts that the second has the queues of the first; one lemma for each thing
  that a host does says that it keeps its queues.
- `HostStep` is anything that may happen on a host, and `Later` any number of such steps.
- `Finds` says which worlds the endpoints of the host meet with; `remains_of_later` and
  `queueExists_of_finds` say that the queues are there.
-/

namespace Messaging.Host

open Relation (ReflTransGen)

/-- The queues of one host exist on another. -/
def Remains (host host' : Host) : Prop :=
  ∀ address, host.world.broker.queueExists address = true →
    host'.world.broker.queueExists address = true

variable {host host' host'' : Host} {α : Type}

namespace Remains

theorem refl (host : Host) : Remains host host := fun _ => id

theorem trans (h : Remains host host') (h' : Remains host' host'') : Remains host host'' :=
  fun address => h' address ∘ h address

/-- What leaves the world alone leaves its queues alone. -/
theorem of_world (h : host'.world = host.world) : Remains host host' := by
  intro address
  rw [h]
  exact id

/-- What happens after the world was left alone happens after all. -/
theorem after (h : Remains host' host'') (hworld : host'.world = host.world) :
    Remains host host'' := (of_world hworld).trans h

/-- Where hosts are `Alike` all queues remain. -/
theorem of_alike (h : Alike host host') : Remains host host' := .of_world h.world

/-- An endpoint that acts keeps the queues if what it does keeps them. -/
theorem inSite (host : Host) (site : SiteId) {f : World → α × World}
    (hf : ∀ world address, world.broker.queueExists address = true →
      (f world).2.broker.queueExists address = true) :
    Remains host (host.inSite site f).2 := by
  have hvalue : f (host.worldAt site)
      = ((f (host.worldAt site)).1, (f (host.worldAt site)).2) := rfl
  obtain ⟨host', hacted, halike⟩ := inSite_eq hvalue
  rw [hacted]
  refine .trans ?_ (.of_alike halike)
  exact hf (host.worldAt site)

end Remains

/-! ### What an endpoint does -/

/-- A broker that `Broker.Extends` another one for a queue still has it. -/
theorem queueExists_of_extends {broker broker' : Broker} {address : String}
    (h : Broker.Extends address broker broker') (hexists : broker.queueExists address = true) :
    broker'.queueExists address = true := h.isSome hexists

/-- No request of a program deletes a queue. -/
theorem remains_perform (host : Host) (site : SiteId) (effect : Effect) :
    Remains host (host.inSite site fun world => world.perform effect).2 :=
  .inSite host site fun world address =>
    queueExists_of_extends (World.extends_perform address world effect)

theorem remains_advance (host : Host) (site : SiteId) (program : Act α) :
    Remains host (host.inSite site (World.advance program)).2 :=
  .inSite host site fun world address =>
    queueExists_of_extends (World.extends_advance address program world)

/-- A program that nothing interrupts takes no queue away. -/
theorem queueExists_run (program : Act α) (world : World) {address : String}
    (h : world.broker.queueExists address = true) :
    (World.run program world).2.broker.queueExists address = true := by
  induction program generalizing world with
  | done => exact h
  | panic => exact h
  | call effect next ih =>
    exact ih _ _ (queueExists_of_extends (World.extends_perform address world effect) h)

theorem remains_run (host : Host) (site : SiteId) (program : Act α) :
    Remains host (host.inSite site (World.run program)).2 :=
  .inSite host site fun world _ => queueExists_run program world

/-- A change of the broker that keeps its queues keeps those of the host. -/
theorem remains_modifyBroker (host : Host) {f : Broker → Broker}
    (hf : ∀ broker address, broker.queueExists address = true →
      (f broker).queueExists address = true) :
    Remains host (host.modifyBroker f) :=
  .inSite host _ fun world address => hf world.broker address

/-! ### Receiving -/

theorem remains_release (host : Host) (id : RunId) : Remains host (host.release id) := by
  refine .of_world ?_
  rw [release]
  split
  · split
    · exact (wake_alike _ _).world
    · rfl
  · rfl

/-- The tasks of a pump take and return messages and create or delete no queue. -/
theorem remains_takeMessage (host : Host) (run : PumpRun) :
    Remains host (host.takeMessage run).2 := by
  refine .inSite host run.site fun world address hexists => ?_
  have hpop := (world.broker.queueExists_pop run.queue address).trans hexists
  rw [popMessage]
  generalize world.broker.pop run.queue = popped at hpop ⊢
  obtain ⟨_ | message, broker⟩ := popped <;> exact hpop

theorem remains_awaitMessage (host : Host) (task : TaskId) (run : PumpRun) :
    Remains host (host.awaitMessage task run).2 := by
  refine .of_world ?_
  rw [awaitMessage]
  split <;> rfl

/-- No move of a receiving task takes a queue away. -/
theorem remains_of_move {task : TaskId} {id : RunId} {phase : ReceivePhase} {taken : Option Queued}
    {next : Option ReceivePhase} (hmove : Move task id host phase taken next host') :
    Remains host host' := by
  cases hmove with
  | gone | woken => exact .refl host
  | ended | full | acquired => exact .of_world rfl
  | @stopped run =>
    have hstop := Remains.of_alike (stopWaiting_alike host task (canonicalAddress run.queue))
    exact hstop.trans ((remains_release _ id).after rfl)
  | @dropped run message popped _ htake =>
    have hpop := remains_takeMessage (host.unnotified task) run
    rw [htake] at hpop
    exact (hpop.after rfl).trans (remains_release popped id)
  | @started run message popped _ htake =>
    have hpop := remains_takeMessage (host.unnotified task) run
    rw [htake] at hpop
    exact (hpop.after rfl).trans (.of_world rfl)
  | @found run missed _ _ htake hawait | @waits run missed _ _ htake hawait =>
    have hpop := remains_takeMessage (host.unnotified task) run
    have hwait := remains_awaitMessage missed task run
    rw [htake] at hpop
    rw [hawait] at hwait
    exact (hpop.after rfl).trans (hwait.trans (.of_world rfl))

/-- A task that receives messages takes no queue away. -/
theorem remains_receiveMessages (task : TaskId) (id : RunId) (fuel : Nat) (phase : ReceivePhase)
    (host : Host) : Remains host (receiveMessages task id fuel phase host) := by
  induction fuel generalizing phase host with
  | zero => exact .of_world rfl
  | succ fuel ih =>
    obtain ⟨taken, next, host', hmove⟩ := exists_move task id phase host
    have hkept := remains_of_move hmove
    rw [hmove.receiveMessages_eq]
    cases next with
    | none => exact hkept
    | some next => exact hkept.trans (ih next host')

theorem remains_endProcessing (host : Host) (task : TaskId) (id : RunId) :
    Remains host (host.endProcessing task id) := (remains_release _ id).after rfl

theorem remains_returnMessage (host : Host) (run : PumpRun) (message : Queued) :
    Remains host (host.returnMessage run message) :=
  remains_modifyBroker host fun broker address hexists =>
    (broker.queueExists_requeue run.queue message address).trans hexists

theorem remains_raisePanic (host : Host) (run : PumpRun) (payload : Panic) :
    Remains host (host.raisePanic run payload) := remains_run host run.site _

/-- A task that processes a message takes no queue away. -/
theorem remains_processMessage (host : Host) (task : TaskId) (id : RunId) (message : Queued)
    (rest : Act StageResult) : Remains host (host.processMessage task id message rest) := by
  rw [processMessage]
  split
  · exact .of_world rfl
  · next run hrun =>
    have hadvance := remains_advance host run.site rest
    have hreturn (after : Host) :
        Remains after ((after.returnMessage run message).endProcessing task id) :=
      (remains_returnMessage after run message).trans (remains_endProcessing _ task id)
    generalize host.inSite run.site (World.advance rest) = advanced at hadvance ⊢
    obtain ⟨progress, host'⟩ := advanced
    refine hadvance.trans ?_
    cases progress with
    | asleep millis rest => exact .of_world rfl
    | panicked payload => exact (remains_raisePanic host' run payload).trans (hreturn _)
    | finished ended =>
      obtain _ | _ | _ | _ := ended
      -- an error and a request for a retry give the message back, the others do not
      case error => exact hreturn host'
      case ok.retryRequested => exact hreturn host'
      all_goals exact remains_endProcessing host' task id

/-! ### Tasks -/

theorem remains_repeatWork (host : Host) (task : TaskId) (state : Task) (pause : Nat)
    (work : Act Unit) (working : Bool) :
    Remains host (host.repeatWork task state pause work working) := by
  rw [repeatWork]
  split
  · exact .of_world rfl
  · have hwork := remains_run host state.site work
    dsimp only
    split <;> exact hwork.trans (.of_world rfl)

theorem remains_clearAgain (host : Host) (task : TaskId) (state : Task) (pause : Nat)
    (counters : List CounterId) (waited : Bool) :
    Remains host (host.clearAgain task state pause counters waited) := by
  rw [clearAgain]
  split
  · exact .of_world rfl
  · dsimp only
    split
    · exact .trans (.inSite host state.site fun _ _ => id) (.of_world rfl)
    · exact .of_world rfl

/-- A task that goes on takes no queue away. -/
theorem remains_pollTask (host : Host) (id : TaskId) : Remains host (host.pollTask id) := by
  rw [pollTask]
  split
  · exact .refl host
  · next task htask =>
    split
    · exact remains_receiveMessages id _ _ _ host
    · exact remains_processMessage host id _ _ _
    · exact remains_repeatWork host id task _ _ _
    · exact remains_clearAgain host id task _ _ _

/-- Neither do several. -/
theorem remains_pollReady (n : Nat) (host : Host) : Remains host (pollReady n host).2 := by
  induction n generalizing host with
  | zero => exact .refl host
  | succ n ih =>
    rw [pollReady]
    split
    · exact .refl host
    · next id rest hready =>
      exact ((remains_pollTask { host with ready := rest } id).trans (ih _)).after rfl

theorem remains_advanceTo (host : Host) (deadline : Nat) :
    Remains host (host.advanceTo deadline) :=
  -- only the stopwatch is another one, and who goes on
  fun _ => Remains.of_alike (advanceTo_alike host deadline) _

/-- Waiting takes no queue away. -/
theorem remains_await (condition : Host → Bool) (deadline : Option Nat) (fuel : Nat)
    (host : Host) : Remains host (await condition deadline fuel host).2 := by
  induction fuel generalizing host with
  | zero => exact .refl host
  | succ fuel ih =>
    rw [await]
    split
    · exact .refl host
    · split
      · exact .refl host
      · have hready := remains_pollReady batchSize host
        split
        · next polled hpolled =>
          rw [hpolled] at hready
          exact hready.trans (ih polled)
        · next polled hpolled =>
          rw [hpolled] at hready
          split
          · exact hready
          · split
            · exact hready.trans ((remains_advanceTo polled _).trans (ih _))
            · exact hready

/-! ### Starting and stopping -/

theorem remains_initPump (host : Host) (key : PumpKey) (entry : PumpEntry)
    (settings : PumpSettings) : Remains host (host.initPump key entry settings).2 := by
  rw [initPump]
  dsimp only
  split
  · -- a queue that is purged is still there
    have hpurged : Remains host
        (if settings.purge then host.modifyBroker (·.purge settings.inputQueue) else host) := by
      split
      · exact remains_modifyBroker host fun broker address hexists =>
          (broker.queueExists_purge settings.inputQueue address).trans hexists
      · exact .refl host
    split <;> exact hpurged.trans (.of_world rfl)
  · exact .refl host

theorem remains_startPump (host : Host) (key : PumpKey) (concurrency : Concurrency) :
    Remains host (host.startPump key concurrency).2 := by
  rw [startPump]
  split
  · exact .refl host
  · split <;> exact .of_world rfl

theorem remains_cancel (host : Host) (id : TaskId) : Remains host (host.cancel id) :=
  (Remains.of_alike (wake_alike _ id)).after rfl

theorem remains_cancelPump (host : Host) (key : PumpKey) :
    Remains host (host.cancelPump key).2 := by
  rw [cancelPump]
  split
  · exact .refl host
  · dsimp only
    split
    · exact (remains_cancel _ _).after rfl
    · exact .of_world rfl

theorem remains_stopPump (host : Host) (key : PumpKey) (grace : Time.Span) :
    Remains host (host.stopPump key grace).2 := by
  have hcancel := remains_cancelPump host key
  rw [stopPump]
  split
  · next cancelled hcancelled =>
    rw [hcancelled] at hcancel
    exact hcancel
  · next run cancelled hcancelled =>
    rw [hcancelled] at hcancel
    have hawait := remains_await (isDrained run)
      (some (cancelled.world.stopwatch + grace.millis)) patience cancelled
    split <;> next awaited hawaited =>
      rw [hawaited] at hawait
      exact hcancel.trans hawait

theorem remains_startCleaner (host : Host) (site : SiteId) (interval : Time.Span)
    (counters : List CounterId) : Remains host (host.startCleaner site interval counters) := by
  rw [startCleaner]
  split <;> exact .of_world rfl

theorem remains_stopTask (host : Host) (site : SiteId) (tasks : List (SiteId × TaskId)) :
    Remains host (host.stopTask site tasks) := by
  rw [stopTask]
  split
  · exact (remains_cancel host _).trans (remains_await _ _ _ _)
  · exact .refl host

/-- Whatever an endpoint asks for while it starts or stops, the queues remain. -/
theorem remains_serve (host : Host) (site : SiteId) (request : Lifecycle) :
    Remains host (host.serve site request).2 := by
  cases request with
  | act effect => exact remains_perform host site effect
  | initPump index entry settings => exact remains_initPump host _ entry settings
  | startPump index concurrency => exact remains_startPump host _ concurrency
  | stopPump index grace => exact remains_stopPump host _ grace
  | startPoller address => exact .of_world rfl
  | stopPoller => exact (remains_stopTask host site host.pollers).trans (.of_world rfl)
  | startCleaner interval counters => exact remains_startCleaner host site interval counters
  | stopCleaner => exact (remains_stopTask host site host.cleaners).trans (.of_world rfl)

/-- A program that starts or stops an endpoint takes no queue away. -/
theorem remains_drive (site : SiteId) (program : Life α) (host : Host) :
    Remains host (drive site program host).2 := by
  induction program generalizing host with
  | done => exact .refl host
  | panic => exact .refl host
  | call request next ih => exact (remains_serve host site request).trans (ih _ _)

/-! ### Whatever happens -/

/-- Anything that may happen on a host. -/
inductive HostStep (host : Host) : Host → Prop where
  /-- A task goes on. -/
  | poll (id : TaskId) : HostStep host (host.pollTask id)
  /-- Another task is the next to go on. -/
  | schedule {host' : Host} (halike : Alike host host') : HostStep host host'
  /-- Time passes. -/
  | advanceTo (deadline : Nat) : HostStep host (host.advanceTo deadline)
  /-- An endpoint that starts or stops makes one request. -/
  | serve (site : SiteId) (request : Lifecycle) : HostStep host (host.serve site request).2
  /-- A program of an endpoint runs to its end. -/
  | act {α : Type} (site : SiteId) (program : Act α) : HostStep host (host.act site program).2
  /-- A program that holds the broker, and some queues of it, calls it. -/
  | call (queues : List String) (call : BrokerCall) :
    HostStep host (host.modifyBroker fun broker =>
      (BrokerSession.perform ⟨broker, queues⟩ call).2.broker)
  /-- An endpoint is added. -/
  | addSite (site : Site) : HostStep host (host.addSite site).2

/-- A host on which any number of things has happened since. -/
def Later : Host → Host → Prop := ReflTransGen HostStep

/-- Nothing that may happen on a host takes a queue away. -/
theorem remains_of_step (h : HostStep host host') : Remains host host' := by
  cases h with
  | poll id => exact remains_pollTask host id
  | schedule halike => exact .of_alike halike
  | advanceTo deadline => exact remains_advanceTo host deadline
  | serve site request => exact remains_serve host site request
  | act site program => exact remains_run host site program
  | call queues call =>
    exact remains_modifyBroker host fun broker _ =>
      BrokerSession.queueExists_perform ⟨broker, queues⟩ call
  | addSite site => exact .of_world rfl

/-- A queue that exists stays. -/
theorem remains_of_later (h : Later host host') : Remains host host' := by
  induction h with
  | refl => exact .refl host
  | tail _ hstep ih => exact ih.trans (remains_of_step hstep)

/-- A world that an endpoint of a host finds after any number of things have happened, in the midst
of its requests. -/
inductive Finds (host : Host) (site : SiteId) : World → Prop where
  /-- Before its first request. -/
  | first {later : Host} (hlater : Later host later) : Finds host site (later.worldAt site)
  /-- After one request more. -/
  | perform {world : World} (effect : Effect) (hworld : Finds host site world) :
    Finds host site (world.perform effect).2

/-- Whatever an endpoint has asked for, it finds the queues of the host. -/
theorem queueExists_of_finds {site : SiteId} {world : World} (h : Finds host site world)
    {address : String} (hexists : host.world.broker.queueExists address = true) :
    world.broker.queueExists address = true := by
  induction h with
  | first hlater => exact remains_of_later hlater address hexists
  | perform effect _ ih => exact queueExists_of_extends (World.extends_perform address _ effect) ih

end Messaging.Host
