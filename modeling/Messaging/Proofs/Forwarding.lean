import Mathlib.Algebra.GroupWithZero.Nat
import Messaging.Proofs.Advance
import Messaging.Proofs.Attempt
import Messaging.Proofs.Counting

/-!
# The forwarding of failed messages

Any number of pipelines share one counter of failed forwards. Their receives interleave with each
other, with clearings of the whole counter and with anything that leaves the counter alone.

- `attempt` is a receive up to the end of the forward of a failed message, and `conclude` what comes
  after it; `Receive.program_attempt` says that both are the step that forwards failed messages.
- `Machine` is the world with the receives under way and the `Milestone`s so far, `Step` one step of
  it, and `Reachable` the closure of the steps.
- `series` lists the failed forwards of a message since its last successful one and the last
  clearing, with the critical errors that were raised for each.
- `begun_of_reachable` says that every receive under way is what is left of `moveFaults`.
- `Concluded` is what a receive ends with, given the number of failed forwards before.
- `fault_eq` is the fault pipeline that an endpoint has, and `Sends` says what is handed to the
  transport with it.
- `forwards_concluded` is the result: every receive of a reachable machine ends as it should, the
  fifth failed forward of a series is critical, and no other is.
-/

namespace Messaging.Recovery.Forwarding

open Redelivery (HasSent Inbound IsCopy Outbound faultBatch handed sent)

/-! ### Receives -/

/-- What a receive comes to before it is concluded. -/
inductive Attempted where
  /-- The stages behind ended with an outcome. -/
  | processed (outcome : Outcome) (context : ReceiveContext)
  /-- They ended with a failure and a context; a forward was tried, and the context after it holds
  the message with its failure. -/
  | failed (failure : Failure) (context : ReceiveContext) (forwarded : Except Failure Unit)
      (after : ReceiveContext)

/-- Forwards the message if the stages behind have failed. -/
def forwardFailed (settings : FaultSettings) : StageResult × ReceiveContext → Act Attempted
  | (.ok outcome, context) => pure (.processed outcome context)
  | (.error failure, context) => do
    let (forwarded, after) ← forwardFault settings failure context
    pure (.failed failure context forwarded after)

/-- The stages behind, and the forward of a message that they failed to process. -/
def attempt (settings : FaultSettings) (next : Next Effect.signature ReceiveContext)
    (context : ReceiveContext) : Act Attempted := do
  let ended ← next.run context
  forwardFailed settings ended

/-- What a receive does once the forward of a failed message has ended. -/
def conclude (settings : FaultSettings) : Attempted → Act (StageResult × ReceiveContext)
  | .processed outcome context => pure (.ok outcome, context)
  | .failed failure context (.ok ()) after => do
    Act.ask (.clearFailures .forwards settings.pipeline context.message.id)
    let now ← Act.clock
    Act.publish (.movedToErrorQueue context.message.id settings.errorQueue after.message.headers
      after.message.body failure.info now)
    pure (.ok (.movedToErrorQueue failure), after)
  | .failed failure context (.error refusal) after => do
    let failures ← Act.ask (.countFailure .forwards settings.pipeline context.message.id)
    if failures = forwardingFailureLimit + 1 then
      Act.raiseCritical forwardingFailed refusal.message
    pure (.error failure, after)

/-- The step that forwards failed messages goes on after the stages behind with the forward and then
with the conclusion. -/
theorem forwardFailed_conclude (settings : FaultSettings) (ended : StageResult × ReceiveContext) :
    (forwardFailed settings ended).bind (conclude settings) = settleFault settings ended := by
  obtain ⟨result, context⟩ := ended
  cases result with
  | ok outcome => rfl
  | error failure =>
    refine (Program.bind_assoc _ _ _).trans (congrArg (Program.bind _) (funext fun forward => ?_))
    obtain ⟨forwarded, after⟩ := forward
    cases forwarded with
    | ok => rfl
    | error refusal => rfl

/-- A receive under way. -/
structure Receive where
  /-- What the step that forwards failed messages is told. -/
  settings : FaultSettings
  /-- What is left before the conclusion. -/
  rest : Act Attempted

namespace Receive

/-- What is left of a receive: the stages behind, the forward and the conclusion. -/
def program (receive : Receive) : Act (StageResult × ReceiveContext) :=
  receive.rest.bind (conclude receive.settings)

/-- A receive begins as the step that forwards failed messages in front of the stages behind. -/
theorem program_attempt (settings : FaultSettings) (next : Next Effect.signature ReceiveContext)
    (context : ReceiveContext) :
    program ⟨settings, attempt settings next context⟩ = moveFaults settings next context :=
  (Program.bind_assoc _ _ _).trans
    (congrArg (Program.bind _) (funext (forwardFailed_conclude settings)))

/-- What is left of a receive goes through the forward before the conclusion. -/
theorem advance_program (receive : Receive) (world : World) :
    World.advance receive.program world
      = Progress.bind (conclude receive.settings) (World.advance receive.rest world) :=
  World.advance_bind _ _ _

end Receive

/-! ### Milestones -/

/-- What matters for the counts of failed forwards. -/
inductive Milestone where
  /-- A receive was concluded: what it had come to before, and how many critical errors were raised
  at its conclusion. -/
  | received (pipeline : String) (attempted : Attempted) (criticals : Nat)
  /-- The whole counter was cleared. -/
  | cleared

/-- The id of the message that the stages behind failed to process, if they failed. -/
def Attempted.failedId? : Attempted → Option String
  | processed .. => none
  | failed _ context _ _ => some context.message.id

/-- Whether a milestone matters for the failed forwards of a message in a pipeline. -/
def Milestone.concerns (pipeline messageId : String) : Milestone → Bool
  | received name attempted _ => pipeline = name && attempted.failedId? = some messageId
  | cleared => true

/-- The end of a receive matters for its own message, if that was to be forwarded. -/
theorem Milestone.concerns_received {pipeline messageId name : String} {attempted : Attempted}
    {criticals : Nat} :
    (received name attempted criticals).concerns pipeline messageId = true ↔
      pipeline = name ∧ attempted.failedId? = some messageId := by
  rw [concerns, Bool.and_eq_true, decide_eq_true_eq, decide_eq_true_eq]

/-- The failed forwards since the last successful one or clearing once a milestone is reached, given
those before it. -/
def Milestone.seriesAfter (series : List Nat) : Milestone → List Nat
  | received _ (.failed _ _ (.error _) _) criticals => criticals :: series
  | _ => []

/-- The failed forwards of a message in a pipeline since its last successful one and the last
clearing, with the numbers of critical errors raised for them; the newest comes first, and those of
other messages do not matter. -/
def series (history : List Milestone) (pipeline messageId : String) : List Nat :=
  (history.filter (Milestone.concerns pipeline messageId)).foldr
    (fun milestone series => milestone.seriesAfter series) []

/-- How many forwards of a message in a pipeline have failed since its last successful one and the
last clearing. -/
def failures (history : List Milestone) (pipeline messageId : String) : Nat :=
  (series history pipeline messageId).length

/-- A milestone changes the failed forwards of the message that it concerns. -/
theorem series_cons (milestone : Milestone) (history : List Milestone)
    (pipeline messageId : String) :
    series (milestone :: history) pipeline messageId
      = if milestone.concerns pipeline messageId
        then milestone.seriesAfter (series history pipeline messageId)
        else series history pipeline messageId := by
  by_cases hconcerns : milestone.concerns pipeline messageId
  · simp [series, hconcerns]
  · simp [series, hconcerns]

/-- A message that was processed changes no number of failed forwards. -/
theorem series_processed (name : String) (outcome : Outcome) (context : ReceiveContext)
    (criticals : Nat) (history : List Milestone) (pipeline messageId : String) :
    series (.received name (.processed outcome context) criticals :: history) pipeline messageId
      = series history pipeline messageId := by
  rw [series_cons, if_neg]
  intro hconcerns
  cases (Milestone.concerns_received.1 hconcerns).2

/-- A forward decides about the failed forwards of its message only. -/
theorem series_failed (name : String) (failure : Failure) (context : ReceiveContext)
    (forwarded : Except Failure Unit) (copied : ReceiveContext) (criticals : Nat)
    (history : List Milestone) (pipeline messageId : String) :
    series (.received name (.failed failure context forwarded copied) criticals :: history)
        pipeline messageId
      = if pipeline = name ∧ messageId = context.message.id then
          match forwarded with
          | .ok () => []
          | .error _ => criticals :: series history pipeline messageId
        else series history pipeline messageId := by
  have hconcerns (h : (Milestone.received name (.failed failure context forwarded copied)
      criticals).concerns pipeline messageId = true) :
      pipeline = name ∧ messageId = context.message.id :=
    (Milestone.concerns_received.1 h).imp_right fun h => (Option.some.inj h).symm
  -- an accepted copy ends the series, a refused one adds to it, and other messages do neither
  rw [series_cons]
  split
  · next h =>
    rw [if_pos (hconcerns h)]
    cases forwarded <;> rfl
  · next h =>
    rw [if_neg fun hsame => h (Milestone.concerns_received.2
      (hsame.imp_right fun hid => congrArg some hid.symm))]

/-- A failed forward adds to the failed forwards of its message. -/
theorem failures_refused (name : String) (failure : Failure) (context : ReceiveContext)
    (refusal : Failure) (copied : ReceiveContext) (criticals : Nat) (history : List Milestone)
    (pipeline messageId : String) :
    failures (.received name (.failed failure context (.error refusal) copied) criticals :: history)
        pipeline messageId
      = if pipeline = name ∧ messageId = context.message.id
        then failures history pipeline messageId + 1
        else failures history pipeline messageId := by
  rw [failures, series_failed]
  split <;> rfl

/-! ### The machine -/

/-- A pipeline for messages to the error queue that leaves the counter of failed forwards alone. -/
def FaultsSpare (settings : FaultSettings) : Prop :=
  ∀ faults, settings.faults = some faults →
    ∀ context, (faults.result context).Every (SparesCounter .forwards)

/-- Receives under way in a world. -/
structure Machine where
  /-- The world. -/
  world : World
  /-- The receives under way. -/
  running : List Receive := []
  /-- The milestones so far, the newest first. -/
  history : List Milestone := []

/-- A step of the machine. The conclusion of a receive never sleeps, so that nothing comes between
the end of a forward and the end of its receive. -/
inductive Step : Machine → Machine → Prop where
  /-- A receive begins. The stages behind and the fault pipeline have nothing to do with the
  counter. -/
  | start {machine : Machine} {settings : FaultSettings}
      {next : Next Effect.signature ReceiveContext} {context : ReceiveContext}
      (hnext : (next.run context).Every (SparesCounter .forwards))
      (hfaults : FaultsSpare settings) :
      Step machine
        { machine with running := ⟨settings, attempt settings next context⟩ :: machine.running }
  /-- A receive goes on and sleeps again. -/
  | sleep {machine : Machine} {earlier later : List Receive} {receive : Receive} {millis : Nat}
      {rest : Act Attempted} {world : World}
      (hrunning : machine.running = earlier ++ receive :: later)
      (hadvance : World.advance receive.rest machine.world = (.asleep millis rest, world)) :
      Step machine { machine with world, running := earlier ++ { receive with rest } :: later }
  /-- A receive goes on and panics. -/
  | panic {machine : Machine} {earlier later : List Receive} {receive : Receive} {payload : Panic}
      {world : World} (hrunning : machine.running = earlier ++ receive :: later)
      (hadvance : World.advance receive.rest machine.world = (.panicked payload, world)) :
      Step machine { machine with world, running := earlier ++ later }
  /-- A receive goes on and ends. -/
  | finish {machine : Machine} {earlier later : List Receive} {receive : Receive}
      {attempted : Attempted} {answer : StageResult × ReceiveContext} {between world : World}
      (hrunning : machine.running = earlier ++ receive :: later)
      (hattempt : World.advance receive.rest machine.world = (.finished attempted, between))
      (hadvance : World.advance receive.program machine.world = (.finished answer, world)) :
      Step machine
        { world, running := earlier ++ later
          history := .received receive.settings.pipeline attempted
            (world.site.critical.count - between.site.critical.count) :: machine.history }
  /-- The whole counter is cleared. -/
  | clear {machine : Machine} :
      Step machine
        { machine with
          world := machine.world.modifySite (·.clearCounter .forwards)
          history := .cleared :: machine.history }
  /-- Something happens elsewhere. -/
  | elsewhere {machine : Machine} {world : World}
      (hcounter : world.site.counters .forwards = machine.world.site.counters .forwards) :
      Step machine { machine with world }

/-- The machines that come about from one without receives and counts. -/
inductive Reachable : Machine → Prop where
  /-- Nothing has been received and nothing has been counted. -/
  | initial {world : World} (hcounter : world.site.counters .forwards = {}) : Reachable { world }
  /-- One step more. -/
  | step {machine machine' : Machine} (hreach : Reachable machine)
      (hstep : Step machine machine') : Reachable machine'

/-- `receive` is what is left of `moveFaults` with its settings. -/
def Receive.Begun (receive : Receive) : Prop :=
  ∃ next context, LeftOf (moveFaults receive.settings next context) receive.program

/-- Every receive under way has begun as the step that forwards failed messages. -/
theorem begun_of_reachable {machine : Machine} (hreach : Reachable machine) :
    ∀ receive ∈ machine.running, receive.Begun := by
  -- by induction on the steps, of which only the sleeping ones change what is left of a receive
  suffices hleft : ∀ receive ∈ machine.running, ∃ next : Next Effect.signature ReceiveContext,
      ∃ context, LeftOf (attempt receive.settings next context) receive.rest by
    intro receive hreceive
    obtain ⟨next, context, hrest⟩ := hleft receive hreceive
    refine ⟨next, context, ?_⟩
    rw [← Receive.program_attempt]
    exact hrest.bind _
  induction hreach with
  | initial => exact nofun
  | step _ hstep ih =>
    cases hstep with
    | start => exact List.forall_mem_cons.2 ⟨⟨_, _, .whole⟩, ih⟩
    | sleep hrunning hadvance =>
      rw [hrunning, List.forall_mem_append, List.forall_mem_cons] at ih
      obtain ⟨hearlier, ⟨next, context, hrest⟩, hlater⟩ := ih
      rw [List.forall_mem_append, List.forall_mem_cons]
      exact ⟨hearlier, ⟨next, context, hrest.slept hadvance⟩, hlater⟩
    | panic hrunning =>
      rw [hrunning, List.forall_mem_append, List.forall_mem_cons] at ih
      exact List.forall_mem_append.2 ⟨ih.1, ih.2.2⟩
    | finish hrunning =>
      rw [hrunning, List.forall_mem_append, List.forall_mem_cons] at ih
      exact List.forall_mem_append.2 ⟨ih.1, ih.2.2⟩
    | clear => exact ih
    | elsewhere => exact ih

/-! ### One receive -/

/-- How a receive ends in a world after its message was processed or a forward was tried in another,
given how many forwards of each message of the pipeline have failed before. -/
inductive Concluded (settings : FaultSettings) (failures : String → Nat) (before after : World) :
    Attempted → StageResult × ReceiveContext → Prop where
  /-- An outcome is passed on, and nothing happens. -/
  | passed {outcome : Outcome} {context : ReceiveContext} (hworld : after = before) :
      Concluded settings failures before after (.processed outcome context) (.ok outcome, context)
  /-- A forwarded message is settled: monitoring is told once, nothing is critical, and the failed
  forwards are forgotten. -/
  | moved {failure : Failure} {context copied : ReceiveContext}
      (hevents : after.site.events = before.site.events.publish
        (.movedToErrorQueue context.message.id settings.errorQueue copied.message.headers
          copied.message.body failure.info before.clock))
      (hcritical : after.site.critical = before.site.critical)
      (hcount : (after.site.counters .forwards).find? settings.pipeline context.message.id = none) :
      Concluded settings failures before after
        (.failed failure context (.ok ()) copied) (.ok (.movedToErrorQueue failure), copied)
  /-- The failure of a message that could not be forwarded stands, monitoring is told nothing, and
  the fifth failed forward is critical. -/
  | stood {failure refusal : Failure} {context copied : ReceiveContext}
      (hevents : after.site.events = before.site.events)
      (hcritical : after.site.critical
        = if failures context.message.id + 1 = 5
          then before.site.critical.raise forwardingFailed refusal.message
          else before.site.critical) :
      Concluded settings failures before after
        (.failed failure context (.error refusal) copied) (.error failure, copied)

/-- The first number of failed forwards beyond the limit is five. -/
theorem ofNat_eq_limit_iff {n : Nat} (hn : n < UInt32.size) :
    UInt32.ofNat n = forwardingFailureLimit + 1 ↔ n = 5 := by
  rw [← UInt32.toNat_inj, UInt32.toNat_ofNat_of_lt' hn]
  rfl

/-- A failed forward is counted, and it is critical if it is the first one beyond the limit. -/
theorem advance_conclude_refused (settings : FaultSettings) (world : World) (failure : Failure)
    (context : ReceiveContext) (refusal : Failure) (copied : ReceiveContext) {failures : UInt32}
    (hfailures : (world.site.counters .forwards).get settings.pipeline context.message.id + 1
      = failures) :
    ∃ after,
      World.advance (conclude settings (.failed failure context (.error refusal) copied)) world
          = (.finished (.error failure, copied), after) ∧
        after.site.counters = (world.perform (.countFailure .forwards settings.pipeline
          context.message.id)).2.site.counters ∧
        after.site.events = world.site.events ∧
        after.site.critical = if failures = forwardingFailureLimit + 1
          then world.site.critical.raise forwardingFailed refusal.message
          else world.site.critical := by
  subst hfailures
  rw [conclude]
  -- the failure is counted before it is decided whether it is critical
  change ∃ after, World.advance (ite (_ + 1 = forwardingFailureLimit + 1) _ _) _ = _ ∧ _
  split
  · exact ⟨_, rfl, rfl, rfl, rfl⟩
  · exact ⟨_, rfl, rfl, rfl, rfl⟩

/-- Whatever a receive has come to is concluded at once. The counter holds the failed forwards of
every message afterwards, and unless there are too many the receive ends as it should. -/
theorem advance_conclude (settings : FaultSettings) {world : World} {history : List Milestone}
    (hcounts : ∀ pipeline messageId, (world.site.counters .forwards).find? pipeline messageId
      = kept (failures history pipeline messageId))
    (attempted : Attempted) :
    ∃ answer after,
      World.advance (conclude settings attempted) world = (.finished answer, after) ∧
        (∀ pipeline messageId criticals,
          (after.site.counters .forwards).find? pipeline messageId = kept (failures
            (.received settings.pipeline attempted criticals :: history) pipeline messageId)) ∧
        ((∀ messageId, attempted.failedId? = some messageId →
            failures history settings.pipeline messageId + 1 < UInt32.size) →
          Concluded settings (failures history settings.pipeline) world after attempted
            answer) := by
  cases attempted with
  | processed outcome context =>
    refine ⟨_, world, rfl, fun pipeline messageId criticals => ?_, fun _ => .passed rfl⟩
    rw [hcounts, failures, failures, series_processed]
  | failed failure context forwarded copied =>
    cases forwarded with
    | ok =>
      refine ⟨_, _, rfl, fun pipeline messageId criticals => ?_, fun _ => .moved rfl rfl ?_⟩
      · rw [failures, series_failed]
        refine (find?_clearFailures _ _ _ _ _).trans ?_
        split
        · rfl
        · exact hcounts pipeline messageId
      · exact (find?_clearFailures _ _ _ _ _).trans (if_pos ⟨rfl, rfl⟩)
    | error refusal =>
      have hcount := hcounts settings.pipeline context.message.id
      obtain ⟨after, hadvance, hcounters, hevents, hcritical⟩ :=
        advance_conclude_refused settings world failure context refusal copied (get_add_one hcount)
      -- one failed forward more of this message, and of no other
      refine ⟨_, after, hadvance, fun pipeline messageId criticals => ?_, fun hfew => ?_⟩
      · rw [hcounters, find?_countFailure, get_add_one hcount, failures_refused]
        split
        · next hsame =>
          rw [hsame.1, hsame.2]
          rfl
        · exact hcounts pipeline messageId
      · exact .stood hevents (by simpa only [ofNat_eq_limit_iff (hfew _ rfl)] using hcritical)

/-! ### The whole machine -/

/-- Each series of failed forwards has one critical error once there are five of them, and none
before; nothing is said of one so long that the counter has wrapped around. -/
def Once (history : List Milestone) : Prop :=
  ∀ pipeline messageId, failures history pipeline messageId < UInt32.size →
    (series history pipeline messageId).sum
      = if 5 ≤ failures history pipeline messageId then 1 else 0

/-- So it is after one receive more. -/
theorem Once.received {settings : FaultSettings} {history : List Milestone} {before after : World}
    {attempted : Attempted} {answer : StageResult × ReceiveContext} (honce : Once history)
    (hconcluded : (∀ messageId, attempted.failedId? = some messageId →
        failures history settings.pipeline messageId + 1 < UInt32.size) →
      Concluded settings (failures history settings.pipeline) before after attempted answer) :
    Once (.received settings.pipeline attempted
      (after.site.critical.count - before.site.critical.count) :: history) := by
  intro pipeline messageId
  cases attempted with
  | processed outcome context =>
    rw [failures, series_processed]
    exact honce pipeline messageId
  | failed failure context forwarded copied =>
    rw [failures, series_failed]
    split
    · next hsame =>
      obtain ⟨rfl, rfl⟩ := hsame
      cases forwarded with
      | ok => exact fun _ => rfl
      | error refusal =>
        intro hfew
        cases hconcluded (by rintro _ ⟨⟩; exact hfew) with
        | stood hevents hcritical =>
          have hcriticals : after.site.critical.count - before.site.critical.count
              = if failures history settings.pipeline context.message.id + 1 = 5 then 1 else 0 := by
            rw [hcritical]
            split
            · exact Nat.add_sub_cancel_left ..
            · exact Nat.sub_self _
          -- either this one is the fifth, or the earlier ones decide
          have hearlier := honce settings.pipeline context.message.id (Nat.lt_of_succ_lt hfew)
          dsimp only [List.length_cons]
          rw [List.sum_cons, hcriticals, hearlier, failures]
          grind
    · exact honce pipeline messageId

/-- The counter holds the failed forwards of every message, and each series has its critical
error. -/
structure Consistent (machine : Machine) : Prop where
  /-- What is left of the receives spares the counter. -/
  spares : ∀ receive ∈ machine.running, receive.rest.Every (SparesCounter .forwards)
  /-- The counter holds the failed forwards of every message. -/
  counts : ∀ pipeline messageId, (machine.world.site.counters .forwards).find? pipeline messageId
    = kept (failures machine.history pipeline messageId)
  /-- Each series has its critical error. -/
  once : Once machine.history

/-- In a `Consistent` machine what is left of each receive spares the counter of forwards. -/
theorem Consistent.of_running {machine : Machine} (hconsistent : Consistent machine)
    {earlier later : List Receive} {receive : Receive}
    (hrunning : machine.running = earlier ++ receive :: later) :
    (∀ other ∈ earlier, other.rest.Every (SparesCounter .forwards)) ∧
      receive.rest.Every (SparesCounter .forwards) ∧
        ∀ other ∈ later, other.rest.Every (SparesCounter .forwards) := by
  have hspares := hconsistent.spares
  rwa [hrunning, List.forall_mem_append, List.forall_mem_cons] at hspares

/-- The forward of a failed message spares the counter if its pipeline does. -/
theorem FaultsSpare.attempt {settings : FaultSettings} (hfaults : FaultsSpare settings)
    {next : Next Effect.signature ReceiveContext} {context : ReceiveContext}
    (hnext : (next.run context).Every (SparesCounter .forwards)) :
    (attempt settings next context).Every (SparesCounter .forwards) := by
  refine hnext.bind fun ended => ?_
  obtain ⟨result, context⟩ := ended
  cases result with
  | ok outcome => exact .done _
  | error failure =>
    refine Program.Every.bind ?_ fun forward => .done _
    -- the counter is touched after the attempt only, so not by the copy that is handed over
    rw [forwardFault]
    split
    · exact .done _
    · next faults hsome =>
      exact .call trivial fun now => .call trivial fun scope =>
        (hfaults faults hsome _).bind fun result => .done _

/-- A receive of a consistent machine that has come to its conclusion is concluded. -/
theorem Consistent.concluded {machine : Machine} (hconsistent : Consistent machine)
    {receive : Receive} (hreceive : receive ∈ machine.running) {attempted : Attempted}
    {before : World}
    (hattempt : World.advance receive.rest machine.world = (.finished attempted, before)) :
    ∃ answer after,
      World.advance receive.program machine.world = (.finished answer, after) ∧
        (∀ pipeline messageId criticals,
          (after.site.counters .forwards).find? pipeline messageId
            = kept (failures
              (.received receive.settings.pipeline attempted criticals :: machine.history)
              pipeline messageId)) ∧
        ((∀ messageId, attempted.failedId? = some messageId →
            failures machine.history receive.settings.pipeline messageId + 1 < UInt32.size) →
          Concluded receive.settings (failures machine.history receive.settings.pipeline)
            before after attempted answer) := by
  -- stages behind and forward leave the counter alone, so it still stands as the history says
  have hspared := (counter_advance (hconsistent.spares receive hreceive) machine.world).1
  rw [hattempt] at hspared
  rw [Receive.advance_program, hattempt]
  exact advance_conclude receive.settings
    (fun pipeline messageId => hspared ▸ hconsistent.counts pipeline messageId) attempted

/-- A step keeps a machine consistent. -/
theorem Consistent.step {machine machine' : Machine} (hconsistent : Consistent machine)
    (hstep : Step machine machine') : Consistent machine' := by
  cases hstep with
  | start hnext hfaults =>
    exact { hconsistent with
      spares := List.forall_mem_cons.2 ⟨hfaults.attempt hnext, hconsistent.spares⟩ }
  | @sleep earlier later receive millis rest world hrunning hadvance =>
    obtain ⟨hearlier, hreceive, hlater⟩ := hconsistent.of_running hrunning
    have hadvanced := counter_advance hreceive machine.world
    rw [hadvance] at hadvanced
    refine ⟨?_, ?_, hconsistent.once⟩
    · rw [List.forall_mem_append, List.forall_mem_cons]
      exact ⟨hearlier, hadvanced.2 millis rest rfl, hlater⟩
    · rw [hadvanced.1]
      exact hconsistent.counts
  | @panic earlier later receive payload world hrunning hadvance =>
    obtain ⟨hearlier, hreceive, hlater⟩ := hconsistent.of_running hrunning
    have hadvanced := counter_advance hreceive machine.world
    rw [hadvance] at hadvanced
    refine ⟨List.forall_mem_append.2 ⟨hearlier, hlater⟩, ?_, hconsistent.once⟩
    rw [hadvanced.1]
    exact hconsistent.counts
  | @finish earlier later receive attempted answer between world hrunning hattempt hadvance =>
    obtain ⟨hearlier, -, hlater⟩ := hconsistent.of_running hrunning
    have hreceive : receive ∈ machine.running := by simp [hrunning]
    -- the receive ends as the step says that it did
    obtain ⟨answer', world', hadvance', hcounts, hconcluded⟩ :=
      hconsistent.concluded hreceive hattempt
    rw [hadvance] at hadvance'
    cases hadvance'
    exact ⟨List.forall_mem_append.2 ⟨hearlier, hlater⟩,
      fun pipeline messageId => hcounts pipeline messageId _, hconsistent.once.received hconcluded⟩
  | clear => exact ⟨hconsistent.spares, fun _ _ => rfl, fun _ _ _ => rfl⟩
  | elsewhere hcounter =>
    exact { hconsistent with counts := hcounter ▸ hconsistent.counts }

/-- Every reachable machine is consistent. -/
theorem consistent_of_reachable {machine : Machine} (hreach : Reachable machine) :
    Consistent machine := by
  induction hreach with
  | initial hcounter => exact ⟨nofun, fun _ _ => hcounter ▸ rfl, fun _ _ _ => rfl⟩
  | step _ hstep ih => exact ih.step hstep

/-! ### The fault pipeline of an endpoint -/

/-- What the pipeline of routed messages does first: with a timeout manager it reads the clock. -/
def leadIn : Option String → Act Unit
  | none => .done ()
  | some _ => Act.clock.bind fun _ => .done ()

/-- What a forward comes to once the transport has answered. -/
def forwardResult : Except TransportError Unit → Except Failure Unit
  | .ok () => .ok ()
  | .error error => .error (.transport error)

/-- The fault pipeline of an endpoint opens two scopes and hands the message to the transport, in a
batch of its own. -/
theorem fault_eq (outbound : Outbound) (context : FaultContext) :
    outbound.sending.fault.result context
      = (Act.childScope context.scope).bind fun _ => (leadIn outbound.manager).bind fun _ =>
          (Act.dispatch (faultBatch context.errorQueue context.message)).bind fun answer =>
            .done ((forwardResult answer).map fun () => .completed) := by
  obtain ⟨resolver, manager, serializer, capabilities⟩ := outbound
  refine congrArg (Program.call _) (funext fun scope => ?_)
  cases manager with
  | none =>
    refine congrArg (Program.call _) (funext fun answer => ?_)
    cases answer <;> rfl
  -- the message has no constraints, so that nothing comes of the clock
  | some address =>
    refine congrArg (Program.call _) (funext fun now => ?_)
    refine congrArg (Program.call _) (funext fun answer => ?_)
    cases answer <;> rfl

/-- The fault pipeline of an endpoint leaves the counter of failed forwards alone. -/
theorem faultsSpare_inbound (inbound : Inbound) : FaultsSpare inbound.faultSettings := by
  rintro faults ⟨⟩ context
  rw [fault_eq]
  refine .call trivial fun scope => ?_
  cases inbound.manager with
  | none => exact .call trivial fun answer => .done _
  | some address => exact .call trivial fun now => .call trivial fun answer => .done _

/-- A failed message is forwarded first, and then it is concluded what comes of it. -/
theorem settleFault_error (settings : FaultSettings) (failure : Failure)
    (context : ReceiveContext) :
    settleFault settings (.error failure, context)
      = (forwardFault settings failure context).bind fun (forwarded, copied) =>
          conclude settings (.failed failure context forwarded copied) := by
  rw [← forwardFailed_conclude]
  exact Program.bind_assoc _ _ _

/-- A forward by an endpoint writes the failure into a copy of the message first. -/
theorem forwardFault_eq (inbound : Inbound) (failure : Failure) (context : ReceiveContext) :
    forwardFault inbound.faultSettings failure context
      = (describeFailure failure inbound.localAddress context.message).bind fun copy =>
          (Act.childScope context.scope).bind fun scope => (Act.childScope scope).bind fun _ =>
            (leadIn inbound.manager).bind fun _ =>
              (Act.dispatch (faultBatch inbound.errorQueue copy)).bind fun answer =>
                .done (forwardResult answer, { context with message := copy }) := by
  refine congrArg (Program.call _) (funext fun now => ?_)
  refine congrArg (Program.call _) (funext fun scope => ?_)
  refine (congrArg (Program.bind · _) (fault_eq inbound.toOutbound _)).trans ?_
  refine congrArg (Program.call _) (funext fun inner => ?_)
  -- with a timeout manager the deferring stage looks at the clock, and does nothing else for a copy
  cases inbound.manager with
  | none =>
    refine congrArg (Program.call _) (funext fun answer => ?_)
    cases answer <;> rfl
  | some address =>
    refine congrArg (Program.call _) (funext fun now => ?_)
    refine congrArg (Program.call _) (funext fun answer => ?_)
    cases answer <;> rfl

/-- With the fault pipeline of an endpoint `forwardFault` hands a copy of the message to the
transport, once, and goes on with what that answers. -/
theorem forwardFault_hands (inbound : Inbound) (failure : Failure) (context : ReceiveContext)
    (world : World) {α : Type} (rest : Except Failure Unit × ReceiveContext → Act α) :
    ∃ copy answer between,
      IsCopy copy context.message ∧
      World.advance ((forwardFault inbound.faultSettings failure context).bind rest) world
        = World.advance (rest (forwardResult answer, { context with message := copy })) between ∧
      handed (world.transcript ((forwardFault inbound.faultSettings failure context).bind rest))
        = (faultBatch inbound.errorQueue copy, answer) :: handed (between.transcript
            (rest (forwardResult answer, { context with message := copy }))) := by
  rw [forwardFault_eq]
  -- the forward runs to its end in one go, with or without a look at the clock by the way
  cases inbound.manager
  all_goals
    refine ⟨_, _, _, ?_, rfl, rfl⟩
    exact ⟨rfl, rfl⟩

/-- The conclusion of a receive hands nothing to the transport. -/
theorem handed_conclude (settings : FaultSettings) (attempted : Attempted) (world : World) :
    handed (world.transcript (conclude settings attempted)) = [] := by
  cases attempted with
  | processed => rfl
  | failed failure context forwarded copied =>
    cases forwarded with
    | ok => rfl
    | error refusal =>
      rw [conclude]
      change handed (⟨.countFailure .forwards _ _, _⟩ :: World.transcript (ite _ _ _) _) = []
      split <;> rfl

/-- What the step that forwards failed messages does for one with the fault pipeline of an endpoint:
it ends at once, and it has handed one isolated operation with a copy of the message to the
transport. The message was moved to the error queue if the transport took that, and otherwise its
failure stands and nothing was sent. -/
def Sends (inbound : Inbound) (failure : Failure) (context : ReceiveContext) (world : World) :
    Prop :=
  ∃ copy accepted answer after,
    IsCopy copy context.message ∧
    handed (world.transcript (settleFault inbound.faultSettings (.error failure, context)))
      = [(faultBatch inbound.errorQueue copy, accepted)] ∧
    World.advance (settleFault inbound.faultSettings (.error failure, context)) world
      = (.finished answer, after) ∧
    (answer.1 = match accepted with
      | .ok () => .ok (.movedToErrorQueue failure)
      | .error _ => .error failure) ∧
    HasSent inbound.errorQueue context.message
      (world.transcript (settleFault inbound.faultSettings (.error failure, context)))
      (.ok answer.1)

/-- What was sent is what was handed over and accepted. -/
theorem sent_eq_handed (log : List Exchange) :
    sent log = (handed log).filterMap fun (batch, answer) =>
      match answer with
      | .ok () => some batch
      | .error _ => none := by
  rw [handed, List.filterMap_filterMap, sent]
  refine congrArg (List.filterMap · log) (funext fun exchange => ?_)
  obtain ⟨effect, answer⟩ := exchange
  cases effect
  case dispatch => cases answer <;> rfl
  all_goals rfl

/-- What `settleFault` does with a failure is what `Sends` says. -/
theorem settleFault_sends (inbound : Inbound) (failure : Failure) (context : ReceiveContext)
    (world : World) : Sends inbound failure context world := by
  obtain ⟨copy, accepted, between, hcopy, hadvance, hhanded⟩ := forwardFault_hands inbound failure
    context world fun (forwarded, copied) =>
      conclude inbound.faultSettings (.failed failure context forwarded copied)
  rw [← settleFault_error] at hadvance hhanded
  -- what is done after the answer hands nothing over
  rw [handed_conclude] at hhanded
  have hsent := sent_eq_handed
    (world.transcript (settleFault inbound.faultSettings (.error failure, context)))
  rw [hhanded] at hsent
  -- the answer decides whether the copy counts as sent
  cases accepted with
  | ok =>
    exact ⟨copy, _, _, _, hcopy, hhanded, hadvance, rfl, copy, hcopy, hsent⟩
  | error error =>
    obtain ⟨after, hended, -⟩ := advance_conclude_refused inbound.faultSettings between failure
      context (.transport error) { context with message := copy } rfl
    exact ⟨copy, _, _, after, hcopy, hhanded, hadvance.trans hended, rfl, hsent⟩

/-! ### The result -/

/-- Without a fault pipeline every forward fails, and nothing is asked for. -/
theorem forwardFailed_none {settings : FaultSettings} (hfaults : settings.faults = none)
    (failure : Failure) (context : ReceiveContext) :
    forwardFailed settings (.error failure, context)
      = .done (.failed failure context
          (.error (.invalidMessage context.message.id (noFaultPipeline settings.pipeline)))
          context) := by
  rw [forwardFailed, forwardFault, hfaults]
  rfl

/-- A receive begins as `moveFaults`, and every one under way in a reachable machine is what is left
of that. Whatever the stages behind and the fault pipelines do, and however receives and clearings
interleave: what a receive ends with depends on whether its message was forwarded, the fifth failed
forward of a `series` is critical, and no series has a second critical error. With the fault
pipeline of an endpoint a message is handed to the transport once, as `Sends` says, and it is moved
to the error queue if that is accepted. Without any fault pipeline every forward fails. -/
theorem forwards_concluded {machine : Machine} (hreach : Reachable machine)
    (hfew : ∀ pipeline messageId,
      failures machine.history pipeline messageId + 1 < UInt32.size) :
    (∀ settings next context, Receive.program ⟨settings, attempt settings next context⟩
      = moveFaults settings next context) ∧
    (∀ receive ∈ machine.running, receive.Begun ∧ ∀ attempted before,
      World.advance receive.rest machine.world = (.finished attempted, before) →
      ∃ answer after,
        World.advance receive.program machine.world = (.finished answer, after) ∧
          Concluded receive.settings (failures machine.history receive.settings.pipeline)
            before after attempted answer) ∧
    (∀ pipeline messageId, (series machine.history pipeline messageId).sum
      = if 5 ≤ failures machine.history pipeline messageId then 1 else 0) ∧
    (∀ inbound : Inbound, FaultsSpare inbound.faultSettings ∧
      ∀ failure context world, Sends inbound failure context world) ∧
    ∀ settings : FaultSettings, settings.faults = none → ∀ failure context,
      forwardFailed settings (.error failure, context)
        = .done (.failed failure context
            (.error (.invalidMessage context.message.id (noFaultPipeline settings.pipeline)))
            context) := by
  -- both counts follow from what is `Consistent` along every run
  have hconsistent := consistent_of_reachable hreach
  refine ⟨Receive.program_attempt, fun receive hreceive =>
      ⟨begun_of_reachable hreach receive hreceive, fun attempted before hattempt => ?_⟩,
    fun pipeline messageId => ?_,
    fun inbound => ⟨faultsSpare_inbound inbound, settleFault_sends inbound⟩,
    fun settings hfaults => forwardFailed_none hfaults⟩
  · obtain ⟨answer, after, hadvance, -, hconcluded⟩ := hconsistent.concluded hreceive hattempt
    exact ⟨answer, after, hadvance, hconcluded fun messageId _ => hfew _ messageId⟩
  · exact hconsistent.once pipeline messageId (Nat.lt_of_succ_lt (hfew pipeline messageId))

/-- What is received here. -/
def refusedContext : ReceiveContext := ⟨⟨"m-1", ∅, []⟩, 0⟩

/-- The receive of a message that the stages behind fail to process, without a fault pipeline. -/
def refusedReceive : Receive :=
  let settings : FaultSettings := ⟨"Main", none, "error", "billing"⟩
  ⟨settings, attempt settings ⟨1, fun context => .done (.error (.handler "boom" []), context)⟩
    refusedContext⟩

/-- The forward of the message fails. -/
def refusedAttempt : Attempted :=
  .failed (.handler "boom" []) refusedContext
    (.error (.invalidMessage "m-1" (noFaultPipeline "Main"))) refusedContext

theorem advance_refusedReceive (world : World) :
    World.advance refusedReceive.rest world = (.finished refusedAttempt, world) := rfl

/-- The forward of a message may have failed any number of times. -/
theorem exists_refused (n : Nat) :
    ∃ machine, Reachable machine ∧ machine.running = [refusedReceive] ∧
      failures machine.history "Main" "m-1" = n ∧
      ∀ pipeline messageId, failures machine.history pipeline messageId ≤ n := by
  have hstart (machine : Machine) :
      Step machine { machine with running := refusedReceive :: machine.running } :=
    .start (.done _) nofun
  -- by induction on the number of failed forwards; each receive begins as the last one has ended
  induction n with
  | zero =>
    have hinitial : Reachable { world := { clock := ⟨0, 0⟩ } } := .initial rfl
    exact ⟨_, hinitial.step (hstart _), rfl, rfl, fun _ _ => Nat.le_refl 0⟩
  | succ n ih =>
    obtain ⟨machine, hreach, hrunning, hown, hall⟩ := ih
    have hmem : refusedReceive ∈ machine.running := hrunning ▸ List.mem_singleton_self _
    obtain ⟨answer, after, hadvance, -⟩ := (consistent_of_reachable hreach).concluded hmem
      (advance_refusedReceive machine.world)
    have hfinish :=
      @Step.finish machine [] [] _ _ _ _ _ hrunning (advance_refusedReceive _) hadvance
    have hfailures (pipeline messageId : String) (criticals : Nat) :
        failures (.received "Main" refusedAttempt criticals :: machine.history) pipeline messageId
          = if pipeline = "Main" ∧ messageId = "m-1"
            then failures machine.history pipeline messageId + 1
            else failures machine.history pipeline messageId := failures_refused ..
    refine ⟨_, (hreach.step hfinish).step (hstart _), rfl, ?_, fun pipeline messageId => ?_⟩
    · exact (hfailures _ _ _).trans (congrArg (· + 1) hown)
    · have hle := hall pipeline messageId
      refine Nat.le_trans (Nat.le_of_eq (hfailures _ _ _)) ?_
      split <;> omega

/-- The fifth failed forward of a message is critical. -/
theorem forwards_concluded_fifth :
    ∃ machine, Reachable machine ∧
      (∀ pipeline messageId, failures machine.history pipeline messageId + 1 < UInt32.size) ∧
      ∃ receive ∈ machine.running, ∃ answer after,
        World.advance receive.program machine.world = (.finished answer, after) ∧
          answer.1 = .error (.handler "boom" []) ∧
          after.site.critical.count = machine.world.site.critical.count + 1 := by
  obtain ⟨machine, hreach, hrunning, hown, hall⟩ := exists_refused 4
  have hmem : refusedReceive ∈ machine.running := hrunning ▸ List.mem_singleton_self _
  have hfew (pipeline messageId : String) :
      failures machine.history pipeline messageId + 1 < UInt32.size :=
    Nat.lt_of_le_of_lt (Nat.succ_le_succ (hall pipeline messageId)) (by decide)
  obtain ⟨answer, after, hadvance, hconcluded⟩ :=
    ((forwards_concluded hreach hfew).2.1 _ hmem).2 _ _ (advance_refusedReceive machine.world)
  refine ⟨machine, hreach, hfew, _, hmem, answer, after, hadvance, ?_⟩
  -- four failures were counted before, so this one is the fifth
  cases hconcluded with
  | stood hevents hcritical =>
    have hfifth : failures machine.history "Main" "m-1" + 1 = 5 := congrArg (· + 1) hown
    refine ⟨rfl, ?_⟩
    rw [hcritical]
    exact congrArg Critical.count (if_pos hfifth)

end Messaging.Recovery.Forwarding
