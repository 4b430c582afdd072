import Messaging.Proofs.Forwarding
import Messaging.Proofs.HandOff
import Messaging.Proofs.Returning
import Messaging.Proofs.Streaks

/-!
# Counts that wrap around

Three steps count failures: immediate retries, the forwarding of failed messages and the recovery of
the side queues. Each has a counter of its own, and what the step does with it is read off the
milestones of its receives.

- `retryHistory`, `forwardHistory` and `satelliteHistory` are the deeds that the milestones of a
  step come to. `tallied_of_reachable`, `forwards_of_reachable` and `satellites_of_reached` say that
  the counter is the one after these deeds.
- `Numbered` is what immediate retries make of the answer to a failure: they take one from it.
- `Underwent` relates a counter in a world to its history, for any use of the counter and for the
  three steps. `RetriesNumbered` says when immediate retries take one from zero.
- `counts_exact_iff` is the result. Nothing but a streak that reaches the number of words makes a
  count wrap around, and immediate retries have no such streak unless they are told to retry as
  often as the largest word. `counts_wrap` comes to such a streak in each of the three steps.
-/

namespace Messaging.Recovery.Wrapping

open FailureCounter

/-! ### Immediate retries -/

/-- What a milestone of immediate retries comes to for the counter. -/
def retryDeeds : Milestone → List Deed
  | .received pipeline messageId (.ok _) _ => [.forgotten pipeline messageId]
  | .received pipeline messageId (.error failure) answer =>
    if failure.isDeserialization then []
    else
      match answer with
      | .ok _ => [.counted pipeline messageId]
      -- a failure that is let through was counted before its message was forgotten
      | .error _ => [.forgotten pipeline messageId, .counted pipeline messageId]
  | .cleared => [.cleared]

/-- What the milestones of immediate retries come to for the counter. -/
def retryHistory (history : List Milestone) : List Deed := history.flatMap retryDeeds

/-- What immediate retries make of a failure, given the answer when it was counted, in a world after
the stages behind have ended in another. -/
inductive Numbered (policy : RetryPolicy) (pipeline messageId : String) (failure : Failure)
    (context : ReceiveContext) (count : UInt32) (before after : World) :
    StageResult × ReceiveContext → Prop where
  /-- Within the retries monitoring is told of a retry whose number is the count less one. -/
  | retried (hcount : count ≤ policy.maxRetries)
      (hevents : after.site.events
        = before.site.events.publish (.retried messageId (count - 1) failure.info))
      (hcounter : after.site.counters .retries
        = Deed.apply (.counted pipeline messageId) (before.site.counters .retries)) :
      Numbered policy pipeline messageId failure context count before after
        (.ok .retryRequested, context)
  /-- Beyond them the failure is let through with the count less one as the number of its
  retries. -/
  | surrendered (hcount : policy.maxRetries < count)
      (hevents : after.site.events = before.site.events)
      (hcounter : after.site.counters .retries
        = Deed.apply (.forgotten pipeline messageId)
          (Deed.apply (.counted pipeline messageId) (before.site.counters .retries))) :
      Numbered policy pipeline messageId failure context count before after
        (.error failure, { context with
          message := context.message.setHeader Header.firstLevelRetries
            (toString (count - 1).toNat) })

/-- A failure that could be read is counted, and the answer decides what becomes of it. -/
theorem advance_settleRetries_numbered (policy : RetryPolicy) (world : World)
    (pipeline messageId : String) {failure : Failure} (context : ReceiveContext)
    (hfailure : failure.isDeserialization = false) :
    ∃ answer after,
      World.advance (settleRetries policy pipeline messageId (.error failure, context)) world
          = (.finished answer, after) ∧
        Numbered policy pipeline messageId failure context
          ((world.site.counters .retries).increment pipeline messageId).1 world after answer := by
  rw [advance_settleRetries_error world pipeline messageId context hfailure rfl,
    RetryPolicy.shouldRetry]
  split
  · next hretry => exact ⟨_, _, rfl, .retried (of_decide_eq_true hretry) rfl rfl⟩
  · next hretry =>
    exact ⟨_, _, rfl, .surrendered (UInt32.not_le.1 (mt decide_eq_true hretry)) rfl rfl⟩

/-- The counter is the one after the milestones, and a pipeline that is not told to retry as often
as the largest word keeps its streaks within its retries. -/
structure Tallied (policies : String → RetryPolicy) (counter : FailureCounter)
    (history : List Milestone) : Prop where
  /-- The counter is the one after the milestones. -/
  counter_eq : counter = ofDeeds (retryHistory history)
  /-- The streaks are within the retries. -/
  bounded : ∀ pipeline, (policies pipeline).maxRetries.toNat + 1 < UInt32.size → ∀ messageId,
    Bounded (policies pipeline).maxRetries.toNat (retryHistory history) pipeline messageId

variable {policies : String → RetryPolicy}

/-- The end of a receive keeps the tally. -/
theorem Tallied.received {world after : World} {history : List Milestone} {name id : String}
    {inner answer : StageResult × ReceiveContext}
    (htallied : Tallied policies (world.site.counters .retries) history)
    (hadvance : World.advance (settleRetries (policies name) name id inner) world
      = (.finished answer, after)) :
    Tallied policies (after.site.counters .retries)
      (.received name id inner.1 answer.1 :: history) := by
  obtain ⟨hcounter, hbounded⟩ := htallied
  obtain ⟨result, context⟩ := inner
  cases result with
  | ok outcome =>
    cases hadvance
    exact ⟨congrArg (FailureCounter.clear · name id) hcounter,
      fun pipeline hpolicy messageId => (hbounded pipeline hpolicy messageId).forgotten name id⟩
  | error failure =>
    have hdeeds : retryHistory (.received name id (.error failure) answer.1 :: history)
        = (if failure.isDeserialization then []
          else
            match answer.1 with
            | .ok _ => [.counted name id]
            | .error _ => [.forgotten name id, .counted name id]) ++ retryHistory history := rfl
    by_cases hfailure : failure.isDeserialization
    · rw [settleRetries, if_pos hfailure] at hadvance
      cases hadvance
      rw [if_pos hfailure] at hdeeds
      exact ⟨hdeeds ▸ hcounter, hdeeds ▸ hbounded⟩
    · rw [if_neg hfailure] at hdeeds
      obtain ⟨answer', after', hadvance', hnumbered⟩ :=
        advance_settleRetries_numbered (policies name) world name id context
          (Bool.not_eq_true _ ▸ hfailure)
      rw [hadvance] at hadvance'
      cases hadvance'
      cases hnumbered with
      | retried hcount hevents hafter =>
        rw [hcounter] at hcount hafter
        refine ⟨hafter.trans (congrArg ofDeeds hdeeds.symm),
          hdeeds ▸ fun pipeline hpolicy id' => ?_⟩
        have hbefore := hbounded pipeline hpolicy id'
        refine hbefore.cons ?_
        rw [streak_counted]
        split
        · next hsame =>
          obtain ⟨rfl, rfl⟩ := hsame
          -- with so few retries the count has not wrapped around, so that it can be compared
          rw [increment_ofDeeds, UInt32.le_iff_toNat_le, UInt32.toNat_ofNat_of_lt'
            (Nat.lt_of_le_of_lt (Nat.succ_le_succ hbefore.streak_le) hpolicy)] at hcount
          exact hcount
        · exact hbefore.streak_le
      | surrendered hcount hevents hafter =>
        rw [hcounter] at hafter
        exact ⟨hafter.trans (congrArg ofDeeds hdeeds.symm), hdeeds ▸ fun pipeline hpolicy id' =>
          (hbounded pipeline hpolicy id').letGo name id⟩

/-- Every reachable machine keeps the tally. -/
theorem tallied_of_reachable {machine : Machine} (hreach : Reachable policies machine) :
    Spares machine ∧
      Tallied policies (machine.world.site.counters .retries) machine.history :=
  holds_of_reachable ⟨rfl, fun _ _ _ => .nil⟩
    (fun _ _ htallied => ⟨rfl, fun pipeline hpolicy messageId =>
      (htallied.bounded pipeline hpolicy messageId).cons (Nat.zero_le _)⟩)
    (fun _ _ _ _ _ _ _ htallied hadvance => htallied.received hadvance) hreach

/-! ### Failed forwards -/

/-- What a milestone of the step that forwards failed messages comes to for the counter. -/
def forwardDeeds : Forwarding.Milestone → List Deed
  | .received _ (.processed ..) _ => []
  | .received pipeline (.failed _ context (.ok ()) _) _ =>
    [.forgotten pipeline context.message.id]
  | .received pipeline (.failed _ context (.error _) _) _ =>
    [.counted pipeline context.message.id]
  | .cleared => [.cleared]

/-- What the milestones of the step that forwards failed messages come to for the counter. -/
def forwardHistory (history : List Forwarding.Milestone) : List Deed :=
  history.flatMap forwardDeeds

/-- The conclusion of a receive does with the counter what its milestone comes to. -/
theorem counter_conclude (settings : FaultSettings) (world : World)
    (attempted : Forwarding.Attempted) :
    ∃ answer after,
      World.advance (Forwarding.conclude settings attempted) world = (.finished answer, after) ∧
        ∀ criticals, after.site.counters .forwards
          = (forwardDeeds (.received settings.pipeline attempted criticals)).foldr Deed.apply
            (world.site.counters .forwards) := by
  cases attempted with
  | processed outcome context => exact ⟨_, _, rfl, fun _ => rfl⟩
  | failed failure context forwarded copied =>
    cases forwarded with
    | ok => exact ⟨_, _, rfl, fun _ => rfl⟩
    -- a copy that is refused counts one failure more
    | error refusal =>
      obtain ⟨after, hadvance, hcounters, -⟩ := Forwarding.advance_conclude_refused settings world
        failure context refusal copied rfl
      exact ⟨_, after, hadvance, fun _ => congrFun hcounters .forwards⟩

/-- In a reachable machine the counter is the one after the milestones. -/
theorem forwards_of_reachable {machine : Forwarding.Machine}
    (hreach : Forwarding.Reachable machine) :
    machine.world.site.counters .forwards = ofDeeds (forwardHistory machine.history) := by
  induction hreach with
  | initial hcounter => exact hcounter
  | @step machine machine' hreach hstep ih =>
    -- what comes before the conclusion of a receive leaves the counter alone
    have hspared {earlier later : List Forwarding.Receive} {receive : Forwarding.Receive}
        (hrunning : machine.running = earlier ++ receive :: later) :=
      (counter_advance ((Forwarding.consistent_of_reachable hreach).of_running hrunning).2.1
        machine.world).1
    cases hstep with
    | start => exact ih
    | sleep hrunning hadvance =>
      have hcounter := hspared hrunning
      rw [hadvance] at hcounter
      exact hcounter.trans ih
    | panic hrunning hadvance =>
      have hcounter := hspared hrunning
      rw [hadvance] at hcounter
      exact hcounter.trans ih
    | @finish earlier later receive attempted answer between world hrunning hattempt hadvance =>
      have hcounter := hspared hrunning
      rw [hattempt] at hcounter
      rw [Forwarding.Receive.advance_program, hattempt] at hadvance
      obtain ⟨answer', world', hadvance', hconcluded⟩ :=
        counter_conclude receive.settings between attempted
      have hended := hadvance'.symm.trans hadvance
      cases hended
      rw [hconcluded, hcounter, ih]
      exact List.foldr_append.symm
    | clear => rfl
    | elsewhere hcounter => exact hcounter.trans ih

/-! ### The side queues -/

section SideQueues

open Timeouts.Returning (Queue Reached Recovered advance_settle counts_of_reached forward sending)

/-- What a milestone of the recovery of the side queues comes to for the counter. -/
def satelliteDeeds : Timeouts.Returning.Milestone → List Deed
  | .received _ _ (.ok _) _ => []
  | .received pipeline messageId (.error _) (.ok (.movedToErrorQueue _)) =>
    [.forgotten pipeline messageId, .counted pipeline messageId]
  | .received pipeline messageId (.error _) _ => [.counted pipeline messageId]
  | .cleared => [.cleared]

/-- What the milestones of the recovery of the side queues come to for the counter. -/
def satelliteHistory (history : List Timeouts.Returning.Milestone) : List Deed :=
  history.flatMap satelliteDeeds

/-- A message for the error queue is handed over once its failure is counted. -/
theorem counter_sending (before : World) (queue : Queue) (messageId : String)
    (message : Message) :
    (sending before queue messageId message).2.site.counters .satellites
      = Deed.apply (.counted queue.pipeline messageId) (before.site.counters .satellites) :=
  counter_perform (.dispatch (forward queue message))
    (Timeouts.Returning.counted before queue messageId).readClock.2 trivial

/-- The end of a receive does with the counter what its milestone comes to. -/
theorem counter_recovered {queue : Queue} {k : Nat} {before after : World}
    {inner answer : StageResult × ReceiveContext}
    (hrecovered : Recovered queue k before after inner answer) :
    after.site.counters .satellites
      = (satelliteDeeds (.received queue.pipeline inner.2.message.id inner.1 answer.1)).foldr
        Deed.apply (before.site.counters .satellites) := by
  cases hrecovered with
  | passed => rfl
  | handedBack => rfl
  | @moved failure context message sent hk hmessage hsent =>
    have hcounter := counter_sending before queue context.message.id message
    rw [hsent] at hcounter
    exact congrArg (Deed.apply (.forgotten queue.pipeline context.message.id)) hcounter
  | @stood failure context message error sent hk hmessage hsent =>
    have hcounter := counter_sending before queue context.message.id message
    rw [hsent] at hcounter
    exact hcounter

/-- In a world that comes about the counter is the one after the milestones. -/
theorem satellites_of_reached {world : World} {history : List Timeouts.Returning.Milestone}
    (hreached : Reached world history) :
    world.site.counters .satellites = ofDeeds (satelliteHistory history) := by
  induction hreached with
  | initial hcounter => exact hcounter
  | @settled world after history queue inner answer hreached hadvance ih =>
    obtain ⟨answer', after', hadvance', hrecovered⟩ :=
      advance_settle (counts_of_reached hreached queue.pipeline inner.2.message.id)
    rw [hadvance] at hadvance'
    cases hadvance'
    rw [counter_recovered hrecovered, ih]
    exact List.foldr_append.symm
  | cleared => rfl
  | elsewhere _ hcounter ih => exact hcounter.trans ih

end SideQueues

/-! ### Answers -/

/-- A world after a deed with one of its counters. -/
def worldAfter (counter : CounterId) : Deed → World → World
  | .counted pipeline messageId, world =>
    (world.perform (.countFailure counter pipeline messageId)).2
  | .forgotten pipeline messageId, world =>
    (world.perform (.clearFailures counter pipeline messageId)).2
  | .cleared, world => world.modifySite (·.clearCounter counter)

/-- A new counter that goes through a history in its world is the one after the history. -/
theorem counter_worldAfter {counter : CounterId} {world : World}
    (hcounter : world.site.counters counter = {}) (history : List Deed) :
    (history.foldr (worldAfter counter) world).site.counters counter = ofDeeds history := by
  induction history with
  | nil => exact hcounter
  | cons deed earlier ih =>
    have happly (world : World) : (worldAfter counter deed world).site.counters counter
        = deed.apply (world.site.counters counter) := by
      cases deed <;> exact if_pos rfl
    rw [List.foldr_cons, happly, ih, ofDeeds_cons]

/-- A counter has gone through a history by the time that a world has come about. -/
inductive Underwent : CounterId → World → List Deed → Prop where
  /-- Any counter may be used in any way. -/
  | used {counter : CounterId} {world : World} (hcounter : world.site.counters counter = {})
      (history : List Deed) :
      Underwent counter (history.foldr (worldAfter counter) world) history
  /-- The first counter is used by immediate retries. -/
  | retries {policies : String → RetryPolicy} {machine : Machine}
      (hreach : Reachable policies machine) :
      Underwent .retries machine.world (retryHistory machine.history)
  /-- The second is used by the step that forwards failed messages. -/
  | forwards {machine : Forwarding.Machine} (hreach : Forwarding.Reachable machine) :
      Underwent .forwards machine.world (forwardHistory machine.history)
  /-- The third is used by the recovery of the side queues. -/
  | satellites {world : World} {history : List Timeouts.Returning.Milestone}
      (hreached : Timeouts.Returning.Reached world history) :
      Underwent .satellites world (satelliteHistory history)

/-- Whoever uses a counter, it is the one after the history. -/
theorem Underwent.counter_eq {counter : CounterId} {world : World} {history : List Deed}
    (hwent : Underwent counter world history) :
    world.site.counters counter = ofDeeds history := by
  cases hwent with
  | used hcounter => exact counter_worldAfter hcounter history
  | retries hreach => exact (tallied_of_reachable hreach).2.counter_eq
  | forwards hreach => exact forwards_of_reachable hreach
  | satellites hreached => exact satellites_of_reached hreached

/-- What immediate retries do with a message after a history of their counter: once the stages
behind have ended with a failure that could be read, one is taken from its count, and the count is
zero exactly when it has wrapped around. -/
def RetriesNumbered (world : World) (history : List Deed) (pipeline messageId : String) : Prop :=
  ∀ (policy : RetryPolicy) (rest : Act (StageResult × ReceiveContext)), rest.Every SparesRetries →
    ∀ failure context before, failure.isDeserialization = false →
      World.advance rest world = (.finished (.error failure, context), before) →
      ∃ count answer after,
        World.advance (rest.bind (settleRetries policy pipeline messageId)) world
            = (.finished answer, after) ∧
          Numbered policy pipeline messageId failure context count before after answer ∧
          (count = 0 ↔ UInt32.size ∣ streak history pipeline messageId + 1)

theorem retriesNumbered {world : World} {history : List Deed}
    (hcounter : world.site.counters .retries = ofDeeds history) (pipeline messageId : String) :
    RetriesNumbered world history pipeline messageId := by
  intro policy rest hrest failure context before hfailure hinner
  -- the stages behind leave the counter alone
  have hbefore := (retries_advance hrest world).1
  rw [hinner, hcounter] at hbefore
  obtain ⟨answer, after, hadvance, hnumbered⟩ :=
    advance_settleRetries_numbered policy before pipeline messageId context hfailure
  rw [hbefore] at hnumbered
  refine ⟨_, answer, after, ?_, hnumbered, increment_ofDeeds_eq_zero_iff _ _ _⟩
  rw [World.advance_bind, hinner]
  exact hadvance

/-! ### Long streaks -/

/-- What the message below fails with. -/
def boom : Failure := .handler "boom" []

/-- As many retries as a word can hold. -/
def tireless : RetryPolicy := ⟨4294967295⟩

/-- With as many retries as a word can hold a message may fail any number of times. -/
theorem exists_retried (n : Nat) :
    ∃ machine, Reachable (fun _ => tireless) machine ∧ machine.running = [failingReceive boom] ∧
      retryHistory machine.history = .replicate n (.counted "Main" "m-1") := by
  have hstart (machine : Machine) : Step (fun _ => tireless) machine
      { machine with running := failingReceive boom :: machine.running } :=
    .start (.done _)
  -- by induction on the number of failures; each receive begins as the last one has ended
  induction n with
  | zero =>
    have hinitial : Reachable (fun _ => tireless) { world := { clock := ⟨0, 0⟩ } } := .initial rfl
    exact ⟨_, hinitial.step (hstart _), rfl, rfl⟩
  | succ n ih =>
    obtain ⟨machine, hreach, hrunning, hhistory⟩ := ih
    obtain ⟨count, answer, after, hadvance, hnumbered, -⟩ :=
      retriesNumbered (tallied_of_reachable hreach).2.counter_eq "Main" "m-1" tireless
        (failingReceive boom).rest (.done _) _ _ _ rfl rfl
    have hfinish := @Step.finish (fun _ => tireless) machine [] [] _ _ _ _ _ hrunning rfl hadvance
    refine ⟨_, (hreach.step hfinish).step (hstart _), rfl, ?_⟩
    cases hnumbered with
    | retried => exact congrArg (List.cons _) hhistory
    | surrendered hcount => exact absurd (UInt32.toNat_lt count) (Nat.not_lt.2 hcount)

section SideQueues

open Timeouts.Returning (Reached advance_settle counts_of_reached request requests settle sending
  unavailable)

/-- A way out that refuses everything. -/
def refusing (calls : Nat) : Recorder := { refuse := fun _ _ => some .notInitialized, calls }

/-- While nothing can be sent a request may fail any number of times. -/
theorem exists_stood (n : Nat) :
    ∃ world history, Reached world history ∧
      (∃ calls, world.site.outlet = .recorder (refusing calls)) ∧
      satelliteHistory history
        = .replicate n (.counted requests.pipeline request.message.id) := by
  -- by induction on the number of failures; the request is handed back or cannot be moved
  induction n with
  | zero =>
    exact ⟨{ clock := ⟨0, 0⟩, site := { outlet := .recorder (refusing 0) } }, [], .initial rfl,
      ⟨0, rfl⟩, rfl⟩
  | succ n ih =>
    obtain ⟨world, history, hreached, ⟨calls, houtlet⟩, hhistory⟩ := ih
    obtain ⟨answer, after, hadvance, hrecovered⟩ :=
      @advance_settle requests world (.error unavailable, request) _
        (counts_of_reached hreached requests.pipeline request.message.id)
    refine ⟨after, _, hreached.settled hadvance, ?_⟩
    have hrecorder : (Timeouts.Returning.counted world requests
        request.message.id).readClock.2.site.outlet = .recorder (refusing calls) := houtlet
    cases hrecovered with
    | handedBack => exact ⟨⟨calls, houtlet⟩, congrArg (List.cons _) hhistory⟩
    | moved hk hmessage hsent =>
      rw [sending, World.dispatch, hrecorder] at hsent
      cases hsent
    | stood hk hmessage hsent =>
      rw [sending, World.dispatch, hrecorder] at hsent
      cases hsent
      exact ⟨⟨calls + 1, rfl⟩, congrArg (List.cons _) hhistory⟩

end SideQueues

/-! ### The result -/

/-- Whatever a counter has gone through, by any use or in one of the three steps that count
failures: the answers to the failures of a message were exact if none of its streaks has reached the
number of words, and only then, and the next answer is its streak with one more, cut to a word.
Immediate retries take one from a count of zero only where a streak reaches a multiple of that
number, and none does in a pipeline that is told to retry less often than the largest word. -/
theorem counts_exact_iff {counter : CounterId} {world : World} {history : List Deed}
    (hwent : Underwent counter world history) (pipeline messageId : String) :
    (Exact history pipeline messageId ↔
      Within (UInt32.size - 1) history pipeline messageId) ∧
    (world.perform (.countFailure counter pipeline messageId)).1.toNat
      = (streak history pipeline messageId + 1) % UInt32.size ∧
    (counter = .retries → RetriesNumbered world history pipeline messageId) ∧
    ∀ policies machine, Reachable policies machine →
      (policies pipeline).maxRetries.toNat + 1 < UInt32.size →
      Exact (retryHistory machine.history) pipeline messageId ∧
        ¬ UInt32.size ∣ streak (retryHistory machine.history) pipeline messageId + 1 := by
  have hcounter := hwent.counter_eq
  refine ⟨exact_iff_within, ?_, ?_, fun policies machine hreach hpolicy => ?_⟩
  · have hanswer : (world.perform (.countFailure counter pipeline messageId)).1
        = ((world.site.counters counter).increment pipeline messageId).1 := rfl
    rw [hanswer, hcounter, increment_ofDeeds]
    exact UInt32.toNat_ofNat'
  · rintro rfl
    exact retriesNumbered hcounter pipeline messageId
  · -- with a policy below the limit a series ends before it gets that long
    have hbounded := (tallied_of_reachable hreach).2.bounded pipeline hpolicy messageId
    exact ⟨hbounded.exact hpolicy, hbounded.not_dvd hpolicy⟩

/-- A message that has failed twice, with as many retries as a word can hold. -/
theorem counts_exact_iff_twice :
    ∃ machine, Reachable (fun _ => tireless) machine ∧
      Underwent .retries machine.world (retryHistory machine.history) ∧
      (machine.world.perform (.countFailure .retries "Main" "m-1")).1.toNat = 3 ∧
      Exact (retryHistory machine.history) "Main" "m-1" := by
  obtain ⟨machine, hreach, -, hhistory⟩ := exists_retried 2
  obtain ⟨hexact, hanswer, -⟩ := counts_exact_iff (.retries hreach) "Main" "m-1"
  refine ⟨machine, hreach, .retries hreach, ?_, hexact.2 ?_⟩
  · rw [hanswer, hhistory, streak_replicate]
    rfl
  · rw [hhistory]
    exact within_cons.2 ⟨by decide, within_cons.2 ⟨by decide, within_nil⟩⟩

/-- A message has failed as often as the largest word says, and when it fails once more the answer
is zero. Immediate retries take one from that and go on, and the counts of the other two steps come
round to zero as well. -/
theorem counts_wrap :
    let series (pipeline messageId : String) : List Deed :=
      .replicate 4294967295 (.counted pipeline messageId)
    ((ofDeeds (series "Main" "m-1")).get "Main" "m-1").toNat = 4294967295 ∧
    ((ofDeeds (series "Main" "m-1")).increment "Main" "m-1").1.toNat = 0 ∧
    (∃ machine, Reachable (fun _ => tireless) machine ∧
      retryHistory machine.history = series "Main" "m-1" ∧
      ∃ receive ∈ machine.running, ∃ context after,
        World.advance (receive.program fun _ => tireless) machine.world
          = (.finished (.ok .retryRequested, context), after) ∧
        after.site.events
          = machine.world.site.events.publish (.retried "m-1" (0 - 1) boom.info)) ∧
    (∃ machine, Forwarding.Reachable machine ∧
      Forwarding.failures machine.history "Main" "m-1" = 4294967295 ∧
      (machine.world.perform (.countFailure .forwards "Main" "m-1")).1 = 0) ∧
    ∃ world history, Timeouts.Returning.Reached world history ∧
      satelliteHistory history = series "TimeoutsDispatcher" "r-1" ∧
      (world.perform (.countFailure .satellites "TimeoutsDispatcher" "r-1")).1 = 0 := by
  intro series
  -- the number after the largest one is zero, whatever is counted
  have hzero (pipeline messageId : String) :
      ((ofDeeds (series pipeline messageId)).increment pipeline messageId).1 = 0 := by
    rw [increment_ofDeeds, streak_replicate]
    rfl
  refine ⟨?_, congrArg UInt32.toNat (hzero _ _), ?_, ?_, ?_⟩
  · rw [get_ofDeeds, streak_replicate]
    rfl
  · obtain ⟨machine, hreach, hrunning, hhistory⟩ := exists_retried 4294967295
    have hmem : failingReceive boom ∈ machine.running := hrunning ▸ List.mem_singleton_self _
    obtain ⟨count, answer, after, hadvance, hnumbered, hcount⟩ :=
      retriesNumbered (tallied_of_reachable hreach).2.counter_eq "Main" "m-1" tireless
        (failingReceive boom).rest (.done _) _ _ _ rfl rfl
    rw [hhistory, streak_replicate] at hcount
    rw [hcount.2 (Nat.dvd_refl _)] at hnumbered
    refine ⟨machine, hreach, hhistory, _, hmem, ?_⟩
    cases hnumbered with
    | retried _ hevents => exact ⟨_, after, hadvance, hevents⟩
    | surrendered hover => cases hover
  · -- the counter of forwards is reached by so many copies that were refused
    obtain ⟨machine, hreach, -, hfailures, -⟩ := Forwarding.exists_refused 4294967295
    have hcount := (Forwarding.consistent_of_reachable hreach).counts "Main" "m-1"
    rw [hfailures] at hcount
    exact ⟨machine, hreach, hfailures, get_add_one hcount⟩
  · -- and that of the satellites by so many requests that were not sent on
    obtain ⟨world, history, hreached, -, hhistory⟩ := exists_stood 4294967295
    refine ⟨world, history, hreached, hhistory, ?_⟩
    have hcounter := satellites_of_reached hreached
    rw [hhistory] at hcounter
    exact (congrArg (fun counter => (counter.increment "TimeoutsDispatcher" "r-1").1)
      hcounter).trans (hzero _ _)

end Messaging.Recovery.Wrapping
