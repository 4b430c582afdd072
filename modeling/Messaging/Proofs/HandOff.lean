import Messaging.Proofs.Retries

/-!
# Counts that outlive a hand-off

A failure that immediate retries let through goes to the error queue. A message that comes back from
there has all its retries if the counter has forgotten it by then.

- `Entered` says that the counter has an entry for exactly the messages that have failed since their
  last success or surrender.
- `forgotten_iff` is the result: a failure that is let through leaves no entry behind, unless it is
  a body that cannot be read and the message has failed otherwise before. `unreadable_remembered` is
  such a message, and it is not retried when it comes back.

Nothing is assumed about the number of retries: a count that wraps around is still an entry.
-/

namespace Messaging.Recovery

variable {policies : String → RetryPolicy}

/-- A counter has an entry for exactly the messages that have failed. -/
def Entered (counter : FailureCounter) (history : List Milestone) : Prop :=
  ∀ pipeline messageId,
    counter.find? pipeline messageId = none ↔ failures history pipeline messageId = 0

/-- The accounting of a receive leaves no entry behind exactly if no failure is counted any more,
and passes on no failure but that of the stages behind. -/
theorem settleRetries_entry (policy : RetryPolicy) (world : World) (pipeline messageId : String)
    {n : Nat} (hentry : count? world pipeline messageId = none ↔ n = 0)
    (ended : StageResult × ReceiveContext) :
    ∃ answer after,
      World.advance (settleRetries policy pipeline messageId ended) world
          = (.finished answer, after) ∧
        (∀ failure, answer.1 = .error failure → ended.1 = .error failure) ∧
        (count? after pipeline messageId = none ↔
          Milestone.failuresAfter n (.received pipeline messageId ended.1 answer.1) = 0) ∧
        ∀ other id, ¬ (other = pipeline ∧ id = messageId) →
          count? after other id = count? world other id := by
  obtain ⟨result, context⟩ := ended
  -- a success forgets the message
  cases result with
  | ok outcome =>
    refine ⟨_, (world.perform (.clearFailures .retries pipeline messageId)).2, rfl,
      fun _ => id, ?_, fun other id hother => ?_⟩
    · rw [count?_clearFailures, if_pos ⟨rfl, rfl⟩]
      exact iff_of_true rfl rfl
    · rw [count?_clearFailures, if_neg hother]
  | error failure =>
    -- a message that cannot be read leaves the count as it is
    by_cases hfailure : failure.isDeserialization
    · refine ⟨(.error failure, context), world, ?_, fun _ => id, ?_, fun _ _ _ => rfl⟩
      · rw [settleRetries, if_pos hfailure]
        rfl
      · rw [Milestone.failuresAfter, if_pos hfailure]
        exact hentry
    · -- any other failure counts, and is forgotten if it was one too many
      have hreadable : failure.isDeserialization = false := by rwa [Bool.not_eq_true] at hfailure
      rw [advance_settleRetries_error world pipeline messageId context hreadable rfl]
      split
      · refine ⟨_, _, rfl, (fun _ h => by cases h), ?_, fun other id hother => ?_⟩
        · rw [count?_publish, counted, count?_countFailure, if_pos ⟨rfl, rfl⟩,
            Milestone.failuresAfter, if_neg hfailure]
          exact iff_of_false (Option.some_ne_none _) (Nat.succ_ne_zero n)
        · rw [count?_publish, counted, count?_countFailure, if_neg hother]
      · refine ⟨_, _, rfl, fun _ => id, ?_, fun other id hother => ?_⟩
        · rw [count?_clearFailures, if_pos ⟨rfl, rfl⟩, Milestone.failuresAfter, if_neg hfailure]
          exact iff_of_true rfl rfl
        · rw [count?_clearFailures, if_neg hother, counted, count?_countFailure, if_neg hother]

/-- The end of a receive keeps the entries right. -/
theorem entered_received {world : World} {history : List Milestone}
    (hentered : Entered (world.site.counters .retries) history) (policy : RetryPolicy)
    (pipeline messageId : String) {inner answer : StageResult × ReceiveContext} {after : World}
    (hadvance : World.advance (settleRetries policy pipeline messageId inner) world
      = (.finished answer, after)) :
    Entered (after.site.counters .retries)
      (.received pipeline messageId inner.1 answer.1 :: history) := by
  obtain ⟨answer', after', hadvance', -, hown, hothers⟩ :=
    settleRetries_entry policy world pipeline messageId (hentered pipeline messageId) inner
  rw [hadvance] at hadvance'
  cases hadvance'
  intro other id
  rw [failures_cons]
  -- the message of the receive, or another one
  by_cases hsame : other = pipeline ∧ id = messageId
  · obtain ⟨rfl, rfl⟩ := hsame
    rw [if_pos (Milestone.concerns_received.2 ⟨rfl, rfl⟩)]
    exact hown
  · rw [if_neg (mt Milestone.concerns_received.1 hsame), ← hentered other id]
    exact iff_of_eq (congrArg (· = none) (hothers other id hsame))

/-- In a reachable machine the counter has an entry for exactly the messages that have failed. -/
theorem entered_of_reachable {machine : Machine} (hreach : Reachable policies machine) :
    Spares machine ∧ Entered (machine.world.site.counters .retries) machine.history :=
  holds_of_reachable (fun _ _ => iff_of_true rfl rfl) (fun _ _ _ _ _ => iff_of_true rfl rfl)
    (fun _ _ pipeline messageId _ _ _ hentered hadvance =>
      entered_received hentered (policies pipeline) pipeline messageId hadvance) hreach

/-- However receives interleave and whatever they end with: a failure that immediate retries let
through leaves no entry behind, unless it is a body that cannot be read and the message has failed
otherwise since its last success or surrender or the last clearing. -/
theorem forgotten_iff {machine : Machine} (hreach : Reachable policies machine)
    {receive : Receive} (hreceive : receive ∈ machine.running)
    {answer : StageResult × ReceiveContext} {after : World} {failure : Failure}
    (hadvance : World.advance (receive.program policies) machine.world
      = (.finished answer, after))
    (hanswer : answer.1 = .error failure) :
    count? after receive.pipeline receive.messageId = none ↔
      failure.isDeserialization = false ∨
        failures machine.history receive.pipeline receive.messageId = 0 := by
  obtain ⟨hspares, hentered⟩ := entered_of_reachable hreach
  have hspared := (retries_advance (hspares receive hreceive) machine.world).1
  rw [Receive.advance_program] at hadvance
  -- only a receive whose stages behind have ended has an answer
  cases hinner : World.advance receive.rest machine.world with
  | mk progress before =>
    rw [hinner] at hadvance hspared
    cases progress with
    | panicked payload => cases hadvance
    | asleep millis rest => cases hadvance
    | finished inner =>
      have hentry : count? before receive.pipeline receive.messageId = none ↔
          failures machine.history receive.pipeline receive.messageId = 0 := by
        rw [count?, hspared]
        exact hentered _ _
      obtain ⟨answer', after', hadvance', herror, hown, -⟩ :=
        settleRetries_entry (policies receive.pipeline) before receive.pipeline receive.messageId
          hentry inner
      have hended := hadvance'.symm.trans hadvance
      cases hended
      rw [hown, hanswer, herror failure hanswer, Milestone.failuresAfter]
      cases failure.isDeserialization
      · exact iff_of_true rfl (.inl rfl)
      · simp

/-- A receive of one message, with stages behind that end with a failure. -/
def failingReceive (failure : Failure) : Receive :=
  .start "Main" ⟨1, fun context => .done (.error failure, context)⟩ ⟨⟨"m-1", ∅, []⟩, 0⟩

/-- In a pipeline with one retry a message fails, is handed back, and then its body cannot be
read. -/
theorem exists_unreadable_after_failure :
    ∃ machine, Reachable (fun _ => ⟨1⟩) machine ∧
      machine.running = [failingReceive (.deserialization "m-1" "bad")] ∧
      failures machine.history "Main" "m-1" = 1 ∧
      (machine.world.site.counters .retries).get "Main" "m-1" = 1 := by
  have hstart (machine : Machine) (failure : Failure) : Step (fun _ => ⟨1⟩) machine
      { machine with running := failingReceive failure :: machine.running } :=
    .start (.done _)
  let first : Machine :=
    { world := { clock := ⟨0, 0⟩ }, running := [failingReceive (.handler "boom" [])] }
  -- a failure that is retried, and then a body that cannot be read
  have hfirst : Reachable (fun _ => ⟨1⟩) first :=
    (Reachable.initial rfl).step (hstart _ (.handler "boom" []))
  have hfailed := @Step.finish (fun _ => ⟨1⟩) first [] [] (failingReceive (.handler "boom" []))
    _ _ _ _ rfl rfl rfl
  have hsecond := (hfirst.step hfailed).step (hstart _ (.deserialization "m-1" "bad"))
  exact ⟨_, hsecond, rfl, rfl, by decide⟩

theorem forgotten_iff_unreadable :
    ∃ machine, Reachable (fun _ => ⟨1⟩) machine ∧ ∃ receive ∈ machine.running, ∃ answer after,
      World.advance (receive.program fun _ => ⟨1⟩) machine.world = (.finished answer, after) ∧
        answer.1 = .error (.deserialization "m-1" "bad") ∧
        (count? after receive.pipeline receive.messageId = none ↔
          (Failure.deserialization "m-1" "bad").isDeserialization = false ∨
            failures machine.history receive.pipeline receive.messageId = 0) := by
  obtain ⟨machine, hreach, hrunning, -, -⟩ := exists_unreadable_after_failure
  have hmem : failingReceive (.deserialization "m-1" "bad") ∈ machine.running := by
    rw [hrunning]
    exact List.mem_cons_self
  exact ⟨machine, hreach, _, hmem, _, _, rfl, rfl, forgotten_iff hreach hmem rfl rfl⟩

/-- A message that has failed once is let through when its body cannot be read, and its failure is
still counted: when it comes back and fails again, it is not retried. -/
theorem unreadable_remembered :
    ∃ machine, Reachable (fun _ => ⟨1⟩) machine ∧
      machine.running = [failingReceive (.deserialization "m-1" "bad")] ∧
      ∃ context after,
        World.advance ((failingReceive (.deserialization "m-1" "bad")).program fun _ => ⟨1⟩)
            machine.world
          = (.finished (.error (.deserialization "m-1" "bad"), context), after) ∧
        (after.site.counters .retries).get "Main" "m-1" = 1 ∧
        ∃ context' after',
          World.advance ((failingReceive (.handler "boom" [])).program fun _ => ⟨1⟩) after
            = (.finished (.error (.handler "boom" []), context'), after') := by
  obtain ⟨machine, hreach, hrunning, -, hcount⟩ := exists_unreadable_after_failure
  have hagain : World.advance (settleRetries ⟨1⟩ "Main" "m-1"
      (.error (.handler "boom" []), ⟨⟨"m-1", ∅, []⟩, 0⟩)) machine.world = _ :=
    advance_settleRetries_error machine.world "Main" "m-1" _ rfl (congrArg (· + 1) hcount)
  exact ⟨machine, hreach, hrunning, ⟨⟨"m-1", ∅, []⟩, 0⟩, machine.world, rfl, hcount, _, _, hagain⟩

end Messaging.Recovery
