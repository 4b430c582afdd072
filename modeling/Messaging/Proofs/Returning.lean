import Messaging.Proofs.Counting
import Messaging.Timeout.Satellites

/-!
# The retries of the side queues

The side queues of a timeout manager share one failure counter. Their receives interleave with each
other, with clearings of the whole counter and with anything that leaves the counter alone.

- `settle` is what a receive does once the stages behind the recovery have ended; `recover_eq` says
  that the recovery is those stages and then `settle`.
- `Reached` are the worlds that come about, with the `Milestone`s on the way.
- `tally` counts the failures of a message by the milestones alone. `failures` are those that the
  counter holds (`counts_of_reached`): a receive that succeeds does not take them back. `recent` are
  those since the last success.
- `Recovered` is what a receive ends with, given the failures.
- `promised_iff` is the result. A receive keeps what is promised of it, retries since the last
  success and no entry after one, exactly if the failures before that success do not matter any
  more. `success_remembered` is a message for which they do.
-/

namespace Messaging.Timeouts.Returning

open Recovery (SparesCounter kept)

/-! ### Receives -/

/-- What the recovery of a side queue is told. -/
structure Queue where
  /-- The name of the pipeline. -/
  pipeline : String
  /-- Where a message goes that has failed too often. -/
  errorQueue : String
  /-- The address of the queue. -/
  localAddress : String

/-- What a receive does once a failed message has been sent to the error queue, or not. -/
def conclude (queue : Queue) (failure : Failure) (context : ReceiveContext) :
    Except TransportError Unit → Act (StageResult × ReceiveContext)
  | .ok () => do
    Act.ask (.clearFailures .satellites queue.pipeline context.message.id)
    pure (.ok (.movedToErrorQueue failure), context)
  | .error error => do
    Act.raiseCritical forwardingFailed error.message
    pure (.error (.transport error), context)

/-- Moves a message that has failed too often to the error queue. -/
def giveUp (queue : Queue) (failure : Failure) (context : ReceiveContext) :
    Act (StageResult × ReceiveContext) := do
  let message ← Recovery.describeFailure failure queue.localAddress context.message
  let sent ← sendTo queue.errorQueue message false
  conclude queue failure { context with message } sent

/-- What a receive does once the stages behind the recovery have ended. -/
def settle (queue : Queue) : StageResult × ReceiveContext → Act (StageResult × ReceiveContext)
  | (.ok outcome, context) => pure (.ok outcome, context)
  | (.error failure, context) => do
    let failures ← Act.ask (.countFailure .satellites queue.pipeline context.message.id)
    if failures ≤ maxRetries then pure (.ok .retryRequested, context)
    else giveUp queue failure context

/-- The recovery goes on after the stages behind. -/
theorem recover_eq (queue : Queue) (next : Next Effect.signature ReceiveContext)
    (context : ReceiveContext) :
    recover queue.pipeline queue.errorQueue queue.localAddress next context
      = (next.run context).bind (settle queue) := by
  refine congrArg (Program.bind (next.run context)) (funext fun ended => ?_)
  obtain ⟨result, context⟩ := ended
  cases result <;> rfl

/-! ### Milestones -/

/-- What matters for the counts of failures. -/
inductive Milestone where
  /-- A receive ended: what the stages behind it ended with, and what it answered. -/
  | received (pipeline messageId : String) (inner answer : StageResult)
  /-- The whole counter was cleared. -/
  | cleared

/-- Whether a milestone matters for the failures of a message in a pipeline. -/
def Milestone.concerns (pipeline messageId : String) : Milestone → Bool
  | received name id _ _ => pipeline = name && messageId = id
  | cleared => true

/-- The end of a receive matters for its own message. -/
theorem Milestone.concerns_received {pipeline messageId name id : String}
    {inner answer : StageResult} :
    (received name id inner answer).concerns pipeline messageId = true ↔
      pipeline = name ∧ messageId = id := by
  rw [concerns, Bool.and_eq_true, decide_eq_true_eq, decide_eq_true_eq]

/-- The failures once a milestone is reached, given those before it. A message that was moved has
none, nor has one after a clearing; `absolves` says whether a success takes the failures back. -/
def Milestone.tallyAfter (absolves : Bool) (n : Nat) : Milestone → Nat
  | cleared => 0
  | received _ _ (.ok _) _ => if absolves then 0 else n
  | received _ _ (.error _) (.ok (.movedToErrorQueue _)) => 0
  | received _ _ (.error _) _ => n + 1

/-- The failures of a message in a pipeline after some milestones. The newest milestone comes first,
and those of other messages do not matter. -/
def tally (absolves : Bool) (history : List Milestone) (pipeline messageId : String) : Nat :=
  (history.filter (Milestone.concerns pipeline messageId)).foldr
    (fun milestone n => milestone.tallyAfter absolves n) 0

/-- The failures of a message since it was last moved or the counter was last cleared. -/
def failures : List Milestone → String → String → Nat := tally false

/-- The failures of a message since it last succeeded, was last moved or the counter was last
cleared. -/
def recent : List Milestone → String → String → Nat := tally true

/-- A milestone changes the failures of the messages that it concerns. -/
theorem tally_cons (absolves : Bool) (milestone : Milestone) (history : List Milestone)
    (pipeline messageId : String) :
    tally absolves (milestone :: history) pipeline messageId
      = if milestone.concerns pipeline messageId
        then milestone.tallyAfter absolves (tally absolves history pipeline messageId)
        else tally absolves history pipeline messageId := by
  by_cases hconcerns : milestone.concerns pipeline messageId
  · simp [tally, hconcerns]
  · simp [tally, hconcerns]

/-! ### Worlds and milestones -/

/-- The worlds that come about from one without counts, each with the milestones on the way. The
stages behind a receive may run between any two of them, and what follows a failure never sleeps. -/
inductive Reached : World → List Milestone → Prop where
  /-- Nothing has been counted. -/
  | initial {world : World} (hcounter : world.site.counters .satellites = {}) : Reached world []
  /-- A receive goes on after the stages behind it and ends. -/
  | settled {world after : World} {history : List Milestone} {queue : Queue}
      {inner answer : StageResult × ReceiveContext} (hreached : Reached world history)
      (hadvance : World.advance (settle queue inner) world = (.finished answer, after)) :
      Reached after (.received queue.pipeline inner.2.message.id inner.1 answer.1 :: history)
  /-- The whole counter is cleared. -/
  | cleared {world : World} {history : List Milestone} (hreached : Reached world history) :
      Reached (world.modifySite (·.clearCounter .satellites)) (.cleared :: history)
  /-- Something happens that leaves the counter alone. -/
  | elsewhere {world after : World} {history : List Milestone} (hreached : Reached world history)
      (hcounter : after.site.counters .satellites = world.site.counters .satellites) :
      Reached after history

/-- The count that a world keeps for a message. -/
def count? (world : World) (pipeline messageId : String) : Option UInt32 :=
  (world.site.counters .satellites).find? pipeline messageId

/-! ### One receive -/

variable {queue : Queue}

/-- The world after one failure more of a message was counted. -/
def counted (world : World) (queue : Queue) (messageId : String) : World :=
  (world.perform (.countFailure .satellites queue.pipeline messageId)).2

/-- A message with its failure in its headers, as it goes to the error queue. -/
def described (queue : Queue) (failure : Failure) (now : Time.Instant) (message : Message) :
    Message :=
  { message with
    headers := failure.describeOn queue.localAddress (Time.Wire.write now) message.headers }

/-- What is handed over to move a message to the error queue. -/
def forward (queue : Queue) (message : Message) : Batch :=
  .ofList [{ message, route := .unicast queue.errorQueue, isolated := false }]

/-- The answer to a message for the error queue after its failure was counted, and the world after
it. -/
def sending (before : World) (queue : Queue) (messageId : String) (message : Message) :
    Except TransportError Unit × World :=
  (counted before queue messageId).readClock.2.dispatch (forward queue message)

/-- How a receive ends in a world after the stages behind it have ended in another, given the number
of its failures with this one: what those stages ended with comes before what the receive
answers. -/
inductive Recovered (queue : Queue) (k : Nat) (before : World) :
    World → StageResult × ReceiveContext → StageResult × ReceiveContext → Prop where
  /-- An outcome is passed on, and nothing happens. -/
  | passed {outcome : Outcome} {context : ReceiveContext} :
      Recovered queue k before before (.ok outcome, context) (.ok outcome, context)
  /-- With retries left a failure becomes a retry. -/
  | handedBack {failure : Failure} {context : ReceiveContext} (hk : .ofNat k ≤ maxRetries) :
      Recovered queue k before (counted before queue context.message.id)
        (.error failure, context) (.ok .retryRequested, context)
  /-- After the last retry the message is moved, and the count is forgotten. -/
  | moved {failure : Failure} {context : ReceiveContext} {message : Message} {sent : World}
      (hk : maxRetries < .ofNat k)
      (hmessage : message = described queue failure before.clock context.message)
      (hsent : sending before queue context.message.id message = (.ok (), sent)) :
      Recovered queue k before
        (sent.perform (.clearFailures .satellites queue.pipeline context.message.id)).2
        (.error failure, context) (.ok (.movedToErrorQueue failure), { context with message })
  /-- A message that cannot be moved is a critical error, and the count stands. -/
  | stood {failure : Failure} {context : ReceiveContext} {message : Message}
      {error : TransportError} {sent : World} (hk : maxRetries < .ofNat k)
      (hmessage : message = described queue failure before.clock context.message)
      (hsent : sending before queue context.message.id message = (.error error, sent)) :
      Recovered queue k before (sent.perform (.raiseCritical forwardingFailed error.message)).2
        (.error failure, context) (.error (.transport error), { context with message })

/-- A message that has failed too often is moved, or there is a critical error. -/
theorem advance_giveUp (queue : Queue) (failure : Failure) (context : ReceiveContext) {k : Nat}
    (hk : maxRetries < .ofNat k) (before : World) :
    ∃ answer after,
      World.advance (giveUp queue failure context) (counted before queue context.message.id)
          = (.finished answer, after) ∧
        Recovered queue k before after (.error failure, context) answer := by
  let message := described queue failure before.clock context.message
  -- the program is followed up to the answer of the dispatcher
  have hadvance : World.advance (giveUp queue failure context)
        (counted before queue context.message.id)
      = World.advance
          (conclude queue failure { context with message }
            (sending before queue context.message.id message).1)
          (sending before queue context.message.id message).2 := rfl
  rw [hadvance]
  cases hsent : sending before queue context.message.id message with
  | mk answer sent =>
    cases answer with
    | ok => exact ⟨_, _, rfl, .moved hk rfl hsent⟩
    | error error => exact ⟨_, _, rfl, .stood hk rfl hsent⟩

/-- A receive ends as it should once the stages behind it have ended. -/
theorem advance_settle {world : World} {inner : StageResult × ReceiveContext} {n : Nat}
    (hcount : count? world queue.pipeline inner.2.message.id = kept n) :
    ∃ answer after, World.advance (settle queue inner) world = (.finished answer, after) ∧
      Recovered queue (n + 1) world after inner answer := by
  obtain ⟨result, context⟩ := inner
  cases result with
  | ok outcome => exact ⟨_, _, rfl, .passed⟩
  | error failure =>
    have hnext := Recovery.get_add_one hcount
    -- the failure is counted before it is decided whether the message is handed back
    have hadvance : World.advance (settle queue (.error failure, context)) world
        = World.advance
            (if UInt32.ofNat (n + 1) ≤ maxRetries then pure (.ok .retryRequested, context)
              else giveUp queue failure context)
            (counted world queue context.message.id) := by
      rw [← hnext]
      rfl
    rw [hadvance]
    by_cases hretry : UInt32.ofNat (n + 1) ≤ maxRetries
    · rw [if_pos hretry]
      exact ⟨_, _, rfl, .handedBack hretry⟩
    · rw [if_neg hretry]
      exact advance_giveUp queue failure context (UInt32.not_le.1 hretry) world

/-! ### The counter -/

/-- Sending a message to the error queue leaves the counter as it is. -/
theorem count?_sending (before : World) (queue : Queue) (messageId : String) (message : Message)
    (pipeline other : String) :
    count? (sending before queue messageId message).2 pipeline other
      = count? (counted before queue messageId) pipeline other := by
  have hcounter := @Recovery.counter_perform .satellites
    (.dispatch (forward queue message)) (counted before queue messageId).readClock.2 trivial
  exact congrArg (FailureCounter.find? · pipeline other) hcounter

/-- Counting a failure of a message that has failed a number of times. -/
theorem count?_counted {world : World} {messageId : String} {n : Nat}
    (hcount : count? world queue.pipeline messageId = kept n) (other id : String) :
    count? (counted world queue messageId) other id
      = if other = queue.pipeline ∧ id = messageId then kept (n + 1)
        else count? world other id := by
  have hcounted := @Recovery.find?_countFailure .satellites world queue.pipeline messageId
    other id
  rw [Recovery.get_add_one hcount] at hcounted
  exact hcounted

/-- A receive moves the count of its own message on, and leaves those of others alone. -/
theorem Recovered.count? {before after : World} {inner answer : StageResult × ReceiveContext}
    {n : Nat} (hrecovered : Recovered queue (n + 1) before after inner answer)
    (hcount : count? before queue.pipeline inner.2.message.id = kept n) (other id : String) :
    Returning.count? after other id
      = if other = queue.pipeline ∧ id = inner.2.message.id then
          kept (Milestone.tallyAfter false n
            (.received queue.pipeline inner.2.message.id inner.1 answer.1))
        else Returning.count? before other id := by
  cases hrecovered with
  | passed =>
    split
    · next hsame => rw [hsame.1, hsame.2]; exact hcount
    · rfl
  -- a failure that is handed back counts, and one that is moved is forgotten
  | handedBack => exact count?_counted hcount other id
  | @moved _ context message _ hk hmessage hsent =>
    refine (@Recovery.find?_clearFailures .satellites _ _ _ other id).trans ?_
    split
    · rfl
    · next hother =>
      have hsending := count?_sending before queue context.message.id message other id
      rw [hsent] at hsending
      exact hsending.trans ((count?_counted hcount other id).trans (if_neg hother))
  | @stood _ context message _ _ hk hmessage hsent =>
    have hsending := count?_sending before queue context.message.id message other id
    rw [hsent] at hsending
    exact hsending.trans (count?_counted hcount other id)

/-- The counter holds the failures of every message. -/
theorem counts_of_reached {world : World} {history : List Milestone}
    (hreached : Reached world history) (pipeline messageId : String) :
    count? world pipeline messageId = kept (failures history pipeline messageId) := by
  induction hreached generalizing pipeline messageId with
  | initial hcounter => rw [count?, hcounter]; rfl
  | @settled world after history queue inner answer _ hadvance ih =>
    obtain ⟨answer', after', hadvance', hrecovered⟩ := advance_settle (ih queue.pipeline _)
    rw [hadvance] at hadvance'
    cases hadvance'
    rw [hrecovered.count? (ih _ _), failures, tally_cons]
    by_cases hsame : pipeline = queue.pipeline ∧ messageId = inner.2.message.id
    · rw [if_pos hsame, if_pos (Milestone.concerns_received.2 hsame), hsame.1, hsame.2]
    · rw [if_neg hsame, if_neg (mt Milestone.concerns_received.1 hsame), ih, failures]
  | cleared _ => rfl
  | elsewhere _ hcounter ih => rw [count?, hcounter]; exact ih pipeline messageId

/-! ### The result -/

/-- What is promised of a receive, given the failures of its message since its last success: a
failure within the retries is handed back, only one beyond them is moved to the error queue, and a
success leaves no entry behind. -/
def Promised (recent : Nat) (entry : Option UInt32) : StageResult → StageResult → Prop
  | .ok _, _ => entry = none
  | .error failure, answer =>
    (recent + 1 ≤ maxRetries.toNat → answer = .ok .retryRequested) ∧
      (answer = .ok (.movedToErrorQueue failure) → maxRetries.toNat < recent + 1)

/-- When the failures before the last success of a message do not matter any more: none stands when
it succeeds again, and with them a failure within the retries is still within them. -/
def Absolved (recent failures : Nat) : StageResult → Prop
  | .ok _ => failures = 0
  | .error _ => recent + 1 ≤ maxRetries.toNat → .ofNat (failures + 1) ≤ maxRetries

/-- A number of failures is kept as no entry only if there are none. -/
theorem kept_eq_none {n : Nat} : kept n = none ↔ n = 0 := by
  rw [kept]
  split
  · next hn => exact iff_of_true rfl hn
  · next hn => exact iff_of_false (Option.some_ne_none _) hn

/-- A receive that ended as it should keeps its promise exactly if the failures before the last
success do not matter. -/
theorem Recovered.keeps_promise_iff {before after : World}
    {inner answer : StageResult × ReceiveContext} {n k : Nat}
    (hrecovered : Recovered queue (n + 1) before after inner answer)
    (hcount : Returning.count? before queue.pipeline inner.2.message.id = kept n) :
    Promised k (Returning.count? after queue.pipeline inner.2.message.id) inner.1 answer.1 ↔
      Absolved k n inner.1 := by
  cases hrecovered with
  | passed => rw [Promised, Absolved, hcount, kept_eq_none]
  | handedBack hretry => exact iff_of_true ⟨fun _ => rfl, nofun⟩ fun _ => hretry
  | moved hlast =>
    -- it may be moved exactly if it has failed too often since its last success as well
    have hgone : ¬ UInt32.ofNat (n + 1) ≤ maxRetries := UInt32.not_le.2 hlast
    constructor
    · intro hpromised hk
      cases hpromised.1 hk
    · intro habsolved
      exact ⟨fun hk => absurd (habsolved hk) hgone,
        fun _ => Nat.lt_of_not_le fun hk => hgone (habsolved hk)⟩
  | stood hlast =>
    have hgone : ¬ UInt32.ofNat (n + 1) ≤ maxRetries := UInt32.not_le.2 hlast
    constructor
    · intro hpromised hk
      cases hpromised.1 hk
    · intro habsolved
      exact ⟨fun hk => absurd (habsolved hk) hgone, nofun⟩

/-- Whatever the stages behind a receive do, and however receives, clearings and anything else
interleave: once the stages behind have ended, the receive ends as the failures say that the counter
holds, and it keeps what is promised of it exactly if those before the last success of the message
do not matter any more. -/
theorem promised_iff {world : World} {history : List Milestone} (hreached : Reached world history)
    (queue : Queue) {rest : Act (StageResult × ReceiveContext)}
    (hrest : rest.Every (SparesCounter .satellites)) {inner : StageResult × ReceiveContext}
    {before : World} (hinner : World.advance rest world = (.finished inner, before)) :
    ∃ answer after,
      World.advance (rest.bind (settle queue)) world = (.finished answer, after) ∧
        (∀ (next : Next Effect.signature ReceiveContext) context, next.run context = rest →
          recover queue.pipeline queue.errorQueue queue.localAddress next context
            = rest.bind (settle queue)) ∧
        Reached after (.received queue.pipeline inner.2.message.id inner.1 answer.1 :: history) ∧
        Recovered queue (failures history queue.pipeline inner.2.message.id + 1)
          before after inner answer ∧
        (Promised (recent history queue.pipeline inner.2.message.id)
            (count? after queue.pipeline inner.2.message.id) inner.1 answer.1 ↔
          Absolved (recent history queue.pipeline inner.2.message.id)
            (failures history queue.pipeline inner.2.message.id) inner.1) := by
  -- the stages behind leave the counter alone
  have hcounter : before.site.counters .satellites = world.site.counters .satellites := by
    have hspared := (Recovery.counter_advance hrest world).1
    rwa [hinner] at hspared
  have hbefore : Reached before history := hreached.elsewhere hcounter
  have hcount := counts_of_reached hbefore queue.pipeline inner.2.message.id
  obtain ⟨answer, after, hadvance, hrecovered⟩ := advance_settle hcount
  refine ⟨answer, after, ?_, fun next context hnext => ?_, hbefore.settled hadvance, hrecovered,
    hrecovered.keeps_promise_iff hcount⟩
  · rw [World.advance_bind, hinner]
    exact hadvance
  · rw [recover_eq, hnext]

/-! ### A success that is not remembered -/

/-- The queue of the messages below. -/
def requests : Queue := ⟨"TimeoutsDispatcher", "error", "sales.TimeoutsDispatcher"⟩

/-- The request that is received below. -/
def request : ReceiveContext := ⟨⟨"r-1", ∅, []⟩, 0⟩

/-- What the request fails with. -/
def unavailable : Failure := .storage (.unavailable "connection refused")

/-- The request may fail as often as it is handed back, and no other message. -/
theorem exists_handedBack {n : Nat} (hn : n ≤ maxRetries.toNat) :
    ∃ world history, Reached world history ∧ world.site.outlet = .recorder {} ∧
      failures history requests.pipeline request.message.id = n := by
  -- by induction on the number of failures; each is handed back since there are few
  induction n with
  | zero =>
    exact ⟨{ clock := ⟨0, 0⟩, site := { outlet := .recorder {} } }, [], .initial rfl, rfl, rfl⟩
  | succ n ih =>
    obtain ⟨world, history, hreached, houtlet, hfailures⟩ := ih (Nat.le_of_succ_le hn)
    have hcount := counts_of_reached hreached requests.pipeline request.message.id
    rw [hfailures] at hcount
    obtain ⟨answer, after, hadvance, hrecovered⟩ :=
      @advance_settle requests world (.error unavailable, request) _ hcount
    have hfew : UInt32.ofNat (n + 1) ≤ maxRetries := by
      rw [UInt32.le_iff_toNat_le, UInt32.toNat_ofNat_of_lt' (Nat.lt_of_le_of_lt hn (by decide))]
      exact hn
    cases hrecovered with
    | handedBack =>
      refine ⟨_, _, hreached.settled hadvance, houtlet, ?_⟩
      rw [failures, tally_cons, if_pos (Milestone.concerns_received.2 ⟨rfl, rfl⟩)]
      exact congrArg (· + 1) hfailures
    | moved hk => exact absurd hfew (UInt32.not_le.2 hk)
    | stood hk => exact absurd hfew (UInt32.not_le.2 hk)

/-- A request that has failed four times succeeds, which does not keep the promise. -/
theorem promised_iff_success :
    let succeeding : Act (StageResult × ReceiveContext) := .done (.ok .completed, request)
    succeeding.Every (SparesCounter .satellites) ∧
      ∃ world history, Reached world history ∧
        failures history requests.pipeline request.message.id = 4 ∧
        ∃ answer after,
          World.advance (succeeding.bind (settle requests)) world = (.finished answer, after) ∧
            ¬ Promised (recent history requests.pipeline request.message.id)
              (count? after requests.pipeline request.message.id) (.ok .completed) answer.1 := by
  intro succeeding
  obtain ⟨world, history, hreached, -, hfailures⟩ := exists_handedBack (Nat.le_refl _)
  obtain ⟨answer, after, hadvance, -, -, -, hpromised⟩ :=
    promised_iff hreached requests
      (show succeeding.Every (SparesCounter .satellites) from .done _) rfl
  refine ⟨.done _, world, history, hreached, hfailures, answer, after, hadvance, ?_⟩
  -- four failures are still counted after the success
  rw [hpromised, Absolved, hfailures]
  decide

/-- A request fails four times, is handed back each time and succeeds then. The success leaves its
count behind, and when the request is received again its first failure moves it to the error
queue. -/
theorem success_remembered :
    ∃ world history, Reached world history ∧
      recent history requests.pipeline request.message.id = 0 ∧
      count? world requests.pipeline request.message.id = some 4 ∧
      ∃ context after,
        World.advance (recover requests.pipeline requests.errorQueue requests.localAddress
            ⟨1, fun context => .done (.error unavailable, context)⟩ request) world
          = (.finished (.ok (.movedToErrorQueue unavailable), context), after) := by
  obtain ⟨world, history, hreached, houtlet, hfailures⟩ := exists_handedBack (Nat.le_refl _)
  have hcount := counts_of_reached hreached requests.pipeline request.message.id
  rw [hfailures] at hcount
  -- the success changes nothing in the world
  have hsucceeded := hreached.settled
    (show World.advance (settle requests (.ok .completed, request)) world
      = (.finished (.ok .completed, request), world) from rfl)
  refine ⟨world, _, hsucceeded, ?_, hcount, ?_⟩
  · rw [recent, tally_cons, if_pos (Milestone.concerns_received.2 ⟨rfl, rfl⟩)]
    rfl
  · obtain ⟨answer, after, hadvance, hrecovered⟩ :=
      @advance_settle requests world (.error unavailable, request) _ hcount
    cases hrecovered with
    | handedBack hk => exact absurd hk (by decide)
    | moved => exact ⟨_, _, hadvance⟩
    | stood hk hmessage hsent =>
      -- the recorder accepts everything
      have hrecorder : (counted world requests request.message.id).readClock.2.site.outlet
          = .recorder {} := houtlet
      rw [sending, World.dispatch, hrecorder] at hsent
      cases hsent

end Messaging.Timeouts.Returning
