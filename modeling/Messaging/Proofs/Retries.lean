import Messaging.Proofs.Counting
import Messaging.Recovery.Retries

/-!
# The accounting of immediate retries

Any number of pipelines share one failure counter. Their receives interleave with each other, with
clearings of the whole counter and with anything that leaves the counter alone.

- `Receive` is a receive under way, and `Receive.program` what is left of it.
- `Machine` is the world with the receives under way and the `Milestone`s so far, `Step` one step of
  it, and `Reachable` the closure of the steps.
- `failures` counts the failures of a message from the milestones of this message and the clearings
  alone; `Consistent` says that the counter holds these numbers.
- `holds_of_reachable` carries what the end of a receive and a clearing keep to every reachable
  machine.
- `begun_of_reachable` says that every receive under way is what is left of `firstLevelRetries`.
- `Accounted` is what a receive ends with, given the number of failures, and `receive_accounted`
  says that every receive of a reachable machine ends so.
-/

namespace Messaging.Recovery

/-! ### Receives -/

/-- A request that leaves the counter of immediate retries alone. -/
def SparesRetries : Effect → Prop
  | .countFailure counter .. => counter ≠ .retries
  | .clearFailures counter .. => counter ≠ .retries
  | _ => True

/-- A receive under way. -/
structure Receive where
  /-- The name of the pipeline. -/
  pipeline : String
  /-- The id that the message had when the receive began. -/
  messageId : String
  /-- What is left of the stages behind the step of immediate retries. -/
  rest : Act (StageResult × ReceiveContext)

namespace Receive

/-- The receive of a context, of which the stages behind have not begun. -/
def start (pipeline : String) (next : Next Effect.signature ReceiveContext)
    (context : ReceiveContext) : Receive :=
  ⟨pipeline, context.message.id, next.run context⟩

/-- What is left of a receive: the stages behind and the accounting. -/
def program (policies : String → RetryPolicy) (receive : Receive) :
    Act (StageResult × ReceiveContext) :=
  receive.rest.bind
    (settleRetries (policies receive.pipeline) receive.pipeline receive.messageId)

/-- A receive begins as the step of immediate retries in front of the stages behind. -/
theorem program_start (policies : String → RetryPolicy) (pipeline : String)
    (next : Next Effect.signature ReceiveContext) (context : ReceiveContext) :
    (start pipeline next context).program policies
      = firstLevelRetries (policies pipeline) pipeline next context := rfl

end Receive

/-! ### Milestones -/

/-- What matters for the counts of failures. -/
inductive Milestone where
  /-- A receive ended: what the stages behind it ended with, and what it answered. -/
  | received (pipeline messageId : String) (inner answer : StageResult)
  /-- The whole counter was cleared. -/
  | cleared

/-- Whether a milestone matters for the failures of a message in a pipeline. -/
def Milestone.concerns (pipeline messageId : String) : Milestone → Bool
  | received name id _ _ => pipeline = name && messageId = id
  | cleared => true

/-- The end of a receive matters for its own message. -/
theorem Milestone.concerns_received {pipeline messageId name id : String}
    {inner answer : StageResult} :
    (received name id inner answer).concerns pipeline messageId = true ↔
      pipeline = name ∧ messageId = id := by
  rw [concerns, Bool.and_eq_true, decide_eq_true_eq, decide_eq_true_eq]

/-- The failures since the last success, surrender or clearing once a milestone is reached, given
those before it. -/
def Milestone.failuresAfter (n : Nat) : Milestone → Nat
  | cleared => 0
  | received _ _ (.ok _) _ => 0
  | received _ _ (.error failure) answer =>
    -- a body that could not be read neither counts nor starts the count again
    if failure.isDeserialization then n
    else
      match answer with
      | .ok _ => n + 1
      | .error _ => 0

/-- The failures of a message in a pipeline since its last success or surrender or the last
clearing; the newest milestone comes first, and those of other messages do not matter. -/
def failures (history : List Milestone) (pipeline messageId : String) : Nat :=
  (history.filter (Milestone.concerns pipeline messageId)).foldr
    (fun milestone n => milestone.failuresAfter n) 0

/-- A milestone changes the failures of the messages that it concerns. -/
theorem failures_cons (milestone : Milestone) (history : List Milestone)
    (pipeline messageId : String) :
    failures (milestone :: history) pipeline messageId
      = if milestone.concerns pipeline messageId
        then milestone.failuresAfter (failures history pipeline messageId)
        else failures history pipeline messageId := by
  by_cases hconcerns : milestone.concerns pipeline messageId
  · simp [failures, hconcerns]
  · simp [failures, hconcerns]

/-- After a clearing no message has failed. -/
@[simp] theorem failures_cleared (history : List Milestone) (pipeline messageId : String) :
    failures (.cleared :: history) pipeline messageId = 0 := rfl

/-! ### The machine -/

/-- Receives under way in a world. -/
structure Machine where
  /-- The world. -/
  world : World
  /-- The receives under way. -/
  running : List Receive := []
  /-- The milestones so far, the newest first. -/
  history : List Milestone := []

/-- A step of the machine. The accounting of a receive never sleeps, so that nothing comes between
the end of the stages behind it and its own end. -/
inductive Step (policies : String → RetryPolicy) : Machine → Machine → Prop where
  /-- A receive begins in a pipeline. -/
  | start {machine : Machine} {pipeline : String} {next : Next Effect.signature ReceiveContext}
      {context : ReceiveContext} (hnext : (next.run context).Every SparesRetries) :
      Step policies machine
        { machine with running := Receive.start pipeline next context :: machine.running }
  /-- A receive goes on and sleeps again. -/
  | sleep {machine : Machine} {earlier later : List Receive} {receive : Receive} {millis : Nat}
      {rest : Act (StageResult × ReceiveContext)} {world : World}
      (hrunning : machine.running = earlier ++ receive :: later)
      (hadvance : World.advance receive.rest machine.world = (.asleep millis rest, world)) :
      Step policies machine
        { machine with world, running := earlier ++ { receive with rest } :: later }
  /-- A receive goes on and panics. -/
  | panic {machine : Machine} {earlier later : List Receive} {receive : Receive} {payload : Panic}
      {world : World} (hrunning : machine.running = earlier ++ receive :: later)
      (hadvance : World.advance receive.rest machine.world = (.panicked payload, world)) :
      Step policies machine { machine with world, running := earlier ++ later }
  /-- A receive goes on and ends. -/
  | finish {machine : Machine} {earlier later : List Receive} {receive : Receive}
      {inner answer : StageResult × ReceiveContext} {between world : World}
      (hrunning : machine.running = earlier ++ receive :: later)
      (hinner : World.advance receive.rest machine.world = (.finished inner, between))
      (hadvance : World.advance (receive.program policies) machine.world
        = (.finished answer, world)) :
      Step policies machine
        { world, running := earlier ++ later
          history := .received receive.pipeline receive.messageId inner.1 answer.1 ::
            machine.history }
  /-- The whole counter is cleared. -/
  | clear {machine : Machine} :
      Step policies machine
        { machine with
          world := machine.world.modifySite (·.clearCounter .retries)
          history := .cleared :: machine.history }
  /-- Something happens elsewhere. -/
  | elsewhere {machine : Machine} {world : World}
      (hcounter : world.site.counters .retries = machine.world.site.counters .retries) :
      Step policies machine { machine with world }

/-- The machines that come about from one without receives and counts. -/
inductive Reachable (policies : String → RetryPolicy) : Machine → Prop where
  /-- Nothing has been received and nothing has been counted. -/
  | initial {world : World} (hcounter : world.site.counters .retries = {}) :
      Reachable policies { world }
  /-- One step more. -/
  | step {machine machine' : Machine} (hreach : Reachable policies machine)
      (hstep : Step policies machine machine') : Reachable policies machine'

/-- `receive` is what is left of `firstLevelRetries` for a message with its id in its pipeline. -/
def Receive.Begun (policies : String → RetryPolicy) (receive : Receive) : Prop :=
  ∃ next context, receive.messageId = context.message.id ∧
    LeftOf (firstLevelRetries (policies receive.pipeline) receive.pipeline next context)
      (receive.program policies)

/-- Every receive under way has begun as the step of immediate retries. -/
theorem begun_of_reachable {policies : String → RetryPolicy} {machine : Machine}
    (hreach : Reachable policies machine) :
    ∀ receive ∈ machine.running, receive.Begun policies := by
  -- by induction on the steps, of which only the sleeping ones change what is left of a receive
  suffices hleft : ∀ receive ∈ machine.running, ∃ next : Next Effect.signature ReceiveContext,
      ∃ context, receive.messageId = context.message.id ∧
        LeftOf (next.run context) receive.rest by
    intro receive hreceive
    obtain ⟨next, context, hid, hrest⟩ := hleft receive hreceive
    refine ⟨next, context, hid, ?_⟩
    rw [← Receive.program_start, Receive.program, Receive.program, hid]
    exact hrest.bind _
  induction hreach with
  | initial => exact nofun
  | step _ hstep ih =>
    cases hstep with
    | start => exact List.forall_mem_cons.2 ⟨⟨_, _, rfl, .whole⟩, ih⟩
    | sleep hrunning hadvance =>
      rw [hrunning, List.forall_mem_append, List.forall_mem_cons] at ih
      obtain ⟨hearlier, ⟨next, context, hid, hrest⟩, hlater⟩ := ih
      rw [List.forall_mem_append, List.forall_mem_cons]
      exact ⟨hearlier, ⟨next, context, hid, hrest.slept hadvance⟩, hlater⟩
    | panic hrunning =>
      rw [hrunning, List.forall_mem_append, List.forall_mem_cons] at ih
      exact List.forall_mem_append.2 ⟨ih.1, ih.2.2⟩
    | finish hrunning =>
      rw [hrunning, List.forall_mem_append, List.forall_mem_cons] at ih
      exact List.forall_mem_append.2 ⟨ih.1, ih.2.2⟩
    | clear => exact ih
    | elsewhere => exact ih

/-! ### The counter -/

/-- The count of immediate retries that a world keeps for a message. -/
def count? (world : World) (pipeline messageId : String) : Option UInt32 :=
  (world.site.counters .retries).find? pipeline messageId

/-- Sparing the counter of immediate retries is sparing a counter. -/
theorem sparesRetries_eq : SparesRetries = SparesCounter .retries := by
  funext effect
  cases effect <;> rfl

/-- A program that spares the counter of immediate retries leaves it as it is, and spares it again
when it goes on after a sleep. -/
theorem retries_advance {program : Act (StageResult × ReceiveContext)}
    (hprogram : program.Every SparesRetries) (world : World) :
    (World.advance program world).2.site.counters .retries = world.site.counters .retries ∧
      ∀ millis rest, (World.advance program world).1 = .asleep millis rest →
        rest.Every SparesRetries := by
  rw [sparesRetries_eq] at hprogram ⊢
  exact counter_advance hprogram world

/-- Counting a failure moves the count of the message to the next number. -/
theorem count?_countFailure (world : World) (pipeline messageId other id : String) :
    count? (world.perform (.countFailure .retries pipeline messageId)).2 other id
      = if other = pipeline ∧ id = messageId
        then some ((world.site.counters .retries).get pipeline messageId + 1)
        else count? world other id :=
  find?_countFailure world pipeline messageId other id

/-- Clearing the failures of a message leaves the counts of the others. -/
theorem count?_clearFailures (world : World) (pipeline messageId other id : String) :
    count? (world.perform (.clearFailures .retries pipeline messageId)).2 other id
      = if other = pipeline ∧ id = messageId then none else count? world other id :=
  find?_clearFailures world pipeline messageId other id

/-- Publishing an event changes no count. -/
theorem count?_publish (world : World) (event : Event) (pipeline messageId : String) :
    count? (world.perform (.publish event)).2 pipeline messageId
      = count? world pipeline messageId := rfl

/-! ### One receive -/

/-- How a receive ends in a world after the stages behind it have ended in another, given the
number of its failures with this one: what those stages ended with comes before what the receive
answers. -/
inductive Accounted (policy : RetryPolicy) (pipeline messageId : String) (k : Nat)
    (before after : World) :
    StageResult × ReceiveContext → StageResult × ReceiveContext → Prop where
  /-- An outcome is passed on, and the count of the message is forgotten. -/
  | passed {outcome : Outcome} {context : ReceiveContext}
      (hevents : after.site.events = before.site.events)
      (hcount : count? after pipeline messageId = none) :
      Accounted policy pipeline messageId k before after
        (.ok outcome, context) (.ok outcome, context)
  /-- A body that cannot be read is passed on, and nothing happens. -/
  | unreadable {failure : Failure} {context : ReceiveContext}
      (hfailure : failure.isDeserialization = true) (hworld : after = before) :
      Accounted policy pipeline messageId k before after
        (.error failure, context) (.error failure, context)
  /-- With retries left a failure becomes a retry, of which monitoring is told once. -/
  | retried {failure : Failure} {context : ReceiveContext}
      (hfailure : failure.isDeserialization = false) (hk : k ≤ policy.maxRetries.toNat)
      (hevents : after.site.events = before.site.events.publish
        (.retried messageId (.ofNat (k - 1)) failure.info)) :
      Accounted policy pipeline messageId k before after
        (.error failure, context) (.ok .retryRequested, context)
  /-- After the last retry a failure is passed on with their number, and the count is forgotten. -/
  | surrendered {failure : Failure} {context : ReceiveContext}
      (hfailure : failure.isDeserialization = false) (hk : k = policy.maxRetries.toNat + 1)
      (hevents : after.site.events = before.site.events)
      (hcount : count? after pipeline messageId = none) :
      Accounted policy pipeline messageId k before after
        (.error failure, context)
        (.error failure, { context with
          message := context.message.setHeader "NServiceBus.FLRetries"
            (toString policy.maxRetries.toNat) })

variable {policy : RetryPolicy}

/-- The world after one failure more of a message was counted. -/
def counted (world : World) (pipeline messageId : String) : World :=
  (world.perform (.countFailure .retries pipeline messageId)).2

/-- The accounting of a failure that may be retried. -/
theorem advance_settleRetries_error (world : World) (pipeline messageId : String)
    {failure : Failure} (context : ReceiveContext) (hfailure : failure.isDeserialization = false)
    {failures : UInt32}
    (hfailures : (world.site.counters .retries).get pipeline messageId + 1 = failures) :
    World.advance (settleRetries policy pipeline messageId (.error failure, context)) world
      = if policy.shouldRetry failures then
          (.finished (.ok .retryRequested, context),
            ((counted world pipeline messageId).perform
              (.publish (.retried messageId (failures - 1) failure.info))).2)
        else
          (.finished (.error failure, { context with
              message := context.message.setHeader Header.firstLevelRetries
                (toString (failures - 1).toNat) }),
            ((counted world pipeline messageId).perform
              (.clearFailures .retries pipeline messageId)).2) := by
  subst hfailures
  -- the failure is counted before it is decided whether it is retried
  rw [settleRetries, if_neg (by rw [hfailure]; exact Bool.false_ne_true)]
  change World.advance (ite (policy.shouldRetry (_ + 1) = true) _ _)
    (counted world pipeline messageId) = _
  split <;> rfl

/-- The accounting of a receive ends as it should, leaves the counts of other messages alone and
moves that of its own message on. -/
theorem advance_settleRetries {world : World} {pipeline messageId : String} {n : Nat}
    (hmax : policy.maxRetries.toNat < UInt32.size - 1) (hn : n ≤ policy.maxRetries.toNat)
    (hcount : count? world pipeline messageId = kept n)
    (ended : StageResult × ReceiveContext) :
    ∃ answer after,
      World.advance (settleRetries policy pipeline messageId ended) world
          = (.finished answer, after) ∧
        Accounted policy pipeline messageId (n + 1) world after ended answer ∧
        ∀ other id, count? after other id
          = if other = pipeline ∧ id = messageId
            then kept (Milestone.failuresAfter n
              (.received pipeline messageId ended.1 answer.1))
            else count? world other id := by
  obtain ⟨result, context⟩ := ended
  cases result with
  | ok outcome =>
    refine ⟨_, (world.perform (.clearFailures .retries pipeline messageId)).2, rfl,
      .passed rfl ?_, count?_clearFailures world pipeline messageId⟩
    rw [count?_clearFailures, if_pos ⟨rfl, rfl⟩]
  | error failure =>
    -- what cannot be read is not counted
    by_cases hfailure : failure.isDeserialization
    · refine ⟨(.error failure, context), world, ?_, .unreadable hfailure rfl, fun other id => ?_⟩
      · rw [settleRetries, if_pos hfailure]
        rfl
      · rw [Milestone.failuresAfter, if_pos hfailure]
        split
        · next h => rw [h.1, h.2, hcount]
        · rfl
    · have hreadable : failure.isDeserialization = false := by rwa [Bool.not_eq_true] at hfailure
      have hnext : (world.site.counters .retries).get pipeline messageId + 1 = .ofNat (n + 1) :=
        get_add_one hcount
      have hnat : (UInt32.ofNat (n + 1)).toNat = n + 1 :=
        UInt32.toNat_ofNat_of_lt' (by omega)
      have hprevious : UInt32.ofNat (n + 1) - 1 = .ofNat n := by
        rw [UInt32.ofNat_add]
        exact UInt32.add_sub_cancel _ _
      -- the count is below the largest number, so that it does not wrap
      have hshould : policy.shouldRetry (.ofNat (n + 1)) = true ↔
          n + 1 ≤ policy.maxRetries.toNat := by
        rw [RetryPolicy.shouldRetry, decide_eq_true_eq, UInt32.le_iff_toNat_le, hnat]
      have hcounted : ∀ other id, count? (counted world pipeline messageId) other id
          = if other = pipeline ∧ id = messageId then some (.ofNat (n + 1))
            else count? world other id := fun other id => by
        rw [counted, count?_countFailure, hnext]
      rw [advance_settleRetries_error world pipeline messageId context hreadable hnext, hprevious]
      by_cases hretry : n + 1 ≤ policy.maxRetries.toNat
      · rw [if_pos (hshould.2 hretry)]
        refine ⟨_, _, rfl, .retried hreadable hretry rfl, fun other id => ?_⟩
        rw [count?_publish, hcounted, Milestone.failuresAfter, if_neg hfailure]
        rfl
      · have hlast : n = policy.maxRetries.toNat := by omega
        rw [if_neg fun h => hretry (hshould.1 h)]
        have hheader : toString (UInt32.ofNat n).toNat = toString policy.maxRetries.toNat := by
          rw [hlast, UInt32.ofNat_toNat]
        rw [hheader]
        refine ⟨_, _, rfl, .surrendered hreadable (by rw [hlast]) rfl ?_, fun other id => ?_⟩
        · rw [count?_clearFailures, if_pos ⟨rfl, rfl⟩]
        · rw [count?_clearFailures, hcounted, Milestone.failuresAfter, if_neg hfailure]
          split <;> rfl

/-- After a receive that was accounted for the failures of its message are within the retries. -/
theorem Accounted.failuresAfter_le {pipeline messageId : String} {n : Nat}
    {before after : World} {ended answer : StageResult × ReceiveContext}
    (haccounted : Accounted policy pipeline messageId (n + 1) before after ended answer)
    (hn : n ≤ policy.maxRetries.toNat) :
    Milestone.failuresAfter n (.received pipeline messageId ended.1 answer.1)
      ≤ policy.maxRetries.toNat := by
  -- a series goes on only if it stays within the policy
  cases haccounted with
  | passed => exact Nat.zero_le _
  | unreadable hfailure =>
    rw [Milestone.failuresAfter, if_pos hfailure]
    exact hn
  | retried hfailure hk =>
    rw [Milestone.failuresAfter, if_neg (by rw [hfailure]; exact Bool.false_ne_true)]
    exact hk
  | surrendered hfailure =>
    rw [Milestone.failuresAfter, if_neg (by rw [hfailure]; exact Bool.false_ne_true)]
    exact Nat.zero_le _

/-! ### The whole machine -/

variable {policies : String → RetryPolicy}

/-- The counter holds the failures of every message, and none has failed too often. -/
structure Consistent (policies : String → RetryPolicy) (machine : Machine) : Prop where
  /-- What is left of the receives spares the counter. -/
  spares : ∀ receive ∈ machine.running, receive.rest.Every SparesRetries
  /-- The counter holds the failures of every message. -/
  counts : ∀ pipeline messageId, count? machine.world pipeline messageId
    = kept (failures machine.history pipeline messageId)
  /-- No message has failed more often than it is retried. -/
  bounded : ∀ pipeline messageId,
    failures machine.history pipeline messageId ≤ (policies pipeline).maxRetries.toNat

/-- What is left of a receive goes through the stages behind before the accounting. -/
theorem Receive.advance_program (receive : Receive) (world : World) :
    World.advance (receive.program policies) world
      = Progress.bind
          (settleRetries (policies receive.pipeline) receive.pipeline receive.messageId)
          (World.advance receive.rest world) :=
  World.advance_bind _ _ _

/-- With a counter that holds the failures of every message a receive whose stages behind have ended
is accounted for, and the counter holds the failures afterwards. -/
theorem accounted_of_counts {policies : String → RetryPolicy} {world : World}
    {history : List Milestone}
    (hpolicies : ∀ pipeline, (policies pipeline).maxRetries.toNat < UInt32.size - 1)
    (hcounts : ∀ pipeline messageId,
      count? world pipeline messageId = kept (failures history pipeline messageId))
    (hbounded : ∀ pipeline messageId,
      failures history pipeline messageId ≤ (policies pipeline).maxRetries.toNat)
    (pipeline messageId : String) (inner : StageResult × ReceiveContext) :
    ∃ answer after,
      World.advance (settleRetries (policies pipeline) pipeline messageId inner) world
        = (.finished answer, after) ∧
        Accounted (policies pipeline) pipeline messageId (failures history pipeline messageId + 1)
          world after inner answer ∧
        ∀ other id, count? after other id = kept
          (failures (.received pipeline messageId inner.1 answer.1 :: history) other id) := by
  obtain ⟨answer, after, hadvance, haccounted, hafter⟩ :=
    advance_settleRetries (hpolicies pipeline) (hbounded _ _) (hcounts pipeline messageId) inner
  refine ⟨answer, after, hadvance, haccounted, fun other id => ?_⟩
  rw [hafter, failures_cons]
  -- the settled message has its new count, and every other one the old
  by_cases hsame : other = pipeline ∧ id = messageId
  · rw [if_pos hsame, if_pos (Milestone.concerns_received.2 hsame), hsame.1, hsame.2]
  · rw [if_neg hsame, if_neg (mt Milestone.concerns_received.1 hsame), hcounts]

/-- In a consistent machine a receive whose stages behind have ended is accounted for. -/
theorem Consistent.accounted {machine : Machine} (hconsistent : Consistent policies machine)
    (hpolicies : ∀ pipeline, (policies pipeline).maxRetries.toNat < UInt32.size - 1)
    {receive : Receive} (hreceive : receive ∈ machine.running)
    {inner : StageResult × ReceiveContext} {before : World}
    (hinner : World.advance receive.rest machine.world = (.finished inner, before)) :
    ∃ answer after,
      World.advance (receive.program policies) machine.world = (.finished answer, after) ∧
        Accounted (policies receive.pipeline) receive.pipeline receive.messageId
          (failures machine.history receive.pipeline receive.messageId + 1)
          before after inner answer := by
  -- the stages behind leave the counter alone, so it still stands as the history says
  have hcounter : before.site.counters .retries = machine.world.site.counters .retries := by
    have hspared := (retries_advance (hconsistent.spares receive hreceive) machine.world).1
    rwa [hinner] at hspared
  have hcounts : ∀ pipeline messageId, count? before pipeline messageId
      = kept (failures machine.history pipeline messageId) := fun pipeline messageId => by
    rw [count?, hcounter]
    exact hconsistent.counts pipeline messageId
  obtain ⟨answer, after, hadvance, haccounted, -⟩ := accounted_of_counts hpolicies hcounts
    hconsistent.bounded receive.pipeline receive.messageId inner
  refine ⟨answer, after, ?_, haccounted⟩
  rw [Receive.advance_program, hinner]
  exact hadvance

/-- Every one of the receives under way spares the counter. -/
def Spares (machine : Machine) : Prop :=
  ∀ receive ∈ machine.running, receive.rest.Every SparesRetries

/-- In a machine that `Spares` the counts what is left of each receive does so too. -/
theorem Spares.of_running {machine : Machine} (hspares : Spares machine)
    {earlier later : List Receive} {receive : Receive}
    (hrunning : machine.running = earlier ++ receive :: later) :
    (∀ other ∈ earlier, other.rest.Every SparesRetries) ∧ receive.rest.Every SparesRetries ∧
      ∀ other ∈ later, other.rest.Every SparesRetries := by
  rwa [Spares, hrunning, List.forall_mem_append, List.forall_mem_cons] at hspares

/-- Only the end of a receive and a clearing matter for the counter: what they keep holds of every
reachable machine. -/
theorem holds_of_reachable {I : FailureCounter → List Milestone → Prop} (hinitial : I {} [])
    (hclear : ∀ counter history, I counter history → I {} (.cleared :: history))
    (hreceived : ∀ (world : World) history pipeline messageId
      (inner answer : StageResult × ReceiveContext) (after : World),
      I (world.site.counters .retries) history →
      World.advance (settleRetries (policies pipeline) pipeline messageId inner) world
        = (.finished answer, after) →
      I (after.site.counters .retries)
        (.received pipeline messageId inner.1 answer.1 :: history))
    {machine : Machine} (hreach : Reachable policies machine) :
    Spares machine ∧ I (machine.world.site.counters .retries) machine.history := by
  induction hreach with
  | initial hcounter => exact ⟨nofun, hcounter ▸ hinitial⟩
  | @step machine machine' _ hstep ih =>
    obtain ⟨hspares, hholds⟩ := ih
    cases hstep with
    | start hnext => exact ⟨List.forall_mem_cons.2 ⟨hnext, hspares⟩, hholds⟩
    | @sleep earlier later receive millis rest world hrunning hadvance =>
      obtain ⟨hearlier, hreceive, hlater⟩ := hspares.of_running hrunning
      have hadvanced := retries_advance hreceive machine.world
      rw [hadvance] at hadvanced
      refine ⟨?_, hadvanced.1 ▸ hholds⟩
      rw [Spares, List.forall_mem_append, List.forall_mem_cons]
      exact ⟨hearlier, hadvanced.2 millis rest rfl, hlater⟩
    | @panic earlier later receive payload world hrunning hadvance =>
      obtain ⟨hearlier, hreceive, hlater⟩ := hspares.of_running hrunning
      have hadvanced := retries_advance hreceive machine.world
      rw [hadvance] at hadvanced
      refine ⟨?_, hadvanced.1 ▸ hholds⟩
      rw [Spares, List.forall_mem_append]
      exact ⟨hearlier, hlater⟩
    | @finish earlier later receive inner answer between world hrunning hinner hadvance =>
      obtain ⟨hearlier, hreceive, hlater⟩ := hspares.of_running hrunning
      -- the stages behind leave the counter alone
      have hadvanced := retries_advance hreceive machine.world
      rw [hinner] at hadvanced
      rw [Receive.advance_program, hinner] at hadvance
      refine ⟨?_, hreceived between _ _ _ inner answer world (hadvanced.1 ▸ hholds) hadvance⟩
      rw [Spares, List.forall_mem_append]
      exact ⟨hearlier, hlater⟩
    | clear => exact ⟨hspares, hclear _ _ hholds⟩
    | elsewhere hcounter => exact ⟨hspares, hcounter ▸ hholds⟩

/-- Every reachable machine is consistent. -/
theorem consistent_of_reachable {machine : Machine}
    (hpolicies : ∀ pipeline, (policies pipeline).maxRetries.toNat < UInt32.size - 1)
    (hreach : Reachable policies machine) : Consistent policies machine := by
  -- the invariant: the counter holds the series, and no series is longer than its policy allows
  have hholds := holds_of_reachable
    (I := fun counter history =>
      (∀ pipeline messageId, counter.find? pipeline messageId
        = kept (failures history pipeline messageId)) ∧
      ∀ pipeline messageId, failures history pipeline messageId
        ≤ (policies pipeline).maxRetries.toNat) ?_ ?_ ?_ hreach
  · exact ⟨hholds.1, hholds.2.1, hholds.2.2⟩
  · exact ⟨fun _ _ => rfl, fun _ _ => Nat.zero_le _⟩
  · exact fun _ _ _ => ⟨fun _ _ => rfl, fun _ _ => Nat.zero_le _⟩
  · rintro world history pipeline messageId inner answer after ⟨hcounts, hbounded⟩ hadvance
    obtain ⟨answer', after', hadvance', haccounted, hafter⟩ :=
      accounted_of_counts hpolicies hcounts hbounded pipeline messageId inner
    rw [hadvance] at hadvance'
    cases hadvance'
    refine ⟨hafter, fun other id => ?_⟩
    rw [failures_cons]
    split
    · next hconcerns =>
      obtain ⟨rfl, rfl⟩ := Milestone.concerns_received.1 hconcerns
      exact haccounted.failuresAfter_le (hbounded _ _)
    · exact hbounded other id

/-- A receive begins as `firstLevelRetries`, and every one under way in a reachable machine is what
is left of that. Once the stages behind it have ended, so does the receive, and it ends as
`Accounted` says for the `failures` of its message, this one included. -/
theorem receive_accounted {machine : Machine}
    (hpolicies : ∀ pipeline, (policies pipeline).maxRetries.toNat < UInt32.size - 1)
    (hreach : Reachable policies machine) :
    (∀ pipeline next context, (Receive.start pipeline next context).program policies
      = firstLevelRetries (policies pipeline) pipeline next context) ∧
    ∀ receive ∈ machine.running, receive.Begun policies ∧
      ∀ inner before, World.advance receive.rest machine.world = (.finished inner, before) →
        ∃ answer after,
          World.advance (receive.program policies) machine.world = (.finished answer, after) ∧
            Accounted (policies receive.pipeline) receive.pipeline receive.messageId
              (failures machine.history receive.pipeline receive.messageId + 1)
              before after inner answer :=
  ⟨Receive.program_start policies, fun receive hreceive =>
    ⟨begun_of_reachable hreach receive hreceive, fun _ _ hinner =>
      (consistent_of_reachable hpolicies hreach).accounted hpolicies hreceive hinner⟩⟩

/-- In a pipeline with one retry a message fails, is handed back and fails again. -/
theorem receive_accounted_secondFailure :
    let policies : String → RetryPolicy := fun _ => ⟨1⟩
    let failing : Next Effect.signature ReceiveContext :=
      ⟨1, fun context => .done (.error (.handler "out of stock" []), context)⟩
    let context : ReceiveContext := ⟨⟨"m1", ∅, []⟩, 0⟩
    ∃ machine, Reachable policies machine ∧
      ∃ receive ∈ machine.running, receive = Receive.start "Main" failing context ∧
        ∃ answer after,
          World.advance (firstLevelRetries ⟨1⟩ "Main" failing context) machine.world
              = (.finished answer, after) ∧
            Accounted ⟨1⟩ "Main" "m1" 2 machine.world after
              (.error (.handler "out of stock" []), context) answer := by
  intro policies failing context
  let receive := Receive.start "Main" failing context
  let first : Machine := { world := { clock := ⟨0, 0⟩ }, running := [receive] }
  have hstart (machine : Machine) :
      Step policies machine { machine with running := receive :: machine.running } :=
    .start (.done _)
  -- the first failure is within the policy of one retry, the second is not
  have hfirst : Reachable policies first := (Reachable.initial rfl).step (hstart _)
  have hfinish := @Step.finish policies first [] [] receive _ _ _ _ rfl rfl rfl
  have hsecond := (hfirst.step hfinish).step (hstart _)
  obtain ⟨hprogram, hreceives⟩ := receive_accounted (fun _ => by decide) hsecond
  obtain ⟨-, hends⟩ := hreceives receive List.mem_cons_self
  refine ⟨_, hsecond, receive, List.mem_cons_self, rfl, ?_⟩
  rw [← hprogram]
  exact hends _ _ rfl

end Messaging.Recovery
