import Mathlib.Logic.Relation
import Messaging.Proofs.Service
import Messaging.Timeout.Satellites

/-!
# Sent first, removed afterwards

Several requests to send the same stored message on are worked on at once. Storage and dispatcher
serve one request of a program at a time, and may refuse any of them.

- `Serves` says how they answer. `Machine` is a storage with the programs that are under way, and
  `Step` is one request of one of them.
- `Stage` lists how far such a program gets, with what it has asked for by then and what it ends
  with; `asked_dispatchLast` says that there are no other stages.
- `Tracked` says what the log and the storage have to do with each other. It is part of `Inv`, the
  invariant of the machine, which every step keeps (`inv_step`).
- `Guarded` is what the invariant and the stages give together, and `sent_then_removed` says that it
  holds throughout: a timeout leaves the storage only after its message was sent, and one invocation
  at most removes it.
-/

namespace Messaging.Timeouts.Removing

open Relation (ReflTransGen)
open Time (Instant)

/-! ### The machine -/

/-- How a storage and a dispatcher answer. Whatever fails changes nothing. -/
inductive Serves : Service TimeoutStore where
  /-- The clock shows any time. -/
  | clock {store : TimeoutStore} (now : Instant) : Serves store .clock now store
  /-- A timeout is looked up. -/
  | found {store : TimeoutStore} (id : String) :
      Serves store (.peekTimeout id) (.ok (store.peek? id)) store
  /-- A look-up fails. -/
  | unread {store : TimeoutStore} (id : String) (error : StorageError) :
      Serves store (.peekTimeout id) (.error error) store
  /-- A batch is sent. -/
  | sent {store : TimeoutStore} (batch : Batch) : Serves store (.dispatch batch) (.ok ()) store
  /-- A batch is refused. -/
  | refused {store : TimeoutStore} (batch : Batch) (error : TransportError) :
      Serves store (.dispatch batch) (.error error) store
  /-- A timeout is removed if it is there. -/
  | removed {store : TimeoutStore} (id : String) :
      Serves store (.removeTimeout id) (.ok (store.remove id).1) (store.remove id).2
  /-- A removal fails. -/
  | kept {store : TimeoutStore} (id : String) (error : StorageError) :
      Serves store (.removeTimeout id) (.error error) store

/-- A request to send a stored message on. -/
structure Request where
  /-- The transaction mode of the endpoint. -/
  mode : TransactionMode
  /-- The receive of the request. -/
  context : ReceiveContext

/-- What is done with a request. -/
def Request.program (request : Request) : Act (StageResult × ReceiveContext) :=
  dispatchLast request.mode request.context

/-- A request is one for the timeout with an id. -/
def Request.Names (id : String) (request : Request) : Prop :=
  request.context.message.header? Header.timeoutIdToDispatch = some id

/-- A storage and the invocations that work on it. -/
structure Machine where
  /-- The storage. -/
  store : TimeoutStore
  /-- What is left of each invocation. -/
  invocations : List (Act (StageResult × ReceiveContext))
  /-- What was asked for and answered, first asked first, with the numbers of the invocations. -/
  log : List (Nat × Exchange) := []

/-- The invocations for some requests before they begin. -/
def Machine.start (store : TimeoutStore) (requests : List Request) : Machine where
  store
  invocations := requests.map Request.program

/-- One of the invocations is answered. -/
inductive Step : Machine → Machine → Prop where
  | answer {machine : Machine} {i : Nat} {effect : Effect}
      {next : effect.Answer → Act (StageResult × ReceiveContext)} {answer : effect.Answer}
      {store : TimeoutStore}
      (hasks : machine.invocations[i]? = some (Program.call (S := Effect.signature) effect next))
      (hserved : Serves machine.store effect answer store) :
      Step machine
        { store
          invocations := machine.invocations.set i (next answer)
          log := machine.log ++ [(i, ⟨effect, answer⟩)] }

/-- What an invocation has asked for. -/
def own (i : Nat) (log : List (Nat × Exchange)) : List Exchange :=
  (log.filter (·.1 = i)).map (·.2)

/-- Whether a timeout was removed. -/
def isRemoval : Exchange → Bool
  | ⟨.removeTimeout _, .ok true⟩ => true
  | _ => false

/-- The invocations that have removed a timeout. -/
def removals (log : List (Nat × Exchange)) : List Nat :=
  (log.filter (isRemoval ·.2)).map (·.1)

/-! ### How far an invocation gets -/

/-- A program has asked for something and is about to go on with another one. -/
inductive Asked {α : Type} : Act α → List Exchange → Act α → Prop where
  /-- Nothing was asked for. -/
  | nil (program : Act α) : Asked program [] program
  /-- The first request was answered. -/
  | cons {effect : Effect} {next : effect.Answer → Act α} {answer : effect.Answer}
      {log : List Exchange} {rest : Act α} (h : Asked (next answer) log rest) :
      Asked (Program.call (S := Effect.signature) effect next) (⟨effect, answer⟩ :: log) rest

/-- A program that has `Asked` for something has, with the answer, asked for one thing more. -/
theorem Asked.concat {α : Type} {program : Act α} {log : List Exchange} {effect : Effect}
    {next : effect.Answer → Act α}
    (h : Asked program log (Program.call (S := Effect.signature) effect next))
    (answer : effect.Answer) : Asked program (log ++ [⟨effect, answer⟩]) (next answer) := by
  generalize hrest : Program.call (S := Effect.signature) effect next = rest at h
  induction h with
  | nil =>
    subst hrest
    exact .cons (.nil _)
  | cons _ ih => exact .cons (ih hrest)

/-- The batch with the message of a timeout, as it is sent to its destination at some time. -/
def departure (isolated : Bool) (timeout : Timeout) (now : Instant) : Batch :=
  .ofList [{ message := expiredMessage timeout (Time.Wire.write now)
             route := .unicast timeout.destination, isolated }]

/-- How far an invocation has come. -/
inductive Stage where
  /-- It has asked for nothing yet. -/
  | asking
  /-- It could not look the timeout up. -/
  | unread (error : StorageError)
  /-- It has found that the timeout is gone. -/
  | gone
  /-- It has found the timeout. -/
  | found (timeout : Timeout)
  /-- It knows the time as well. -/
  | timed (timeout : Timeout) (now : Instant)
  /-- It could not send the message. -/
  | refused (timeout : Timeout) (now : Instant) (error : TransportError)
  /-- It has sent the message. -/
  | sent (timeout : Timeout) (now : Instant)
  /-- It has sent the message and could not remove the timeout. -/
  | kept (timeout : Timeout) (now : Instant) (error : StorageError)
  /-- It has sent the message and removed the timeout. -/
  | removed (timeout : Timeout) (now : Instant)
  /-- It has sent the message, and somebody else has removed the timeout. -/
  | late (timeout : Timeout) (now : Instant)

namespace Stage

variable (id : String) (isolated : Bool)

/-- What was asked for by then. -/
def log : Stage → List Exchange
  | asking => []
  | unread error => [⟨.peekTimeout id, .error error⟩]
  | gone => [⟨.peekTimeout id, .ok none⟩]
  | found timeout => [⟨.peekTimeout id, .ok (some timeout)⟩]
  | timed timeout now => [⟨.peekTimeout id, .ok (some timeout)⟩, ⟨.clock, now⟩]
  | refused timeout now error =>
    [⟨.peekTimeout id, .ok (some timeout)⟩, ⟨.clock, now⟩,
      ⟨.dispatch (departure isolated timeout now), .error error⟩]
  | sent timeout now =>
    [⟨.peekTimeout id, .ok (some timeout)⟩, ⟨.clock, now⟩,
      ⟨.dispatch (departure isolated timeout now), .ok ()⟩]
  | kept timeout now error =>
    [⟨.peekTimeout id, .ok (some timeout)⟩, ⟨.clock, now⟩,
      ⟨.dispatch (departure isolated timeout now), .ok ()⟩, ⟨.removeTimeout id, .error error⟩]
  | removed timeout now =>
    [⟨.peekTimeout id, .ok (some timeout)⟩, ⟨.clock, now⟩,
      ⟨.dispatch (departure isolated timeout now), .ok ()⟩, ⟨.removeTimeout id, .ok true⟩]
  -- another request has removed the timeout in the meantime
  | late timeout now =>
    [⟨.peekTimeout id, .ok (some timeout)⟩, ⟨.clock, now⟩,
      ⟨.dispatch (departure isolated timeout now), .ok ()⟩, ⟨.removeTimeout id, .ok false⟩]

/-- What is asked for next. -/
def request? : Stage → Option Effect
  | asking => some (.peekTimeout id)
  | found _ => some .clock
  | timed timeout now => some (.dispatch (departure isolated timeout now))
  | sent _ _ => some (.removeTimeout id)
  | unread _ | gone | refused _ _ _ | kept _ _ _ | removed _ _ | late _ _ => none

/-- What an invocation ends with that asks for nothing more. -/
def result? : Stage → Option StageResult
  | asking | found _ | timed _ _ | sent _ _ => none
  | unread error | kept _ _ error => some (.error (.storage error))
  | refused _ _ error => some (.error (.transport error))
  | gone | removed _ _ => some (.ok .completed)
  | late _ _ => some (.error (.storage (.other (removedElsewhere id))))

variable {id : String} {isolated : Bool} {stage : Stage}

/-- A stage in which something is asked for is not the end. -/
theorem result?_eq_none {effect : Effect} (h : stage.request? id isolated = some effect) :
    stage.result? id = none := by
  cases stage <;> first | rfl | cases h

/-- A stage in which nothing is asked for is the end. -/
theorem exists_result? (h : stage.request? id isolated = none) :
    ∃ result, stage.result? id = some result := by
  cases stage <;> first | exact ⟨_, rfl⟩ | cases h

/-- Only the timeout that the invocation is about is removed. -/
theorem eq_of_removeTimeout {asked : String}
    (h : stage.request? id isolated = some (.removeTimeout asked)) : asked = id := by
  cases stage with
  | sent =>
    cases h
    rfl
  | _ => cases h

/-- Whatever is asked for is answered. -/
theorem exists_serves {effect : Effect} (h : stage.request? id isolated = some effect)
    (store : TimeoutStore) : ∃ answer after, Serves store effect answer after := by
  cases stage with
  | asking =>
    cases h
    exact ⟨_, _, .found id⟩
  | found =>
    cases h
    exact ⟨_, _, .clock ⟨0, 0⟩⟩
  | timed =>
    cases h
    exact ⟨_, _, .sent _⟩
  | sent =>
    cases h
    exact ⟨_, _, .removed id⟩
  -- where a request has ended it asks for nothing
  | _ => cases h

/-- Four things are asked for at most. -/
theorem length_log_le : (stage.log id isolated).length ≤ 4 := by
  cases stage <;> simp [log]

/-- An invocation that has removed the timeout has come to the end. -/
theorem eq_removed (h : ∃ exchange ∈ stage.log id isolated, isRemoval exchange) :
    ∃ timeout now, stage = removed timeout now := by
  cases stage with
  | removed timeout now => exact ⟨timeout, now, rfl⟩
  | _ => simp [log, isRemoval] at h

/-- An invocation that has not found the timeout is at its end. -/
theorem eq_gone (h : ⟨.peekTimeout id, .ok none⟩ ∈ stage.log id isolated) : stage = gone := by
  cases stage with
  | gone => rfl
  | _ => simp [log] at h

/-- An invocation that has tried to send the message fails if it does not remove the timeout. -/
theorem eq_error_or_eq_removed {batch : Batch} {answer : Except TransportError Unit}
    {result : StageResult} (h : ⟨.dispatch batch, answer⟩ ∈ stage.log id isolated)
    (hresult : stage.result? id = some result) :
    (∃ failure, result = .error failure) ∨ ∃ timeout now, stage = removed timeout now := by
  cases stage with
  | removed timeout now => exact .inr ⟨timeout, now, rfl⟩
  | refused | kept | late =>
    cases hresult
    exact .inl ⟨_, rfl⟩
  | asking | found | timed | sent => cases hresult
  | unread | gone => simp [log] at h

end Stage

/-- An invocation is in a stage. -/
structure At (id : String) (request : Request) (stage : Stage) (log : List Exchange)
    (rest : Act (StageResult × ReceiveContext)) : Prop where
  /-- It has asked for what goes with the stage. -/
  log : log = stage.log id (isolatedUnder request.mode)
  /-- It asks for something next, -/
  asks : ∀ effect, stage.request? id (isolatedUnder request.mode) = some effect →
    ∃ next, rest = Program.call (S := Effect.signature) effect next
  /-- or it has ended. -/
  ended : ∀ result, stage.result? id = some result → rest = .done (result, request.context)

/-- A program that asks for something asks for one thing. -/
theorem at_call {id : String} {request : Request} {stage : Stage} {effect : Effect}
    {next : effect.Answer → Act (StageResult × ReceiveContext)}
    (hrequest : stage.request? id (isolatedUnder request.mode) = some effect) :
    At id request stage (stage.log id (isolatedUnder request.mode))
      (Program.call (S := Effect.signature) effect next) := by
  refine ⟨rfl, fun other hother => ?_, fun result hresult => ?_⟩
  · rw [hrequest] at hother
    cases hother
    exact ⟨next, rfl⟩
  · rw [Stage.result?_eq_none hrequest] at hresult
    cases hresult

/-- A program that has ended asks for nothing. -/
theorem at_done {id : String} {request : Request} {stage : Stage} {result : StageResult}
    (hresult : stage.result? id = some result) :
    At id request stage (stage.log id (isolatedUnder request.mode))
      (.done (result, request.context)) := by
  refine ⟨rfl, fun effect heffect => ?_, fun other hother => ?_⟩
  · rw [Stage.result?_eq_none heffect] at hresult
    cases hresult
  · rw [hresult] at hother
    cases hother
    rfl

theorem Asked.of_done {α : Type} {result : α} {log : List Exchange} {rest : Act α}
    (h : Asked (.done result) log rest) : log = [] ∧ rest = .done result := by
  cases h with
  | nil => exact ⟨rfl, rfl⟩

theorem Asked.of_call {α : Type} {effect : Effect} {next : effect.Answer → Act α}
    {log : List Exchange} {rest : Act α}
    (h : Asked (Program.call (S := Effect.signature) effect next) log rest) :
    log = [] ∧ rest = Program.call (S := Effect.signature) effect next ∨
      ∃ answer after, log = ⟨effect, answer⟩ :: after ∧ Asked (next answer) after rest := by
  cases h with
  | nil => exact .inl ⟨rfl, rfl⟩
  | cons h => exact .inr ⟨_, _, rfl, h⟩

/-- Whatever an invocation is answered, it is in one of the stages. -/
theorem asked_dispatchLast {id : String} {request : Request} (hnames : request.Names id)
    {log : List Exchange} {rest : Act (StageResult × ReceiveContext)}
    (h : Asked request.program log rest) : ∃ stage, At id request stage log rest := by
  rw [Request.program, dispatchLast, dispatchStored, show Message.header? _ _ = _ from hnames] at h
  obtain ⟨rfl, rfl⟩ | ⟨looked, log, rfl, hlooked⟩ := h.of_call
  · exact ⟨.asking, at_call rfl⟩
  -- each answer leads to the end or to the next of the four requests
  match looked with
  | .error error =>
    obtain ⟨rfl, rfl⟩ := hlooked.of_done
    exact ⟨.unread error, at_done rfl⟩
  | .ok none =>
    obtain ⟨rfl, rfl⟩ := hlooked.of_done
    exact ⟨.gone, at_done rfl⟩
  | .ok (some timeout) =>
    obtain ⟨rfl, rfl⟩ | ⟨now, log, rfl, htimed⟩ := hlooked.of_call
    · exact ⟨.found timeout, at_call rfl⟩
    obtain ⟨rfl, rfl⟩ | ⟨dispatched, log, rfl, hdispatched⟩ := htimed.of_call
    · exact ⟨.timed timeout now, at_call rfl⟩
    match dispatched with
    | .error error =>
      obtain ⟨rfl, rfl⟩ := hdispatched.of_done
      exact ⟨.refused timeout now error, at_done rfl⟩
    | .ok () =>
      obtain ⟨rfl, rfl⟩ | ⟨removed, log, rfl, hremoved⟩ := hdispatched.of_call
      · exact ⟨.sent timeout now, at_call rfl⟩
      match removed with
      | .error error =>
        obtain ⟨rfl, rfl⟩ := hremoved.of_done
        exact ⟨.kept timeout now error, at_done rfl⟩
      | .ok true =>
        obtain ⟨rfl, rfl⟩ := hremoved.of_done
        exact ⟨.removed timeout now, at_done rfl⟩
      | .ok false =>
        obtain ⟨rfl, rfl⟩ := hremoved.of_done
        exact ⟨.late timeout now, at_done rfl⟩

/-- An invocation that asks for something asks for what its stage says. -/
theorem At.request {id : String} {request : Request} {stage : Stage} {log : List Exchange}
    {effect : Effect} {next : effect.Answer → Act (StageResult × ReceiveContext)}
    (h : At id request stage log (Program.call (S := Effect.signature) effect next)) :
    stage.request? id (isolatedUnder request.mode) = some effect := by
  cases hrequest : stage.request? id (isolatedUnder request.mode) with
  | some asked =>
    obtain ⟨_, heq⟩ := h.asks asked hrequest
    cases heq
    rfl
  | none =>
    obtain ⟨result, hresult⟩ := Stage.exists_result? hrequest
    cases h.ended result hresult

/-- An invocation that has ended has ended as its stage says. -/
theorem At.result {id : String} {request : Request} {stage : Stage} {log : List Exchange}
    {result : StageResult} {context : ReceiveContext}
    (h : At id request stage log (.done (result, context))) : stage.result? id = some result := by
  cases hrequest : stage.request? id (isolatedUnder request.mode) with
  | some asked =>
    obtain ⟨_, heq⟩ := h.asks asked hrequest
    cases heq
  | none =>
    obtain ⟨ended, hended⟩ := Stage.exists_result? hrequest
    cases h.ended ended hended
    exact hended

/-! ### The log -/

section Log

variable {i j : Nat} {log : List (Nat × Exchange)} {exchange : Exchange}

/-- What an invocation has asked for is what stands in the log under its number. -/
theorem mem_own : exchange ∈ own i log ↔ (i, exchange) ∈ log := by
  simp [own]

/-- The invocations that have removed a timeout have asked for it. -/
theorem mem_removals : i ∈ removals log ↔ ∃ exchange ∈ own i log, isRemoval exchange := by
  simp [removals, mem_own, and_comm]

/-- `own` is what one of the requests has asked for, whatever the others ask in between. -/
@[simp] theorem own_concat_self : own i (log ++ [(i, exchange)]) = own i log ++ [exchange] := by
  simp [own]

theorem own_concat_of_ne (h : j ≠ i) : own i (log ++ [(j, exchange)]) = own i log := by
  simp [own, h]

/-- Only a removal that succeeds counts among the `removals`. -/
theorem removals_concat (h : isRemoval exchange = false) :
    removals (log ++ [(i, exchange)]) = removals log := by
  simp [removals, h]

theorem removals_concat_removal (h : isRemoval exchange = true) :
    removals (log ++ [(i, exchange)]) = removals log ++ [i] := by
  simp [removals, h]

end Log

/-! ### The invariant -/

/-- As long as nobody has removed it the timeout is as it was, and once somebody has it is gone. -/
def Tracked (id : String) (before after : TimeoutStore) (log : List (Nat × Exchange)) : Prop :=
  removals log = [] ∧ after.peek? id = before.peek? id ∨
    ∃ i, removals log = [i] ∧ after.peek? id = none

namespace Tracked

variable {id : String} {before after : TimeoutStore} {log : List (Nat × Exchange)}

/-- The timeout is as it was, or gone. -/
theorem peek? (h : Tracked id before after log) :
    after.peek? id = before.peek? id ∨ after.peek? id = none :=
  h.imp And.right fun ⟨_, _, hgone⟩ => hgone

/-- Whatever else is asked for leaves the timeout where it is. -/
theorem concat (h : Tracked id before after log) {exchange : Exchange}
    (hremoval : isRemoval exchange = false) (i : Nat) :
    Tracked id before after (log ++ [(i, exchange)]) := by
  rw [Tracked, removals_concat hremoval]
  exact h

/-- The timeout is removed if it is there. -/
theorem remove (h : Tracked id before after log) (i : Nat) :
    Tracked id before (after.remove id).2
      (log ++ [(i, ⟨.removeTimeout id, .ok (after.remove id).1⟩)]) := by
  have hgone : (after.remove id).2.peek? id = none := by
    rw [TimeoutStore.peek?_remove, if_pos rfl]
  cases hthere : (after.peek? id).isSome with
  | true =>
    rw [show (after.remove id).1 = true from hthere]
    -- whoever finds the timeout is the first to remove it
    obtain ⟨hnone, -⟩ | ⟨_, -, hremoved⟩ := h
    · exact .inr ⟨i, by rw [removals_concat_removal rfl, hnone, List.nil_append], hgone⟩
    · rw [hremoved] at hthere
      cases hthere
  | false =>
    have hnone : after.peek? id = none := Option.not_isSome_iff_eq_none.1 (by simp [hthere])
    rw [show (after.remove id).1 = false from hthere, Tracked, removals_concat rfl,
      hgone.trans hnone.symm]
    exact h

end Tracked

/-- What holds of a machine at any time after it was started with some requests. -/
structure Inv (id : String) (store : TimeoutStore) (requests : List Request) (machine : Machine) :
    Prop where
  /-- Every request has its invocation. -/
  length : machine.invocations.length = requests.length
  /-- An invocation has got from its beginning to where it is by what it was answered. -/
  courses : ∀ i request rest, requests[i]? = some request → machine.invocations[i]? = some rest →
    Asked request.program (own i machine.log) rest
  /-- Nobody else asks. -/
  logged : ∀ entry ∈ machine.log, entry.1 < requests.length
  /-- The other timeouts stay as they are. -/
  others : ∀ other, other ≠ id → machine.store.peek? other = store.peek? other
  /-- Whoever finds the timeout finds what was stored. -/
  faithful : ∀ timeout, ⟨.peekTimeout id, .ok (some timeout)⟩ ∈ machine.log.map (·.2) →
    store.peek? id = some timeout
  /-- The removals are those that the log shows. -/
  tracked : Tracked id store machine.store machine.log

theorem inv_start (id : String) (store : TimeoutStore) (requests : List Request) :
    Inv id store requests (.start store requests) where
  length := by simp [Machine.start]
  courses i request rest hrequest hrest := by
    rw [Machine.start, List.getElem?_map, hrequest] at hrest
    cases hrest
    exact .nil _
  logged := nofun
  others _ _ := rfl
  faithful := nofun
  tracked := .inl ⟨rfl, rfl⟩

section Inv

variable {id : String} {store : TimeoutStore} {requests : List Request} {machine : Machine}

/-- The timeout that is there is the one that was stored. -/
theorem Inv.found (h : Inv id store requests machine) {timeout : Timeout}
    (hfound : machine.store.peek? id = some timeout) : store.peek? id = some timeout := by
  obtain hsame | hgone := h.tracked.peek?
  · rw [← hsame, hfound]
  · rw [hgone] at hfound
    cases hfound

/-- An invocation is in a stage. -/
theorem Inv.stage (h : Inv id store requests machine) (hnames : ∀ r ∈ requests, r.Names id)
    {i : Nat} {request : Request} {rest : Act (StageResult × ReceiveContext)}
    (hrequest : requests[i]? = some request) (hrest : machine.invocations[i]? = some rest) :
    ∃ stage, At id request stage (own i machine.log) rest :=
  asked_dispatchLast (hnames request (List.mem_of_getElem? hrequest))
    (h.courses i request rest hrequest hrest)

/-- The request of an invocation. -/
theorem Inv.request (h : Inv id store requests machine) {i : Nat}
    {rest : Act (StageResult × ReceiveContext)} (hrest : machine.invocations[i]? = some rest) :
    ∃ request, requests[i]? = some request := by
  obtain ⟨hlt, _⟩ := List.getElem?_eq_some_iff.1 hrest
  exact ⟨_, List.getElem?_eq_getElem (h.length ▸ hlt)⟩

/-- The answer to a request keeps the invariant if the storage keeps it. -/
theorem Inv.answer (h : Inv id store requests machine) {i : Nat} {effect : Effect}
    {next : effect.Answer → Act (StageResult × ReceiveContext)} {answer : effect.Answer}
    {after : TimeoutStore}
    (hasks : machine.invocations[i]? = some (Program.call (S := Effect.signature) effect next))
    (hothers : ∀ other, other ≠ id → after.peek? other = machine.store.peek? other)
    (hfaithful : ∀ timeout,
      (⟨effect, answer⟩ : Exchange) = ⟨.peekTimeout id, .ok (some timeout)⟩ →
        store.peek? id = some timeout)
    (htracked : Tracked id store after (machine.log ++ [(i, ⟨effect, answer⟩)])) :
    Inv id store requests
      { store := after
        invocations := machine.invocations.set i (next answer)
        log := machine.log ++ [(i, ⟨effect, answer⟩)] } where
  length := by rw [List.length_set, h.length]
  courses j request rest hrequest hrest := by
    by_cases hij : i = j
    · subst hij
      obtain ⟨hlt, _⟩ := List.getElem?_eq_some_iff.1 hasks
      rw [List.getElem?_set_self hlt] at hrest
      cases hrest
      rw [own_concat_self]
      exact (h.courses i request _ hrequest hasks).concat answer
    · -- the other requests do not see the answer
      rw [List.getElem?_set_ne hij] at hrest
      rw [own_concat_of_ne hij]
      exact h.courses j request rest hrequest hrest
  logged entry hentry := by
    obtain hentry | hentry := List.mem_append.1 hentry
    · exact h.logged entry hentry
    · obtain rfl := List.mem_singleton.1 hentry
      obtain ⟨hlt, _⟩ := List.getElem?_eq_some_iff.1 hasks
      exact h.length ▸ hlt
  others other hother := (hothers other hother).trans (h.others other hother)
  faithful timeout hmem := by
    rw [List.map_append, List.mem_append] at hmem
    obtain hmem | hmem := hmem
    · exact h.faithful timeout hmem
    · exact hfaithful timeout (List.mem_singleton.1 hmem).symm
  tracked := htracked

/-- Every step keeps the invariant. -/
theorem inv_step {after : Machine} (hnames : ∀ request ∈ requests, request.Names id)
    (h : Inv id store requests machine) (hstep : Step machine after) :
    Inv id store requests after := by
  obtain ⟨hasks, hserved⟩ := hstep
  cases hserved with
  | clock | unread | sent | refused | kept =>
    exact h.answer hasks (fun _ _ => rfl) nofun (h.tracked.concat rfl _)
  | found looked =>
    refine h.answer hasks (fun _ _ => rfl) (fun timeout heq => ?_) (h.tracked.concat rfl _)
    rw [Exchange.mk.injEq] at heq
    obtain ⟨heffect, hanswer⟩ := heq
    cases heffect
    exact h.found (Except.ok.inj (eq_of_heq hanswer))
  | removed asked =>
    -- an invocation asks for the removal of the timeout that its request names
    obtain ⟨request, hrequest⟩ := h.request hasks
    obtain ⟨stage, hat⟩ := h.stage hnames hrequest hasks
    obtain rfl : asked = id := Stage.eq_of_removeTimeout hat.request
    refine h.answer hasks (fun other hother => ?_) nofun (h.tracked.remove _)
    rw [TimeoutStore.peek?_remove, if_neg hother]

/-- The invariant holds throughout. -/
theorem inv_of_steps (hnames : ∀ request ∈ requests, request.Names id)
    (hsteps : ReflTransGen Step (.start store requests) machine) :
    Inv id store requests machine := by
  induction hsteps with
  | refl => exact inv_start id store requests
  | tail _ hstep ih => exact inv_step hnames ih hstep

end Inv

/-! ### What holds of every machine -/

/-- What is guaranteed of the invocations for one timeout over a storage, at any time after they
were started. -/
structure Guarded (id : String) (store : TimeoutStore) (requests : List Request)
    (machine : Machine) : Prop where
  /-- The timeout stays as it is until it is gone. -/
  unaltered : machine.store.peek? id = store.peek? id ∨ machine.store.peek? id = none
  /-- The other timeouts stay as they are. -/
  others : ∀ other, other ≠ id → machine.store.peek? other = store.peek? other
  /-- The timeout is gone only if the one that removed it has sent its message to its
  destination. -/
  sent : ∀ timeout, store.peek? id = some timeout → machine.store.peek? id = none →
    ∃ i ∈ removals machine.log, ∃ request now, requests[i]? = some request ∧
      (i, ⟨.dispatch (departure (isolatedUnder request.mode) timeout now), .ok ()⟩) ∈ machine.log
  /-- It is removed once at most. -/
  once : (removals machine.log).length ≤ 1
  /-- Whoever removes it completes. -/
  remover : ∀ i ∈ removals machine.log, ∃ context,
    machine.invocations[i]? = some (.done (.ok .completed, context))
  /-- Whoever else has tried to send its message ends with a failure. -/
  failing : ∀ i batch answer result context, (i, ⟨.dispatch batch, answer⟩) ∈ machine.log →
    i ∉ removals machine.log → machine.invocations[i]? = some (.done (result, context)) →
    ∃ failure, result = .error failure
  /-- Whoever finds it gone completes and sends nothing. -/
  gone : ∀ i, (i, ⟨.peekTimeout id, .ok none⟩) ∈ machine.log →
    (∃ context, machine.invocations[i]? = some (.done (.ok .completed, context))) ∧
      ∀ batch answer, (i, ⟨.dispatch batch, answer⟩) ∉ machine.log
  /-- Every invocation has ended, or asks for something that is answered. -/
  onward : ∀ i < requests.length, ∃ rest, machine.invocations[i]? = some rest ∧
    ((∃ result, rest = .done result) ∨
      ∃ effect next answer after, rest = Program.call (S := Effect.signature) effect next ∧
        Serves machine.store effect answer after)
  /-- It asks four times at most. -/
  bounded : ∀ i < requests.length, (own i machine.log).length ≤ 4

section Conclusion

variable {id : String} {store : TimeoutStore} {requests : List Request} {machine : Machine}

/-- Every invocation is in a stage. -/
theorem Inv.exists_stage (h : Inv id store requests machine) (hnames : ∀ r ∈ requests, r.Names id)
    {i : Nat} (hlt : i < requests.length) :
    ∃ request rest stage, requests[i]? = some request ∧ machine.invocations[i]? = some rest ∧
      At id request stage (own i machine.log) rest := by
  have hrequest := List.getElem?_eq_getElem hlt
  have hrest := List.getElem?_eq_getElem (h.length.symm ▸ hlt)
  obtain ⟨stage, hat⟩ := h.stage hnames hrequest hrest
  exact ⟨_, _, stage, hrequest, hrest, hat⟩

/-- An invocation that has removed the timeout has sent its message and is at its end. -/
theorem Inv.at_removed (h : Inv id store requests machine) (hnames : ∀ r ∈ requests, r.Names id)
    {i : Nat} (hremoval : i ∈ removals machine.log) :
    ∃ request rest timeout now, requests[i]? = some request ∧
      machine.invocations[i]? = some rest ∧
      At id request (.removed timeout now) (own i machine.log) rest := by
  obtain ⟨exchange, hmem, hremoves⟩ := mem_removals.1 hremoval
  obtain ⟨request, rest, stage, hrequest, hrest, hat⟩ :=
    h.exists_stage hnames (h.logged _ (mem_own.1 hmem))
  obtain ⟨timeout, now, rfl⟩ := Stage.eq_removed ⟨exchange, hat.log ▸ hmem, hremoves⟩
  exact ⟨request, rest, timeout, now, hrequest, hrest, hat⟩

/-- The invariant gives the guarantees. -/
theorem Inv.guarded (h : Inv id store requests machine) (hnames : ∀ r ∈ requests, r.Names id) :
    Guarded id store requests machine where
  unaltered := h.tracked.peek?
  others := h.others
  sent timeout hstored hgone := by
    obtain ⟨-, hsame⟩ | ⟨i, hremovals, -⟩ := h.tracked
    · rw [hsame, hstored] at hgone
      cases hgone
    · have hremoval : i ∈ removals machine.log := hremovals ▸ List.mem_singleton_self i
      obtain ⟨request, rest, found, now, hrequest, -, hat⟩ := h.at_removed hnames hremoval
      have hmem {exchange : Exchange}
          (hlog : exchange ∈ Stage.log id (isolatedUnder request.mode) (.removed found now)) :
          (i, exchange) ∈ machine.log := mem_own.1 (hat.log ▸ hlog)
      -- what it has sent is the message that it has found, which is the one that was stored
      have hfound : store.peek? id = some found :=
        h.faithful found (List.mem_map.2 ⟨_, hmem (by simp [Stage.log]), rfl⟩)
      obtain rfl : timeout = found := Option.some.inj (hstored.symm.trans hfound)
      exact ⟨i, hremoval, request, now, hrequest, hmem (by simp [Stage.log])⟩
  once := by
    obtain ⟨hnone, -⟩ | ⟨i, hone, -⟩ := h.tracked
    · simp [hnone]
    · simp [hone]
  remover i hremoval := by
    obtain ⟨request, rest, timeout, now, -, hrest, hat⟩ := h.at_removed hnames hremoval
    exact ⟨request.context, hrest.trans (congrArg some (hat.ended _ rfl))⟩
  failing i batch answer result context hdispatch hother hended := by
    obtain ⟨request, rest, stage, -, hrest, hat⟩ := h.exists_stage hnames (h.logged _ hdispatch)
    obtain rfl := Option.some.inj (hrest.symm.trans hended)
    obtain hfailure | ⟨timeout, now, rfl⟩ :=
      Stage.eq_error_or_eq_removed (hat.log ▸ mem_own.2 hdispatch) hat.result
    · exact hfailure
    · exact absurd (mem_removals.2 ⟨⟨.removeTimeout id, .ok true⟩,
        by rw [hat.log]; simp [Stage.log], rfl⟩) hother
  gone i hmissing := by
    obtain ⟨request, rest, stage, -, hrest, hat⟩ := h.exists_stage hnames (h.logged _ hmissing)
    obtain rfl := Stage.eq_gone (hat.log ▸ mem_own.2 hmissing)
    refine ⟨⟨request.context, hrest.trans (congrArg some (hat.ended _ rfl))⟩,
      fun batch answer hdispatch => ?_⟩
    have hmem := mem_own.2 hdispatch
    rw [hat.log] at hmem
    simp [Stage.log] at hmem
  onward i hlt := by
    obtain ⟨request, rest, stage, -, hrest, hat⟩ := h.exists_stage hnames hlt
    refine ⟨rest, hrest, ?_⟩
    cases hrequest : stage.request? id (isolatedUnder request.mode) with
    | some effect =>
      obtain ⟨next, hasks⟩ := hat.asks effect hrequest
      obtain ⟨answer, after, hserved⟩ := Stage.exists_serves hrequest machine.store
      exact .inr ⟨effect, next, answer, after, hasks, hserved⟩
    | none =>
      obtain ⟨result, hresult⟩ := Stage.exists_result? hrequest
      exact .inl ⟨_, hat.ended result hresult⟩
  bounded i hlt := by
    obtain ⟨request, rest, stage, -, -, hat⟩ := h.exists_stage hnames hlt
    exact hat.log ▸ Stage.length_log_le

end Conclusion

/-- However the steps of the invocations for one timeout are interleaved, and whichever of them
fail, the timeout leaves the storage only after its message was sent, one invocation at most
completes by removing it, every other one that wanted to send the message fails, and one that finds
the timeout gone completes and sends nothing. -/
theorem sent_then_removed (id : String) (store : TimeoutStore) (requests : List Request)
    (hnames : ∀ request ∈ requests, request.Names id) (machine : Machine)
    (hsteps : ReflTransGen Step (.start store requests) machine) :
    Guarded id store requests machine :=
  (inv_of_steps hnames hsteps).guarded hnames

/-- A reminder that waits for its time. -/
def reminder : Timeout where
  id := "reminder"
  destination := "sales"
  body := []
  due := ⟨0, 0⟩
  headers := ∅
  owner := "sales"

/-- A storage with the reminder in it. -/
def shelf : TimeoutStore where
  timeouts := (∅ : Table Timeout).insert "reminder" reminder

/-- A request to send the reminder on. -/
def reminding : Request where
  mode := .receiveOnly
  context := ⟨⟨"request", (∅ : Headers).insert Header.timeoutIdToDispatch "reminder", []⟩, 0⟩

/-- Two requests come for the reminder. Both find it and send its message, and the one that removes
it second fails. -/
theorem sent_then_removed_reminder : ∃ machine,
    ReflTransGen Step (.start shelf [reminding, reminding]) machine ∧
    Guarded "reminder" shelf [reminding, reminding] machine ∧
    machine.store.peek? "reminder" = none ∧ removals machine.log = [1] ∧
    (∃ failure, machine.invocations[0]? = some (.done (.error failure, reminding.context))) := by
  have hnames : ∀ request ∈ [reminding, reminding], request.Names "reminder" := by
    simp [Request.Names, Message.header?, reminding]
  have hstart : ReflTransGen Step (.start shelf [reminding, reminding]) _ := .refl
  -- both find the reminder and send it before either removes it
  have hfound := hstart.tail (.answer (i := 0) rfl (.found "reminder"))
  have hfound' := hfound.tail (.answer (i := 1) rfl (.found "reminder"))
  have htimed := hfound'.tail (.answer (i := 0) rfl (.clock ⟨1, 0⟩))
  have hsent := htimed.tail (.answer (i := 0) rfl (.sent _))
  have htimed' := hsent.tail (.answer (i := 1) rfl (.clock ⟨2, 0⟩))
  have hsent' := htimed'.tail (.answer (i := 1) rfl (.sent _))
  have hremoved' := hsent'.tail (.answer (i := 1) rfl (.removed "reminder"))
  have hlate := hremoved'.tail (.answer (i := 0) rfl (.removed "reminder"))
  exact ⟨_, hlate, sent_then_removed "reminder" shelf _ hnames _ hlate, rfl, rfl, _, rfl⟩

end Messaging.Timeouts.Removing
