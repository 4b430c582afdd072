import Messaging.Proofs.Chronicle

/-!
# Order is kept across retries

A pump that processes one message at a time is the only one to take messages from its queue.

- `finished` are the messages that are done with, and `turn` is the number of the one whose turn it
  is then, counted as the messages were pushed.
- `Fits` says of an event that it happens to the message whose turn it is, and `Fitting` that all
  events do. `Fitting.uninterrupted` says what this means for two attempts of one message.
- `receipts_of_busy` and `receipts_single` say what the receiving task takes with one permission.
- `Hand` is what the pump has in hand: the message of an attempt, until it is put back or done with.
- `Serial` is what is known of a chronicle in which there is one permission, and `Serial.step` says
  that it stays known.
- `consumed_in_order` is the result.
-/

namespace Messaging.Succession

open Host Redelivery Conservation
open Relation (ReflTransGen)
open Time (Instant)

/-! ### Whose turn it is -/

/-- The message that is done with after an event: it was consumed or dropped. -/
def Event.settled? : Event → Option Queued
  | began _ => none
  | ended queued ending => if isReturned ending then none else some queued
  | dropped receipt => some receipt.queued

/-- The messages that are done with, first done first. -/
def finished (history : List Event) : List Queued := history.filterMap Event.settled?

/-- The number of the message whose turn it is. -/
def turn (history : List Event) : Nat := (finished history).length

/-- Whether an event is the end of an attempt. -/
def Event.isEnd : Event → Bool
  | ended _ _ => true
  | began _ | dropped _ => false

/-- Whether an attempt is under way after some events. -/
def isUnderWay (history : List Event) : Bool :=
  match history.getLast? with
  | some (.began _) => true
  | _ => false

/-- An event may follow others. -/
structure Fits (pushed : List Queued) (before : List Event) (event : Event) : Prop where
  /-- It happens to the message whose turn it is. -/
  turn : pushed[turn before]? = some event.queued
  /-- If an attempt is under way it is the end of this attempt, and otherwise it is no end. -/
  alternates : event.isEnd = isUnderWay before
  /-- Only a message whose time has passed is dropped. -/
  judged : event.Judged

/-- Every event fits those before it. -/
def Fitting (pushed : List Queued) (history : List Event) : Prop :=
  ∀ before event after, history = before ++ event :: after → Fits pushed before event

variable {pushed : List Queued} {history : List Event} {event : Event}

/-- `finished` goes through a history from its start, and so does `isUnderWay` by its last event. -/
@[simp]
theorem finished_append (history later : List Event) :
    finished (history ++ later) = finished history ++ finished later := List.filterMap_append

@[simp]
theorem isUnderWay_concat (history : List Event) (event : Event) :
    isUnderWay (history ++ [event]) = match event with
      | .began _ => true
      | _ => false := by
  rw [isUnderWay, List.getLast?_concat]
  cases event <;> rfl

namespace Fitting

theorem nil (pushed : List Queued) : Fitting pushed [] := by
  intro before event after h
  exact absurd h.symm (by simp)

/-- What happens does not depend on what is pushed later. -/
theorem mono (h : Fitting pushed history) (later : List Queued) :
    Fitting (pushed ++ later) history := by
  intro before event after hsplit
  obtain ⟨hturn, halternates, hjudged⟩ := h before event after hsplit
  refine ⟨?_, halternates, hjudged⟩
  obtain ⟨hlt, -⟩ := List.getElem?_eq_some_iff.1 hturn
  rw [List.getElem?_append_left hlt]
  exact hturn

/-- A history that is `Fitting` stays so with an event that `Fits`. -/
theorem concat (h : Fitting pushed history) (hevent : Fits pushed history event) :
    Fitting pushed (history ++ [event]) := by
  intro before other after hsplit
  rcases List.eq_nil_or_concat after with rfl | ⟨after', last, rfl⟩
  · obtain ⟨rfl, hlast⟩ := List.append_inj' hsplit rfl
    cases hlast
    exact hevent
  · rw [List.concat_eq_append, ← List.cons_append, ← List.append_assoc] at hsplit
    obtain ⟨hhistory, -⟩ := List.append_inj' hsplit rfl
    exact h before other after' hhistory

/-- The message behind those that are done with is the one whose turn it is. -/
theorem getElem?_turn {queued : Queued} {rest : List Queued}
    (hpushed : pushed = finished history ++ queued :: rest) :
    pushed[turn history]? = some queued := by
  rw [hpushed, turn, List.getElem?_append_right (Nat.le_refl _), Nat.sub_self]
  rfl

/-- Messages may be dropped one after another. -/
theorem drop (h : Fitting pushed history) (hended : isUnderWay history = false)
    {dropped : List Receipt} {rest : List Queued}
    (hpushed : pushed = finished history ++ (dropped.map (·.queued) ++ rest))
    (hdropped : ∀ receipt ∈ dropped, receipt.isDropped = true) :
    Fitting pushed (history ++ dropped.map Event.taken) ∧
      finished (history ++ dropped.map Event.taken)
        = finished history ++ dropped.map (·.queued) ∧
      isUnderWay (history ++ dropped.map Event.taken) = false := by
  induction dropped generalizing history with
  | nil => exact ⟨by simpa using h, by simp, by simpa using hended⟩
  | cons receipt others ih =>
    obtain ⟨hreceipt, hothers⟩ := List.forall_mem_cons.1 hdropped
    have htaken : Event.taken receipt = .dropped receipt := if_pos hreceipt
    -- whatever is dropped had its turn
    have hfits : Fits pushed history (.dropped receipt) :=
      ⟨getElem?_turn hpushed, hended.symm, hreceipt⟩
    have hfinished : finished (history ++ [.dropped receipt])
        = finished history ++ [receipt.queued] := finished_append ..
    have hrest := ih (h.concat hfits) (isUnderWay_concat ..)
      (by rw [hfinished, hpushed]; simp) hothers
    rw [hfinished] at hrest
    simpa [htaken] using hrest

/-- **No other message comes between two attempts.** From one attempt to a later one at the same
message whatever happens happens to this message. -/
theorem uninterrupted (h : Fitting pushed history) {before middle after : List Event}
    {first last : Receipt}
    (hsplit : history = before ++ .began first :: (middle ++ .began last :: after))
    (hsame : turn (before ++ .began first :: middle) = turn before) :
    last.queued = first.queued ∧ ∀ event ∈ middle, event.queued = first.queued := by
  have hfirst := (h _ _ _ hsplit).turn
  -- nothing is done with in between, so that the turn stays the same
  have hnone : finished middle = [] := by
    have hlength : (finished before).length + (finished middle).length
        = (finished before).length := by
      rw [turn, ← List.singleton_append, finished_append, finished_append] at hsame
      simpa [finished, Event.settled?, turn] using hsame
    exact List.eq_nil_of_length_eq_zero (by omega)
  have hturn {part rest : List Event} (hpart : middle = part ++ rest) :
      turn (before ++ .began first :: part) = turn before := by
    rw [hpart, finished_append, List.append_eq_nil_iff] at hnone
    rw [turn, ← List.singleton_append, finished_append, finished_append, hnone.1]
    simp [finished, Event.settled?, turn]
  constructor
  · have hlast := (h (before ++ .began first :: middle) (.began last) after (by simp [hsplit])).turn
    rw [hsame] at hlast
    exact Option.some.inj (hlast.symm.trans hfirst)
  · intro event hmem
    obtain ⟨part, rest, hpart⟩ := List.append_of_mem hmem
    have hevent := (h (before ++ .began first :: part) event (rest ++ .began last :: after)
      (by simp [hsplit, hpart])).turn
    rw [hturn hpart] at hevent
    exact Option.some.inj (hevent.symm.trans hfirst)

end Fitting

/-! ### One permission to receive -/

variable {id : RunId} {run : PumpRun} {host host' : Host} {c c' : Chronicle}

/-- While a message is in flight nothing is taken from the queue. -/
theorem receipts_of_busy (fuel : Nat) {phase : ReceivePhase} (h : Pumps id run host)
    (hgranted : Granted id 1 run.receiver phase host) (hbusy : flights id host ≠ []) :
    receipts run.receiver id fuel phase host = [] := by
  obtain ⟨run', hrun', -⟩ := h.known
  -- the task of the message holds the permission
  have hheld : 1 ≤ held id (host.finish run.receiver) := by
    have hlength := length_flights_le id (host.finish run.receiver)
    rw [(Takes.flights_finish h).length_eq] at hlength
    have hpositive := List.length_pos_iff.2 hbusy
    omega
  have hlimit := hgranted run' hrun'
  cases phase with
  | receiving =>
    simp only [heldBy, if_true] at hlimit
    omega
  | acquiring =>
    have hzero : run'.permits = 0 := by omega
    cases fuel with
    | zero => rfl
    | succ fuel =>
      obtain ⟨taken, next, host', hmove⟩ := exists_move run.receiver id .acquiring host
      rw [receipts_of_move hmove]
      cases hmove with
      | gone | ended | full => rfl
      | acquired hworks hfree =>
        cases hrun'.symm.trans hworks.known
        exact absurd hzero hfree

/-- Of the messages that were taken at most the last one is not dropped. -/
def Single (taken : List Receipt) : Prop :=
  ∃ (dropped : List Receipt) (kept : Option Receipt), taken = dropped ++ kept.toList ∧
    (∀ receipt ∈ dropped, receipt.isDropped = true) ∧
      ∀ receipt ∈ kept, receipt.isDropped = false

theorem Single.nil : Single [] := ⟨[], none, rfl, List.forall_mem_nil _, nofun⟩

theorem Single.cons {receipt : Receipt} {taken : List Receipt}
    (hdropped : receipt.isDropped = true) (h : Single taken) : Single (receipt :: taken) := by
  obtain ⟨dropped, kept, rfl, hall, hkept⟩ := h
  exact ⟨receipt :: dropped, kept, rfl, List.forall_mem_cons.2 ⟨hdropped, hall⟩, hkept⟩

/-- `begun` keeps the order in which messages were taken. -/
theorem begun_append (taken later : List Receipt) :
    begun (taken ++ later) = begun taken ++ begun later := by simp [begun]

/-- Messages of which at most the last is not dropped may be taken while no attempt is under way; an
attempt at the last one is under way then. -/
theorem Fitting.take {taken : List Receipt} (h : Fitting pushed history)
    (hended : isUnderWay history = false) (hsingle : Single taken) {rest : List Queued}
    (hpushed : pushed = finished history ++ (taken.map (·.queued) ++ rest)) :
    Fitting pushed (history ++ taken.map Event.taken) ∧
      pushed = finished (history ++ taken.map Event.taken) ++ (begun taken ++ rest) ∧
      (begun taken = [] ∧ isUnderWay (history ++ taken.map Event.taken) = false ∨
        ∃ queued, begun taken = [queued] ∧
          isUnderWay (history ++ taken.map Event.taken) = true) := by
  obtain ⟨dropped, kept, rfl, hdropped, hkept⟩ := hsingle
  rw [List.map_append, List.append_assoc] at hpushed
  obtain ⟨hfitting, hfinished, hafter⟩ := h.drop hended hpushed hdropped
  have hdrops : begun dropped = [] := by
    rw [begun, List.filter_eq_nil_iff.2 (by simpa using hdropped), List.map_nil]
  rw [begun_append, hdrops, List.nil_append, List.map_append, ← List.append_assoc]
  rw [← List.append_assoc, ← hfinished] at hpushed
  -- behind what is dropped comes nothing, or the one message whose attempt begins
  cases kept with
  | none => exact ⟨by simpa using hfitting, by simpa [begun] using hpushed, .inl (by simpa [begun])⟩
  | some receipt =>
    have hreceipt : receipt.isDropped = false := hkept receipt rfl
    have hbegan : Event.taken receipt = .began receipt := if_neg (by simp [hreceipt])
    have hkeeps : begun [receipt] = [receipt.queued] := by simp [begun, hreceipt]
    have hfits : Fits pushed (history ++ dropped.map Event.taken) (.began receipt) :=
      ⟨getElem?_turn hpushed, hafter.symm, hreceipt⟩
    simp only [Option.toList_some, List.map_cons, List.map_nil, hbegan, hkeeps]
    refine ⟨hfitting.concat hfits, ?_, .inr ⟨_, rfl, isUnderWay_concat ..⟩⟩
    rw [hpushed, finished_append]
    simp [finished, Event.settled?]

/-- A message whose processing has started is in flight. -/
theorem flights_startProcessing_ne_nil (host : Host) (id : RunId) (run : PumpRun)
    (queued : Queued) : flights id (host.startProcessing id run queued) ≠ [] := by
  intro hnone
  have hspawn := flights_spawn id host run.site
    (.process id queued (processing run queued.message))
  rw [flightOf, if_pos rfl] at hspawn
  exact List.append_ne_nil_of_right_ne_nil _ (by simp) (hspawn.symm.trans hnone)

/-- With one permission at most the last message that is taken is not dropped. -/
theorem receipts_single (fuel : Nat) (phase : ReceivePhase) (h : Pumps id run host)
    (hgranted : Granted id 1 run.receiver phase host) :
    Single (receipts run.receiver id fuel phase host) := by
  -- by induction on the fuel, with the permission that goes with each phase
  induction fuel generalizing phase host with
  | zero => exact .nil
  | succ fuel ih =>
    obtain ⟨taken, next, host', hmove⟩ := exists_move run.receiver id phase host
    rw [receipts_of_move hmove]
    have hpumps := (takes_of_move h hmove).pumps
    cases next with
    | none => cases hmove <;> exact .nil
    | some next =>
      have hgranted' := granted_of_move h hgranted hmove
      have hsingle := ih next hpumps hgranted'
      cases hmove with
      | acquired | found => exact hsingle
      | dropped hlooks htake => exact .cons (h.pops hlooks htake).2 hsingle
      | started hlooks htake =>
        -- the message that is not dropped takes the permission with it
        have hnone := receipts_of_busy fuel hpumps hgranted'
          (flights_startProcessing_ne_nil _ id _ _)
        refine ⟨[], some _, congrArg (receiptFor host _ ++ ·) hnone, List.forall_mem_nil _, ?_⟩
        rintro receipt ⟨⟩
        exact (h.pops hlooks htake).2

/-! ### What is in hand -/

/-- Until a message is put back or done with it is in hand. -/
def Closing.inHand (queued : Queued) : Closing → List Queued
  | raising _ | returning => [queued]
  | leaving => []

/-- What a run with one permission has in hand. -/
inductive Hand (id : RunId) (c : Chronicle) : List Queued → Prop where
  /-- Nothing is processed. -/
  | idle (hflights : flights id c.host = []) (hclosing : c.closing = fun _ => none)
      (hended : isUnderWay c.history = false) : Hand id c []
  /-- An attempt is under way. -/
  | trying {queued : Queued} (hflights : flights id c.host = [queued])
      (hclosing : c.closing = fun _ => none) (hbegan : isUnderWay c.history = true) :
      Hand id c [queued]
  /-- An attempt has ended, and something is left to do. -/
  | closing {task : TaskId} {queued : Queued} {closing : Closing}
      (hflights : flights id c.host = [queued])
      (hclosing : c.closing = Function.update (fun _ => none) task (some (queued, closing)))
      (hended : isUnderWay c.history = false) : Hand id c (closing.inHand queued)

/-- What is in hand stays there while nothing is taken, finished or put back. -/
theorem Hand.congr {hand : List Queued} (h : Hand id c hand)
    (hflights : (flights id c'.host).Perm (flights id c.host)) (hclosing : c'.closing = c.closing)
    (hhistory : c'.history = c.history) : Hand id c' hand := by
  cases h with
  | idle hnone hclosed hended =>
    rw [hnone, List.perm_nil] at hflights
    exact .idle hflights (hclosing.trans hclosed) (hhistory ▸ hended)
  | trying hone hclosed hbegan =>
    rw [hone, List.perm_singleton] at hflights
    exact .trying hflights (hclosing.trans hclosed) (hhistory ▸ hbegan)
  | closing hone hleft hended =>
    rw [hone, List.perm_singleton] at hflights
    exact .closing hflights (hclosing.trans hleft) (hhistory ▸ hended)

/-- What is known of a chronicle of a run with one permission. -/
structure Serial (id : RunId) (run : PumpRun) (c : Chronicle) : Prop where
  /-- The run works. -/
  worked : Worked id run 1 c
  /-- Behind the messages that are done with come the one in hand and those that wait, as they were
  pushed. -/
  behind : ∃ hand, Hand id c hand ∧
    c.pushed = finished c.history ++ (hand ++ waiting run.queue c.host.world.broker)
  /-- Every event fits those before it. -/
  fitting : Fitting c.pushed c.history

namespace Serial

/-- What happens to other runs leaves a run `Serial`. -/
theorem elsewhere (h : Serial id run c) (horderly : host'.Orderly)
    (hextends : Broker.Extends run.queue c.host.world.broker host'.world.broker)
    (huntouched : Untouched id c.host host') :
    Serial id run
      { c with
        host := host'
        pushed := c.pushed ++ arrived run.queue c.host.world.broker host'.world.broker } where
  worked := h.worked.elsewhere horderly hextends huntouched _
  behind := by
    obtain ⟨hand, hhand, hpushed⟩ := h.behind
    refine ⟨hand, hhand.congr (.of_eq huntouched.flights) rfl rfl, ?_⟩
    rw [waiting_of_extends hextends h.worked.hasQueue, hpushed]
    simp only [List.append_assoc]
  fitting := h.fitting.mono _

/-- So does the request to stop: the message in hand is not let go. -/
theorem cancel (h : Serial id run c) :
    Serial id run { c with host := c.host.cancel run.receiver } where
  worked := h.worked.cancel
  behind := by
    obtain ⟨hand, hhand, hpushed⟩ := h.behind
    refine ⟨hand, hhand.congr (.of_eq (flights_cancel ..)) rfl rfl, ?_⟩
    rw [world_cancel]
    exact hpushed
  fitting := h.fitting

/-- An attempt that goes on keeps its message in hand. -/
theorem work (h : Serial id run c) {task : TaskId} {queued : Queued} {rest rest' : Act StageResult}
    (hopen : c.closing task = none)
    (hjob : (c.host.task? task).map Task.job = some (.process id queued rest))
    (hleads : Leads rest rest')
    (halike : Alike (c.host.setJob task (.process id queued rest')) host') :
    Serial id run { c with host := host' } where
  worked := h.worked.work hopen hjob halike
  behind := by
    obtain ⟨hand, hhand, hpushed⟩ := h.behind
    -- the attempt keeps its message while it sleeps
    have hflights : (flights id host').Perm (flights id c.host) := by
      rw [flights_congr halike.tasks]
      exact (Settles.asleep h.worked.pumps hjob hleads 0).flying.symm
    refine ⟨hand, hhand.congr hflights rfl rfl, ?_⟩
    rw [halike.world]
    exact hpushed
  fitting := h.fitting

/-- What waits in the queue is taken from its front. -/
theorem waiting_receiveMessages (h : Serial id run c) (fuel : Nat) (phase : ReceivePhase) :
    waiting run.queue c.host.world.broker
      = (receipts run.receiver id fuel phase c.host).map (·.queued) ++
        waiting run.queue (receiveMessages run.receiver id fuel phase c.host).world.broker := by
  obtain ⟨messages, hmessages⟩ := Option.isSome_iff_exists.1 h.worked.hasQueue
  obtain ⟨left, hsplit, hleft⟩ :=
    (receiveMessages_takes fuel phase h.worked.pumps).queue messages hmessages
  rw [Conservation.waiting, Conservation.waiting,
    show c.host.world.broker.queue? run.queue = _ from hmessages,
    show Broker.queue? _ run.queue = _ from hleft]
  exact hsplit

/-- While a message is in hand nothing is taken. -/
theorem receive_of_busy (h : Serial id run c) {phase : ReceivePhase} (fuel : Nat)
    (hjob : (c.host.task? run.receiver).map Task.job = some (.receive id phase))
    (hflights : flights id c.host ≠ []) :
    receipts run.receiver id fuel phase c.host = [] ∧
      Serial id run { c with host := receiveMessages run.receiver id fuel phase c.host } := by
  have hworked := h.worked.receive fuel hjob c.history
  have hnone := receipts_of_busy fuel h.worked.pumps (h.worked.granted hjob) hflights
  have hflying := (receiveMessages_takes fuel phase h.worked.pumps).flying
  have hwaiting := h.waiting_receiveMessages fuel phase
  rw [hnone] at hflying hwaiting
  obtain ⟨hand, hhand, hpushed⟩ := h.behind
  rw [hwaiting] at hpushed
  exact ⟨hnone, hworked, ⟨hand, hhand.congr (by simpa [begun] using hflying) rfl rfl, hpushed⟩,
    h.fitting⟩

/-- Whoever receives takes the next messages in their order, and one at most to process it. -/
theorem receive (h : Serial id run c) {phase : ReceivePhase} (fuel : Nat)
    (hjob : (c.host.task? run.receiver).map Task.job = some (.receive id phase)) :
    Serial id run
      { c with
        host := receiveMessages run.receiver id fuel phase c.host
        history := c.history ++
          (receipts run.receiver id fuel phase c.host).map Event.taken } := by
  have hbusy (hflights : flights id c.host ≠ []) : Serial id run
      { c with
        host := receiveMessages run.receiver id fuel phase c.host
        history := c.history ++
          (receipts run.receiver id fuel phase c.host).map Event.taken } := by
    obtain ⟨hnone, hserial⟩ := h.receive_of_busy fuel hjob hflights
    rw [hnone]
    simpa using hserial
  obtain ⟨hand, hhand, hpushed⟩ := h.behind
  cases hhand with
  | trying hone => exact hbusy (by rw [hone]; exact List.cons_ne_nil _ _)
  | closing hone => exact hbusy (by rw [hone]; exact List.cons_ne_nil _ _)
  | idle hnone hclosed hended =>
    have hflying := (receiveMessages_takes fuel phase h.worked.pumps).flying
    have hsingle := receipts_single fuel phase h.worked.pumps (h.worked.granted hjob)
    rw [hnone, List.nil_append] at hflying
    rw [List.nil_append, h.waiting_receiveMessages fuel phase] at hpushed
    -- the message that is kept, if there is one, is in hand from now on
    obtain ⟨hfitting, hbehind, hhand⟩ := h.fitting.take hended hsingle hpushed
    refine ⟨h.worked.receive fuel hjob _, ⟨_, ?_, hbehind⟩, hfitting⟩
    rcases hhand with ⟨hnothing, hended'⟩ | ⟨queued, hone, hbegan⟩
    · rw [hnothing] at hflying ⊢
      exact .idle (List.perm_nil.1 hflying) hclosed hended'
    · rw [hone] at hflying ⊢
      exact .trying (List.perm_singleton.1 hflying) hclosed hbegan

/-- An attempt that ends is the one under way, and its message is in hand until it is put back. -/
theorem finish (h : Serial id run c) {task : TaskId} {queued : Queued} {rest : Act StageResult}
    (hopen : c.closing task = none)
    (hjob : (c.host.task? task).map Task.job = some (.process id queued rest))
    (ending : Except Panic StageResult) :
    Serial id run
      { c with
        history := c.history ++ [.ended queued ending]
        closing := Function.update c.closing task (some (queued, .start ending)) } := by
  have hworked := h.worked.finish hjob (.start ending) (c.history ++ [.ended queued ending])
  have hmem := mem_flights hjob
  obtain ⟨hand, hhand, hpushed⟩ := h.behind
  cases hhand with
  | idle hnone =>
    rw [hnone] at hmem
    cases hmem
  | @closing other _ _ _ hclosing =>
    -- the message in hand is that of the same task, which has ended already
    obtain ⟨last, hother⟩ := h.worked.closing other _ _
      ((congrFun hclosing other).trans (Function.update_self ..))
    have hsame := h.worked.limited.alone h.worked.pumps hjob hother
    rw [hclosing, hsame, Function.update_self] at hopen
    cases hopen
  | trying hone hclosing hbegan =>
    rw [hone, List.mem_singleton] at hmem
    subst hmem
    have hfits : Fits c.pushed c.history (.ended queued ending) :=
      ⟨Fitting.getElem?_turn hpushed, hbegan.symm, trivial⟩
    refine ⟨hworked, ⟨_, .closing hone (by rw [hclosing]) (isUnderWay_concat ..), ?_⟩,
      h.fitting.concat hfits⟩
    -- consumed, the message counts among those that are done with, and otherwise it is in hand
    rw [finished_append, hpushed, List.append_assoc, ← List.append_assoc (finished [_])]
    congr 2
    match ending with
    | .ok (.ok .completed) => rfl
    | .ok (.ok .retryRequested) => rfl
    | .ok (.ok (.movedToErrorQueue failure)) => rfl
    | .ok (.error failure) => rfl
    | .error payload => rfl

/-- What is left to do puts the message back before anything else is taken. -/
theorem close (h : Serial id run c) {task : TaskId} {queued : Queued} {closing : Closing}
    (hclosing : c.closing task = some (queued, closing)) :
    Serial id run
      { c with
        host := closing.apply id run task queued c.host
        closing := Function.update c.closing task (closing.next?.map (queued, ·)) } := by
  have hworked := h.worked.close hclosing
  obtain ⟨rest, hjob⟩ := h.worked.closing task queued closing hclosing
  obtain ⟨-, hqueue⟩ := closing.apply_leaves h.worked.pumps hjob
  obtain ⟨messages, hmessages⟩ := Option.isSome_iff_exists.1 h.worked.hasQueue
  have hwaiting : waiting run.queue (closing.apply id run task queued c.host).world.broker
      = closing.putBack queued ++ waiting run.queue c.host.world.broker := by
    rw [hmessages] at hqueue
    rw [Conservation.waiting, Conservation.waiting, show Broker.queue? _ run.queue = _ from hqueue,
      show c.host.world.broker.queue? run.queue = _ from hmessages]
    rfl
  obtain ⟨hand, hhand, hpushed⟩ := h.behind
  cases hhand with
  | idle _ hnone =>
    rw [hnone] at hclosing
    cases hclosing
  | trying _ hnone =>
    rw [hnone] at hclosing
    cases hclosing
  | @closing other _ _ hone hleft hended =>
    -- with one permission no other attempt has something left to do
    have hsame : task = other := by
      by_contra hne
      rw [hleft, Function.update_of_ne hne] at hclosing
      cases hclosing
    subst hsame
    rw [hleft, Function.update_self] at hclosing
    cases hclosing
    have hclosing' (next : Option (Queued × Closing)) :
        Function.update c.closing task next = Function.update (fun _ => none) task next := by
      rw [hleft, Function.update_idem]
    -- until the last thing is done the message is in hand or back in front of the queue
    cases hnext : closing.next? with
    | some next =>
      have hsame := closing.samePumps_apply id run task queued c.host hnext
      rw [hnext] at hworked
      refine ⟨hworked, ⟨_, .closing ((flights_congr hsame.tasks).trans hone) (hclosing' _) hended,
        ?_⟩, h.fitting⟩
      rw [hwaiting, hpushed, ← List.append_assoc (next.inHand queued)]
      congr 2
      cases closing <;> cases hnext <;> rfl
    | none =>
      cases closing with
      | raising payload => cases hnext
      | returning => cases hnext
      | leaving =>
        have hflying := (Settles.ended h.worked.pumps hjob).flying
        rw [hone, List.singleton_append, List.perm_cons, List.nil_perm] at hflying
        refine ⟨hworked, ⟨[], .idle hflying ?_ hended, ?_⟩, h.fitting⟩
        · exact (hclosing' _).trans (Function.update_eq_self ..)
        · rw [hwaiting]
          exact hpushed

/-- What is known stays known whatever happens next. -/
theorem step (h : Serial id run c) (hstep : Step id run c c') : Serial id run c' := by
  cases hstep with
  | elsewhere horderly hextends huntouched => exact h.elsewhere horderly hextends huntouched
  | cancel => exact h.cancel
  | receive fuel hjob => exact h.receive fuel hjob
  | work hopen hjob hleads halike => exact h.work hopen hjob hleads halike
  | finish hopen hjob hends => exact h.finish hopen hjob _
  | close hclosing => exact h.close hclosing

/-- A run stays `Serial` along all of its steps. -/
theorem steps (h : Serial id run c) (hsteps : ReflTransGen (Step id run) c c') :
    Serial id run c' := by
  induction hsteps with
  | refl => exact h
  | tail _ hstep ih => exact ih.step hstep

end Serial

/-! ### The order of the messages -/

/-- A pump keeps the order of the messages of its queue. -/
structure InOrder (id : RunId) (run : PumpRun) (c : Chronicle) : Prop where
  /-- The messages that are done with are those that were pushed first, in the same order. -/
  order : finished c.history <+: c.pushed
  /-- Whatever happens happens to the message whose turn it is. -/
  fitting : Fitting c.pushed c.history
  /-- From one attempt to a later one at the same message nothing happens to any other message. -/
  uninterrupted : ∀ before first middle last after,
    c.history = before ++ .began first :: (middle ++ .began last :: after) →
      turn (before ++ .began first :: middle) = turn before →
        last.queued = first.queued ∧ ∀ event ∈ middle, event.queued = first.queued
  /-- Those that come later wait in the queue, but for one that is in hand. -/
  behind : ∃ hand : List Queued, hand.length ≤ 1 ∧
    c.pushed = finished c.history ++ (hand ++ waiting run.queue c.host.world.broker)
  /-- What the receiving task does next is a step. -/
  pollReceiver : ∀ state, c.host.task? run.receiver = some state →
    ∃ history, Step id run c { c with host := c.host.pollTask run.receiver, history }
  /-- What the task of an attempt does next are some steps. -/
  pollProcessing : ∀ task queued rest, c.closing task = none →
    (c.host.task? task).map Task.job = some (.process id queued rest) →
      ∃ c', ReflTransGen (Step id run) c c' ∧ c'.host = c.host.pollTask task

/-- No more than one message is in hand, as there is one permission. -/
theorem Hand.length_le {hand : List Queued} (h : Hand id c hand) : hand.length ≤ 1 := by
  cases h with
  | idle => exact Nat.zero_le _
  | trying => exact Nat.le_refl _
  | @closing _ _ closing => cases closing <;> simp [Closing.inHand]

/-- What is known says that order is kept. -/
theorem Serial.inOrder (h : Serial id run c) : InOrder id run c where
  order := by
    obtain ⟨hand, -, hpushed⟩ := h.behind
    exact ⟨_, hpushed.symm⟩
  fitting := h.fitting
  uninterrupted _ _ _ _ _ hsplit hsame := h.fitting.uninterrupted hsplit hsame
  behind := by
    obtain ⟨hand, hhand, hpushed⟩ := h.behind
    exact ⟨hand, hhand.length_le, hpushed⟩
  pollReceiver _ hstate := reaches_pollReceiver h.worked hstate
  pollProcessing _ _ _ hopen hjob := reaches_pollProcessing h.worked hopen hjob

variable {key : PumpKey} {pump : PumpState}

/-- A pump that was started with one permission has nothing in hand. -/
theorem serial_start (h : Ready host key pump) :
    Serial host.runs.size (runOf host key pump (some 1)) (.start host key pump (some 1)) := by
  refine ⟨h.worked_start (some 1), ⟨[], .idle (h.flights_startPump (some 1)) rfl rfl, ?_⟩, .nil _⟩
  change _ = [] ++ ([] ++ waiting pump.queue (host.startPump key (some 1)).2.world.broker)
  rw [h.world_startPump]
  rfl

/-- **Order is kept across retries.** A pump is started with one permission, and nobody else takes
messages from its queue. Whatever is pushed meanwhile, however attempts end, and whatever happens
between the end of one and the moment at which its permission is given back, the messages are
consumed or dropped in the order in which they were pushed, and nothing else is attempted between
two attempts at one of them. -/
theorem consumed_in_order (hready : Ready host key pump)
    (hreached : Reached host key pump (some 1) c) :
    InOrder host.runs.size (runOf host key pump (some 1)) c :=
  ((serial_start hready).steps hreached).inOrder

/-- A pump that is done with messages when its clock says so, and wants to have them again
before. -/
def wavering : PumpEntry := fun _ _ => do
  let now ← Act.ask .clock
  pure (.ok (if now < ⟨60, 0⟩ then .retryRequested else .completed))

/-- The pump of a post office. -/
def postPump : PumpState := { key := ⟨0, 0⟩, entry := wavering, queue := "post" }

/-- A parcel that does not expire. -/
def parcel : Queued := ⟨⟨"parcel", ∅, []⟩, none⟩

/-- A host with a queue in which a parcel waits, and something that is out of date. -/
def depot : Host where
  world :=
    { clock := ⟨60, 0⟩
      broker := (({} : Broker).createQueue "post").2.push "post" parcel
        |>.push "post" ⟨⟨"paper", ∅, []⟩, some ⟨0, 0⟩⟩ }
  sites := #[{}]
  pumps := [postPump]

theorem ready_depot : Ready depot ⟨0, 0⟩ postPump :=
  ⟨⟨nofun, List.nodup_nil, nofun⟩, rfl, rfl, rfl⟩

/-- The run of the pump once it is started. -/
def postRun : PumpRun := runOf depot ⟨0, 0⟩ postPump (some 1)

/-- Before its time a message is wanted again. -/
theorem ends_retryRequested (message : Message) :
    Ends (processing postRun message) (.ok (.ok .retryRequested)) :=
  have hscope : Leads (processing postRun message) _ := .answer .refl (0 : ScopeId)
  hscope.answer (⟨0, 0⟩ : Instant)

/-- After its time it is done with. -/
theorem ends_completed (message : Message) :
    Ends (processing postRun message) (.ok (.ok .completed)) :=
  have hscope : Leads (processing postRun message) _ := .answer .refl (0 : ScopeId)
  hscope.answer (⟨60, 0⟩ : Instant)

/-- A letter arrives while a parcel is put back, and the parcel comes first. -/
theorem consumed_in_order_parcel : ∃ c, InOrder 0 postRun c ∧
    c.pushed.map (·.message.id) = ["parcel", "paper", "letter"] ∧
    c.history.map (·.queued.message.id)
      = ["parcel", "parcel", "parcel", "parcel", "paper", "letter"] ∧
    (finished c.history).map (·.message.id) = ["parcel", "paper"] := by
  -- the parcel is tried and put back
  have htaken : Reached depot ⟨0, 0⟩ postPump (some 1) _ := .single (.receive 8 rfl)
  have htried := htaken.tail
    (@Step.finish 0 postRun _ 1 parcel _ _ rfl rfl (ends_retryRequested parcel.message))
  have hback := htried.tail (.close (Function.update_self ..))
  -- before its permission is given back a letter is pushed
  have hpush : Conservation.Apart ⟨0, 0⟩ "post" (.running 0) _ _ := apart_push
    ((serial_start ready_depot).steps hback).worked.pumps.orderly (.running 0)
    ⟨⟨"letter", ∅, []⟩, none⟩
  have hpushed := hback.tail (.elsewhere hpush.orderly hpush.queue (hpush.run 0 rfl))
  have hleft := hpushed.tail (.close (Function.update_self ..))
  -- tried again, the parcel is consumed
  have hagain := hleft.tail (.receive 8 rfl)
  have hdone := hagain.tail
    (@Step.finish 0 postRun _ 2 parcel _ _ rfl rfl (ends_completed parcel.message))
  have hreleased := hdone.tail (.close (Function.update_self ..))
  have hlast := hreleased.tail (.receive 8 rfl)
  exact ⟨_, consumed_in_order ready_depot hlast, by decide +kernel, by decide +kernel,
    by decide +kernel⟩

end Messaging.Succession
