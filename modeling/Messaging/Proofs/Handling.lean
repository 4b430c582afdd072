import Messaging.Memory.Transport
import Messaging.Proofs.Confining
import Messaging.Proofs.Unpacking

/-!
# Which handlers are called, and with what

The handlers of a message are called one after another, each in a scope of its own below the scope
of the message. A handler is user code that may do anything but write into scopes that are not its
own.

- `Undisturbed` is what others leave alone between two requests of a receive: what is seen from its
  scopes. `serves` is how requests are answered meanwhile.
- `Confined.seen` says that a program that is confined to some scopes changes nothing for one that
  is older than these.
- `Call` is one call of a handler, and `Calls` the calls that are made for a message.
- `Handled` says what the calls for a message have in common and what they come to, and
  `Calls.empty` that nothing is to be dispatched where they have staged nothing. `receive_handled`
  says that every receive ends so.
-/

namespace Messaging.Handling

open Incoming (closing opening readContext)
open Redelivery (Decided Moment Serves Spared invocationPipeline scopeOf staged stagedBy
  staged_of_served terms)

/-! ### Others -/

/-- What others leave alone: the lists of staged operations, and all that is seen from the scopes of
the receive. -/
structure Undisturbed (s t : Moment) : Prop extends Spared s t where
  /-- What is seen from the scopes of the receive stays. -/
  seen : ∀ scope, s.Owns scope → ∀ slot : Slot,
    t.world.scopes.get? slot scope = s.world.scopes.get? slot scope

/-- How the requests of a receive are answered while others go on. -/
def serves : Service Moment := Contract.among ⟨Serves, Undisturbed, fun _ _ => True⟩

theorem Undisturbed.refl (s : Moment) : Undisturbed s s :=
  ⟨.refl s, fun _ _ _ => rfl⟩

/-- Every request is answered. -/
theorem exists_serves (s : Moment) (effect : Effect) : ∃ answer t, serves s effect answer t := by
  obtain ⟨answer, t, hserved⟩ := Serves.exists s effect
  exact ⟨answer, t, s, .refl s, hserved⟩

/-- What others leave alone here they leave alone in any attempt. -/
theorem among_of_serves {s u : Moment} {effect : Effect} {answer : effect.Answer}
    (h : serves s effect answer u) : terms.among s effect answer u := by
  obtain ⟨t, hrely, hserved⟩ := h
  exact ⟨t, hrely.toSpared, hserved⟩

variable {s t u : Moment} {scope : ScopeId} {α : Type}

/-- A scope of the receive stays one, and sees what it has seen before. -/
structure Sees (scope : ScopeId) (s t : Moment) : Prop where
  /-- The scope is one of the receive. -/
  owned : t.Owns scope
  /-- It sees the same values. -/
  seen : ∀ slot : Slot, t.world.scopes.get? slot scope = s.world.scopes.get? slot scope

theorem Sees.refl (h : s.Owns scope) : Sees scope s s := ⟨h, fun _ => rfl⟩

theorem Sees.trans (hst : Sees scope s t) (htu : Sees scope t u) : Sees scope s u :=
  ⟨htu.owned, fun slot => (htu.seen slot).trans (hst.seen slot)⟩

/-- Others change nothing for a scope of the receive. -/
theorem Undisturbed.sees (h : Undisturbed s t) (hscope : s.Owns scope) : Sees scope s t where
  owned := h.owns hscope
  seen := h.seen scope hscope

/-! ### Writing -/

/-- A value that is written into a younger scope is not seen. -/
theorem get?_set_of_lt (scopes : Scopes) {id : ScopeId} (hid : scope < id) (slot other : Slot)
    (value : slot.Value) :
    (scopes.set id slot value).get? other scope = scopes.get? other scope := by
  refine ScopeForest.get?_congr fun node hnode => ?_
  have hne : id ≠ node := Nat.ne_of_gt (Nat.lt_of_le_of_lt hnode hid)
  rw [ScopeForest.set, ScopeForest.put, Array.getElem?_modify, if_neg hne]

/-- Nothing changes for a scope with a request that does not write into it or an older one. -/
theorem get?_perform (world : World) (effect : Effect) (hscope : scope < world.scopes.nodes.size)
    (hwrites : ∀ id slot value, effect = .writeSlot id slot value → scope < id) (slot : Slot) :
    (world.perform effect).2.scopes.get? slot scope = world.scopes.get? slot scope := by
  cases effect
  case openScope parent => exact ScopeForest.get?_openUnder _ _ _ hscope
  case writeSlot id slot value => exact get?_set_of_lt _ (hwrites _ _ _ rfl) _ _ _
  case dispatch batch =>
    rw [World.perform, World.dispatch]
    split <;> rfl
  all_goals rfl

/-- With a served request that does not write into it, or an older scope, a scope of the receive
sees what it has seen before. -/
theorem Sees.of_served {effect : Effect} {answer : effect.Answer}
    (hserved : serves s effect answer u) (hscope : s.Owns scope)
    (hwrites : ∀ id slot value, effect = .writeSlot id slot value → scope < id) :
    Sees scope s u := by
  obtain ⟨t, hrely, hserved⟩ := hserved
  have hst := hrely.sees hscope
  cases hserved with
  | slept => exact hst
  | performed => exact hst.trans ⟨hst.owned.after effect, get?_perform _ _ hst.owned.2 hwrites⟩

/-- A scope that is opened is younger than all that there are. -/
theorem lt_of_opened {effect : Effect} {answer : effect.Answer} {id : ScopeId}
    (hserved : serves s effect answer u) (hscope : s.Owns scope)
    (hid : scopeOf ⟨effect, answer⟩ = some id) : scope < id := by
  obtain ⟨t, hrely, hserved⟩ := hserved
  have howned := (hrely.sees hscope).owned
  cases effect
  case openScope parent =>
    cases hserved with
    | performed =>
      cases hid
      exact howned.2
  all_goals cases hid

/-- A program that is confined to younger scopes changes nothing for a scope of the receive. -/
theorem Confined.seen {own : List ScopeId} {program : Act α} {result : α}
    (h : Confined own program) (hruns : Runs serves program s result u) (hscope : s.Owns scope)
    (hown : ∀ id ∈ own, scope < id) : Sees scope s u := by
  -- by induction on the run; the scopes that are opened on the way are younger as well
  induction hruns generalizing own with
  | done => exact .refl hscope
  | call hserved _ ih =>
    obtain ⟨hwrites, hnext⟩ := h
    have hst := Sees.of_served hserved hscope fun id slot value heffect =>
      hown id (hwrites id slot value heffect)
    refine hst.trans (ih (hnext _) hst.owned fun id hid => ?_)
    rcases List.mem_append.1 hid with hopened | hbefore
    · exact lt_of_opened hserved hscope (Option.mem_toList.1 hopened)
    · exact hown id hbefore

/-! ### Calls -/

/-- How the turn of a handler has ended. -/
inductive CallEnd where
  /-- The content is none for the handler, which is not called. -/
  | refused (reason : String)
  /-- The handler was called and has ended or panicked. -/
  | ended (ending : Except Panic (HandlerEnd × HandlerContext))

/-- One call of a handler. -/
structure Call where
  /-- The handler. -/
  handler : Handler
  /-- What it is given. -/
  given : HandlerContext
  /-- When it starts. -/
  start : Moment
  /-- How it ends. -/
  ending : CallEnd
  /-- When it has ended. -/
  stop : Moment

/-- What a call comes to for the message, unless the next handler is called. -/
def Call.verdict? (call : Call) : Option StageResult :=
  match call.ending with
  | .refused reason => some (.error (.deserialization call.given.messageId reason))
  | .ended (.error payload) => some (.error (Incoming.panicFailure call.handler.name payload))
  | .ended (.ok (.panicked payload, _)) =>
    some (.error (Incoming.panicFailure call.handler.name payload))
  | .ended (.ok (.failed failure, _)) => some (.error failure)
  | .ended (.ok (.returned, after)) => if after.stopped then some (.ok .completed) else none

/-- A call takes place: the handler runs on the content of the message, if that is of its type. -/
def Call.Happens (call : Call) : Prop :=
  match call.ending with
  | .refused reason =>
    call.handler.accept call.given.message.body = .error reason ∧ call.stop = call.start
  | .ended ending =>
    ∃ content, call.handler.accept call.given.message.body = .ok content ∧
      Runs serves (call.handler.handle content call.given).attempt call.start ending call.stop

/-- What a handler of a message is given. -/
def given (operations : Operations) (context : IncomingContext) (handler : Handler)
    (scope : ScopeId) : HandlerContext where
  messageId := context.messageId
  headers := context.headers
  message := context.message
  handlerName := handler.name
  operations
  scope

/-- The calls of handlers one after another, each in a new scope below that of the message, up to
the first that has a verdict; without any the message is completed. -/
inductive Calls (operations : Operations) (context : IncomingContext) :
    List Handler → Moment → List Call → StageResult → Moment → Prop where
  /-- There is no handler any more. -/
  | nil (s : Moment) : Calls operations context [] s [] (.ok .completed) s
  /-- The call of a handler is the last one. -/
  | last {handler : Handler} {rest : List Handler} {scope : ScopeId} {ending : CallEnd}
      {result : StageResult} {s t u : Moment}
      (hopen : serves s (.openScope (some context.scope)) scope t)
      (hcall : Call.Happens ⟨handler, given operations context handler scope, t, ending, u⟩)
      (hverdict : Call.verdict? ⟨handler, given operations context handler scope, t, ending, u⟩
        = some result) :
      Calls operations context (handler :: rest) s
        [⟨handler, given operations context handler scope, t, ending, u⟩] result u
  /-- The next handler is called. -/
  | more {handler : Handler} {rest : List Handler} {scope : ScopeId} {ending : CallEnd}
      {calls : List Call} {result : StageResult} {s t u v : Moment}
      (hopen : serves s (.openScope (some context.scope)) scope t)
      (hcall : Call.Happens ⟨handler, given operations context handler scope, t, ending, u⟩)
      (hverdict : Call.verdict? ⟨handler, given operations context handler scope, t, ending, u⟩
        = none)
      (hrest : Calls operations context rest u calls result v) :
      Calls operations context (handler :: rest) s
        (⟨handler, given operations context handler scope, t, ending, u⟩ :: calls) result v

variable {operations : Operations} {context : IncomingContext} {handlers : List Handler}
  {calls : List Call} {result : StageResult}

/-- A turn of a handler is a call of it, and its verdict decides how the message goes on. -/
theorem call_of_runs {handler : Handler} {scope : ScopeId} {answer : StageResult}
    {after : Invocation}
    (hruns : Runs serves (Incoming.invokeHandler
      { toHandlerContext := given operations context handler scope, handler }) s
      (answer, after) u) :
    ∃ ending, Call.Happens ⟨handler, given operations context handler scope, s, ending, u⟩ ∧
      Decided answer ∧
      Call.verdict? ⟨handler, given operations context handler scope, s, ending, u⟩
        = match answer with
          | .ok _ => if after.stopped then some (.ok .completed) else none
          | .error failure => some (.error failure) := by
  rw [Incoming.invokeHandler] at hruns
  -- the handler does not accept the message, or it is called and ends in one of four ways
  split at hruns
  · next reason haccept =>
    obtain ⟨hanswer, rfl⟩ := hruns.of_done
    cases hanswer
    exact ⟨.refused reason, ⟨haccept, rfl⟩, trivial, rfl⟩
  · next content haccept =>
    obtain ⟨ended, t, hhandle, hrest⟩ := Runs.of_bind hruns
    obtain payload | ⟨ending, left⟩ := ended
    · obtain ⟨hanswer, rfl⟩ := hrest.of_done
      cases hanswer
      exact ⟨.ended (.error payload), ⟨content, haccept, hhandle⟩, trivial, rfl⟩
    · cases ending with
      | returned =>
        obtain ⟨hanswer, rfl⟩ := hrest.of_done
        cases hanswer
        exact ⟨.ended (.ok (.returned, left)), ⟨content, haccept, hhandle⟩, rfl, rfl⟩
      | failed failure =>
        obtain ⟨hanswer, rfl⟩ := hrest.of_done
        cases hanswer
        exact ⟨.ended (.ok (.failed failure, left)), ⟨content, haccept, hhandle⟩, trivial, rfl⟩
      | panicked payload =>
        obtain ⟨hanswer, rfl⟩ := hrest.of_done
        cases hanswer
        exact ⟨.ended (.ok (.panicked payload, left)), ⟨content, haccept, hhandle⟩, trivial, rfl⟩

/-- The handlers of a message are called as said. -/
theorem calls_of_runs
    (hruns : Runs serves (Incoming.runHandlers operations invocationPipeline context handlers) s
      result u) :
    ∃ calls, Calls operations context handlers s calls result u := by
  -- by induction on the handlers; one of them opens a scope, runs, and decides how it goes on
  induction handlers generalizing s with
  | nil =>
    obtain ⟨rfl, rfl⟩ := hruns.of_done
    exact ⟨[], .nil u⟩
  | cons handler rest ih =>
    obtain ⟨scope, t, hopen, hrest⟩ := Runs.of_ask hruns
    obtain ⟨⟨answer, after⟩, v, hinvoke, hrest⟩ := Runs.of_bind hrest
    obtain ⟨ending, hcall, hdecided, hverdict⟩ := call_of_runs hinvoke
    cases answer with
    | error failure =>
      obtain ⟨rfl, rfl⟩ := hrest.of_done
      exact ⟨_, .last hopen hcall hverdict⟩
    | ok outcome =>
      cases hdecided
      dsimp only at hrest hverdict
      split at hrest
      · next hstopped =>
        obtain ⟨rfl, rfl⟩ := hrest.of_done
        rw [if_pos hstopped] at hverdict
        exact ⟨_, .last hopen hcall hverdict⟩
      · next hstopped =>
        rw [if_neg hstopped] at hverdict
        obtain ⟨calls, hcalls⟩ := ih hrest
        exact ⟨_, .more hopen hcall hverdict hcalls⟩

/-! ### What the calls come to -/

/-- The handlers that are called are the first ones. -/
theorem Calls.isPrefix (h : Calls operations context handlers s calls result u) :
    calls.map (·.handler) <+: handlers := by
  induction h with
  | nil => exact List.prefix_rfl
  | last => exact List.prefix_iff_eq_take.2 rfl
  | more _ _ _ _ ih => exact List.cons_prefix_cons.2 ⟨rfl, ih⟩

/-- All calls but the last go without a verdict. The last one has the verdict that the calls come
to, or all handlers were called and the message is completed. -/
theorem Calls.decided (h : Calls operations context handlers s calls result u) :
    (∀ call ∈ calls.dropLast, call.verdict? = none) ∧
      ((∃ call ∈ calls.getLast?, call.verdict? = some result) ∨
        calls.map (·.handler) = handlers ∧ (∀ call ∈ calls, call.verdict? = none) ∧
          result = .ok .completed) := by
  induction h with
  | nil => exact ⟨List.forall_mem_nil _, .inr ⟨rfl, List.forall_mem_nil _, rfl⟩⟩
  | last _ _ hverdict => exact ⟨List.forall_mem_nil _, .inl ⟨_, rfl, hverdict⟩⟩
  | @more handler rest scope ending calls result s t u v _ _ hverdict hrest ih =>
    obtain ⟨hearlier, hlast⟩ := ih
    refine ⟨?_, ?_⟩
    · -- the call in front decides nothing, and it is the last one only if no other follows
      cases calls with
      | nil => exact List.forall_mem_nil _
      | cons call others => exact List.forall_mem_cons.2 ⟨hverdict, hearlier⟩
    · rcases hlast with ⟨call, hcall, hresult⟩ | ⟨hall, hnone, hresult⟩
      · refine .inl ⟨call, ?_, hresult⟩
        cases calls with
        | nil => cases hcall
        | cons call others => exact hcall
      · exact .inr ⟨congrArg _ hall, List.forall_mem_cons.2 ⟨hverdict, hnone⟩, hresult⟩

/-! ### What the calls stage -/

/-- A list of staged operations of the receive holds nothing. -/
structure Empty (staging : StagingId) (s : Moment) : Prop where
  /-- The receive has opened the list. -/
  kept : s.Keeps staging
  /-- There is nothing in it. -/
  holds : s.world.stagings[staging]? = some []

/-- With a request that stages nothing an empty list stays so. -/
theorem Empty.of_served {staging : StagingId} (h : Empty staging s) {effect : Effect}
    {answer : effect.Answer} (hserved : serves s effect answer u)
    (hnone : stagedBy ⟨effect, answer⟩ = []) : Empty staging u := by
  obtain ⟨t, hrely, hserved⟩ := hserved
  have ht : Empty staging t := ⟨hrely.keeps h.kept, (hrely.stagings staging h.kept).trans h.holds⟩
  cases hserved with
  | slept => exact ht
  | performed hawake =>
    clear hawake
    refine ⟨ht.kept.after effect, ?_⟩
    have hholds := ht.holds
    cases effect
    case stage other operations =>
      -- an empty list is staged
      obtain rfl : operations = [] := hnone
      change (t.world.stagings.modify other (· ++ []))[staging]? = _
      rw [Array.getElem?_modify, hholds]
      split <;> rfl
    case takeStaged other =>
      change (t.world.stagings.modify other fun _ => [])[staging]? = _
      rw [Array.getElem?_modify, hholds]
      split <;> rfl
    case openStaging =>
      change (t.world.stagings.push [])[staging]? = _
      -- a new list has another name
      have hlt := (Array.getElem?_eq_some_iff.1 hholds).1
      rwa [Array.getElem?_push, if_neg (Nat.ne_of_lt hlt)]
    case dispatch batch =>
      change (World.dispatch _ _).2.stagings[staging]? = _
      rw [World.dispatch]
      split <;> exact hholds
    all_goals exact hholds

/-- A program that stages nothing leaves an empty list so. -/
theorem empty_of_runs {staging : StagingId} {program : Act α} {result : α}
    (hruns : Runs serves program s result u) :
    staged s.log <+: staged u.log ∧
      (staged u.log = staged s.log → Empty staging s → Empty staging u) := by
  -- by induction on the run; what its first request stages is staged in the end
  induction hruns with
  | done => exact ⟨List.prefix_rfl, fun _ => id⟩
  | @call effect next answer s t u result hserved _ ih =>
    obtain ⟨hlater, hempty⟩ := ih
    have hstaged := staged_of_served (among_of_serves hserved)
    refine ⟨(hstaged ▸ List.prefix_append _ _).trans hlater, fun hsame h => ?_⟩
    have hnone : stagedBy ⟨effect, answer⟩ = [] := by
      have hlength := hlater.length_le
      rw [hsame, hstaged, List.length_append] at hlength
      exact List.eq_nil_of_length_eq_zero (by omega)
    exact hempty (by rw [hsame, hstaged, hnone, List.append_nil]) (h.of_served hserved hnone)

/-- Something was staged during a call. -/
def Call.Stages (call : Call) : Prop := staged call.stop.log ≠ staged call.start.log

/-- A call that stages nothing leaves an empty list so. -/
theorem Call.empty {staging : StagingId} {call : Call} (hcall : call.Happens)
    (hnone : ¬ call.Stages) (h : Empty staging call.start) : Empty staging call.stop := by
  rw [Happens] at hcall
  split at hcall
  · rwa [hcall.2]
  · obtain ⟨content, -, hruns⟩ := hcall
    exact (empty_of_runs hruns).2 (Decidable.not_not.1 hnone) h

/-- So do calls that all stage nothing. -/
theorem Calls.empty {staging : StagingId} (h : Calls operations context handlers s calls result u)
    (hnone : ∀ call ∈ calls, ¬ call.Stages) (hempty : Empty staging s) : Empty staging u := by
  induction h with
  | nil => exact hempty
  | last hopen hcall =>
    exact Call.empty hcall (hnone _ List.mem_cons_self) (hempty.of_served hopen rfl)
  | more hopen hcall _ _ ih =>
    obtain ⟨hfirst, hrest⟩ := List.forall_mem_cons.1 hnone
    exact ih hrest (Call.empty hcall hfirst (hempty.of_served hopen rfl))

/-! ### What the handlers see -/

/-- A call of a handler that keeps to itself changes nothing for an older scope. -/
theorem Call.sees {call : Call} (hcall : call.Happens)
    (hhandler : ∀ content, Confined [call.given.scope] (call.handler.handle content call.given))
    (hscope : call.start.Owns scope) (hlt : scope < call.given.scope) :
    Sees scope call.start call.stop := by
  rw [Happens] at hcall
  split at hcall
  · rw [hcall.2]
    exact .refl hscope
  · obtain ⟨content, -, hruns⟩ := hcall
    exact (hhandler content).attempt.seen hruns hscope fun id hid => by
      rwa [List.mem_singleton.1 hid]

/-- A new scope below one of the receive is younger, and sees what that sees. -/
theorem sees_opened {parent : ScopeId} (hopen : serves s (.openScope (some parent)) scope t)
    (hparent : s.Owns parent) :
    parent < scope ∧ ∀ slot : Slot,
      t.world.scopes.get? slot scope = s.world.scopes.get? slot parent := by
  refine ⟨lt_of_opened hopen hparent rfl, fun slot => ?_⟩
  obtain ⟨v, hrely, hserved⟩ := hopen
  have hsv := hrely.sees hparent
  cases hserved with
  | performed => exact (ScopeForest.get?_openUnder_self _ slot hsv.owned.2).trans (hsv.seen slot)

/-- Every handler starts with what the message has, and sees what is seen from its scope, whatever
the handlers before it have written. -/
theorem Calls.same (h : Calls operations context handlers s calls result u)
    (hhandlers : KeepToThemselves operations handlers) (hscope : s.Owns context.scope) :
    ∀ call ∈ calls, call.given = given operations context call.handler call.given.scope ∧
      ∀ slot : Slot, call.start.world.scopes.get? slot call.given.scope
        = s.world.scopes.get? slot context.scope := by
  -- by induction on the calls; after each of them the scope of the message sees the same
  induction h with
  | nil => exact List.forall_mem_nil _
  | last hopen => exact List.forall_mem_singleton.2 ⟨rfl, (sees_opened hopen hscope).2⟩
  | @more handler rest scope ending calls result s t u v hopen hcall _ _ ih =>
    obtain ⟨hhandler, hrest⟩ := List.forall_mem_cons.1 hhandlers
    obtain ⟨hlt, hseen⟩ := sees_opened hopen hscope
    have hst : Sees context.scope s t := .of_served hopen hscope nofun
    have htu : Sees context.scope t u :=
      Call.sees hcall (fun content => hhandler content _ rfl) hst.owned hlt
    have hsu := hst.trans htu
    refine List.forall_mem_cons.2 ⟨⟨rfl, hseen⟩, fun call hmem => ?_⟩
    obtain ⟨hgiven, hsame⟩ := ih hrest hsu.owned call hmem
    exact ⟨hgiven, fun slot => (hsame slot).trans (hsu.seen slot)⟩

/-! ### Receives -/

/-- Handlers with their message types, registered one after another. -/
def registry (registered : List (String × Handler)) : Incoming.Handlers :=
  registered.foldl (fun handlers entry => Incoming.addHandler handlers entry.1 entry.2) ∅

/-- The handlers that were registered for a message type, in the order of their registration. -/
def ofType (registered : List (String × Handler)) (messageType : String) : List Handler :=
  (registered.filter (·.1 = messageType)).map (·.2)

/-- The registered handlers of a message type are those that were registered for it. -/
theorem getD_registry (registered : List (String × Handler)) (messageType : String) :
    (registry registered).getD messageType [] = ofType registered messageType := by
  -- handlers are added one after another, so the statement is about any that there are before
  suffices h : ∀ handlers : Incoming.Handlers,
      (registered.foldl (fun handlers entry => Incoming.addHandler handlers entry.1 entry.2)
        handlers).getD messageType []
          = handlers.getD messageType [] ++ ofType registered messageType
    from h ∅
  induction registered with
  | nil => exact fun handlers => (List.append_nil _).symm
  | cons entry rest ih =>
    intro handlers
    rw [List.foldl_cons, ih, Incoming.addHandler, Table.getD, Table.get?_insert, ofType, ofType]
    by_cases htype : messageType = entry.1
    · simp [htype]
    · simp [htype, Ne.symm htype, Table.getD]

/-- The pipeline of read messages without steps of the user. -/
def pipeline (registered : List (String × Handler)) (operations : Operations) :
    Chain IncomingContext where
  name := mainPipeline
  steps := []
  terminator := Incoming.loadHandlers (registry registered) operations invocationPipeline

/-- What becomes of a received message. -/
def receive (serializer : Serializer) (registered : List (String × Handler))
    (operations : Operations) (context : ReceiveContext) : Act (StageResult × ReceiveContext) :=
  Incoming.deserialize serializer (pipeline registered operations) context

/-- No handler makes the receive panic. -/
theorem calm_runHandlers (operations : Operations) (context : IncomingContext)
    (handlers : List Handler) :
    (Incoming.runHandlers operations invocationPipeline context handlers).Calm := by
  induction handlers with
  | nil => trivial
  | cons handler rest ih =>
    -- a handler that panics is caught, and it may stop those behind it
    refine .ask fun scope => .bind ?_ fun ended => ?_
    · change (Incoming.invokeHandler _).Calm
      rw [Incoming.invokeHandler]
      split
      · trivial
      · refine (Program.calm_attempt _).bind fun ended => ?_
        rcases ended with payload | ⟨ending, after⟩
        · trivial
        · cases ending <;> trivial
    · obtain ⟨answer, after⟩ := ended
      obtain failure | outcome := answer
      · trivial
      · cases outcome with
        | completed =>
          dsimp only
          split
          · trivial
          · exact ih
        | retryRequested => trivial
        | movedToErrorQueue failure => trivial

theorem calm_pipeline (registered : List (String × Handler)) (operations : Operations)
    (context : IncomingContext) : ((pipeline registered operations).result context).Calm := by
  refine Program.Calm.bind ?_ fun _ => trivial
  change (Incoming.loadHandlers _ _ _ _).Calm
  rw [Incoming.loadHandlers]
  split
  · trivial
  · exact (calm_runHandlers _ _ _).bind fun _ => trivial

theorem calm_receive (serializer : Serializer) (registered : List (String × Handler))
    (operations : Operations) (context : ReceiveContext) :
    (receive serializer registered operations context).Calm :=
  Incoming.calm_deserialize (calm_pipeline registered operations)

variable {serializer : Serializer} {registered : List (String × Handler)}
  {received : ReceiveContext} {message : LogicalMessage} {segment : StageResult}

/-- A failure passes the closing, and a message that is completed stays so, unless its batch is
refused; where nothing was staged there is none. -/
theorem result_of_closing {staging : StagingId} (hdecided : Decided segment)
    (hruns : Runs serves (closing staging segment) s result u) :
    result = segment ∨ segment = .ok .completed ∧ ¬ Empty staging s ∧
      ∃ error, result = .error (.transport error) := by
  cases segment with
  | error failure => exact .inl hruns.of_done.1
  | ok outcome =>
    cases hdecided
    -- only a receive that completed takes what was staged
    obtain ⟨taken, t, ⟨v, hrely, htake⟩, hfinish⟩ := Runs.of_ask hruns
    rw [Incoming.finishReceive, if_neg (show ¬ (!Outcome.completed.commits) = true by decide)]
      at hfinish
    split at hfinish
    · exact .inl hfinish.of_done.1
    · next hsome =>
      obtain ⟨answer, w, -, hanswer⟩ := Runs.of_ask hfinish
      cases answer with
      | ok => exact .inl hanswer.of_done.1
      | error error =>
        refine .inr ⟨rfl, fun hempty => hsome ?_, error, hanswer.of_done.1⟩
        cases htake with
        | performed =>
          change ((v.world.stagings[staging]?).getD []).isEmpty = true
          rw [hrely.stagings staging hempty.kept, hempty.holds]
          rfl

/-- The opening leads to a list without operations and a scope of the receive. -/
theorem opened_of_runs {opened : StagingId × ScopeId}
    (hruns : Runs serves (opening received) s opened u) :
    Empty opened.1 u ∧ u.Owns opened.2 := by
  obtain ⟨staging, t, ⟨t', -, hlist⟩, hruns⟩ := Runs.of_ask hruns
  obtain ⟨scope, v, hscope, hruns⟩ := Runs.of_ask hruns
  obtain ⟨_, w, hstaging, hruns⟩ := Runs.of_ask hruns
  obtain ⟨_, x, hreceived, hruns⟩ := Runs.of_ask hruns
  obtain ⟨rfl, rfl⟩ := hruns.of_done
  -- the list is new, and neither the scope nor what is put there stages anything
  have hempty : Empty staging t := by
    cases hlist with
    | performed =>
      refine ⟨?_, Array.getElem?_push_size⟩
      rw [Moment.Keeps, Moment.after, List.filterMap_append]
      exact List.mem_append_right _ List.mem_cons_self
  -- the scope is new too, so the attempt owns it
  have howned : v.Owns scope := by
    obtain ⟨v', -, hopen⟩ := hscope
    cases hopen with
    | performed => exact v'.owns_openScope _
  have hafter {y z : Moment} {slot : Slot} {value : slot.Value} {answer : Unit}
      (hserved : serves y (.writeSlot scope slot value) answer z) (hy : y.Owns scope) :
      z.Owns scope := by
    obtain ⟨y', hrely, hserved⟩ := hserved
    cases hserved with
    | performed => exact (hrely.sees hy).owned.after _
  exact ⟨((hempty.of_served hscope rfl).of_served hstaging rfl).of_served hreceived rfl,
    hafter hreceived (hafter hstaging howned)⟩

/-- What is true of the calls that are made for a message. -/
structure Handled (operations : Operations) (context : IncomingContext) (handlers : List Handler)
    (first : Moment) (calls : List Call) (segment : StageResult) (last : Moment) : Prop where
  /-- They are made one after another. -/
  made : Calls operations context handlers first calls segment last
  /-- The first ones of the handlers are called, in their order. -/
  isPrefix : calls.map (·.handler) <+: handlers
  /-- No call but the last one fails, panics or stops the dispatch. -/
  earlier : ∀ call ∈ calls.dropLast, call.verdict? = none
  /-- If the last call fails, panics or stops the dispatch, this decides. Otherwise all handlers
  were called, and the message is completed. -/
  decided : (∃ call ∈ calls.getLast?, call.verdict? = some segment) ∨
    calls.map (·.handler) = handlers ∧ (∀ call ∈ calls, call.verdict? = none) ∧
      segment = .ok .completed
  /-- Each handler starts with what the message has, and sees what was seen from the scope of the
  message before the first one was called. -/
  same : ∀ call ∈ calls, call.given = given operations context call.handler call.given.scope ∧
    ∀ slot : Slot, call.start.world.scopes.get? slot call.given.scope
      = first.world.scopes.get? slot context.scope

/-- What becomes of a received message. -/
inductive Received (serializer : Serializer) (registered : List (String × Handler))
    (operations : Operations) (context : ReceiveContext) (s : Moment) :
    StageResult → Moment → Prop where
  /-- A message without a logical body is done at once. -/
  | control (hcontrol : context.message.isControl = true) :
      Received serializer registered operations context s (.ok .completed) s
  /-- A message that cannot be read fails at once. -/
  | unreadable {failure : Failure} (hcontrol : context.message.isControl = false)
      (hread : Incoming.logicalMessage serializer context.message = .error failure) :
      Received serializer registered operations context s (.error failure) s
  /-- Nobody handles the message. -/
  | unhandled {message : LogicalMessage} {opened : StagingId × ScopeId} {u : Moment}
      (hcontrol : context.message.isControl = false)
      (htype : context.message.enclosedType? = some message.messageType)
      (hread : Incoming.logicalMessage serializer context.message = .ok message)
      (hopening : Runs serves (opening context) s opened u)
      (hnone : ofType registered message.messageType = []) :
      Received serializer registered operations context s
        (.error (.noHandlers message.messageType)) u
  /-- The handlers of its first enclosed type are called; what this comes to is the result, unless
  the message is completed and the batch of what they have staged is refused. -/
  | handled {message : LogicalMessage} {opened : StagingId × ScopeId} {first last u : Moment}
      {calls : List Call} {segment result : StageResult}
      (hcontrol : context.message.isControl = false)
      (htype : context.message.enclosedType? = some message.messageType)
      (hread : Incoming.logicalMessage serializer context.message = .ok message)
      (hopening : Runs serves (opening context) s opened first)
      (hhandled : Handled operations (readContext context message opened.2)
        (ofType registered message.messageType) first calls segment last)
      (hclosing : Runs serves (closing opened.1 segment) last result u)
      (hresult : result = segment ∨
        segment = .ok .completed ∧ (∃ call ∈ calls, call.Stages) ∧
          ∃ error, result = .error (.transport error)) :
      Received serializer registered operations context s result u

/-- Handlers that are called for a message have what they should in common. -/
theorem Calls.handled (h : Calls operations context handlers s calls result u)
    (hhandlers : KeepToThemselves operations handlers) (hscope : s.Owns context.scope) :
    Handled operations context handlers s calls result u :=
  ⟨h, h.isPrefix, h.decided.1, h.decided.2, h.same hhandlers hscope⟩

/-- A verdict is a completed message or a failure. -/
theorem Call.decided_of_verdict {call : Call} (h : call.verdict? = some result) :
    Decided result := by
  cases result with
  | error failure => trivial
  | ok outcome =>
    rw [verdict?] at h
    split at h
    · cases h
    · cases h
    · cases h
    · cases h
    · split at h
      · cases h
        rfl
      · cases h

/-- So is what calls come to. -/
theorem Calls.isDecided (h : Calls operations context handlers s calls result u) :
    Decided result := by
  rcases h.decided.2 with ⟨call, -, hverdict⟩ | ⟨-, -, rfl⟩
  · exact call.decided_of_verdict hverdict
  · rfl

/-- Every receive that ends has become of its message what should. -/
theorem received_of_runs (hhandlers : KeepToThemselves operations (registered.map (·.2)))
    {ended : StageResult × ReceiveContext}
    (hruns : Runs serves (receive serializer registered operations received) s ended u) :
    ended.2 = received ∧ Received serializer registered operations received s ended.1 u := by
  cases hcontrol : received.message.isControl with
  | true =>
    rw [receive, Incoming.deserialize_control hcontrol] at hruns
    obtain ⟨rfl, rfl⟩ := hruns.of_done
    exact ⟨rfl, .control hcontrol⟩
  | false =>
    cases hread : Incoming.logicalMessage serializer received.message with
    | error failure =>
      rw [receive, Incoming.deserialize_unreadable hcontrol hread] at hruns
      obtain ⟨rfl, rfl⟩ := hruns.of_done
      exact ⟨rfl, .unreadable hcontrol hread⟩
    | ok message =>
      have htype := Incoming.enclosedType?_of_read hread
      rw [receive, Incoming.deserialize_eq hcontrol hread] at hruns
      obtain ⟨opened, first, hopening, hruns⟩ := Runs.of_bind hruns
      obtain ⟨segment, last, hpipeline, hruns⟩ := Runs.of_bind hruns
      obtain ⟨result, v, hclosing, hruns⟩ := Runs.of_bind hruns
      obtain ⟨rfl, rfl⟩ := hruns.of_done
      obtain ⟨⟨segment', after⟩, w, hload, hruns⟩ := Runs.of_bind hpipeline
      obtain ⟨rfl, rfl⟩ := hruns.of_done
      change Runs serves (Incoming.loadHandlers _ _ _ _) first _ _ at hload
      rw [Incoming.loadHandlers, getD_registry] at hload
      -- without a handler for its type the message is passed over
      split at hload
      · next hnone =>
        obtain ⟨hended, rfl⟩ := hload.of_done
        cases hended
        obtain ⟨rfl, rfl⟩ := hclosing.of_done
        exact ⟨rfl, .unhandled hcontrol htype hread hopening hnone⟩
      · obtain ⟨segment, x, hhandlersRun, hruns⟩ := Runs.of_bind hload
        obtain ⟨hended, rfl⟩ := hruns.of_done
        cases hended
        obtain ⟨calls, hcalls⟩ := calls_of_runs hhandlersRun
        have hmine : KeepToThemselves operations (ofType registered message.messageType) :=
          fun handler hmem => hhandlers handler (List.map_subset _ List.filter_sublist.subset hmem)
        obtain ⟨hempty, howned⟩ := opened_of_runs hopening
        refine ⟨rfl, .handled hcontrol htype hread hopening (hcalls.handled hmine howned)
          hclosing ?_⟩
        -- if what was staged is refused, some call has staged it
        refine (result_of_closing hcalls.isDecided hclosing).imp_right ?_
        rintro ⟨hcompleted, hsome, hrefused⟩
        refine ⟨hcompleted, ?_, hrefused⟩
        exact Classical.byContradiction fun hnone => hsome <|
          hcalls.empty (fun call hcall hstages => hnone ⟨call, hcall, hstages⟩) hempty

/-- Whatever message is received, whatever handlers are registered and whatever others do: the
receive ends, and has called the first handlers of the first enclosed type of the message in their
order, up to the first that fails, panics or stops the dispatch. A failure or a panic is the result,
and otherwise the message is completed, unless the batch of what was staged is refused. Each handler
starts with what the message has, and sees the same values, whatever those before it have
written. -/
theorem receive_handled (serializer : Serializer) {registered : List (String × Handler)}
    {operations : Operations} (hhandlers : KeepToThemselves operations (registered.map (·.2)))
    (context : ReceiveContext) (s : Moment) :
    (∃ ended u, Runs serves (receive serializer registered operations context) s ended u) ∧
    ∀ (ended : Except Panic (StageResult × ReceiveContext)) u,
      Runs serves (receive serializer registered operations context).attempt s ended u →
      ∃ result, ended = .ok (result, context) ∧
        Received serializer registered operations context s result u := by
  have hcalm := calm_receive serializer registered operations context
  refine ⟨Runs.exists_of_calm exists_serves hcalm s, fun ended u hruns => ?_⟩
  obtain ⟨⟨result, after⟩, rfl, hended⟩ := Runs.of_attempt hcalm hruns
  obtain ⟨hafter, hreceived⟩ := received_of_runs hhandlers hended
  cases hafter
  exact ⟨result, rfl, hreceived⟩

/-- Three handlers of orders: the first one writes into its scope, the second one looks there and
fails, and the third one is not called. -/
def orderScripts : List Scripted.HandlerScript := [
  { name := "stock", label := "stock", key := "stock", messageType := "Order"
    lines := [⟨.setText "reserved", false⟩] },
  { name := "billing", label := "billing", key := "billing", messageType := "Order"
    lines := [⟨.getText, false⟩, ⟨.fail "no funds" [], false⟩] },
  { name := "shipping", label := "shipping", key := "shipping", messageType := "Order"
    lines := [⟨.publish (Scripted.payload "OrderShipped" .null), false⟩] }]

/-- They are registered for their message types. -/
def orderHandlers : List (String × Handler) :=
  orderScripts.map fun script => (script.messageType, script.handler)

/-- The ways to send of a shop on the transport in memory. -/
def shopOperations : Operations :=
  Redelivery.Outbound.operations
    { resolver := { routes := ∅, localAddress := some "shop", policy := Memory.capabilities.policy }
      manager := none, serializer := .json, capabilities := Memory.capabilities }
    "shop" (some "shop")

/-- An order that the shop receives. -/
def orderReceived : ReceiveContext where
  message :=
    { id := "order", headers := Table.insert ∅ Header.enclosedMessageTypes "Order"
      body := Body.ofText "null" }
  scope := 0

/-- The shop with the scope that the order is received in. -/
def shopMoment : Moment where
  world := { clock := ⟨0, 0⟩, scopes := (ScopeForest.openUnder {} none).2 }

/-- The three handlers keep to themselves, and so what becomes of an order is as it should be. -/
theorem receive_handled_order :
    KeepToThemselves shopOperations (orderHandlers.map (·.2)) ∧
    (∃ ended u, Runs serves (receive .json orderHandlers shopOperations orderReceived) shopMoment
      ended u) ∧
    ∀ (ended : Except Panic (StageResult × ReceiveContext)) u,
      Runs serves (receive .json orderHandlers shopOperations orderReceived).attempt shopMoment
        ended u →
      ∃ result, ended = .ok (result, orderReceived) ∧
        Received .json orderHandlers shopOperations orderReceived shopMoment result u :=
  have hhandlers : KeepToThemselves shopOperations (orderHandlers.map (·.2)) :=
    keepToThemselves_scripts _ orderScripts
  ⟨hhandlers, receive_handled .json hhandlers orderReceived shopMoment⟩

end Messaging.Handling
