import Messaging.Proofs.Attempt
import Messaging.Scripted.Handlers

/-!
# Handlers that follow a script

A scripted handler performs a list of actions and may fail, panic or keep the message from the
handlers after it. Whatever its script says, it sends through what it is given.

- `perform_converses` says so of one action, and `performLines_converses` of a list of them;
  `handedOn_handler` says that the context is handed on.
- `conversing_registerHandlers` says so of all handlers that are registered.
-/

namespace Messaging.Redelivery

open Scripted

/-- A context that was handed on leads to the same ways to send, in the same scope. -/
structure HandedOn (context after : HandlerContext) : Prop where
  /-- The ways to send are the same. -/
  operations : after.operations = context.operations
  /-- The scope is the same. -/
  scope : after.scope = context.scope

variable {context after : HandlerContext} {ending : HandlerEnd}

/-- A context that is given back is handed on. -/
theorem handedOn_done {ending' : HandlerEnd} {context' : HandlerContext}
    (h : (.done (ending', context') : Act ActionEnd).Yields (ending, after))
    (hcontext : HandedOn context context') : HandedOn context after := by
  cases h.of_done
  exact hcontext

/-- An action that leads out of the handler hands its context on. -/
theorem handedOn_finishOutgoing {program : Act (Except Failure Unit)}
    (h : (finishOutgoing context program).Yields (ending, after)) : HandedOn context after := by
  obtain ⟨result, -, h⟩ := Program.Yields.of_bind h
  match result, h with
  | .ok (.ok ()), h => exact handedOn_done h ⟨rfl, rfl⟩
  | .ok (.error failure), h => exact handedOn_done h ⟨rfl, rfl⟩
  | .error payload, h => exact handedOn_done h ⟨rfl, rfl⟩

theorem handedOn_noting {name : String} {value : Json}
    (h : (noting context name value).Yields (ending, after)) : HandedOn context after := by
  obtain ⟨-, -, h⟩ := Program.Yields.of_bind h
  exact handedOn_done h ⟨rfl, rfl⟩

/-- Every action hands its context on. -/
theorem handedOn_perform {call : Nat} {action : HandlerAction}
    (h : (action.perform call context).Yields (ending, after)) : HandedOn context after := by
  cases action with
  | fail text causes => exact handedOn_done h ⟨rfl, rfl⟩
  | failFirst calls text causes =>
    rw [HandlerAction.perform] at h
    split at h
    · exact handedOn_done h ⟨rfl, rfl⟩
    · exact handedOn_done h ⟨rfl, rfl⟩
  | panic payload => exact handedOn_done h ⟨rfl, rfl⟩
  | stop => exact handedOn_done h ⟨rfl, rfl⟩
  | stopped => exact handedOn_noting h
  | describe => exact handedOn_noting h
  | setText text =>
    obtain ⟨-, -, h⟩ := Program.Yields.of_bind h
    exact handedOn_done h ⟨rfl, rfl⟩
  | getText =>
    obtain ⟨text, -, h⟩ := Program.Yields.of_bind h
    exact handedOn_noting h
  | header key => exact handedOn_noting h
  | forward address => exact handedOn_finishOutgoing h
  | send payload options => exact handedOn_finishOutgoing h
  | sendLocal payload => exact handedOn_finishOutgoing h
  | publish payload => exact handedOn_finishOutgoing h
  | reply payload => exact handedOn_finishOutgoing h

/-- So do several actions. -/
theorem handedOn_performLines {call : Nat} {lines : List HandlerLine}
    (h : (performLines call lines context).Yields (ending, after)) : HandedOn context after := by
  induction lines generalizing context with
  | nil => exact handedOn_done h ⟨rfl, rfl⟩
  | cons line rest ih =>
    obtain ⟨⟨ended, middle⟩, hline, hrest⟩ := Program.Yields.of_bind h
    have hmiddle := handedOn_perform hline
    -- a line that returned is followed by the next one, with the same scope and operations
    have hlater (h : (performLines call rest middle).Yields (ending, after)) :
        HandedOn context after :=
      ⟨(ih h).operations.trans hmiddle.operations, (ih h).scope.trans hmiddle.scope⟩
    cases ended with
    | returned => exact hlater hrest
    | failed failure =>
      dsimp only at hrest
      split at hrest
      · obtain ⟨-, -, hrest⟩ := Program.Yields.of_bind hrest
        exact hlater hrest
      · exact handedOn_done hrest hmiddle
    | panicked payload => exact handedOn_done hrest hmiddle

/-- And so does a scripted handler. -/
theorem handedOn_handler {script : HandlerScript} {content : Json}
    {ended : HandlerEnd × HandlerContext}
    (h : (script.handler.handle content context).Yields ended) : HandedOn context ended.2 := by
  obtain ⟨ending, after⟩ := ended
  obtain ⟨call, -, h⟩ := Program.Yields.of_bind h
  obtain ⟨depth, -, h⟩ := Program.Yields.of_bind h
  obtain ⟨-, -, h⟩ := Program.Yields.of_bind h
  exact handedOn_performLines h

variable {operations : Operations} {scope : ScopeId}

/-- An action that leads out of the handler sends as its program does. -/
theorem finishOutgoing_converses {program : Act (Except Failure Unit)}
    (h : Converses operations scope program) :
    Converses operations scope (finishOutgoing context program) := by
  refine .bind h.attempt fun result _ => ?_
  match result with
  | .ok (.ok ()) => exact .done _
  | .ok (.error failure) => exact .done _
  | .error payload => exact .done _

/-- Writing something down sends nothing. -/
theorem noting_converses (name : String) (value : Json) :
    Converses operations scope (noting context name value) :=
  .bind (.aside trivial) fun _ _ => .done _

/-- Every action sends through what its context leads to. -/
theorem perform_converses (hoperations : context.operations = operations)
    (hscope : context.scope = scope) (call : Nat) (action : HandlerAction) :
    Converses operations scope (action.perform call context) := by
  cases action with
  | fail text causes => exact .done _
  | failFirst calls text causes =>
    rw [HandlerAction.perform]
    split <;> exact .done _
  | panic payload => exact .done _
  | stop => exact .done _
  | stopped => exact noting_converses _ _
  | describe => exact noting_converses _ _
  | setText text => exact .bind (.aside nofun) fun _ _ => .done _
  | getText => exact .bind (.aside trivial) fun _ _ => noting_converses _ _
  | header key => exact noting_converses _ _
  | forward address => exact finishOutgoing_converses (.forward hoperations hscope address)
  | send payload options =>
    exact finishOutgoing_converses (.send hoperations hscope payload options)
  | sendLocal payload => exact finishOutgoing_converses (.send hoperations hscope payload _)
  | publish payload => exact finishOutgoing_converses (.publish hoperations hscope payload)
  | reply payload => exact finishOutgoing_converses (.reply hoperations hscope payload)

/-- So do several actions. -/
theorem performLines_converses (hoperations : context.operations = operations)
    (hscope : context.scope = scope) (call : Nat) (lines : List HandlerLine) :
    Converses operations scope (performLines call lines context) := by
  induction lines generalizing context with
  | nil => exact .done _
  | cons line rest ih =>
    refine .bind (perform_converses hoperations hscope call line.action) fun ended hended => ?_
    obtain ⟨ending, after⟩ := ended
    -- the rest of the script is performed where this line was
    have hafter := handedOn_perform hended
    have hrest := ih (hafter.operations.trans hoperations) (hafter.scope.trans hscope)
    cases ending with
    | returned => exact hrest
    | failed failure =>
      dsimp only
      split
      · exact .bind (.aside trivial) fun _ _ => hrest
      · exact .done _
    | panicked payload => exact .done _

/-- A scripted handler sends through what it is given. -/
theorem handler_converses (script : HandlerScript) (content : Json) (context : HandlerContext) :
    Converses context.operations context.scope (script.handler.handle content context) :=
  .bind (.aside trivial) fun _ _ => .bind (.aside trivial) fun _ _ =>
    .bind (.aside trivial) fun _ _ => performLines_converses rfl rfl _ _

/-- Handlers that are registered are what their scripts say. -/
theorem forall_registerHandlers {P : Handler → Prop} {scripts : List HandlerScript}
    (h : ∀ script ∈ scripts, P script.handler) (messageType : String) :
    ∀ handler ∈ (registerHandlers scripts).getD messageType [], P handler := by
  -- handlers are registered one after another, so the statement is about any that there are before
  suffices h : ∀ handlers : Incoming.Handlers,
      (∀ messageType, ∀ handler ∈ handlers.getD messageType [], P handler) →
      ∀ messageType, ∀ handler ∈ (scripts.foldl (fun handlers script =>
        Incoming.addHandler handlers script.messageType script.handler) handlers).getD
          messageType [], P handler from
    h ∅ (fun _ _ hnone => nomatch hnone) messageType
  clear messageType
  induction scripts with
  | nil => exact fun _ => id
  | cons script rest ih =>
    obtain ⟨hscript, hrest⟩ := List.forall_mem_cons.1 h
    refine fun handlers hhandlers =>
      ih hrest (Incoming.addHandler handlers _ _) fun messageType handler hmem => ?_
    rw [Incoming.addHandler, Table.getD, Table.get?_insert] at hmem
    split at hmem
    · rcases List.mem_append.1 hmem with hbefore | hnew
      · exact hhandlers _ handler hbefore
      · cases List.mem_singleton.1 hnew
        exact hscript
    · exact hhandlers messageType handler hmem

/-- Scripted handlers send through what they are given. -/
theorem conversing_registerHandlers (scripts : List HandlerScript) :
    Conversing (registerHandlers scripts) :=
  forall_registerHandlers fun script _ => handler_converses script

end Messaging.Redelivery
