import Messaging.Pipeline.Kind

/-!
# Scripted steps

A scripted step writes down that it is entered, acts on its context, lets the stages behind it run
or gives a result in their place, acts on the result, and writes down how it is left.

- `View` is what a scripted step needs to know about its contexts; `View.ofKind` gives it for the
  contexts of an endpoint.
- `Edit` is a change of a context, `EntryAction` and `ExitAction` are the actions.
- `StepScript.behavior` is the behavior of a script.
-/

namespace Messaging.Scripted

/-- A change of a context; one that makes no sense for a context leaves it as it is. -/
inductive Edit where
  /-- Sets a header. -/
  | header (key value : String)
  /-- Removes a header. -/
  | dropHeader (key : String)
  /-- Sets the bytes of the body. -/
  | bytes (body : Body)
  /-- Sets the content of the message. -/
  | content (body : Json)
  /-- Sets the id of the message. -/
  | messageId (id : String)
  /-- Sets the message type. -/
  | messageType (name : String)
  /-- Sets the explicit destination. -/
  | destination (address : Option String)
  /-- Sets the intent. -/
  | intent (intent : Intent)
  /-- Sets the routes. -/
  | routes (routes : List Route)
  /-- Sets the delivery constraints. -/
  | constraints (constraints : List Constraint)
  /-- Lets the message be dispatched apart. -/
  | isolate
  /-- Sets the error queue. -/
  | errorQueue (address : String)
  /-- Keeps the message from the handlers after this one. -/
  | stopHandlers
  /-- Adds an item at the end of a list of numbers. -/
  | pushItem (n : Int)
  /-- Adds to a number. -/
  | add (n : Int)

/-- What a scripted step needs to know about its contexts. -/
structure View (C : Type) where
  /-- The scope of a context. -/
  scope : C → ScopeId
  /-- The number of its headers. -/
  headerCount : C → Nat
  /-- What is written down about it. -/
  text : C → String
  /-- Changes it. -/
  edit : Edit → C → C

/-- Changes headers, if that is what a change does. -/
def Edit.onHeaders (edit : Edit) (headers : Headers) : Headers :=
  match edit with
  | header key value => headers.insert key value
  | dropHeader key => headers.erase key
  | _ => headers

/-- Changes a message. -/
def Edit.onMessage (edit : Edit) (message : Message) : Message :=
  match edit with
  | bytes body => { message with body }
  | messageId id => { message with id }
  | edit => { message with headers := edit.onHeaders message.headers }

/-- Changes a message before its bytes. -/
def Edit.onContent (edit : Edit) (message : LogicalMessage) : LogicalMessage :=
  match edit with
  | content body => { message with body }
  | messageType name => { message with messageType := name }
  | _ => message

namespace View

/-- The view of received messages. -/
def receive : View ReceiveContext where
  scope := ReceiveContext.scope
  headerCount context := context.message.headers.size
  text context := context.message.id
  edit change context := { context with message := change.onMessage context.message }

/-- The view of read messages. -/
def incoming : View IncomingContext where
  scope := IncomingContext.scope
  headerCount context := context.headers.size
  text context := context.messageId ++ " " ++ context.message.messageType
  edit
    | .messageId id, context => { context with messageId := id }
    | change, context =>
      { context with
        headers := change.onHeaders context.headers, message := change.onContent context.message }

/-- The view of invocations. -/
def invocation : View Invocation where
  scope context := context.scope
  headerCount context := context.headers.size
  text context := context.messageId ++ " " ++ context.message.messageType
  edit
    | .stopHandlers, context => { context with stopped := true }
    | change, context =>
      { context with
        headers := change.onHeaders context.headers, message := change.onContent context.message }

/-- The view of outgoing messages. -/
def outgoing : View OutgoingContext where
  scope := OutgoingContext.scope
  headerCount context := context.headers.size
  text context := context.messageId ++ " " ++ context.intent.name
  edit
    | .messageId id, context => { context with messageId := id }
    | .destination address, context => { context with destination := address }
    | .intent intent, context => { context with intent }
    | .routes routes, context => { context with routes }
    | .constraints constraints, context => { context with constraints }
    | change, context =>
      { context with
        headers := change.onHeaders context.headers, message := change.onContent context.message }

/-- The view of written messages. -/
def physical : View PhysicalContext where
  scope := PhysicalContext.scope
  headerCount context := context.headers.size
  text := PhysicalContext.messageId
  edit
    | .messageId id, context => { context with messageId := id }
    | .bytes body, context => { context with body }
    | .routes routes, context => { context with routes }
    | .constraints constraints, context => { context with constraints }
    | change, context => { context with headers := change.onHeaders context.headers }

/-- The view of routed messages. -/
def routing : View RoutingContext where
  scope := RoutingContext.scope
  headerCount context := context.message.headers.size
  text context :=
    context.message.id ++ " " ++ String.intercalate "," (context.routes.map Route.text)
  edit
    | .routes routes, context => { context with routes }
    | .constraints constraints, context => { context with constraints }
    | .isolate, context => { context with isolated := true }
    | change, context => { context with message := change.onMessage context.message }

/-- The view of failed messages. -/
def fault : View FaultContext where
  scope := FaultContext.scope
  headerCount context := context.message.headers.size
  text context := context.message.id ++ " " ++ context.errorQueue
  edit
    | .errorQueue address, context => { context with errorQueue := address }
    | change, context => { context with message := change.onMessage context.message }

/-- The view of the contexts of a kind. -/
def ofKind : (kind : ContextKind) → View kind.Context
  | .receive => receive
  | .incoming => incoming
  | .invocation => invocation
  | .outgoing => outgoing
  | .physical => physical
  | .routing => routing
  | .fault => fault

end View

/-! ### Scripts -/

/-- What a step does before the stages behind it. -/
inductive EntryAction where
  /-- Changes the context. -/
  | edit (change : Edit)
  /-- Fails. -/
  | fail (failure : Failure)
  /-- Fails in its first calls. -/
  | failFirst (calls : Nat) (failure : Failure)
  /-- Panics. -/
  | panic (payload : Panic)
  /-- Puts a text into its scope. -/
  | setText (text : String)
  /-- Writes down the text that its scope sees. -/
  | getText

/-- What a step does after the stages behind it. -/
inductive ExitAction where
  /-- Turns a failure into a completion. -/
  | swallow
  /-- Puts another result in the place of theirs. -/
  | replace (result : StageResult)
  /-- Writes down the text that its scope sees. -/
  | getText

/-- What a scripted step does. -/
structure StepScript where
  /-- What it writes down to be told from others. -/
  label : String
  /-- The key that its calls are counted under. -/
  key : String
  /-- What it does first. -/
  onEntry : List EntryAction
  /-- The result in the place of that of the stages behind it. -/
  result : Option StageResult
  /-- What it does last. -/
  onExit : List ExitAction

variable {C : Type}

/-- Writes down the text that a scope sees. -/
def noteText (scope : ScopeId) : Act Unit := do
  let text ← Act.ask (.readSlot scope .text)
  Act.note (.ofMembers [("bag", .ofString? text)])

/-- Performs what a step does first, in the call of a number, up to the first failure. -/
def performEntry (view : View C) (call : Nat) :
    List EntryAction → C → Act (Option Failure × C)
  | [], context => pure (none, context)
  | action :: rest, context =>
    match action with
    | .edit change => performEntry view call rest (view.edit change context)
    | .fail failure => pure (some failure, context)
    | .failFirst calls failure =>
      if call ≤ calls then pure (some failure, context) else performEntry view call rest context
    | .panic payload => Act.panic payload
    | .setText text => do
      Act.ask (.writeSlot (view.scope context) .text text)
      performEntry view call rest context
    | .getText => do
      noteText (view.scope context)
      performEntry view call rest context

/-- Performs what a step does last. -/
def performExit (scope : ScopeId) : List ExitAction → StageResult → Act StageResult
  | [], result => pure result
  | .swallow :: rest, .error _ => performExit scope rest (.ok .completed)
  | .swallow :: rest, .ok outcome => performExit scope rest (.ok outcome)
  | .replace result :: rest, _ => performExit scope rest result
  | .getText :: rest, result => do
    noteText scope
    performExit scope rest result

/-- What is written down about a result. -/
def resultText : StageResult → String
  | .ok .completed => "Completed"
  | .ok .retryRequested => "RetryRequested"
  | .ok (.movedToErrorQueue _) => "MovedToErrorQueue"
  | .error failure => "error " ++ failure.kind

/-- What is written down when a step is entered. -/
def entryText (view : View C) (label : String) (remaining depth : Nat) (context : C) : String :=
  "enter " ++ label ++ " remaining=" ++ toString remaining ++ " depth=" ++ toString depth ++
    " headers=" ++ toString (view.headerCount context) ++ " [" ++ view.text context ++ "]"

/-- The behavior of a script. -/
def StepScript.behavior (view : View C) (script : StepScript) : Stage C := fun next context => do
  let depth ← Act.ask (.scopeDepth (view.scope context))
  Act.note (.string (entryText view script.label next.remaining depth context))
  let call ← Act.ask (.tally script.key)
  let (refused, context) ← performEntry view call script.onEntry context
  match refused with
  | some failure => pure (.error failure, context)
  | none => do
    let (result, context) ←
      match script.result with
      | some result => pure (result, context)
      | none => next.run context
    let result ← performExit (view.scope context) script.onExit result
    Act.note (.string ("exit " ++ script.label ++ " " ++ resultText result))
    pure (result, context)

end Messaging.Scripted
