import Messaging.Diagnostics
import Messaging.Scripted.Messages

/-!
# Scripted handlers

A scripted handler writes down what it was called with and then performs a list of actions.

- `HandlerAction` is one thing that a handler does, and `HandlerLine` may pass over its failure.
- `HandlerScript.handler` is the handler of a script.
-/

namespace Messaging.Scripted

/-- One thing that a handler does. -/
inductive HandlerAction where
  /-- Fails. -/
  | fail (text : String) (causes : List String)
  /-- Fails in its first calls. -/
  | failFirst (calls : Nat) (text : String) (causes : List String)
  /-- Panics. -/
  | panic (payload : Panic)
  /-- Keeps the message from the handlers after this one. -/
  | stop
  /-- Writes down whether the message is kept from them. -/
  | stopped
  /-- Writes down the description of its context. -/
  | describe
  /-- Puts a text into its scope. -/
  | setText (text : String)
  /-- Writes down the text that its scope sees. -/
  | getText
  /-- Writes down a header. -/
  | header (key : String)
  /-- Forwards the message. -/
  | forward (address : String)
  /-- Sends a message. -/
  | send (payload : Payload) (options : SendOptions)
  /-- Sends a message to the endpoint itself. -/
  | sendLocal (payload : Payload)
  /-- Publishes a message. -/
  | publish (payload : Payload)
  /-- Answers the sender. -/
  | reply (payload : Payload)

/-- An action of a script. -/
structure HandlerLine where
  /-- The action. -/
  action : HandlerAction
  /-- Whether a failure is written down and passed over. -/
  tolerant : Bool

/-- What a scripted handler does. -/
structure HandlerScript where
  /-- The name of its code. -/
  name : String
  /-- What it writes down to be told from others. -/
  label : String
  /-- The key that its calls are counted under. -/
  key : String
  /-- The message type that it takes. -/
  messageType : String
  /-- What it does. -/
  lines : List HandlerLine

/-- The end of an action: its context, or a failure or panic with the context left behind. -/
abbrev ActionEnd := HandlerEnd × HandlerContext

/-- Ends an action that leads out of the handler. -/
def finishOutgoing (context : HandlerContext) (program : Act (Except Failure Unit)) :
    Act ActionEnd := do
  match ← program.attempt with
  | .ok (.ok ()) => pure (.returned, context)
  | .ok (.error failure) => pure (.failed (.wrapped failure), context)
  | .error payload => pure (.panicked payload, context)

/-- Writes something down and goes on. -/
def noting (context : HandlerContext) (name : String) (value : Json) : Act ActionEnd := do
  Act.note (.ofMembers [(name, value)])
  pure (.returned, context)

/-- Performs an action in the call of a number. -/
def HandlerAction.perform (call : Nat) (context : HandlerContext) : HandlerAction → Act ActionEnd
  | fail text causes => pure (.failed (.handler text causes), context)
  | failFirst calls text causes =>
    if call ≤ calls then pure (.failed (.handler text causes), context)
    else pure (.returned, context)
  | panic payload => pure (.panicked payload, context)
  | stop => pure (.returned, { context with stopped := true })
  | stopped => noting context "aborted" (.bool context.stopped)
  | describe => noting context "debug" (.string context.describe)
  | setText text => do
    Act.ask (.writeSlot context.scope .text text)
    pure (.returned, context)
  | getText => do
    let text ← Act.ask (.readSlot context.scope .text)
    noting context "bag" (.ofString? text)
  | header key => noting context "header" (.ofString? (context.headers.get? key))
  | forward address => finishOutgoing context (context.forward address)
  | send payload options => finishOutgoing context (context.send payload options)
  | sendLocal payload => finishOutgoing context (context.sendLocal payload)
  | publish payload => finishOutgoing context (context.publish payload)
  | reply payload => finishOutgoing context (context.reply payload)

/-- Performs actions up to the first that fails. -/
def performLines (call : Nat) : List HandlerLine → HandlerContext → Act ActionEnd
  | [], context => pure (.returned, context)
  | line :: rest, context => do
    let (ending, context) ← line.action.perform call context
    match ending with
    | .returned => performLines call rest context
    | .failed failure =>
      if line.tolerant then do
        Act.note (.ofMembers [("ignored", .string failure.message)])
        performLines call rest context
      else pure (.failed failure, context)
    | .panicked payload => pure (.panicked payload, context)

/-- What a call of a scripted handler writes down. -/
def callEntry (script : HandlerScript) (content : Json) (context : HandlerContext) (depth : Nat) :
    Json :=
  .ofMembers [("handler", .string script.label), ("type", .string script.messageType),
    ("body", ((written script.messageType content).toOption).getD .null),
    ("id", .string context.messageId), ("reply_to", .ofString? context.replyTo?),
    ("depth", .ofNat depth)]

/-- The handler of a script. -/
def HandlerScript.handler (script : HandlerScript) : Handler where
  name := script.name
  accept := accept script.messageType
  handle content context := do
    let call ← Act.ask (.tally script.key)
    let depth ← Act.ask (.scopeDepth context.scope)
    Act.note (callEntry script content context depth)
    performLines call script.lines context

/-- Registers scripted handlers in order. -/
def registerHandlers (scripts : List HandlerScript) : Incoming.Handlers :=
  scripts.foldl (fun handlers script =>
    Incoming.addHandler handlers script.messageType script.handler) ∅

end Messaging.Scripted
