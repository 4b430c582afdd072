import Messaging.Incoming.Stages
import Messaging.Proofs.Service

/-!
# Before and after a message is handled

A receive opens a list of staged operations and a scope that leads to it, has the message handled
there, and dispatches what the list holds.

- `opening` is what comes before the stages of read messages, and `closing` what comes after them.
- `deserialize_eq` says that these three are the receive of a message that can be read;
  `deserialize_control` and `deserialize_unreadable` are about the others.
-/

namespace Messaging.Incoming

/-- What a receive does before its message is handled: a list of staged operations and a scope that
leads to it and to the message. -/
def opening (context : ReceiveContext) : Act (StagingId × ScopeId) := do
  let staging ← Act.ask .openStaging
  let scope ← Act.childScope context.scope
  Act.ask (.writeSlot scope .staging staging)
  Act.ask (.writeSlot scope .received context.message)
  pure (staging, scope)

/-- What a receive does after its message was handled. -/
def closing (staging : StagingId) : StageResult → Act StageResult
  | .error failure => pure (.error failure)
  | .ok outcome => do
    let staged ← Act.ask (.takeStaged staging)
    finishReceive staged outcome

/-- What is handled of a message that was read. -/
def readContext (context : ReceiveContext) (message : LogicalMessage) (scope : ScopeId) :
    IncomingContext where
  messageId := context.message.id
  headers := context.message.headers
  message
  scope

/-- A receive does not panic before its message is handled. -/
theorem calm_opening (context : ReceiveContext) : (opening context).Calm :=
  .ask fun _ => .ask fun _ => .ask fun _ => .ask fun _ => trivial

/-- Nor does it afterwards. -/
theorem calm_closing (staging : StagingId) (segment : StageResult) :
    (closing staging segment).Calm := by
  cases segment with
  | error failure => trivial
  | ok outcome =>
    refine .ask fun staged => ?_
    rw [finishReceive]
    split
    · trivial
    · split
      · trivial
      · refine .ask fun answer => ?_
        cases answer <;> trivial

variable {serializer : Serializer} {incoming : Chain IncomingContext} {context : ReceiveContext}

/-- A message without a logical body is done at once. -/
theorem deserialize_control (hcontrol : context.message.isControl = true) :
    deserialize serializer incoming context = .done (.ok .completed, context) := by
  rw [deserialize, if_pos hcontrol]
  rfl

/-- A message that cannot be read fails at once. -/
theorem deserialize_unreadable {failure : Failure} (hcontrol : context.message.isControl = false)
    (hread : logicalMessage serializer context.message = .error failure) :
    deserialize serializer incoming context = .done (.error failure, context) := by
  rw [deserialize, if_neg (by rw [hcontrol]; exact Bool.false_ne_true), hread]
  rfl

/-- A message that was read is handled between an opening and a closing. -/
theorem deserialize_eq {message : LogicalMessage} (hcontrol : context.message.isControl = false)
    (hread : logicalMessage serializer context.message = .ok message) :
    deserialize serializer incoming context
      = (opening context).bind fun opened =>
          (incoming.result (readContext context message opened.2)).bind fun segment =>
            (closing opened.1 segment).bind fun result => .done (result, context) := by
  rw [deserialize, if_neg (by rw [hcontrol]; exact Bool.false_ne_true), hread]
  refine congrArg (Program.bind (Act.ask .openStaging)) (funext fun staging => ?_)
  refine congrArg (Program.bind (Act.childScope context.scope)) (funext fun scope => ?_)
  refine congrArg (Program.bind (Act.ask (.writeSlot scope .staging staging))) (funext fun _ => ?_)
  refine congrArg (Program.bind (Act.ask (.writeSlot scope .received context.message)))
    (funext fun _ => congrArg (Program.bind _) (funext fun segment => ?_))
  cases segment <;> rfl

/-- A receive panics only while its message is handled. -/
theorem calm_deserialize (hincoming : ∀ context, (incoming.result context).Calm) :
    (deserialize serializer incoming context).Calm := by
  cases hcontrol : context.message.isControl with
  | true =>
    rw [deserialize_control hcontrol]
    trivial
  | false =>
    cases hread : logicalMessage serializer context.message with
    | error failure =>
      rw [deserialize_unreadable hcontrol hread]
      trivial
    | ok message =>
      rw [deserialize_eq hcontrol hread]
      exact (calm_opening context).bind fun opened => (hincoming _).bind fun segment =>
        (calm_closing opened.1 segment).bind fun _ => trivial

/-- A message that was read names its type. -/
theorem enclosedType?_of_read {received : Message} {message : LogicalMessage}
    (hread : logicalMessage serializer received = .ok message) :
    received.enclosedType? = some message.messageType := by
  rw [logicalMessage] at hread
  split at hread
  · cases hread
  · next messageType htype =>
    split at hread
    · cases hread
      exact htype
    · cases hread

end Messaging.Incoming
