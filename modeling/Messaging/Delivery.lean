import Messaging.Json.Schema
import Messaging.Time.Rfc3339

/-!
# Delivery constraints

Requirements on when a message may be received.

- `Constraint` is a requirement, `Constraint.Kind` what transports declare to support.
- `Constraint.isDelay` tells the requirements that defer a delivery, and `Constraint.dueAt?` is the
  time they defer it to.
- `Constraint.toJson` and `Constraint.ofJson?` are its JSON form.
-/

namespace Messaging

open Time (Instant Span)

/-- A requirement on the delivery of a message. -/
inductive Constraint where
  /-- The message is dropped unless it is received within a span. -/
  | discardAfter (span : Span)
  /-- The message is not delivered before a span has passed. -/
  | delayBy (span : Span)
  /-- The message is not delivered before an instant. -/
  | notBefore (due : Instant)
deriving DecidableEq, Repr

/-- The kind of a requirement. -/
inductive Constraint.Kind where
  /-- Dropping messages that are not received in time. -/
  | discardAfter
  /-- Deferring by a span. -/
  | delayBy
  /-- Deferring to an instant. -/
  | notBefore
deriving DecidableEq, Repr

namespace Constraint

/-- The kind of a requirement. -/
def kind : Constraint → Kind
  | discardAfter _ => .discardAfter
  | delayBy _ => .delayBy
  | notBefore _ => .notBefore

/-- Whether a kind defers deliveries. -/
def Kind.isDelay : Kind → Bool
  | .discardAfter => false
  | .delayBy | .notBefore => true

/-- The text of a kind. -/
def Kind.text : Kind → String
  | .discardAfter => "DiscardIfNotReceivedBefore"
  | .delayBy => "DelayDeliveryWith"
  | .notBefore => "DoNotDeliverBefore"

/-- The name of a kind in JSON. -/
def Kind.name : Kind → String
  | .discardAfter => "discard_if_not_received_before"
  | .delayBy => "delay_delivery_with"
  | .notBefore => "do_not_deliver_before"

/-- The kinds. -/
def Kind.all : List Kind := [.discardAfter, .delayBy, .notBefore]

/-- The kind with a name in JSON. -/
def Kind.ofName? (name : String) : Option Kind := Kind.all.find? (·.name = name)

/-- Whether a requirement defers the delivery. -/
def isDelay (constraint : Constraint) : Bool := constraint.kind.isDelay

/-- The instant that a delivery is deferred to. -/
def dueAt? (constraint : Constraint) (now : Instant) : Option Instant :=
  match constraint with
  | delayBy span => some (now.later span)
  | notBefore due => some due
  | discardAfter _ => none

/-- A span in JSON. -/
def spanToJson (span : Span) : Json :=
  .ofMembers [("secs", .ofNat span.seconds), ("nanos", .ofNat span.subsecond)]

/-- Reads a span: seconds and nanoseconds and nothing else; the whole seconds fit 64 bits. -/
def spanOfJson? (value : Json) : Option Span := do
  let fields ← value.fieldValues ["secs", "nanos"]
  match value with
  | .object members => guard (members.length = 2)
  | _ => pure ()
  let seconds ← Json.required (Json.natural? 64) (fields[0]?.join)
  let nanos ← Json.required (Json.natural? 32) (fields[1]?.join)
  guard (seconds + nanos / Span.perSecond < 18446744073709551616)
  some ⟨seconds * Span.perSecond + nanos⟩

/-- A requirement in JSON. -/
def toJson (constraint : Constraint) : Json :=
  let field : String × Json :=
    match constraint with
    | discardAfter span => ("time_to_be_received", spanToJson span)
    | delayBy span => ("delay", spanToJson span)
    | notBefore due => ("at", .string (Time.Rfc3339.write due))
  .ofMembers [("kind", .string constraint.kind.name), field]

/-- Reads a requirement; its kind stands under its name or first in a list. -/
def ofJson? (value : Json) : Option Constraint := do
  let (tag, content) ← match value with
    | .object members => (lookupEntry "kind" members).map (·, value)
    | .array (tag :: rest) => some (tag, .array rest)
    | _ => none
  match Kind.ofName? (← tag.text?) with
  | some .discardAfter => do
    let fields ← content.fieldValues ["time_to_be_received"]
    (Json.required spanOfJson? fields[0]?.join).map discardAfter
  | some .delayBy => do
    let fields ← content.fieldValues ["delay"]
    (Json.required spanOfJson? fields[0]?.join).map delayBy
  | some .notBefore => do
    let fields ← content.fieldValues ["at"]
    let text ← Json.required Json.text? fields[0]?.join
    (Time.Rfc3339.read text).toOption.map notBefore
  | none => none

end Constraint

end Messaging
