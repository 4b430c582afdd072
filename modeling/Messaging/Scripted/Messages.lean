import Messaging.Json.Schema
import Messaging.Serializer

/-!
# Scripted messages

The message types of scripted user code.

- `schema?` is the shape of the types that have one; all others take any value.
- `accept` reads a message of a type and `payload` hands one over. The type `brokenType` takes any
  value and has no written form.
- `refusingSerializer` is a format that writes and reads nothing.
-/

namespace Messaging.Scripted

/-- The shape of a message type that has one. -/
def schema? : String → Option Json.Schema
  | "sales.PlaceOrder" => some ⟨"PlaceOrder", [("order_id", .u32)]⟩
  | "billing.ChargeCard" => some ⟨"ChargeCard", [("card", .text), ("amount", .i64)]⟩
  | _ => none

/-- The message type without a written form. -/
def brokenType : String := "any.Broken"

/-- Reads the content of a message of a type. -/
def accept (messageType : String) (body : Json) : Except String Json :=
  match schema? messageType with
  | none => .ok body
  | some schema =>
    match schema.read body with
    | .ok content => .ok content
    | .error mismatch =>
      .error ("body is not a valid " ++ messageType ++ ": " ++ mismatch.message)

/-- The written form of the content of a message. -/
def written (messageType : String) (body : Json) : Except String Json :=
  if messageType = brokenType then .error "broken message refuses to serialize" else .ok body

/-- A message that scripted user code hands over. -/
def payload (messageType : String) (body : Json) : Payload where
  messageType := messageType
  body := do
    let content ← accept messageType body
    written messageType content

/-- A format that writes and reads nothing. -/
def refusingSerializer : Serializer where
  contentType := "application/x-refusing"
  write _ := .error "serializer refuses to write"
  read _ := .error "serializer refuses to read"

end Messaging.Scripted
