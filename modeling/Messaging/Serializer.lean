import Messaging.Json.Printer
import Messaging.Json.Reader
import Messaging.Message

/-!
# Message bodies

- `LogicalMessage` is a message as handlers see it: a type and a JSON value.
- `Serializer` turns JSON values into bytes and back; `Serializer.json` writes JSON text.
- `Payload` is a message that user code hands over; it may turn out to have no JSON form.
-/

namespace Messaging

/-- A message as handlers see it. -/
structure LogicalMessage where
  /-- The message type. -/
  messageType : String
  /-- The content. -/
  body : Json
deriving Inhabited

/-- A message that user code hands over. -/
structure Payload where
  /-- The message type. -/
  messageType : String
  /-- The content, or why it has no JSON form. -/
  body : Except String Json

/-- A format of message bodies. -/
structure Serializer where
  /-- The media type. -/
  contentType : String
  /-- Writes a value or says why not. -/
  write : Json → Except String Body
  /-- Reads a value or says why not. -/
  read : Body → Except String Json

/-- JSON text. -/
def Serializer.json : Serializer where
  contentType := "application/json"
  write value := .ok value.toBytes
  read body :=
    match Json.read body with
    | .ok value => .ok value
    | .error error => .error error.message

end Messaging
