import Messaging.Header
import Messaging.Text.Blank
import Messaging.Text.Utf8

/-!
# Messages

- `Message` is what a transport carries: an id, headers and the bytes of a body.
- `Message.replyTo?`, `Message.isControl` and `Message.enclosedType?` read its headers.
-/

namespace Messaging

/-- The bytes of a message body. -/
abbrev Body := List UInt8

/-- A message as a transport carries it. -/
structure Message where
  /-- The id of the message. -/
  id : String
  /-- The headers of the message. -/
  headers : Headers
  /-- The bytes of the body. -/
  body : Body
deriving DecidableEq, Inhabited

namespace Message

/-- The value of a header. -/
def header? (message : Message) (key : String) : Option String := message.headers.get? key

/-- The message with a header set. -/
def setHeader (message : Message) (key value : String) : Message :=
  { message with headers := message.headers.insert key value }

/-- The address that the sender wants replies at. -/
def replyTo? (message : Message) : Option String := message.header? Header.replyToAddress

/-- Whether the message has no logical body. -/
def isControl (message : Message) : Bool :=
  match message.header? Header.controlMessage with
  | some value => value.toList.map Char.toLower == "true".toList
  | none => false

/-- The characters before the first semicolon. -/
def firstPart (text : String) : String := String.ofList (text.toList.takeWhile (· != ';'))

/-- The first message type of the body, unless none is named. -/
def enclosedType? (message : Message) : Option String :=
  match message.header? Header.enclosedMessageTypes with
  | some types =>
    let first := Text.trim (firstPart types)
    if first.isEmpty then none else some first
  | none => none

end Message

/-- The bytes of a text. -/
def Body.ofText (text : String) : Body := Text.Utf8.encode text.toList

/-- The text of a body, if it is one. -/
def Body.text? (body : Body) : Option String := (Text.Utf8.decode? body).map String.ofList

end Messaging
