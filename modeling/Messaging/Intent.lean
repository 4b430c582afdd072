/-!
# Intents

- `Intent` says why a message is sent, `Intent.name` is its header text and `Intent.ofName?` reads
  that text.
-/

namespace Messaging

/-- Why a message is sent. -/
inductive Intent where
  /-- A command to one endpoint. -/
  | send
  /-- An event to every subscriber. -/
  | publish
  /-- A request to be told of events. -/
  | subscribe
  /-- A request to be told no more. -/
  | unsubscribe
  /-- An answer to a received message. -/
  | reply
deriving DecidableEq, Repr, Inhabited

namespace Intent

/-- The header text of an intent. -/
def name : Intent → String
  | send => "Send"
  | publish => "Publish"
  | subscribe => "Subscribe"
  | unsubscribe => "Unsubscribe"
  | reply => "Reply"

/-- The intents. -/
def all : List Intent := [send, publish, subscribe, unsubscribe, reply]

/-- The intent with a header text. -/
def ofName? (text : String) : Option Intent := all.find? (·.name = text)

/-- The text that refuses a name of no intent. -/
def unknownText (text : String) : String := "unknown message intent '" ++ text ++ "'"

end Intent

end Messaging
