import Messaging.Effect.Lifecycle

/-!
# Scripted entries of pumps

- `EntryEnd` is how the processing of a message ends.
- `scriptedEntry` writes down each message and ends as the script says for it.
-/

namespace Messaging.Scripted

/-- How the processing of a message ends. -/
inductive EntryEnd where
  /-- With a result. -/
  | result (result : StageResult)
  /-- With a panic. -/
  | panic (payload : Panic)
  /-- After a sleep of a number of milliseconds. -/
  | sleep (millis : Nat) (rest : EntryEnd)

/-- Ends the processing of a message. -/
def EntryEnd.program (message : Message) : EntryEnd → Act StageResult
  | .result ending => pure ending
  | .panic payload => Act.panic payload
  | .sleep millis rest => do
    Act.ask (.sleep millis)
    Act.note (.string ("woke " ++ message.id))
    rest.program message

/-- The entry that ends as a script says for each received message, and then completes. -/
def scriptedEntry (script : List EntryEnd) : PumpEntry := fun message scope => do
  let depth ← Act.ask (.scopeDepth scope)
  Act.note (.string ("receive " ++ message.id ++ " depth=" ++ toString depth))
  let call ← Act.ask (.tally "entry")
  match script[call - 1]? with
  | some ending => ending.program message
  | none => pure (.ok .completed)

end Messaging.Scripted
