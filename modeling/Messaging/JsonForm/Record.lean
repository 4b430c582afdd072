import Messaging.JsonForm.Message
import Messaging.World.Record

/-!
# Records in JSON forms

- `recordMembers` writes what an endpoint left behind; what is empty is left out.
-/

namespace Messaging.JsonForm

open Time (Instant)

/-- A member with a list that is left out when it is empty. -/
def listMember (name : String) (items : List Json) : List (String × Json) :=
  if items.isEmpty then [] else [(name, .array items)]

/-- A critical error with its cause. -/
def ofCritical (raised : String × String) : Json :=
  .ofMembers [("message", .string raised.1), ("cause", .string raised.2)]

/-- The members of a record. -/
def recordMembers (now : Instant) (record : Record) : List (String × Json) :=
  listMember "log" record.journal ++
  listMember "dispatched" (record.batches.map (ofBatch now)) ++
  listMember "critical" (record.critical.map ofCritical) ++
  listMember "events" (record.events.map (ofEvent now))

end Messaging.JsonForm
