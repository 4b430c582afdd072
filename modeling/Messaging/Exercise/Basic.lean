import Messaging.Host.Run
import Messaging.JsonForm.Record

/-!
# Exercises

An exercise runs a script on a host and writes down what happened.

- `Exercise` is a computation on a host, and `onHost` runs it on a new one.
- `decode` reads a part of the script with the clock of the host, `perform` runs a program of an
  endpoint, and `shown` writes a result together with what the endpoint left behind.
-/

namespace Messaging

open JsonForm
open Time (Instant)

/-- A computation on a host. -/
abbrev Exercise := StateM Host

namespace Exercise

/-- The first reading of the clock: the first of July 2026. -/
def epoch : Instant := ⟨1782864000, 0⟩

/-- Runs an exercise on a new host. -/
def onHost (exercise : Exercise Json) : Json := (exercise.run { world := { clock := epoch } }).1

/-- Reads a part of the script. -/
def decode {α : Type} (reading : Reading α) : Exercise α := do
  let host ← get
  let (value, clock) := reading.run host.world.clock
  set { host with world := { host.world with clock } }
  pure value

/-- The time of day. -/
def now : Exercise Instant := return (← get).world.clock

/-- The queues. -/
def broker : Exercise Broker := return (← get).world.broker

/-- Changes the queues. -/
def changeBroker (f : Broker → Broker) : Exercise Unit := modify (·.modifyBroker f)

/-- Adds an endpoint's site. -/
def addSite (site : Site) : Exercise SiteId := modifyGet (·.addSite site)

/-- The site of an endpoint. -/
def siteOf (site : SiteId) : Exercise Site := return (← get).sites[site]?.getD {}

/-- Changes the site of an endpoint. -/
def changeSite {α : Type} (site : SiteId) (f : Site → α × Site) : Exercise α :=
  modifyGet fun host => host.inSite site fun world =>
    let (value, site) := f world.site
    (value, { world with site })

/-- Runs a program of an endpoint. -/
def run {α : Type} (site : SiteId) (program : Act α) : Exercise (Except Panic α) :=
  modifyGet (·.act site program)

/-- The form of a result or of a panic. -/
def ofPanic {α : Type} (of : α → Json) : Except Panic α → Json
  | .ok value => of value
  | .error payload => .ofMembers [("panic", .string payload.message)]

/-- Runs a program of an endpoint and writes its result. -/
def perform {α : Type} (site : SiteId) (of : α → Json) (program : Act α) : Exercise Json := do
  let result ← run site program
  pure (ofPanic of result)

/-- Writes what an endpoint left behind since the last time. -/
def left (site : SiteId) : Exercise (List (String × Json)) := do
  let record ← changeSite site Site.takeRecord
  pure (recordMembers (← now) record)

/-- A result together with more members and what an endpoint left behind. -/
def shown (site : SiteId) (result : Json) (more : List (String × Json) := []) : Exercise Json := do
  let left ← left site
  pure (.ofMembers ([("result", result)] ++ more ++ left))

/-- The answers to the items of a member of the script. -/
def answers (script : Json) (member : String) (step : Json → Exercise Json) : Exercise Json := do
  let answers ← (asItems (script.getD member)).mapM step
  pure (.array answers)

/-- The answers to the steps of the script. -/
def steps (script : Json) (step : String → Json → Exercise Json) : Exercise Json :=
  answers script "steps" fun value => step (asTagged value).1 (asTagged value).2

/-- The result of a step that does its work. -/
def ok : Json := .string "ok"

/-- Lets the tasks of the host run for a number of milliseconds. -/
def idle (millis : Nat) : Exercise Unit := modify (·.idle millis)

end Exercise

end Messaging
