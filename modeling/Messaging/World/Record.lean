import Messaging.World.Site

/-!
# Records

- `Record` is what an endpoint left behind: its journal, its batches, its critical errors and its
  events.
- `Site.takeRecord` gives what was left behind since the last time.
-/

namespace Messaging

/-- What an endpoint left behind. -/
structure Record where
  /-- The entries of its journal. -/
  journal : List Json
  /-- The batches that its recorder accepted. -/
  batches : List Batch
  /-- Its critical errors with their causes. -/
  critical : List (String × String)
  /-- The events that its receivers got, those of the first receiver first. -/
  events : List Event

/-- Drains the receivers of a channel from a number on. -/
def Broadcast.drainAll {α : Type} : List Nat → Broadcast α → List α × Broadcast α
  | [], channel => ([], channel)
  | receiver :: rest, channel =>
    let (first, channel) := channel.drain receiver
    let (others, channel) := drainAll rest channel
    (first ++ others, channel)

namespace Site

/-- The batches that were accepted. -/
def batches (site : Site) : List Batch :=
  match site.outlet with
  | .recorder recorder => recorder.accepted
  | .broker => []

/-- The way out without the batches that it accepted. -/
def clearedOutlet (site : Site) : Outlet :=
  match site.outlet with
  | .recorder recorder => .recorder { recorder with accepted := [] }
  | .broker => .broker

/-- Takes what was left behind. -/
def takeRecord (site : Site) : Record × Site :=
  let (events, channel) := site.events.drainAll (List.range site.events.positions.length)
  ({ journal := site.journal, batches := site.batches, critical := site.critical.raised, events },
    { site with
      journal := [], outlet := site.clearedOutlet, events := channel
      critical := { site.critical with raised := [] } })

end Site

end Messaging
