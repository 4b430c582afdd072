import Messaging.World.Site

/-!
# The world

- `World` is what the endpoints of a process share, and the site of the one that is looked at.
- `World.perform` answers a request.
- `World.run` runs a program that nothing interrupts; sleeping only moves the stopwatch.
- `World.advance` runs one until it ends or sleeps, and `World.advance_bind` takes it apart.

The time of day moves on by a microsecond with every reading, so that no two readings agree.
-/

namespace Messaging

open Time (Instant Span)

/-- The surroundings of a program. -/
structure World where
  /-- The time of day of the next reading. -/
  clock : Instant
  /-- Milliseconds that have passed for sleepers. -/
  stopwatch : Nat := 0
  /-- How many ids were given. -/
  ids : Nat := 0
  /-- The scopes. -/
  scopes : Scopes := {}
  /-- The lists of staged operations. -/
  stagings : Array (List Operation) := #[]
  /-- The queues and subscriptions. -/
  broker : Broker := {}
  /-- What belongs to the endpoint. -/
  site : Site := {}

/-- The text of an id: a time-ordered unique id whose last group counts. -/
def idText (n : Nat) : String :=
  "00000000-0000-7000-8000-" ++ String.ofList ((Nat.toDigits 16 n).leftpad 12 '0')

namespace World

/-- Changes the site. -/
def modifySite (world : World) (f : Site → Site) : World := { world with site := f world.site }

/-- Reads the time of day. -/
def readClock (world : World) : Instant × World :=
  -- a microsecond is the finest step that the wire format keeps
  (world.clock, { world with clock := world.clock.plus ⟨1000⟩ })

/-- Hands a batch to the site's way out. -/
def dispatch (world : World) (batch : Batch) : Except TransportError Unit × World :=
  match world.site.outlet with
  | .recorder recorder =>
    let (answer, recorder) := recorder.take batch
    (answer, world.modifySite fun site => { site with outlet := .recorder recorder })
  | .broker =>
    let (now, world) := world.readClock
    let (answer, broker) := world.broker.deliver now batch
    (answer, { world with broker })

/-- Answers a request of the storage. -/
def withStorage {α : Type} (world : World) (f : Storage → α × Storage) : α × World :=
  let (answer, storage) := f world.site.storage
  (answer, world.modifySite fun site => { site with storage })

/-- Answers a request. -/
def perform (world : World) : (effect : Effect) → effect.Answer × World
  | .clock => world.readClock
  | .freshId => (idText world.ids, { world with ids := world.ids + 1 })
  | .openScope parent =>
    let (id, scopes) := world.scopes.openUnder parent
    (id, { world with scopes })
  | .readSlot scope slot => (world.scopes.get? slot scope, world)
  | .writeSlot scope slot value => ((), { world with scopes := world.scopes.set scope slot value })
  | .scopeDepth scope => (world.scopes.depth scope, world)
  | .openStaging => (world.stagings.size, { world with stagings := world.stagings.push [] })
  | .stage staging operations =>
    ((), { world with stagings := world.stagings.modify staging (· ++ operations) })
  | .takeStaged staging =>
    ((world.stagings[staging]?).getD [],
      { world with stagings := world.stagings.modify staging fun _ => [] })
  | .dispatch batch => world.dispatch batch
  | .addTimeout timeout => world.withStorage (·.add timeout)
  | .peekTimeout id => world.withStorage (·.peek id)
  | .removeTimeout id => world.withStorage (·.remove id)
  | .nextChunk start =>
    let (now, world) := world.readClock
    world.withStorage (·.nextChunk start now)
  | .countFailure counter pipeline messageId =>
    let (count, counted) := (world.site.counters counter).increment pipeline messageId
    (count, world.modifySite (·.modifyCounter counter fun _ => counted))
  | .clearFailures counter pipeline messageId =>
    ((), world.modifySite (·.modifyCounter counter (·.clear pipeline messageId)))
  | .raiseCritical message cause =>
    ((), world.modifySite fun site => { site with critical := site.critical.raise message cause })
  | .publish event =>
    ((), world.modifySite fun site => { site with events := site.events.publish event })
  | .readSchedule => (world.site.schedule, world)
  | .changeSchedule change =>
    ((), world.modifySite fun site => { site with schedule := change site.schedule })
  | .installBreaker breaker => ((), world.modifySite fun site => { site with breaker })
  | .querySucceeded =>
    ((), world.modifySite fun site => { site with breaker := site.breaker.success })
  | .queryFailed =>
    let (trips, breaker) := world.site.breaker.failure world.stopwatch
    (trips, world.modifySite fun site => { site with breaker })
  | .createQueue address =>
    let (isNew, broker) := world.broker.createQueue address
    (isNew, { world with broker })
  | .subscribe messageType address =>
    ((), { world with broker := world.broker.subscribe messageType address })
  | .unsubscribe messageType address =>
    ((), { world with broker := world.broker.unsubscribe messageType address })
  | .sleep millis => ((), { world with stopwatch := world.stopwatch + millis })
  | .note entry =>
    ((), world.modifySite fun site => { site with journal := site.journal ++ [entry] })
  | .tally key =>
    let n := world.site.tallies.getD key 0 + 1
    (n, world.modifySite fun site => { site with tallies := site.tallies.insert key n })

/-- Runs a program to its end or its panic. -/
def run {α : Type} : Act α → World → Except Panic α × World
  | .done result, world => (.ok result, world)
  | .panic payload, world => (.error payload, world)
  | .call effect next, world =>
    let (answer, world) := world.perform effect
    run (next answer) world

end World

/-- Where a program stands that other work may interrupt. -/
inductive Progress (α : Type) where
  /-- It has finished. -/
  | finished (result : α)
  /-- It has panicked. -/
  | panicked (payload : Panic)
  /-- It sleeps for a number of milliseconds. -/
  | asleep (millis : Nat) (rest : Act α)

/-- Runs a program until it ends or sleeps; no time is no sleep. -/
def World.advance {α : Type} : Act α → World → Progress α × World
  | .done result, world => (.finished result, world)
  | .panic payload, world => (.panicked payload, world)
  | .call effect next, world =>
    match effect, next with
    | .sleep millis, next =>
      if millis = 0 then World.advance (next ()) world else (.asleep millis (next ()), world)
    | effect, next =>
      let (answer, world) := world.perform effect
      World.advance (next answer) world

/-- Goes on after a first part has ended; while that sleeps, or once it has panicked, there is
nothing to go on with. -/
def Progress.bind {α β : Type} (f : α → Act β) : Progress α × World → Progress β × World
  | (.finished result, world) => World.advance (f result) world
  | (.panicked payload, world) => (.panicked payload, world)
  | (.asleep millis rest, world) => (.asleep millis (rest.bind f), world)

namespace World

variable {α β : Type}

/-- A request that is no sleep is answered at once. -/
theorem advance_call (world : World) (effect : Effect) (next : effect.Answer → Act α)
    (hawake : ∀ millis, effect ≠ .sleep millis) :
    advance (.call effect next) world
      = advance (next (world.perform effect).1) (world.perform effect).2 := by
  cases effect
  case sleep millis => exact absurd rfl (hawake millis)
  all_goals rfl

/-- A sleep of no time is passed over, any other is where a program stops. -/
theorem advance_sleep (world : World) (millis : Nat) (next : Unit → Act α) :
    advance (.call (.sleep millis) next) world
      = if millis = 0 then advance (next ()) world else (.asleep millis (next ()), world) := rfl

/-- A program advances through its first part before its second. -/
theorem advance_bind (program : Act α) (f : α → Act β) (world : World) :
    advance (program.bind f) world = Progress.bind f (advance program world) := by
  induction program generalizing world with
  | done => rfl
  | panic => rfl
  | call effect next ih =>
    rw [Program.call_bind]
    -- a sleep may leave the first program unfinished, and then the second waits behind it
    by_cases hsleep : ∃ millis, effect = .sleep millis
    · obtain ⟨millis, rfl⟩ := hsleep
      rw [advance_sleep, advance_sleep]
      split
      · exact ih () world
      · rfl
    · have hawake : ∀ millis, effect ≠ .sleep millis := fun millis h => hsleep ⟨millis, h⟩
      rw [advance_call _ _ _ hawake, advance_call _ _ _ hawake]
      exact ih _ _

end World

end Messaging
