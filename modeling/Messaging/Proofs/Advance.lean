import Messaging.Proofs.Staging

/-!
# How far an attempt gets before it waits

A host lets the program of an attempt go on until it ends or sleeps.

- `World.transcript` is what the program asks for on the way, and `standing_of_assured` says that
  what is promised of the program is true where it stands then.
- `World.extends_advance` says that nothing is taken from a queue on the way.
-/

namespace Messaging

namespace World

/-! ### Transcripts -/

/-- What a program asks for and is answered until it ends or sleeps, first asked first. -/
def transcript {α : Type} : Act α → World → List Exchange
  | .done _, _ | .panic _, _ => []
  | .call effect next, world =>
    match effect, next with
    | .sleep millis, next => if millis = 0 then transcript (next ()) world else []
    | effect, next =>
      ⟨effect, (world.perform effect).1⟩ ::
        transcript (next (world.perform effect).1) (world.perform effect).2

variable {α : Type}

/-- A request that is no sleep comes first, then what is asked for after its answer. -/
theorem transcript_call (world : World) (effect : Effect) (next : effect.Answer → Act α)
    (hawake : ∀ millis, effect ≠ .sleep millis) :
    transcript (.call effect next) world
      = ⟨effect, (world.perform effect).1⟩ ::
          transcript (next (world.perform effect).1) (world.perform effect).2 := by
  cases effect
  case sleep millis => exact absurd rfl (hawake millis)
  all_goals rfl

/-- A sleep of no time is passed over, and nothing is asked for behind any other. -/
theorem transcript_sleep (world : World) (millis : Nat) (next : Unit → Act α) :
    transcript (.call (.sleep millis) next) world
      = if millis = 0 then transcript (next ()) world else [] := rfl

/-! ### Queues -/

/-- No request takes a message from a queue. -/
theorem extends_perform (address : String) (world : World) (effect : Effect) :
    Broker.Extends address world.broker (world.perform effect).2.broker := by
  cases effect
  case dispatch batch =>
    rw [perform, dispatch]
    split
    · exact .of_eq rfl
    · exact .deliver address _ _ _
  case createQueue other => exact .createQueue address _ other
  case unsubscribe messageType other =>
    refine .of_eq ?_
    change (Broker.unsubscribe ..).queue? address = _
    rw [Broker.unsubscribe]
    split <;> rfl
  all_goals exact .of_eq rfl

/-- Neither does a program on its way. -/
theorem extends_advance (address : String) (program : Act α) (world : World) :
    Broker.Extends address world.broker (advance program world).2.broker := by
  induction program generalizing world with
  | done => exact .of_eq rfl
  | panic => exact .of_eq rfl
  | call effect next ih =>
    by_cases hsleep : ∃ millis, effect = .sleep millis
    · obtain ⟨millis, rfl⟩ := hsleep
      rw [advance_sleep]
      split
      · exact ih () world
      · exact .of_eq rfl
    · rw [advance_call _ _ _ fun millis h => hsleep ⟨millis, h⟩]
      exact (extends_perform address world effect).trans (ih _ _)

end World

namespace Redelivery

variable {s t : Moment} {α : Type} {post : Except Panic α → Moment → Prop}

/-! ### Promises -/

/-- What was promised of a program is true where it stands: it has ended as promised, or the promise
is still one of its rest. -/
def Standing (post : Except Panic α → Moment → Prop) : Progress α → Moment → Prop
  | .finished result, t => post (.ok result) t
  | .panicked payload, t => post (.error payload) t
  | .asleep _ rest, t => Assured terms post rest t

/-- The moment at which a program has ended or sleeps. -/
def Moment.advanced (s : Moment) (program : Act α) : Moment where
  world := (s.world.advance program).2
  log := s.log ++ s.world.transcript program

/-- A program that begins with a request that is no sleep gets as far as what follows the answer. -/
theorem advanced_call (s : Moment) (effect : Effect) (next : effect.Answer → Act α)
    (hawake : ∀ millis, effect ≠ .sleep millis) :
    s.advanced (.call effect next)
      = (s.after effect).advanced (next (s.world.perform effect).1) := by
  rw [Moment.advanced, World.advance_call _ _ _ hawake, World.transcript_call _ _ _ hawake,
    Moment.advanced, Moment.after, List.append_assoc]
  rfl

/-- What is promised of a program is true where it stands once nothing has interrupted it. -/
theorem standing_of_assured {program : Act α} (h : Assured terms post program s) :
    Standing post (s.world.advance program).1 (s.advanced program) := by
  induction program generalizing s with
  | done result =>
    rw [Moment.advanced, World.transcript, List.append_nil]
    exact h
  | panic payload =>
    rw [Moment.advanced, World.transcript, List.append_nil]
    exact h
  | call effect next ih =>
    by_cases hsleep : ∃ millis, effect = .sleep millis
    -- a sleep of no time is passed over like an answer; at any other the program stands still
    · obtain ⟨millis, rfl⟩ := hsleep
      have hnext := (h s (.refl s) () s (.slept s millis)).2
      rw [Moment.advanced, World.advance_sleep, World.transcript_sleep]
      split
      · exact ih () hnext
      · rw [List.append_nil]
        exact hnext
    · have hawake : ∀ millis, effect ≠ .sleep millis := fun millis h => hsleep ⟨millis, h⟩
      rw [advanced_call s effect next hawake, World.advance_call _ _ _ hawake]
      exact ih _ (h s (.refl s) _ _ (.performed hawake)).2

/-- Worlds with the same scopes and lists of staged operations are the same to an attempt. -/
theorem Spared.of_eq {world world' : World} (hscopes : world'.scopes = world.scopes)
    (hstagings : world'.stagings = world.stagings) (log : List Exchange) :
    Spared ⟨world, log⟩ ⟨world', log⟩ where
  log := rfl
  opened := Nat.le_of_eq (congrArg (·.nodes.size) hscopes.symm)
  scopes scope _ := by rw [hscopes]
  stagings staging _ := by rw [hstagings]

end Redelivery

end Messaging
