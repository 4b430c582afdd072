import Messaging.World.Basic

/-!
# The requests of a program

- `Program.Every` says of a program that it makes only requests of a kind, whatever the answers.
- `World.advance_keeps` says that what the answers to such requests keep is kept until the program
  ends or sleeps, and that the rest of a sleeping program is again of this kind.
-/

namespace Messaging

variable {S : Signature} {α β : Type}

namespace Program

/-- Every request that a program may come to make satisfies `P`. -/
inductive Every (P : S.Request → Prop) : Program S α → Prop where
  /-- A finished program makes none. -/
  | done (result : α) : Every P (done result)
  /-- Neither does one that has panicked. -/
  | panic (payload : Panic) : Every P (panic payload)
  /-- The next request satisfies `P`, and so does what follows any answer. -/
  | call {request : S.Request} {next : S.Answer request → Program S α}
      (hrequest : P request) (hnext : ∀ answer, Every P (next answer)) :
      Every P (call request next)

/-- Requests of one kind are requests of any wider one. -/
theorem Every.imp {P Q : S.Request → Prop} {program : Program S α} (hprogram : program.Every P)
    (hrequest : ∀ request, P request → Q request) : program.Every Q := by
  induction hprogram with
  | done result => exact .done result
  | panic payload => exact .panic payload
  | call h _ ih => exact .call (hrequest _ h) ih

/-- The requests of two programs one after another are those of both. -/
theorem Every.bind {P : S.Request → Prop} {program : Program S α} {f : α → Program S β}
    (hprogram : program.Every P) (hf : ∀ result, (f result).Every P) :
    (program.bind f).Every P := by
  induction hprogram with
  | done result => exact hf result
  | panic payload => exact .panic payload
  | call hrequest _ ih => exact .call hrequest ih

/-- A request and what follows its answer. -/
theorem Every.ask {P : Effect → Prop} {effect : Effect} {f : effect.Answer → Act α}
    (heffect : P effect) (hf : ∀ answer, (f answer).Every P) :
    ((Act.ask effect).bind f).Every P := .call heffect hf

/-- Catching a panic adds no request. -/
theorem Every.attempt {P : S.Request → Prop} {program : Program S α}
    (hprogram : program.Every P) : program.attempt.Every P := by
  induction hprogram with
  | done result => exact .done _
  | panic payload => exact .done _
  | call hrequest _ ih => exact .call hrequest ih

end Program

namespace World

/-- What the answers to the requests of a program keep, the program keeps until it ends or
sleeps. -/
theorem advance_keeps {P : Effect → Prop} {I : World → Prop}
    (hperform : ∀ effect world, P effect → I world → I (world.perform effect).2)
    {program : Act α} (hprogram : program.Every P) {world : World} (hworld : I world) :
    I (advance program world).2 ∧
      ∀ millis rest, (advance program world).1 = .asleep millis rest → rest.Every P := by
  induction hprogram generalizing world with
  | done => exact ⟨hworld, nofun⟩
  | panic => exact ⟨hworld, nofun⟩
  | @call effect next heffect hnext ih =>
    by_cases hsleep : ∃ millis, effect = .sleep millis
    · obtain ⟨millis, rfl⟩ := hsleep
      rw [advance_sleep]
      split
      · exact ih () hworld
      · refine ⟨hworld, fun other rest hrest => ?_⟩
        cases hrest
        exact hnext ()
    · rw [advance_call _ _ _ fun millis h => hsleep ⟨millis, h⟩]
      exact ih _ (hperform effect world heffect hworld)

end World

end Messaging
