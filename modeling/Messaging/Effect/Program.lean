/-!
# Programs

A program is a computation that asks its surroundings for answers. It is data: what the
surroundings do, and in which order they serve several programs, is decided by who runs it.

- `Signature` lists the requests that a program may make and the type of the answer to each.
- `Program` is a finished computation, one that was broken off by a panic, or a request with the
  program that goes on from its answer.
- `Program.attempt` catches a panic.
- `Program.Yields` says which results a program may finish with.
- `Program.embed` makes the requests of a program those of a wider signature.
-/

namespace Messaging

/-- The requests that a program may make. -/
structure Signature where
  /-- The requests. -/
  Request : Type
  /-- The answers to a request. -/
  Answer : Request → Type

/-- What a panic carries: a text, or something that is none. -/
structure Panic where
  /-- The text. -/
  text : Option String
deriving DecidableEq, Repr

/-- The text that describes a panic. -/
def Panic.message (panic : Panic) : String := panic.text.getD "non-string panic payload"

/-- A computation that asks its surroundings for answers. -/
inductive Program (S : Signature) (α : Type) where
  /-- Finished with a result. -/
  | done (result : α)
  /-- Broken off. -/
  | panic (payload : Panic)
  /-- A request and what follows its answer. -/
  | call (request : S.Request) (next : S.Answer request → Program S α)

namespace Program

variable {S T : Signature} {α β γ : Type}

/-- One program after another. -/
def bind : Program S α → (α → Program S β) → Program S β
  | done result, f => f result
  | panic payload, _ => panic payload
  | call request next, f => call request fun answer => (next answer).bind f

instance : Monad (Program S) where
  pure := done
  bind := bind

/-- A program of one request. -/
def ask (request : S.Request) : Program S (S.Answer request) := call request done

/-- A program with its panic as an ordinary result. -/
def attempt : Program S α → Program S (Except Panic α)
  | done result => done (.ok result)
  | panic payload => done (.error payload)
  | call request next => call request fun answer => (next answer).attempt

/-- The same program for wider surroundings. -/
def embed (request : S.Request → T.Request)
    (answer : (r : S.Request) → T.Answer (request r) → S.Answer r) : Program S α → Program T α
  | done result => done result
  | panic payload => panic payload
  | call r next => call (request r) fun a => (next (answer r a)).embed request answer

/-- `pure` and `>>=` are `done` and `Program.bind`. -/
@[simp] theorem pure_eq (result : α) : (pure result : Program S α) = done result := rfl

@[simp] theorem bind_eq (p : Program S α) (f : α → Program S β) : p >>= f = p.bind f := rfl

/-- `Program.bind` by the three ways a program may begin. -/
@[simp] theorem done_bind (result : α) (f : α → Program S β) :
    (done result).bind f = f result := rfl

@[simp] theorem panic_bind (payload : Panic) (f : α → Program S β) :
    (panic payload : Program S α).bind f = panic payload := rfl

@[simp] theorem call_bind (request : S.Request) (next : S.Answer request → Program S α)
    (f : α → Program S β) :
    (call request next).bind f = call request fun answer => (next answer).bind f := rfl

/-- Programs with `done` and `bind` are a lawful monad: this lemma and the two after it. -/
theorem bind_done (p : Program S α) : p.bind done = p := by
  induction p with
  | done => rfl
  | panic => rfl
  | call request next ih => simp [ih]

theorem bind_assoc (p : Program S α) (f : α → Program S β) (g : β → Program S γ) :
    (p.bind f).bind g = p.bind fun a => (f a).bind g := by
  induction p with
  | done => rfl
  | panic => rfl
  | call request next ih => simp [ih]

theorem id_map_eq (p : Program S α) : id <$> p = p := bind_done p

instance : LawfulMonad (Program S) :=
  LawfulMonad.mk' (Program S) id_map_eq (fun _ _ => rfl) bind_assoc

/-- With some answers to its requests a program finishes with a result. -/
inductive Yields : Program S α → α → Prop where
  /-- A finished program has its result. -/
  | done (result : α) : Yields (.done result) result
  /-- Any answer may be the one. -/
  | call {request : S.Request} {next : S.Answer request → Program S α} {answer : S.Answer request}
      {result : α} (hnext : Yields (next answer) result) : Yields (.call request next) result

namespace Yields

/-- A finished program has no other result. -/
theorem of_done {result result' : α} (h : Yields (.done result : Program S α) result') :
    result' = result := by
  cases h
  rfl

/-- The result of two programs is one of the second after one of the first. -/
theorem of_bind {program : Program S α} {f : α → Program S β} {result : β}
    (h : (program.bind f).Yields result) :
    ∃ middle, program.Yields middle ∧ (f middle).Yields result := by
  induction program with
  | done middle => exact ⟨middle, .done middle, h⟩
  | panic payload => cases h
  | call request next ih =>
    cases h with
    | call hnext =>
      obtain ⟨middle, hfirst, hsecond⟩ := ih _ hnext
      exact ⟨middle, .call hfirst, hsecond⟩

end Yields

end Program

end Messaging
