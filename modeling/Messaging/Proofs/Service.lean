import Messaging.Effect.Basic

/-!
# Programs and what serves them

What a program comes to depends on the answers to its requests, and these on a state that other work
may change between two requests.

- `Exchange` is a request with its answer, and `Service` says which answers a state gives.
- `Runs` is a run of a program that nothing interrupts, and `Program.Calm` says that a program never
  panics, so that it has one.
- `Contract` adds what others may do between two requests and what the program has to keep to, and
  `Assured` says that a program keeps to a contract and ends as promised. `Assured.bind` and
  `Assured.attempt` put such programs together, and `Assured.stable` is what makes several of them
  run side by side.
- `Contract.among` is the service of a program among others: its runs end as promised
  (`Assured.of_among`).
-/

namespace Messaging

/-- A request with its answer. -/
structure Exchange where
  /-- The request. -/
  effect : Effect
  /-- The answer. -/
  answer : effect.Answer

/-- Which answers a request may get in a state, and which state comes after. -/
abbrev Service (σ : Type) := σ → (effect : Effect) → effect.Answer → σ → Prop

variable {σ α β : Type}

/-! ### Runs without interruption -/

/-- A program finishes in a state, served from another one on. -/
inductive Runs (serves : Service σ) : Act α → σ → α → σ → Prop where
  /-- A finished program changes nothing. -/
  | done (result : α) (s : σ) : Runs serves (.done result) s result s
  /-- A request is served, and the program goes on from the answer. -/
  | call {effect : Effect} {next : effect.Answer → Act α} {answer : effect.Answer} {s t u : σ}
      {result : α} (hserved : serves s effect answer t)
      (hnext : Runs serves (next answer) t result u) :
      Runs serves (Program.call (S := Effect.signature) effect next) s result u

namespace Runs

variable {serves : Service σ} {s u : σ}

/-- A finished program has its result and leaves the state alone. -/
theorem of_done {result result' : α} (h : Runs serves (.done result) s result' u) :
    result' = result ∧ u = s := by
  cases h with
  | done => exact ⟨rfl, rfl⟩

/-- A program that begins with a request finishes after its answer. -/
theorem of_call {effect : Effect} {next : effect.Answer → Act α} {result : α}
    (h : Runs serves (Program.call (S := Effect.signature) effect next) s result u) :
    ∃ answer t, serves s effect answer t ∧ Runs serves (next answer) t result u := by
  cases h with
  | call hserved hnext => exact ⟨_, _, hserved, hnext⟩

/-- A request and what follows it. -/
theorem of_ask {effect : Effect} {f : effect.Answer → Act α} {result : α}
    (h : Runs serves ((Act.ask effect).bind f) s result u) :
    ∃ answer t, serves s effect answer t ∧ Runs serves (f answer) t result u := of_call h

/-- Two programs one after another finish one after the other. -/
theorem of_bind {program : Act α} {f : α → Act β} {result : β}
    (h : Runs serves (program.bind f) s result u) :
    ∃ middle t, Runs serves program s middle t ∧ Runs serves (f middle) t result u := by
  induction program generalizing s with
  | done middle => exact ⟨middle, s, .done middle s, h⟩
  | panic payload => cases h
  | call effect next ih =>
    obtain ⟨answer, t, hserved, hnext⟩ := of_call h
    obtain ⟨middle, v, hfirst, hsecond⟩ := ih answer hnext
    exact ⟨middle, v, .call hserved hfirst, hsecond⟩

/-- A run that finishes is one with the panic caught. -/
theorem attempt {program : Act α} {result : α} (h : Runs serves program s result u) :
    Runs serves program.attempt s (.ok result) u := by
  induction h with
  | done result s => exact .done _ s
  | call hserved _ ih => exact .call hserved ih

/-- The second of two programs begins only if the first has not panicked. -/
theorem of_attempt_bind {program : Act α} {f : α → Act β} {ended : Except Panic β}
    (h : Runs serves (program.bind f).attempt s ended u) :
    (∃ payload, ended = .error payload ∧ Runs serves program.attempt s (.error payload) u) ∨
      ∃ middle t, Runs serves program.attempt s (.ok middle) t ∧
        Runs serves (f middle).attempt t ended u := by
  induction program generalizing s with
  | done middle => exact .inr ⟨middle, s, .done _ s, h⟩
  | panic payload =>
    obtain ⟨rfl, rfl⟩ := h.of_done
    exact .inl ⟨payload, rfl, .done _ u⟩
  | call effect next ih =>
    obtain ⟨answer, t, hserved, hnext⟩ := of_call h
    rcases ih answer hnext with ⟨payload, hended, hpanic⟩ | ⟨middle, v, hfirst, hsecond⟩
    · exact .inl ⟨payload, hended, .call hserved hpanic⟩
    · exact .inr ⟨middle, v, .call hserved hfirst, hsecond⟩

end Runs

/-! ### Programs that do not panic -/

namespace Program

variable {S : Signature} {α β : Type}

/-- Whatever the answers, a program does not panic. -/
def Calm : Program S α → Prop
  | .done _ => True
  | .panic _ => False
  | .call _ next => ∀ answer, (next answer).Calm

/-- A program whose panic is caught has none. -/
theorem calm_attempt (program : Program S α) : program.attempt.Calm := by
  induction program with
  | done => trivial
  | panic => trivial
  | call request next ih => exact ih

/-- Two programs that do not panic one after another. -/
theorem Calm.bind {program : Program S α} {f : α → Program S β} (h : program.Calm)
    (hf : ∀ result, (f result).Calm) : (program.bind f).Calm := by
  induction program with
  | done result => exact hf result
  | panic payload => exact h.elim
  | call request next ih => exact fun answer => ih answer (h answer)

/-- A request does not panic. -/
theorem Calm.ask {effect : Effect} {f : effect.Answer → Act α} (hf : ∀ answer, (f answer).Calm) :
    ((Act.ask effect).bind f).Calm := hf

end Program

namespace Runs

variable {serves : Service σ} {s u : σ}

/-- A program that does not panic finishes, if all its requests are answered. -/
theorem exists_of_calm (hserves : ∀ s effect, ∃ answer t, serves s effect answer t)
    {program : Act α} (h : program.Calm) (s : σ) : ∃ result u, Runs serves program s result u := by
  induction program generalizing s with
  | done result => exact ⟨result, s, .done result s⟩
  | panic payload => exact h.elim
  | call effect next ih =>
    obtain ⟨answer, t, hserved⟩ := hserves s effect
    obtain ⟨result, u, hnext⟩ := ih answer (h answer) t
    exact ⟨result, u, .call hserved hnext⟩

/-- Catching the panic of a program that has none changes nothing. -/
theorem of_attempt {program : Act α} (h : program.Calm) {ended : Except Panic α}
    (hruns : Runs serves program.attempt s ended u) :
    ∃ result, ended = .ok result ∧ Runs serves program s result u := by
  induction program generalizing s with
  | done result =>
    obtain ⟨rfl, rfl⟩ := hruns.of_done
    exact ⟨result, rfl, .done result u⟩
  | panic payload => exact h.elim
  | call effect next ih =>
    obtain ⟨answer, t, hserved, hnext⟩ := of_call hruns
    obtain ⟨result, hended, hresult⟩ := ih answer (h answer) hnext
    exact ⟨result, hended, .call hserved hresult⟩

end Runs

/-! ### Runs among others -/

/-- Under which conditions a program runs. -/
structure Contract (σ : Type) where
  /-- How its requests are answered. -/
  serves : Service σ
  /-- What others may do between two of its requests. -/
  rely : σ → σ → Prop
  /-- What it has to keep to with every request. -/
  guarantee : σ → σ → Prop

/-- From a state on a program keeps to a contract, and when it ends or panics the state is as
promised. -/
def Assured (contract : Contract σ) (post : Except Panic α → σ → Prop) : Act α → σ → Prop
  | .done result, s => post (.ok result) s
  | .panic payload, s => post (.error payload) s
  | .call effect next, s =>
    ∀ t, contract.rely s t → ∀ answer u, contract.serves t effect answer u →
      contract.guarantee t u ∧ Assured contract post (next answer) u

/-- How the requests of a program are answered while others go on between them. -/
def Contract.among (contract : Contract σ) : Service σ := fun s effect answer u =>
  ∃ t, contract.rely s t ∧ contract.serves t effect answer u

namespace Assured

variable {contract : Contract σ} {post : Except Panic α → σ → Prop} {s t u : σ}

/-- What is promised may be weakened. -/
theorem imp {post' : Except Panic α → σ → Prop} {program : Act α}
    (h : Assured contract post program s) (hpost : ∀ result u, post result u → post' result u) :
    Assured contract post' program s := by
  induction program generalizing s with
  | done result => exact hpost _ _ h
  | panic payload => exact hpost _ _ h
  | call effect next ih =>
    intro t hrely answer u hserved
    obtain ⟨hguarantee, hnext⟩ := h t hrely answer u hserved
    exact ⟨hguarantee, ih answer hnext⟩

/-- A run that nothing interrupts ends as promised. -/
theorem of_runs {program : Act α} {result : α} (h : Assured contract post program s)
    (hrely : ∀ s, contract.rely s s) (hruns : Runs contract.serves program s result u) :
    post (.ok result) u := by
  induction hruns with
  | done => exact h
  | call hserved _ ih => exact ih (h _ (hrely _) _ _ hserved).2

/-- A run among others ends as promised. -/
theorem of_among {program : Act α} {ended : Except Panic α} (h : Assured contract post program s)
    (hruns : Runs contract.among program.attempt s ended u) : post ended u := by
  induction program generalizing s with
  | done result =>
    obtain ⟨rfl, rfl⟩ := hruns.of_done
    exact h
  | panic payload =>
    obtain ⟨rfl, rfl⟩ := hruns.of_done
    exact h
  | call effect next ih =>
    obtain ⟨answer, v, ⟨t, hrely, hserved⟩, hnext⟩ := Runs.of_call hruns
    exact ih answer (h t hrely answer v hserved).2 hnext

/-- The state in which a first program ends is one from which the second goes on. -/
theorem bind {post : Except Panic β → σ → Prop} {program : Act α} {f : α → Act β}
    (h : Assured contract
      (fun result u =>
        match result with
        | .ok middle => Assured contract post (f middle) u
        | .error payload => post (.error payload) u) program s) :
    Assured contract post (program.bind f) s := by
  induction program generalizing s with
  | done middle => exact h
  | panic payload => exact h
  | call effect next ih =>
    intro t hrely answer u hserved
    obtain ⟨hguarantee, hnext⟩ := h t hrely answer u hserved
    exact ⟨hguarantee, ih answer hnext⟩

/-- A caught panic is a result like another. -/
theorem attempt {post : Except Panic (Except Panic α) → σ → Prop} {program : Act α}
    (h : Assured contract (fun result u => post (.ok result) u) program s) :
    Assured contract post program.attempt s := by
  induction program generalizing s with
  | done result => exact h
  | panic payload => exact h
  | call effect next ih =>
    intro t hrely answer u hserved
    obtain ⟨hguarantee, hnext⟩ := h t hrely answer u hserved
    exact ⟨hguarantee, ih answer hnext⟩

/-- A program finishes with one of its results. -/
theorem yields {program : Act α} (h : Assured contract post program s) :
    Assured contract
      (fun result u => post result u ∧ ∀ value, result = .ok value → program.Yields value)
      program s := by
  induction program generalizing s with
  | done result =>
    refine ⟨h, fun value hvalue => ?_⟩
    cases hvalue
    exact .done result
  | panic payload => exact ⟨h, nofun⟩
  | call effect next ih =>
    intro t hrely answer u hserved
    obtain ⟨hguarantee, hnext⟩ := h t hrely answer u hserved
    refine ⟨hguarantee, (ih answer hnext).imp fun result v hpost => ?_⟩
    exact ⟨hpost.1, fun value hvalue => .call (hpost.2 value hvalue)⟩

/-- What others may do does not matter to a program that keeps to its contract. -/
theorem stable {program : Act α} (h : Assured contract post program s)
    (htrans : ∀ {s t u}, contract.rely s t → contract.rely t u → contract.rely s u)
    (hpost : ∀ result s t, contract.rely s t → post result s → post result t)
    (hrely : contract.rely s t) : Assured contract post program t := by
  cases program with
  | done result => exact hpost _ _ _ hrely h
  | panic payload => exact hpost _ _ _ hrely h
  | call effect next => exact fun u hlater => h u (htrans hrely hlater)

end Assured

end Messaging
