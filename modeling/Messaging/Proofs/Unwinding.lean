import Messaging.Proofs.Launching
import Messaging.Proofs.Redelivery

/-!
# Starting and stopping leave nothing running

An endpoint starts a pump for each of its receivers, and each of them may fail when it is set up,
when it is started and when it is stopped.

- `Program.Follows` says which requests a program makes, and what it comes to, given the answers.
- `Deed` is something that is done to a pump or to the work in the background, with its outcome, and
  `ShowsAll` says that some requests are a sequence of deeds.
- `Starts` lists the deeds of a start: either everything is started, or the pumps that were started
  are stopped again. `stopDeeds` lists those of a stop.
- `Launches` says what a whole start does: it may come to the start of a receiving side that is
  `Prepared` from the configuration, and it starts nothing otherwise.
- `start_and_stop_leave_nothing_running` says that the programs do these deeds and no others.
-/

namespace Messaging

open Time (Span)

/-! ### What a program does -/

/-- A request with its answer. -/
structure Signature.Exchange (S : Signature) where
  /-- The request. -/
  request : S.Request
  /-- The answer. -/
  answer : S.Answer request

namespace Program

variable {S : Signature} {α β : Type}

/-- With these answers a program makes these requests, and finishes with a result. -/
inductive Follows : Program S α → List S.Exchange → α → Prop where
  /-- A finished program makes none. -/
  | done (result : α) : Follows (.done result) [] result
  /-- A request comes before those that follow its answer. -/
  | call {request : S.Request} {next : S.Answer request → Program S α}
      {answer : S.Answer request} {trace : List S.Exchange} {result : α}
      (hnext : Follows (next answer) trace result) :
      Follows (.call request next) (⟨request, answer⟩ :: trace) result

variable {trace : List S.Exchange}

/-- What is done asks for nothing more. -/
theorem follows_done {result result' : α} :
    (.done result : Program S α).Follows trace result' ↔ trace = [] ∧ result' = result := by
  constructor
  · rintro ⟨⟩
    exact ⟨rfl, rfl⟩
  · rintro ⟨rfl, rfl⟩
    exact .done _

/-- Of two programs, the first does what it does before the second. -/
theorem follows_bind {program : Program S α} {f : α → Program S β} {result : β} :
    (program.bind f).Follows trace result ↔
      ∃ first second middle, trace = first ++ second ∧ program.Follows first middle ∧
        (f middle).Follows second result := by
  constructor
  · -- by induction on the first program: its trace is cut off one request at a time
    intro h
    induction program generalizing trace with
    | done middle => exact ⟨[], trace, middle, rfl, .done middle, h⟩
    | panic payload => cases h
    | call request next ih =>
      cases h with
      | @call _ _ answer rest _ hnext =>
        obtain ⟨first, second, middle, rfl, hfirst, hsecond⟩ := ih answer hnext
        exact ⟨_ :: first, second, middle, rfl, .call hfirst, hsecond⟩
  · rintro ⟨first, second, middle, rfl, hfirst, hsecond⟩
    -- and put in front again one request at a time
    induction hfirst with
    | done => exact hsecond
    | call _ ih => exact .call (ih hsecond)

/-- Two programs do not panic if the first does not, and the second does not after what the first
comes to. -/
theorem Calm.bind_of_follows {program : Program S α} {f : α → Program S β} (h : program.Calm)
    (hf : ∀ trace result, program.Follows trace result → (f result).Calm) :
    (program.bind f).Calm := by
  induction program with
  | done result => exact hf [] result (.done result)
  | panic payload => exact h.elim
  | call request next ih =>
    exact fun answer => ih answer (h answer) fun _ result hnext => hf _ result (.call hnext)

/-- The answers of a trace are those of a strategy, which may depend on what was asked before. -/
def Answered (answers : List S.Exchange → (request : S.Request) → S.Answer request)
    (trace : List S.Exchange) : Prop :=
  ∀ before exchange after, trace = before ++ exchange :: after →
    exchange.answer = answers before exchange.request

/-- A program that does not panic finishes, whatever it is answered. -/
theorem Calm.exists_follows {program : Program S α} (h : program.Calm)
    (answers : List S.Exchange → (request : S.Request) → S.Answer request) :
    ∃ trace result, program.Follows trace result ∧ Answered answers trace := by
  induction program generalizing answers with
  | done result => exact ⟨[], result, .done result, by simp [Answered]⟩
  | panic payload => exact h.elim
  | call request next ih =>
    -- the first request gets its answer, the rest is told what was answered before
    have hnext := h (answers [] request)
    obtain ⟨trace, result, hfollows, hanswered⟩ :=
      ih _ hnext fun before => answers (⟨request, answers [] request⟩ :: before)
    refine ⟨_, result, .call hfollows, ?_⟩
    intro before exchange after hcut
    cases before with
    | nil =>
      obtain ⟨rfl, -⟩ := List.cons.inj hcut
      rfl
    | cons first before =>
      obtain ⟨rfl, hrest⟩ := List.cons.inj hcut
      exact hanswered before exchange after hrest

end Program

namespace Endpoint

/-! ### Parts of a start -/

section Start

variable {α β : Type} {trace : List Lifecycle.signature.Exchange} {f : α → Start β}
  {outcome : Except EndpointError β}

/-- A step of `configured` leaves no trace, whether it fails or not. -/
theorem follows_configured {result : Except ConfigError α} :
    (configured result >>= f).run.Follows trace outcome ↔
      (∃ error, result = .error error ∧ trace = [] ∧ outcome = .error (.configuration error)) ∨
        ∃ value, result = .ok value ∧ (f value).run.Follows trace outcome := by
  cases result with
  | error error =>
    change (Program.done _).Follows _ _ ↔ _
    simp [Program.follows_done]
  | ok value =>
    simp only [reduceCtorEq, false_and, exists_false, false_or, Except.ok.injEq, exists_eq_left']
    rfl

/-- A program under `always` goes first and never fails. -/
theorem run_always_bind (program : Life α) (f : α → Start β) :
    (always program >>= f).run = program.bind fun value => (f value).run := by
  change Program.bind (Program.bind program fun value => .done (Except.ok value)) _ = _
  rw [Program.bind_assoc]
  rfl

/-- The trace of `always` is followed by that of the rest. -/
theorem follows_always {program : Life α} :
    (always program >>= f).run.Follows trace outcome ↔
      ∃ first second value, trace = first ++ second ∧ program.Follows first value ∧
        (f value).run.Follows second outcome := by
  rw [run_always_bind, Program.follows_bind]

/-- A program under `transported` goes first, and what it fails with ends the start. -/
theorem run_transported_bind (program : Life (Except TransportError α)) (f : α → Start β) :
    (transported program >>= f).run = program.bind fun result =>
      match result with
      | .ok value => (f value).run
      | .error error => .done (.error (.transport error)) := by
  change Program.bind
    (Program.bind program fun result => .done (result.mapError EndpointError.transport)) _ = _
  rw [Program.bind_assoc]
  congr 1
  funext result
  cases result <;> rfl

/-- The trace of `transported` is the whole one if it fails, and else that of the rest follows. -/
theorem follows_transported {program : Life (Except TransportError α)} :
    (transported program >>= f).run.Follows trace outcome ↔
      (∃ error, program.Follows trace (.error error) ∧ outcome = .error (.transport error)) ∨
        ∃ first second value, trace = first ++ second ∧ program.Follows first (.ok value) ∧
          (f value).run.Follows second outcome := by
  rw [run_transported_bind, Program.follows_bind]
  constructor
  · rintro ⟨first, second, result, rfl, hfirst, hsecond⟩
    cases result with
    | ok value => exact .inr ⟨first, second, value, rfl, hfirst, hsecond⟩
    | error error =>
      obtain ⟨rfl, rfl⟩ := Program.follows_done.1 hsecond
      exact .inl ⟨error, by rwa [List.append_nil], rfl⟩
  · rintro (⟨error, hprogram, rfl⟩ | ⟨first, second, value, rfl, hfirst, hsecond⟩)
    · -- a failure is where the start ends, so nothing follows it
      exact ⟨trace, [], .error error, (List.append_nil trace).symm, hprogram, .done _⟩
    · exact ⟨first, second, .ok value, rfl, hfirst, hsecond⟩

end Start

/-! ### Deeds -/

/-- What is done while an endpoint starts or stops, and with which outcome. -/
inductive Deed where
  /-- The queues are created. -/
  | createQueues (side : ReceiveSide) (bindings : Bindings) (outcome : Except TransportError Unit)
  /-- A pump is set up for its receiver. -/
  | init (pump : Receiver × Pump) (outcome : Except TransportError Unit)
  /-- A pump is started. -/
  | start (pump : Receiver × Pump) (outcome : Except TransportError Unit)
  /-- A pump is stopped. -/
  | stop (pump : Receiver × Pump) (outcome : Except TransportError Unit)
  /-- The background poller is started. -/
  | startPoller (address : String)
  /-- The background poller is stopped. -/
  | stopPoller
  /-- Clearing failure counters is started. -/
  | startCleaner (interval : Span) (counters : List CounterId)
  /-- Clearing failure counters is stopped. -/
  | stopCleaner

/-- What a pump is told when it is set up for a receiver. -/
def pumpSettings (settings : Settings) (receiver : Receiver) : PumpSettings where
  inputQueue := receiver.inputQueue
  errorQueue := settings.errorQueue
  purge := receiver.purge
  mode := settings.transactionMode

/-- These requests and answers are a deed. -/
def Deed.Shows (settings : Settings) :
    Deed → List Lifecycle.signature.Exchange → Prop
  | createQueues side bindings outcome, trace =>
    (Life.act (side.createQueues bindings settings.endpointName)).Follows trace outcome
  | init (receiver, pump) outcome, trace =>
    (pump.init receiver.entry (pumpSettings settings receiver)).Follows trace outcome
  | start (receiver, pump) outcome, trace =>
    (pump.start receiver.inputQueue receiver.concurrency).Follows trace outcome
  | stop (receiver, pump) outcome, trace => (pump.stop receiver.inputQueue).Follows trace outcome
  | startPoller address, trace => (Life.ask (.startPoller address)).Follows trace ()
  | stopPoller, trace => (Life.ask .stopPoller).Follows trace ()
  | startCleaner interval counters, trace =>
    (Life.ask (.startCleaner interval counters)).Follows trace ()
  | stopCleaner, trace => (Life.ask .stopCleaner).Follows trace ()

/-- These requests and answers are some deeds, one after another. -/
inductive ShowsAll (settings : Settings) :
    List Deed → List Lifecycle.signature.Exchange → Prop where
  /-- Nothing is done. -/
  | nil : ShowsAll settings [] []
  /-- One deed comes before the others. -/
  | cons {deed : Deed} {deeds : List Deed} {first second : List Lifecycle.signature.Exchange}
      (hdeed : deed.Shows settings first) (hdeeds : ShowsAll settings deeds second) :
      ShowsAll settings (deed :: deeds) (first ++ second)

section Deeds

variable {settings : Settings} {deed : Deed} {deeds later : List Deed}
  {trace : List Lifecycle.signature.Exchange}

@[simp]
theorem showsAll_nil : ShowsAll settings [] trace ↔ trace = [] := by
  constructor
  · rintro ⟨⟩
    rfl
  · rintro rfl
    exact .nil

theorem showsAll_cons :
    ShowsAll settings (deed :: deeds) trace ↔
      ∃ first second, trace = first ++ second ∧ deed.Shows settings first ∧
        ShowsAll settings deeds second := by
  constructor
  · intro h
    cases h with
    | cons hdeed hdeeds => exact ⟨_, _, rfl, hdeed, hdeeds⟩
  · rintro ⟨first, second, rfl, hdeed, hdeeds⟩
    exact .cons hdeed hdeeds

@[simp]
theorem showsAll_singleton : ShowsAll settings [deed] trace ↔ deed.Shows settings trace := by
  simp [showsAll_cons]

theorem showsAll_append :
    ShowsAll settings (deeds ++ later) trace ↔
      ∃ first second, trace = first ++ second ∧ ShowsAll settings deeds first ∧
        ShowsAll settings later second := by
  induction deeds generalizing trace with
  | nil =>
    simp only [List.nil_append, showsAll_nil]
    constructor
    · exact fun hlater => ⟨[], trace, rfl, rfl, hlater⟩
    · rintro ⟨_, second, rfl, rfl, hlater⟩
      exact hlater
  | cons deed deeds ih =>
    -- both sides cut the trace in three; they differ in where the brackets stand
    simp only [List.cons_append, showsAll_cons, ih]
    constructor
    · rintro ⟨first, _, rfl, hdeed, second, third, rfl, hdeeds, hlater⟩
      exact ⟨first ++ second, third, (List.append_assoc ..).symm, ⟨first, second, rfl, hdeed,
        hdeeds⟩, hlater⟩
    · rintro ⟨_, third, rfl, ⟨first, second, rfl, hdeed, hdeeds⟩, hlater⟩
      exact ⟨first, second ++ third, List.append_assoc .., hdeed, second, third, rfl, hdeeds,
        hlater⟩

end Deeds

/-! ### Pumps -/

/-- The pumps of some receivers, of which the first gets number `index`. -/
def pumpsFrom (side : ReceiveSide) (receivers : List Receiver) (index : Nat) :
    List (Receiver × Pump) :=
  (receivers.zipIdx index).map fun entry => (entry.1, side.pump entry.2)

/-- A pump is set up and started. -/
def comesUp (pump : Receiver × Pump) : List Deed := [.init pump (.ok ()), .start pump (.ok ())]

/-- A pump fails when it is set up or when it is started. -/
inductive GivesUp (pump : Receiver × Pump) (error : TransportError) : List Deed → Prop where
  /-- It cannot be set up. -/
  | init : GivesUp pump error [.init pump (.error error)]
  /-- It is set up but does not start. -/
  | start : GivesUp pump error [.init pump (.ok ()), .start pump (.error error)]

/-- The first failure among some outcomes. -/
def firstError? (outcomes : List (Except TransportError Unit)) : Option TransportError :=
  outcomes.findSome? fun outcome =>
    match outcome with
    | .error error => some error
    | .ok () => none

section Pumps

variable {settings : Settings} {receiver : Receiver} {pump : Pump}
  {trace : List Lifecycle.signature.Exchange}

/-- Whatever comes of it, every pump is stopped once, in order. -/
theorem stopPumps_follows (settings : Settings) {pumps : List (Receiver × Pump)}
    {refusal : Option TransportError} :
    (stopPumps pumps).Follows trace refusal ↔
      ∃ outcomes, outcomes.length = pumps.length ∧
        ShowsAll settings (List.zipWith Deed.stop pumps outcomes) trace ∧
          refusal = firstError? outcomes := by
  induction pumps generalizing trace refusal with
  | nil =>
    change (Program.done none).Follows _ _ ↔ _
    simp [Program.follows_done, firstError?]
  | cons first rest ih =>
    obtain ⟨receiver, pump⟩ := first
    rw [stopPumps, Program.bind_eq, Program.follows_bind]
    constructor
    · rintro ⟨first, second, result, rfl, hstop, hrest⟩
      obtain ⟨second, third, later, rfl, hrest, hend⟩ := Program.follows_bind.1 hrest
      obtain ⟨outcomes, hlength, hshows, rfl⟩ := ih.1 hrest
      -- the first error wins, whichever pump it comes from
      refine ⟨result :: outcomes, congrArg (· + 1) hlength, ?_, ?_⟩
      all_goals cases result <;> obtain ⟨rfl, rfl⟩ := Program.follows_done.1 hend
      · exact .cons hstop (by rwa [List.append_nil])
      · exact .cons hstop (by rwa [List.append_nil])
      · rfl
      · rfl
    · rintro ⟨outcomes, hlength, hshows, rfl⟩
      cases outcomes with
      | nil => cases hlength
      | cons result outcomes =>
        obtain ⟨first, second, rfl, hstop, hrest⟩ := showsAll_cons.1 hshows
        refine ⟨first, second, result, rfl, hstop, Program.follows_bind.2 ?_⟩
        refine ⟨second, [], _, (List.append_nil second).symm,
          ih.2 ⟨outcomes, Nat.succ.inj hlength, hrest, rfl⟩, ?_⟩
        cases result <;> exact .done _

/-- The start of a pump is one that comes up. -/
theorem startPump_follows_ok :
    (startPump settings receiver pump).Follows trace (.ok ()) ↔
      ShowsAll settings (comesUp (receiver, pump)) trace := by
  rw [startPump, Program.bind_eq, Program.follows_bind]
  constructor
  · rintro ⟨first, second, result, rfl, hinit, hrest⟩
    cases result with
    | error error => cases (Program.follows_done.1 hrest).2
    | ok _ => exact .cons hinit (showsAll_singleton.2 hrest)
  · intro hshows
    obtain ⟨first, second, rfl, hinit, hstart⟩ := showsAll_cons.1 hshows
    exact ⟨first, second, .ok (), rfl, hinit, showsAll_singleton.1 hstart⟩

/-- The failed start of a pump is one that gives up. -/
theorem startPump_follows_error {error : TransportError} :
    (startPump settings receiver pump).Follows trace (.error error) ↔
      ∃ attempt, GivesUp (receiver, pump) error attempt ∧ ShowsAll settings attempt trace := by
  rw [startPump, Program.bind_eq, Program.follows_bind]
  constructor
  · -- a pump gives up when it is initialised or when it is started
    rintro ⟨first, second, result, rfl, hinit, hrest⟩
    cases result with
    | error other =>
      obtain ⟨rfl, hsame⟩ := Program.follows_done.1 hrest
      cases hsame
      exact ⟨_, .init, .cons hinit .nil⟩
    | ok _ => exact ⟨_, .start, .cons hinit (showsAll_singleton.2 hrest)⟩
  · rintro ⟨attempt, hfails, hshows⟩
    cases hfails with
    | init =>
      refine ⟨trace, [], .error error, (List.append_nil trace).symm, ?_, .done _⟩
      exact showsAll_singleton.1 hshows
    | start =>
      obtain ⟨first, second, rfl, hinit, hstart⟩ := showsAll_cons.1 hshows
      exact ⟨first, second, .ok (), rfl, hinit, showsAll_singleton.1 hstart⟩

/-- The first of some pumps gives up, or the others are started after it. -/
theorem startPumps_cons_follows {side : ReceiveSide} {rest : List Receiver} {index : Nat}
    {failure : Option TransportError} {started : List (Receiver × Pump)} :
    (startPumps settings side (receiver :: rest) index).Follows trace (failure, started) ↔
      (∃ error, (startPump settings receiver (side.pump index)).Follows trace (.error error) ∧
        failure = some error ∧ started = []) ∨
      ∃ first second later, trace = first ++ second ∧
        (startPump settings receiver (side.pump index)).Follows first (.ok ()) ∧
        (startPumps settings side rest (index + 1)).Follows second (failure, later) ∧
        started = (receiver, side.pump index) :: later := by
  -- the pump of one receiver, and only if it comes up those of the others
  have hstep : startPumps settings side (receiver :: rest) index
      = (startPump settings receiver (side.pump index)).bind fun result =>
        match result with
        | .error error => .done (some error, [])
        | .ok () => (startPumps settings side rest (index + 1)).bind fun later =>
          .done (later.1, (receiver, side.pump index) :: later.2) := rfl
  rw [hstep, Program.follows_bind]
  constructor
  · rintro ⟨first, second, result, rfl, hfirst, hrest⟩
    cases result with
    | error error =>
      obtain ⟨rfl, hend⟩ := Program.follows_done.1 hrest
      obtain ⟨rfl, rfl⟩ := Prod.mk.inj hend
      rw [List.append_nil]
      exact .inl ⟨error, hfirst, rfl, rfl⟩
    | ok _ =>
      obtain ⟨second, third, later, rfl, hlater, hend⟩ := Program.follows_bind.1 hrest
      obtain ⟨rfl, hboth⟩ := Program.follows_done.1 hend
      obtain ⟨rfl, rfl⟩ := Prod.mk.inj hboth
      rw [List.append_nil]
      exact .inr ⟨first, second, later.2, rfl, hfirst, hlater, rfl⟩
  · rintro (⟨error, hfirst, rfl, rfl⟩ | ⟨first, second, later, rfl, hfirst, hlater, rfl⟩)
    · exact ⟨trace, [], .error error, (List.append_nil trace).symm, hfirst, .done _⟩
    · refine ⟨first, second, .ok (), rfl, hfirst, Program.follows_bind.2 ?_⟩
      exact ⟨second, [], _, (List.append_nil second).symm, hlater, .done _⟩

/-- All pumps come up, or one gives up after those before it have come up. -/
theorem startPumps_follows {side : ReceiveSide} {receivers : List Receiver} {index : Nat}
    {failure : Option TransportError} {started : List (Receiver × Pump)} :
    (startPumps settings side receivers index).Follows trace (failure, started) ↔
      (failure = none ∧ started = pumpsFrom side receivers index ∧
        ShowsAll settings (started.flatMap comesUp) trace) ∨
      ∃ failed after error attempt, failure = some error ∧
        pumpsFrom side receivers index = started ++ failed :: after ∧
        GivesUp failed error attempt ∧
        ShowsAll settings (started.flatMap comesUp ++ attempt) trace := by
  induction receivers generalizing index trace failure started with
  | nil =>
    rw [startPumps, Program.pure_eq, Program.follows_done, Prod.mk.injEq]
    constructor
    · rintro ⟨rfl, rfl, rfl⟩
      exact .inl ⟨rfl, rfl, .nil⟩
    · rintro (⟨rfl, rfl, hshows⟩ | ⟨failed, after, _, _, -, hcut, -⟩)
      · exact ⟨showsAll_nil.1 hshows, rfl, rfl⟩
      · cases started <;> cases hcut
  | cons receiver rest ih =>
    have hpumps : pumpsFrom side (receiver :: rest) index
        = (receiver, side.pump index) :: pumpsFrom side rest (index + 1) := rfl
    -- the receivers before the one that fails are the pumps that have come up
    simp only [startPumps_cons_follows, hpumps, startPump_follows_ok, startPump_follows_error, ih]
    constructor
    · rintro (⟨error, ⟨attempt, hfails, hshows⟩, rfl, rfl⟩ |
        ⟨first, second, later, rfl, hfirst, hlater, rfl⟩)
      · exact .inr ⟨_, _, error, attempt, rfl, rfl, hfails, hshows⟩
      · rcases hlater with
          ⟨rfl, rfl, hall⟩ | ⟨failed, after, error, attempt, rfl, hcut, hfails, hall⟩
        · exact .inl ⟨rfl, rfl, showsAll_append.2 ⟨first, second, rfl, hfirst, hall⟩⟩
        · refine .inr ⟨failed, after, error, attempt, rfl, congrArg (_ :: ·) hcut, hfails, ?_⟩
          rw [List.flatMap_cons, List.append_assoc]
          exact showsAll_append.2 ⟨first, second, rfl, hfirst, hall⟩
    · rintro (⟨rfl, rfl, hshows⟩ | ⟨failed, after, error, attempt, rfl, hcut, hfails, hshows⟩)
      · obtain ⟨first, second, rfl, hfirst, hall⟩ := showsAll_append.1 hshows
        exact .inr ⟨first, second, _, rfl, hfirst, .inl ⟨rfl, rfl, hall⟩, rfl⟩
      · cases started with
        | nil =>
          obtain ⟨rfl, -⟩ := List.cons.inj hcut
          exact .inl ⟨error, ⟨attempt, hfails, hshows⟩, rfl, rfl⟩
        | cons pump started =>
          obtain ⟨rfl, hrest⟩ := List.cons.inj hcut
          -- the first pump came up, so it is one of the others that fails
          rw [List.flatMap_cons, List.append_assoc] at hshows
          obtain ⟨first, second, rfl, hfirst, hall⟩ := showsAll_append.1 hshows
          exact .inr ⟨first, second, started, rfl, hfirst,
            .inr ⟨failed, after, error, attempt, rfl, hrest, hfails, hall⟩, rfl⟩

end Pumps

/-! ### Starting and stopping -/

/-- The deeds that start the poller of a timeout manager, if there is one. -/
def startsPoller (settings : Settings) : List Deed :=
  settings.timeouts.toList.map fun timeouts => .startPoller timeouts.dispatcherAddress

/-- The deed that starts to clear failure counters. -/
def startsCleaner (settings : Settings) : Deed :=
  .startCleaner settings.cleanupInterval [.retries, .forwards, .satellites]

/-- What the start of the receiving side of an endpoint does, and what it comes to. -/
inductive Starts (side : ReceiveSide) (running : Running) (receivers : List Receiver) :
    List Deed → Except EndpointError Running → Prop where
  /-- The check of the transport fails, and nothing is done. -/
  | unchecked {error : ConfigError} (hcheck : checkResult side.check = .error error) :
      Starts side running receivers [] (.error (.configuration error))
  /-- The queues cannot be created, and nothing else is done. -/
  | noQueues {error : TransportError} (hcheck : checkResult side.check = .ok ()) :
      Starts side running receivers
        [.createQueues side (Assembly.bindings running.settings receivers) (.error error)]
        (.error (.transport error))
  /-- Every pump comes up, then the poller and the cleaner. -/
  | up (hcheck : checkResult side.check = .ok ()) :
      Starts side running receivers
        (.createQueues side (Assembly.bindings running.settings receivers) (.ok ()) ::
          ((pumpsFrom side receivers 0).flatMap comesUp ++ startsPoller running.settings ++
            [startsCleaner running.settings]))
        (.ok { running with
          pumps := pumpsFrom side receivers 0
          polls := running.settings.timeouts.isSome
          cleans := true })
  /-- A pump gives up. Those before it have come up, and each of them is stopped once; whatever
  comes of that, the failure of the pump is told. -/
  | down (hcheck : checkResult side.check = .ok ()) {before after : List (Receiver × Pump)}
      {failed : Receiver × Pump} (hpumps : pumpsFrom side receivers 0 = before ++ failed :: after)
      {error : TransportError} {attempt : List Deed} (hfails : GivesUp failed error attempt)
      {outcomes : List (Except TransportError Unit)} (hlength : outcomes.length = before.length) :
      Starts side running receivers
        (.createQueues side (Assembly.bindings running.settings receivers) (.ok ()) ::
          (before.flatMap comesUp ++ attempt ++ List.zipWith Deed.stop before outcomes))
        (.error (.transport error))

/-- The deeds that stop an endpoint, when its pumps stop with these outcomes. -/
def stopDeeds (running : Running) (outcomes : List (Except TransportError Unit)) : List Deed :=
  (if running.polls then [.stopPoller] else []) ++
    List.zipWith Deed.stop running.pumps outcomes ++
      (if running.cleans then [.stopCleaner] else [])

/-- What a stop comes to, when its pumps stop with these outcomes. -/
def stopResult (outcomes : List (Except TransportError Unit)) : Except EndpointError Unit :=
  match firstError? outcomes with
  | some error => .error (.transport error)
  | none => .ok ()

section Results

variable {side : ReceiveSide} {running : Running} {receivers : List Receiver}
  {trace : List Lifecycle.signature.Exchange}

/-- Once every pump is started, the poller is, if there is one, and then the cleaner. -/
theorem follows_background {settings : Settings} {result : Running}
    {outcome : Except EndpointError Running} :
    (do
      match settings.timeouts with
      | some timeouts => always (Life.ask (.startPoller timeouts.dispatcherAddress))
      | none => pure ()
      always (Life.ask (.startCleaner settings.cleanupInterval [.retries, .forwards, .satellites]))
      pure result : Start Running).run.Follows trace outcome ↔
      ShowsAll settings (startsPoller settings ++ [startsCleaner settings]) trace ∧
        outcome = .ok result := by
  have hcleaner {trace : List Lifecycle.signature.Exchange} :
      (always (Life.ask (.startCleaner settings.cleanupInterval
          [.retries, .forwards, .satellites])) >>= fun _ => pure result :
        Start Running).run.Follows trace outcome ↔
      ShowsAll settings [startsCleaner settings] trace ∧ outcome = .ok result := by
    rw [follows_always, showsAll_singleton]
    constructor
    · rintro ⟨first, second, _, rfl, hclean, hend⟩
      obtain ⟨rfl, rfl⟩ := Program.follows_done.1 hend
      rw [List.append_nil]
      exact ⟨hclean, rfl⟩
    · rintro ⟨hclean, rfl⟩
      exact ⟨trace, [], (), (List.append_nil trace).symm, hclean, .done _⟩
  -- with timeouts a poller is started in front of the cleaner
  rw [startsPoller]
  cases settings.timeouts with
  | none => exact hcleaner
  | some timeouts =>
    rw [follows_always]
    have hboth {trace : List Lifecycle.signature.Exchange} (poller : Deed) :
        ShowsAll settings [poller, startsCleaner settings] trace ↔
          ∃ first second, trace = first ++ second ∧ poller.Shows settings first ∧
            ShowsAll settings [startsCleaner settings] second := showsAll_cons
    simp only [hcleaner, Option.toList_some, List.map_cons, List.map_nil, List.singleton_append,
      hboth]
    constructor
    · rintro ⟨first, second, _, rfl, hpoller, hclean, rfl⟩
      exact ⟨⟨first, second, rfl, hpoller, hclean⟩, rfl⟩
    · rintro ⟨⟨first, second, rfl, hpoller, hclean⟩, rfl⟩
      exact ⟨first, second, (), rfl, hpoller, hclean, rfl⟩

/-- After a failure every pump that was started is stopped, and the failure is told. -/
theorem follows_unwind (settings : Settings) {pumps : List (Receiver × Pump)}
    {error : TransportError} {outcome : Except EndpointError Running} :
    (do
      let _ ← always (stopPumps pumps)
      throw (.transport error) : Start Running).run.Follows trace outcome ↔
      ∃ outcomes, outcomes.length = pumps.length ∧
        ShowsAll settings (List.zipWith Deed.stop pumps outcomes) trace ∧
          outcome = .error (.transport error) := by
  -- what the pumps answer to the stop is passed over
  rw [follows_always]
  simp only [stopPumps_follows settings]
  constructor
  · rintro ⟨first, second, _, rfl, ⟨outcomes, hlength, hshows, -⟩, hend⟩
    obtain ⟨rfl, rfl⟩ := Program.follows_done.1 hend
    exact ⟨outcomes, hlength, by rwa [List.append_nil], rfl⟩
  · rintro ⟨outcomes, hlength, hshows, rfl⟩
    exact ⟨trace, [], _, (List.append_nil trace).symm, ⟨outcomes, hlength, hshows, rfl⟩, .done _⟩

/-- The receiving side of an endpoint starts as it should, and in no other way. -/
theorem startReceiving_follows {outcome : Except EndpointError Running} :
    (startReceiving side running receivers).run.Follows trace outcome ↔
      ∃ deeds, Starts side running receivers deeds outcome ∧
        ShowsAll running.settings deeds trace := by
  rw [startReceiving, follows_configured]
  simp only [follows_transported, follows_always]
  -- from a trace to its deeds: each place where the start may fail is a constructor of `Starts`
  constructor
  · rintro (⟨error, hcheck, rfl, rfl⟩ | ⟨_, hcheck, hrest⟩)
    · exact ⟨[], .unchecked hcheck, .nil⟩
    · rcases hrest with ⟨error, hcreate, rfl⟩ | ⟨first, _, _, rfl, hcreate, second, third,
        ⟨failure, pumps⟩, rfl, hpumps, hrest⟩
      · exact ⟨_, .noQueues hcheck, showsAll_singleton.2 hcreate⟩
      · rcases startPumps_follows.1 hpumps with
          ⟨rfl, rfl, hup⟩ | ⟨failed, after, error, attempt, rfl, hcut, hfails, hup⟩
        · obtain ⟨hbackground, rfl⟩ := follows_background.1 hrest
          refine ⟨_, .up hcheck, .cons hcreate ?_⟩
          rw [List.append_assoc]
          exact showsAll_append.2 ⟨second, third, rfl, hup, hbackground⟩
        · obtain ⟨outcomes, hlength, hdown, rfl⟩ :=
            (follows_unwind running.settings).1 hrest
          refine ⟨_, .down hcheck hcut hfails hlength, .cons hcreate ?_⟩
          exact showsAll_append.2 ⟨second, third, rfl, hup, hdown⟩
  · rintro ⟨deeds, hstarts, hshows⟩
    -- and back: the deeds say at which of these places it went on
    cases hstarts with
    | unchecked hcheck => exact .inl ⟨_, hcheck, showsAll_nil.1 hshows, rfl⟩
    | noQueues hcheck => exact .inr ⟨(), hcheck, .inl ⟨_, showsAll_singleton.1 hshows, rfl⟩⟩
    | up hcheck =>
      rw [List.append_assoc] at hshows
      obtain ⟨first, rest, rfl, hcreate, hrest⟩ := showsAll_cons.1 hshows
      obtain ⟨second, third, rfl, hup, hbackground⟩ := showsAll_append.1 hrest
      refine .inr ⟨(), hcheck, .inr ⟨first, _, (), rfl, hcreate, second, third, (none, _), rfl,
        startPumps_follows.2 (.inl ⟨rfl, rfl, hup⟩), ?_⟩⟩
      exact follows_background.2 ⟨hbackground, rfl⟩
    | down hcheck hcut hfails hlength =>
      obtain ⟨first, rest, rfl, hcreate, hrest⟩ := showsAll_cons.1 hshows
      obtain ⟨second, third, rfl, hup, hdown⟩ := showsAll_append.1 hrest
      refine .inr ⟨(), hcheck, .inr ⟨first, _, (), rfl, hcreate, second, third, (some _, _), rfl,
        startPumps_follows.2 (.inr ⟨_, _, _, _, rfl, hcut, hfails, hup⟩), ?_⟩⟩
      exact (follows_unwind running.settings).2 ⟨_, hlength, hdown, rfl⟩

/-- Something in the background is stopped first, if it runs. -/
theorem follows_when {α : Type} {settings : Settings} {runs : Bool} {request : Lifecycle}
    {deed : Deed} {rest : Life α} {result : α}
    (hdeed : ∀ trace, deed.Shows settings trace ↔
      ∃ answer, (Life.ask request).Follows trace answer) :
    (if runs = true then (Life.ask request).bind fun _ => rest else rest).Follows trace result ↔
      ∃ first second, trace = first ++ second ∧
        ShowsAll settings (if runs then [deed] else []) first ∧ rest.Follows second result := by
  -- the request is made, or there is nothing to stop
  cases runs with
  | false =>
    constructor
    · exact fun hrest => ⟨[], trace, rfl, .nil, hrest⟩
    · rintro ⟨first, second, rfl, hnone, hrest⟩
      rw [showsAll_nil.1 hnone]
      exact hrest
  | true =>
    simp only [if_true, Program.follows_bind, showsAll_singleton, hdeed]
    constructor
    · rintro ⟨first, second, answer, rfl, hstop, hrest⟩
      exact ⟨first, second, rfl, ⟨answer, hstop⟩, hrest⟩
    · rintro ⟨first, second, rfl, ⟨answer, hstop⟩, hrest⟩
      exact ⟨first, second, answer, rfl, hstop, hrest⟩

/-- An endpoint stops as it should, and in no other way. -/
theorem stop_follows {outcome : Except EndpointError Unit} :
    running.stop.Follows trace outcome ↔
      ∃ outcomes, outcomes.length = running.pumps.length ∧
        ShowsAll running.settings (stopDeeds running outcomes) trace ∧
          outcome = stopResult outcomes := by
  have hpoller (trace : List Lifecycle.signature.Exchange) :
      Deed.stopPoller.Shows running.settings trace ↔
        ∃ answer, (Life.ask .stopPoller).Follows trace answer :=
    ⟨fun hstop => ⟨(), hstop⟩, fun ⟨_, hstop⟩ => hstop⟩
  have hcleaner (trace : List Lifecycle.signature.Exchange) :
      Deed.stopCleaner.Shows running.settings trace ↔
        ∃ answer, (Life.ask .stopCleaner).Follows trace answer :=
    ⟨fun hstop => ⟨(), hstop⟩, fun ⟨_, hstop⟩ => hstop⟩
  -- the end of the stop: what the pumps refused is passed on
  have hend {refusal : Option TransportError} {trace : List Lifecycle.signature.Exchange} :
      (match refusal with
        | some error => pure (.error (.transport error))
        | none => pure (.ok ()) : Life (Except EndpointError Unit)).Follows trace outcome ↔
      trace = [] ∧ outcome = (match refusal with
        | some error => .error (.transport error)
        | none => .ok ()) := by
    cases refusal <;> exact Program.follows_done
  rw [Running.stop]
  simp only [Program.bind_eq]
  rw [follows_when hpoller]
  simp only [Program.follows_bind, follows_when hcleaner, stopDeeds, showsAll_append,
    stopPumps_follows running.settings]
  constructor
  · -- poller, pumps, cleaner: the trace is cut where the one is stopped and the next is not
    rintro ⟨first, _, rfl, hfirst, second, _, refusal, rfl, ⟨outcomes, hlength, hpumps, rfl⟩,
      third, fourth, rfl, hthird, hresult⟩
    obtain ⟨rfl, rfl⟩ := hend.1 hresult
    rw [List.append_nil]
    exact ⟨outcomes, hlength, ⟨first ++ second, third, (List.append_assoc ..).symm,
      ⟨first, second, rfl, hfirst, hpumps⟩, hthird⟩, rfl⟩
  · rintro ⟨outcomes, hlength, ⟨_, third, rfl, ⟨first, second, rfl, hfirst, hpumps⟩, hthird⟩, rfl⟩
    exact ⟨first, second ++ third, List.append_assoc .., hfirst, second, third, _, rfl,
      ⟨outcomes, hlength, hpumps, rfl⟩, third, [], (List.append_nil third).symm, hthird,
      hend.2 ⟨rfl, rfl⟩⟩

end Results

/-! ### Before the receiving side is started -/

/-- Only the parts of the endpoint made these requests: nothing was started or stopped. -/
def ActsOnly (trace : List Lifecycle.signature.Exchange) : Prop :=
  ∀ exchange ∈ trace, ∃ effect, exchange.request = .act effect

/-- An endpoint of which nothing runs. -/
structure Idle (running : Running) : Prop where
  /-- There are no pumps. -/
  pumps : running.pumps = []
  /-- There is no poller. -/
  polls : running.polls = false
  /-- There is no cleaner. -/
  cleans : running.cleans = false

/-- What the receiving side of an endpoint is started with: a side that the transport connects, and
an endpoint of which nothing runs, with the input queue and the pipelines of its configuration. -/
structure Prepared (config : Config) (transport : Transport) (parts : EndpointParts)
    (infrastructure : Infrastructure) (sending : Assembly.SendingSide) (side : ReceiveSide)
    (running : Running) (main : String) (pipeline : Chain ReceiveContext) : Prop where
  /-- The transport is initialised. -/
  provided : transport.provide config = .ok infrastructure
  /-- The settings are those of the configuration. -/
  settled : Settings.resolve config transport infrastructure.capabilities = .ok running.settings
  /-- The endpoint has an input queue. -/
  receives : running.settings.localAddress = some main
  /-- The transport has connected the side. -/
  connected : ∃ connect trace, infrastructure.connectReceive = some connect ∧
    (Life.act (connect config.connectionString)).Follows trace side
  /-- The pipelines of outgoing messages are built from the steps. -/
  sends : ∃ steps,
    Assembly.mainSteps running.settings
      (resolver config transport infrastructure.capabilities running.settings parts.subscribers)
      parts.steps none = .ok steps ∧
    Assembly.sendingSide steps parts.serializer infrastructure.capabilities = .ok sending
  /-- So is the pipeline of received messages. -/
  assembled : ∃ steps,
    Assembly.mainSteps running.settings
      (resolver config transport infrastructure.capabilities running.settings parts.subscribers)
      parts.steps (some sending.fault) = .ok steps ∧
    Assembly.receivePipeline steps parts running.operations = .ok pipeline
  /-- Messages are sent through the pipelines of outgoing messages. -/
  operations : running.operations = {
    outgoing := sending.outgoing, routing := sending.routing
    endpointName := running.settings.endpointName
    localAddress := running.settings.localAddress }
  /-- Nothing runs yet. -/
  idle : Idle running

/-- What a start does, and what it comes to. -/
inductive Launches (config : Config) (transport : Transport) (parts : EndpointParts) :
    List Lifecycle.signature.Exchange → Except EndpointError Running → Prop where
  /-- The start fails before the receiving side, and nothing is started. -/
  | failed {opening : List Lifecycle.signature.Exchange} {error : EndpointError}
      (hopening : ActsOnly opening) : Launches config transport parts opening (.error error)
  /-- The endpoint only sends, and nothing is started. -/
  | sending {opening : List Lifecycle.signature.Exchange} {running : Running}
      (hopening : ActsOnly opening) (hsendOnly : config.sendOnly = true) (hidle : Idle running) :
      Launches config transport parts opening (.ok running)
  /-- The receiving side is started in the end, with the receivers of the endpoint. -/
  | receiving {opening rest : List Lifecycle.signature.Exchange}
      {outcome : Except EndpointError Running} (hopening : ActsOnly opening)
      {infrastructure : Infrastructure} {sending : Assembly.SendingSide} {side : ReceiveSide}
      {running : Running} {main : String} {pipeline : Chain ReceiveContext} {deeds : List Deed}
      (hprepared : Prepared config transport parts infrastructure sending side running main
        pipeline)
      (hstarts : Starts side running (receivers running.settings main pipeline) deeds outcome)
      (hshows : ShowsAll running.settings deeds rest) :
      Launches config transport parts (opening ++ rest) outcome

/-- Whatever a part of a start does is a launch. -/
def Opens (config : Config) (transport : Transport) (parts : EndpointParts)
    (program : Start Running) : Prop :=
  ∀ trace outcome, program.run.Follows trace outcome →
    Launches config transport parts trace outcome

section Opening

variable {config : Config} {transport : Transport} {parts : EndpointParts} {α : Type}
  {trace first second : List Lifecycle.signature.Exchange}
  {outcome : Except EndpointError Running} {f : α → Start Running}

theorem actsOnly_nil : ActsOnly [] := List.forall_mem_nil _

/-- A launch may come after other requests of the parts of the endpoint. -/
theorem Launches.after (hfirst : ActsOnly first)
    (h : Launches config transport parts second outcome) :
    Launches config transport parts (first ++ second) outcome := by
  have hboth {opening : List Lifecycle.signature.Exchange} (hopening : ActsOnly opening) :
      ActsOnly (first ++ opening) :=
    fun exchange hmem => (List.mem_append.1 hmem).elim (hfirst exchange) (hopening exchange)
  cases h with
  | failed hopening => exact .failed (hboth hopening)
  | sending hopening hsendOnly hidle => exact .sending (hboth hopening) hsendOnly hidle
  | receiving hopening hprepared hstarts hshows =>
    rw [← List.append_assoc]
    exact .receiving (hboth hopening) hprepared hstarts hshows

/-- A program of acts asks nothing of the hosts beside. -/
theorem actsOnly_of_follows {program : Act α} {result : α}
    (h : (Life.act program).Follows trace result) : ActsOnly trace := by
  induction program generalizing trace with
  | done =>
    obtain ⟨rfl, -⟩ := Program.follows_done.1 h
    exact actsOnly_nil
  | panic => cases h
  | call effect next ih =>
    cases h with
    | call hnext =>
      intro exchange hmem
      rcases List.mem_cons.1 hmem with rfl | hmem
      · exact ⟨effect, rfl⟩
      · exact ih _ hnext exchange hmem

/-- A start that goes on from a value of `configured` is one that `Opens`, if it is so with every
value; a configuration error ends it with no trace. -/
theorem opens_configured {result : Except ConfigError α}
    (h : ∀ value, result = .ok value → Opens config transport parts (f value)) :
    Opens config transport parts (configured result >>= f) := by
  intro trace outcome hfollows
  rcases follows_configured.1 hfollows with ⟨error, -, rfl, rfl⟩ | ⟨value, hvalue, hrest⟩
  · exact .failed actsOnly_nil
  · exact h value hvalue trace outcome hrest

/-- Acts before a part that `Opens` belong to the same launch, as they start and stop nothing. -/
theorem opens_act {program : Act α}
    (h : ∀ value trace, (Life.act program).Follows trace value →
      Opens config transport parts (f value)) :
    Opens config transport parts (always (Life.act program) >>= f) := by
  intro trace outcome hfollows
  obtain ⟨first, second, value, rfl, hfirst, hsecond⟩ := follows_always.1 hfollows
  exact .after (actsOnly_of_follows hfirst) (h value first hfirst second outcome hsecond)

/-- A start that gives up has opened nothing. -/
theorem opens_throw {error : EndpointError} :
    Opens config transport parts (throw error >>= f) := by
  intro trace outcome hfollows
  obtain ⟨rfl, rfl⟩ := Program.follows_done.1 hfollows
  exact .failed actsOnly_nil

/-- An endpoint that only sends is started as it is. -/
theorem opens_pure {running : Running} (hsendOnly : config.sendOnly = true)
    (hidle : Idle running) : Opens config transport parts (pure running) := by
  intro trace outcome hfollows
  obtain ⟨rfl, rfl⟩ := Program.follows_done.1 hfollows
  exact .sending actsOnly_nil hsendOnly hidle

/-- A side that is `Prepared` starts and stops its receivers as `startReceiving` says. -/
theorem opens_startReceiving {infrastructure : Infrastructure} {sending : Assembly.SendingSide}
    {side : ReceiveSide} {running : Running} {main : String} {pipeline : Chain ReceiveContext}
    (hprepared : Prepared config transport parts infrastructure sending side running main
      pipeline) :
    Opens config transport parts
      (startReceiving side running (receivers running.settings main pipeline)) := by
  intro trace outcome hfollows
  obtain ⟨deeds, hstarts, hshows⟩ := startReceiving_follows.1 hfollows
  exact .receiving actsOnly_nil hprepared hstarts hshows

/-- There is no receiving side for an endpoint that only sends, and otherwise it is one that the
transport connects. -/
theorem opens_connectReceive {infrastructure : Infrastructure} {settings : Settings}
    {connection : Option String} {f : Option ReceiveSide → Start Running}
    (hnone : settings.sendOnly = true → Opens config transport parts (f none))
    (hsome : ∀ connect trace side, infrastructure.connectReceive = some connect →
      (Life.act (connect connection)).Follows trace side →
        Opens config transport parts (f (some side))) :
    Opens config transport parts (connectReceive infrastructure settings connection >>= f) := by
  rw [connectReceive]
  split
  · next hsendOnly => exact hnone hsendOnly
  · split
    · exact opens_throw
    · next connect hconnect =>
      rw [bind_assoc]
      exact opens_act fun side trace hside => hsome connect trace side hconnect hside

/-- Every start is a launch. -/
theorem opens_start (config : Config) (transport : Transport) (parts : EndpointParts) :
    Opens config transport parts (start config transport parts) := by
  refine opens_configured fun infrastructure hprovided => ?_
  refine opens_configured fun settings hsettled => ?_
  obtain ⟨hsendOnly, hlocal⟩ := localAddress_of_resolve hsettled
  refine opens_act fun sendSide _ _ => opens_configured fun _ _ => opens_connectReceive ?_ ?_
  · intro hsend
    dsimp only
    split
    · exact opens_throw
    · refine opens_configured fun steps _ => opens_configured fun sending _ => ?_
      exact opens_pure (hsendOnly.symm.trans hsend) ⟨rfl, rfl, rfl⟩
  · intro connect trace side hconnect hside
    dsimp only
    split
    · exact opens_throw
    · refine opens_configured fun steps hsteps => opens_configured fun sending hsending => ?_
      cases hmain : settings.localAddress with
      | none =>
        -- only an endpoint that sends only has no input queue
        have hsend : config.sendOnly = true := by
          by_contra hreceives
          rw [if_neg hreceives, hmain] at hlocal
          cases hlocal
        exact opens_pure hsend ⟨rfl, rfl, rfl⟩
      | some main =>
        refine opens_configured fun all hall => opens_configured fun pipeline hpipeline => ?_
        have hprepared : Prepared config transport parts infrastructure sending side {
            settings, subscriptions := infrastructure.subscriptions
            operations := {
              outgoing := sending.outgoing, routing := sending.routing
              endpointName := settings.endpointName, localAddress := some main } }
            main pipeline := {
          provided := hprovided
          settled := hsettled
          receives := hmain
          connected := ⟨connect, trace, hconnect, hside⟩
          sends := ⟨steps, hsteps, hsending⟩
          assembled := ⟨all, hall, hpipeline⟩
          operations := by rw [hmain]
          idle := ⟨rfl, rfl, rfl⟩ }
        split
        · exact opens_act fun _ _ _ => opens_startReceiving hprepared
        · exact opens_startReceiving hprepared

end Opening

/-! ### Starting and stopping come to an end -/

/-- No part of a receiving side panics. -/
structure CalmSide (side : ReceiveSide) : Prop where
  /-- Creating the queues does not. -/
  createQueues : ∀ bindings identity, (side.createQueues bindings identity).Calm
  /-- Setting a pump up does not. -/
  init : ∀ index entry settings, ((side.pump index).init entry settings).Calm
  /-- Starting it does not. -/
  start : ∀ index queue concurrency, ((side.pump index).start queue concurrency).Calm
  /-- Stopping it does not. -/
  stop : ∀ index queue, ((side.pump index).stop queue).Calm

section Calm

variable {side : ReceiveSide} {running : Running} {receivers : List Receiver}

/-- An act is `Calm` as part of a life if it is `Calm`. -/
theorem calm_act {α : Type} {program : Act α} (h : program.Calm) : (Life.act program).Calm := by
  induction program with
  | done => trivial
  | panic => exact h
  | call effect next ih => exact fun answer => ih _ (h answer)

/-- Pumps whose stop is `Calm` are stopped so one by one. -/
theorem calm_stopPumps {pumps : List (Receiver × Pump)}
    (h : ∀ pump ∈ pumps, (pump.2.stop pump.1.inputQueue).Calm) : (stopPumps pumps).Calm := by
  induction pumps with
  | nil => trivial
  | cons first rest ih =>
    obtain ⟨hfirst, hrest⟩ := List.forall_mem_cons.1 h
    refine hfirst.bind fun result => (ih hrest).bind fun later => ?_
    cases result <;> trivial

/-- So are the pumps of a `CalmSide` started. -/
theorem calm_startPumps (h : CalmSide side) (settings : Settings) (index : Nat) :
    (startPumps settings side receivers index).Calm := by
  induction receivers generalizing index with
  | nil => trivial
  | cons receiver rest ih =>
    refine Program.Calm.bind ?_ fun result => ?_
    · refine (h.init index _ _).bind fun result => ?_
      cases result with
      | error error => trivial
      | ok _ => exact h.start index _ _
    · cases result with
      | error error => trivial
      | ok _ => exact (ih (index + 1)).bind fun _ => trivial

/-- Every pump that such a start hands out has a stop that is `Calm`. -/
theorem calm_stop_of_mem_pumpsFrom (h : CalmSide side) {index : Nat} {pump : Receiver × Pump}
    (hmem : pump ∈ pumpsFrom side receivers index) : (pump.2.stop pump.1.inputQueue).Calm := by
  obtain ⟨⟨receiver, number⟩, -, rfl⟩ := List.mem_map.1 hmem
  exact h.stop number _

/-- The start of a receiving side that never panics comes to an end. -/
theorem calm_startReceiving (h : CalmSide side) :
    (startReceiving side running receivers).run.Calm := by
  rw [startReceiving]
  cases checkResult side.check with
  | error error => trivial
  | ok _ =>
    change Program.Calm (ExceptT.run (transported _ >>= _))
    rw [run_transported_bind]
    refine (calm_act (h.createQueues _ _)).bind fun created => ?_
    cases created with
    | error error => trivial
    | ok _ =>
      dsimp only
      rw [run_always_bind]
      refine (calm_startPumps h _ _).bind_of_follows fun trace result hfollows => ?_
      obtain ⟨failure, pumps⟩ := result
      cases failure with
      | some error =>
        -- what is stopped was started before
        obtain ⟨⟨⟩, -⟩ | ⟨failed, after, _, _, -, hcut, -⟩ := startPumps_follows.1 hfollows
        dsimp only
        rw [run_always_bind]
        refine (calm_stopPumps fun pump hmem => ?_).bind fun _ => trivial
        have hstarted : pump ∈ pumpsFrom side receivers 0 := by
          rw [hcut]
          exact List.mem_append_left _ hmem
        exact calm_stop_of_mem_pumpsFrom h hstarted
      | none =>
        dsimp only
        cases running.settings.timeouts with
        | none => exact fun _ => trivial
        | some timeouts => exact fun _ _ => trivial

/-- So does the stop of an endpoint whose pumps never panic. -/
theorem calm_stop (h : ∀ pump ∈ running.pumps, (pump.2.stop pump.1.inputQueue).Calm) :
    running.stop.Calm := by
  rw [Running.stop]
  have hrest : (do
      let refusal ← stopPumps running.pumps
      if running.cleans then Life.ask .stopCleaner
      match refusal with
      | some error => pure (.error (.transport error))
      | none => pure (.ok ()) : Life (Except EndpointError Unit)).Calm := by
    -- behind the pumps there are only requests that cannot panic
    refine (calm_stopPumps h).bind fun refusal => ?_
    cases running.cleans <;> cases refusal
    · trivial
    · trivial
    · exact fun _ => trivial
    · exact fun _ => trivial
  cases running.polls with
  | false => exact hrest
  | true => exact fun _ => hrest

end Calm

/-- **Start and stop leave nothing running.** The receiving side of an endpoint is started in full,
or the pumps that were started before a failure are stopped again, and neither the poller nor the
cleaner is ever started. A whole start comes to this with what `Prepared` describes, the receivers
of the configuration among it; otherwise it starts nothing, because it fails before or because the
endpoint only sends. A stop goes through everything that runs. Where no part of the transport
panics, both come to an end. -/
theorem start_and_stop_leave_nothing_running :
    (∀ (side : ReceiveSide) (running : Running) (receivers : List Receiver),
      (∀ trace outcome, (startReceiving side running receivers).run.Follows trace outcome ↔
        ∃ deeds, Starts side running receivers deeds outcome ∧
          ShowsAll running.settings deeds trace) ∧
      (CalmSide side → ∀ answers, ∃ trace outcome,
        (startReceiving side running receivers).run.Follows trace outcome ∧
          Program.Answered answers trace)) ∧
    (∀ (config : Config) (transport : Transport) (parts : EndpointParts) trace outcome,
      (start config transport parts).run.Follows trace outcome →
        Launches config transport parts trace outcome) ∧
    ∀ running : Running,
      (∀ trace outcome, running.stop.Follows trace outcome ↔
        ∃ outcomes, outcomes.length = running.pumps.length ∧
          ShowsAll running.settings (stopDeeds running outcomes) trace ∧
            outcome = stopResult outcomes) ∧
      ((∀ pump ∈ running.pumps, (pump.2.stop pump.1.inputQueue).Calm) →
        ∀ answers, ∃ trace outcome, running.stop.Follows trace outcome ∧
          Program.Answered answers trace) := by
  refine ⟨fun side running receivers =>
      ⟨fun trace outcome => startReceiving_follows, fun hcalm => ?_⟩,
    fun config transport parts => opens_start config transport parts,
    fun running => ⟨fun trace outcome => stop_follows, fun hcalm => ?_⟩⟩
  · exact (calm_startReceiving hcalm).exists_follows
  · exact (calm_stop hcalm).exists_follows

/-! ### A start that fails -/

theorem follows_ask (request : Lifecycle) (answer : request.Answer) :
    (Life.ask request).Follows [⟨request, answer⟩] answer := .call (.done answer)

/-- What a host makes of a program is one of the things that the program may do. -/
theorem follows_of_drive {α : Type} {site : SiteId} {program : Life α} {host host' : Host}
    {result : α} (h : Host.drive site program host = (.ok result, host')) :
    ∃ trace, program.Follows trace result := by
  induction program generalizing host with
  | done result =>
    cases h
    exact ⟨[], .done _⟩
  | panic payload => cases h
  | call request next ih =>
    obtain ⟨trace, hfollows⟩ := ih _ h
    exact ⟨_, .call hfollows⟩

/-- A receiving side with the pumps of the transport in memory. -/
def hallSide : ReceiveSide where
  pump := Memory.pump (.ofSeconds 30)
  createQueues _ _ := pure (.ok ())

/-- A receiver that drops its messages. -/
def hallReceiver (queue : String) : Receiver where
  inputQueue := queue
  pipeline :=
    { name := "drop", steps := [], terminator := fun context => pure (.ok .completed, context) }
  concurrency := none
  purge := false

/-- Three of them. -/
def hallReceivers : List Receiver := [hallReceiver "a", hallReceiver "b", hallReceiver "c"]

/-- The last of three pumps does not start, and the first does not stop either. -/
def hallDeeds (settings : Settings) : List Deed :=
  let first := (hallReceiver "a", hallSide.pump 0)
  let second := (hallReceiver "b", hallSide.pump 1)
  let third := (hallReceiver "c", hallSide.pump 2)
  [.createQueues hallSide (Assembly.bindings settings hallReceivers) (.ok ()),
    .init first (.ok ()), .start first (.ok ()), .init second (.ok ()), .start second (.ok ()),
    .init third (.ok ()), .start third (.error .notInitialized),
    .stop first (.error (.stopTimeout (.ofSeconds 30))), .stop second (.ok ())]

theorem start_and_stop_leave_nothing_running_hall :
    ∃ running launch,
      (start Redelivery.salesConfig Memory.transport Redelivery.salesParts).run.Follows launch
        (.ok running) ∧
      Launches Redelivery.salesConfig Memory.transport Redelivery.salesParts launch
        (.ok running) ∧
      (∃ trace, ShowsAll running.settings (hallDeeds running.settings) trace ∧
        (startReceiving hallSide running hallReceivers).run.Follows trace
          (.error (.transport .notInitialized))) ∧
      (∃ trace outcome,
        (startReceiving hallSide running hallReceivers).run.Follows trace outcome) ∧
      ∃ trace outcome,
        { running with pumps := pumpsFrom hallSide hallReceivers 0 }.stop.Follows trace
          outcome := by
  have hstart : ∃ running, Redelivery.Comes 0 Redelivery.salesHost
      (start Redelivery.salesConfig Memory.transport Redelivery.salesParts) running
      Redelivery.salesStarted := ⟨_, rfl⟩
  obtain ⟨running, hstart⟩ := hstart
  obtain ⟨launch, hlaunch⟩ := follows_of_drive hstart
  -- none of the pumps of the hall panics
  have hcalm : CalmSide hallSide :=
    ⟨fun _ _ => trivial, fun _ _ _ _ => trivial, fun _ _ _ _ => trivial, fun _ _ _ => trivial⟩
  obtain ⟨hreceiving, hlaunches, hstop⟩ := start_and_stop_leave_nothing_running
  obtain ⟨hstarts, hends⟩ := hreceiving hallSide running hallReceivers
  refine ⟨running, launch, hlaunch, hlaunches _ _ _ _ _ hlaunch, ?_, ?_, ?_⟩
  · -- the third pump fails to start, so the two that came up are stopped again
    have hdeeds : ∃ trace, ShowsAll running.settings (hallDeeds running.settings) trace :=
      ⟨_, .cons (.done _) <| .cons (follows_ask ..) <| .cons (follows_ask ..) <|
        .cons (follows_ask ..) <| .cons (follows_ask ..) <| .cons (follows_ask ..) <|
        .cons (follows_ask ..) <| .cons (follows_ask ..) <| .cons (follows_ask ..) .nil⟩
    obtain ⟨trace, htrace⟩ := hdeeds
    refine ⟨trace, htrace, (hstarts _ _).2 ⟨_, ?_, htrace⟩⟩
    have hcut : pumpsFrom hallSide hallReceivers 0
        = [(hallReceiver "a", hallSide.pump 0), (hallReceiver "b", hallSide.pump 1)] ++
          (hallReceiver "c", hallSide.pump 2) :: [] := rfl
    have hlength : ([.error (.stopTimeout (.ofSeconds 30)), .ok ()] :
        List (Except TransportError Unit)).length = 2 := rfl
    exact .down rfl hcut .start hlength
  · obtain ⟨trace, outcome, hfollows, -⟩ :=
      hends hcalm fun _ request => (Redelivery.salesHost.serve 0 request).1
    exact ⟨trace, outcome, hfollows⟩
  · obtain ⟨trace, outcome, hfollows, -⟩ :=
      (hstop { running with pumps := pumpsFrom hallSide hallReceivers 0 }).2
        (fun _ hmem => calm_stop_of_mem_pumpsFrom hcalm hmem)
        fun _ request => (Redelivery.salesHost.serve 0 request).1
    exact ⟨trace, outcome, hfollows⟩

end Endpoint

end Messaging
