import Messaging.Failure
import Messaging.Time.Wire

/-!
# What is told of a failure

A handler fails with an error of its own, which may have a source, and that again one, or with a
failure that it met. What is told of a failure are the texts of all of them, from the error itself
to the root.

- `Cause` is an error with its sources, and `Cause.source?` what stands behind it: a failure that
  only passes another one on stands for it and has its source.
- `Chain` follows the sources to the root, and `chain_iff` says which texts are met.
- `Failure.ofCause` is the failure of a handler that fails with an error.
- `Described` is what the headers of a failed message tell, and `describes_chain` says that they do,
  whatever an earlier failure has left in them.
-/

namespace Messaging.Failure

open Time (Instant)

/-! ### Sources -/

/-- An error that a handler fails with. -/
inductive Cause where
  /-- A text alone. -/
  | plain (text : String)
  /-- A text in front of another error. -/
  | because (text : String) (source : Cause)
  /-- A failure of the processing of a message. -/
  | met (failure : Failure)

namespace Cause

/-- The text of an error. -/
def text : Cause → String
  | plain text => text
  | because text _ => text
  | met failure => failure.message

/-- An error with a text and the texts of those behind it. -/
def ofTexts (text : String) : List String → Cause
  | [] => plain text
  | next :: rest => because text (ofTexts next rest)

end Cause

/-- What stands behind a failure; one that is passed on stands for itself. -/
def source? : Failure → Option Cause
  | handler _ (next :: rest) => some (.ofTexts next rest)
  | wrapped inner => inner.source?
  | _ => none

/-- What stands behind an error. -/
def Cause.source? : Cause → Option Cause
  | plain _ => none
  | because _ source => some source
  | met failure => failure.source?

/-- The texts of an error and of all that stand behind it, down to the root. -/
inductive Chain : Cause → List String → Prop where
  /-- Nothing stands behind the root. -/
  | root {error : Cause} (hnone : error.source? = none) : Chain error [error.text]
  /-- The texts go on with what stands behind an error. -/
  | cause {error source : Cause} {texts : List String} (hsource : error.source? = some source)
      (hrest : Chain source texts) : Chain error (error.text :: texts)

variable {error : Cause} {told told' : List String}

theorem Chain.unique (h : Chain error told) (h' : Chain error told') : told = told' := by
  induction h generalizing told' with
  | root hnone =>
    cases h' with
    | root => rfl
    | cause hsource => cases hnone.symm.trans hsource
  | cause hsource _ ih =>
    cases h' with
    | root hnone => cases hnone.symm.trans hsource
    | cause hsource' hrest' =>
      cases hsource.symm.trans hsource'
      rw [ih hrest']

theorem chain_ofTexts (text : String) (rest : List String) :
    Chain (.ofTexts text rest) (text :: rest) := by
  induction rest generalizing text with
  | nil => exact .root rfl
  | cons next rest ih => exact .cause rfl (ih next)

/-- The chain of a failure is its text and its causes. -/
theorem chain_failure (failure : Failure) :
    Chain (.met failure) (failure.message :: failure.causes) := by
  induction failure with
  | handler text causes =>
    cases causes with
    | nil => exact .root rfl
    | cons next rest => exact .cause rfl (chain_ofTexts next rest)
  | wrapped inner ih =>
    -- a failure that is passed on has the text and the source of the one inside
    change Chain _ (inner.message :: inner.causes)
    generalize inner.message :: inner.causes = texts at ih ⊢
    cases ih with
    | root hnone => exact .root hnone
    | cause hsource hrest => exact .cause hsource hrest
  | _ => exact .root rfl

/-- The texts of an error and of those behind it. -/
def Cause.texts : Cause → List String
  | plain text => [text]
  | because text source => text :: source.texts
  | met failure => failure.message :: failure.causes

theorem chain_iff : Chain error told ↔ told = error.texts := by
  have hchain : Chain error error.texts := by
    induction error with
    | plain text => exact .root rfl
    | because text source ih => exact .cause rfl ih
    | met failure => exact chain_failure failure
  exact ⟨fun h => h.unique hchain, fun h => h ▸ hchain⟩

/-- The failure of a handler that fails with an error. -/
def ofCause : Cause → Failure
  | .plain text => handler text []
  | .because text source => handler text source.texts
  | .met failure => wrapped failure

/-- A handler's failure tells as much as the error that the handler failed with. -/
theorem chain_ofCause : Chain (.met (ofCause error)) told ↔ Chain error told := by
  rw [chain_iff, chain_iff]
  cases error <;> rfl

/-! ### Headers -/

/-- What stands between the texts of a chain. -/
def causedBy : String := "\ncaused by: "

theorem trace_eq (failure : Failure) :
    failure.trace = causedBy.intercalate (failure.message :: failure.causes) := by
  rw [trace]
  -- the text so far is any, since every step of the fold adds to it
  generalize failure.message = first
  induction failure.causes generalizing first with
  | nil => rw [List.foldl_nil, String.intercalate_singleton]
  | cons cause rest ih =>
    rw [List.foldl_cons, ih, String.intercalate_cons_append, String.intercalate_cons_cons]
    rfl

/-- The headers that tell of a failure. -/
def toldIn : List String :=
  [Header.exceptionType, Header.exceptionMessage, Header.exceptionSource,
    Header.exceptionStackTrace, Header.innerExceptionType, Header.failedQueue,
    Header.timeOfFailure]

/-- What headers tell of a failure with a chain of texts, and what they were before. -/
structure Described (failure : Failure) (texts : List String) (queue : String) (now : Instant)
    (headers after : Headers) : Prop where
  type : after.get? Header.exceptionType = some ("courier::ProcessingError::" ++ failure.kind)
  /-- The message is the first text of the chain. -/
  message : after.get? Header.exceptionMessage = texts.head?
  source : after.get? Header.exceptionSource = some failure.kind
  /-- The trace shows all texts of the chain. -/
  trace : after.get? Header.exceptionStackTrace = some (causedBy.intercalate texts)
  /-- The inner exception is the second text, if there is one, and else it is absent. -/
  inner : after.get? Header.innerExceptionType = texts[1]?
  queue : after.get? Header.failedQueue = some queue
  time : after.get? Header.timeOfFailure = some (Time.Wire.write now)
  /-- Nothing else changes. -/
  others : ∀ key, key ∉ toldIn → after.get? key = headers.get? key

/-- What a header says once a failure is described. -/
theorem get?_describeOn (failure : Failure) (queue time : String) (headers : Headers)
    (key : String) :
    (failure.describeOn queue time headers).get? key
      = if key = Header.timeOfFailure then some time
        else if key = Header.failedQueue then some queue
        else if key = Header.innerExceptionType then failure.causes.head?
        else if key = Header.exceptionStackTrace then some failure.trace
        else if key = Header.exceptionSource then some failure.kind
        else if key = Header.exceptionMessage then some failure.message
        else if key = Header.exceptionType then some failure.typeName
        else headers.get? key := by
  rw [describeOn, innerCause?]
  -- the inner exception of an earlier failure is replaced or taken away
  cases failure.causes.head? with
  | none => simp only [Table.get?_insert, Table.get?_erase]
  | some cause => simp only [Table.get?_insert]

theorem described (failure : Failure) (queue : String) (now : Instant) (headers : Headers) :
    Described failure (failure.message :: failure.causes) queue now headers
      (failure.describeOn queue (Time.Wire.write now) headers) where
  type := by rw [get?_describeOn]; rfl
  message := by rw [get?_describeOn]; rfl
  source := by rw [get?_describeOn]; rfl
  trace := by rw [get?_describeOn, ← trace_eq]; rfl
  inner := by rw [get?_describeOn, List.getElem?_cons_succ, ← List.head?_eq_getElem?]; rfl
  queue := by rw [get?_describeOn]; rfl
  time := by rw [get?_describeOn]; rfl
  others key hkey := by
    simp only [toldIn, List.mem_cons, List.not_mem_nil, or_false, not_or] at hkey
    obtain ⟨htype, hmessage, hsource, htrace, hinner, hqueue, htime⟩ := hkey
    rw [get?_describeOn, if_neg htime, if_neg hqueue, if_neg hinner, if_neg htrace, if_neg hsource,
      if_neg hmessage, if_neg htype]

/-- The texts of the whole chain of a failure are told of it, from the failure itself to the root
and each once, and the headers of a failed message tell of the new failure, its queue and its time
alone. The chain is the one of the error that a handler failed with. -/
theorem describes_chain :
    (∀ error told, Chain (.met (ofCause error)) told ↔ Chain error told) ∧
    ∀ failure queue now headers, ∃ told, (∀ other, Chain (.met failure) other ↔ other = told) ∧
      failure.trace = causedBy.intercalate told ∧
      Described failure told queue now headers
        (failure.describeOn queue (Time.Wire.write now) headers) :=
  ⟨fun _ _ => chain_ofCause, fun failure queue now headers =>
    ⟨failure.message :: failure.causes, fun _ => chain_iff, trace_eq failure,
      described failure queue now headers⟩⟩

/-- A failure that a handler met and put a text in front of. -/
example :
    (ofCause (.because "not stored" (.met (wrapped (handler "no answer" ["reset"]))))).trace
      = "not stored\ncaused by: no answer\ncaused by: reset" := by
  decide

end Messaging.Failure
