import Messaging.Proofs.Scoping
import Messaging.Proofs.Unpacking

/-!
# All or nothing

What handlers and steps send while a message is received is staged and leaves the endpoint in one
batch, once the message was handled.

- `inOrder` is the batch of a list of operations.
- `Tidy` says that the list of staged operations holds what was staged and that only messages that
  are sent apart were handed over. `forth_of_works` says that it stays so whatever handlers and
  steps do.
- `Produced` is what becomes of a message with its routes, `Closed` what follows once the message
  was handled, and `Received` what a receive comes to.
- `all_or_nothing` says that every receive comes to that, whatever the endpoint is made of.
-/

namespace Messaging.Batching

open Incoming (closing opening readContext)
open Redelivery (Clean Gathers IsAside Moment Pending Sees Serves Spared assured_ask handed handedBy
  isolated_of_mem_operations staged staged_of_served terms)

variable {α : Type} {s t u : Moment} {staging : StagingId} {scope : ScopeId}
  {capabilities : Capabilities}

/-- How the requests of a receive are answered while others go on. -/
def serves : Service Moment := terms.among

/-! ### What is handed to the transport -/

/-- What was handed over after one more request. -/
theorem handed_after (s : Moment) (effect : Effect) :
    handed (s.after effect).log
      = handed s.log ++ (handedBy ⟨effect, (s.world.perform effect).1⟩).toList := by
  rw [handed, Moment.after, List.filterMap_append, List.filterMap_cons]
  cases handedBy ⟨effect, (s.world.perform effect).1⟩ <;> rfl

/-- A request that has nothing to do with the list hands nothing over. -/
theorem handedBy_aside {effect : Effect} (heffect : IsAside effect) (answer : effect.Answer) :
    handedBy ⟨effect, answer⟩ = none := by
  cases effect
  case dispatch batch => exact heffect.elim
  all_goals rfl

/-- Every request is answered. -/
theorem exists_serves (s : Moment) (effect : Effect) : ∃ answer u, serves s effect answer u :=
  (Serves.exists s effect).imp fun _ h => h.imp fun _ hserved => ⟨s, .refl s, hserved⟩

/-- With an answered request is handed over what it says. -/
theorem handed_of_served {effect : Effect} {answer : effect.Answer}
    (hserved : serves s effect answer u) :
    handed u.log = handed s.log ++ (handedBy ⟨effect, answer⟩).toList := by
  obtain ⟨t, hspared, hserved⟩ := hserved
  have hlog : t.log = s.log := hspared.log
  rw [← hlog]
  cases hserved with
  | slept => exact (List.append_nil _).symm
  | performed => exact handed_after t effect

/-- The batch of operations: those to single addresses and those to subscribers, both in their
order. -/
def inOrder (operations : List Operation) : Batch where
  unicast := operations.filterMap fun operation =>
    match operation.route with
    | .unicast address =>
      some ⟨address, operation.message, operation.constraints, operation.isolated⟩
    | .multicast _ => none
  multicast := operations.filterMap fun operation =>
    match operation.route with
    | .unicast _ => none
    | .multicast messageType =>
      some ⟨messageType, operation.message, operation.constraints, operation.isolated⟩

/-- A batch that is put together one by one keeps the order. -/
theorem ofList_eq_inOrder (operations : List Operation) :
    Batch.ofList operations = inOrder operations := by
  -- operations are added one after another, so the statement is about any that there are before
  suffices h : ∀ batch : Batch, operations.foldl Batch.push batch
      = ⟨batch.unicast ++ (inOrder operations).unicast,
        batch.multicast ++ (inOrder operations).multicast⟩ from h {}
  induction operations with
  | nil => intro batch; simp [inOrder]
  | cons operation rest ih =>
    intro batch
    obtain ⟨message, route, constraints, isolated⟩ := operation
    rw [List.foldl_cons, ih]
    cases route <;> simp [Batch.push, inOrder]

/-- The operations of one message that is sent apart from the receive. -/
def Apart (batch : Batch) : Prop :=
  ∃ context : RoutingContext, context.isolated = true ∧
    batch = inOrder (Outgoing.operations context)

/-! ### While a message is handled -/

/-- The list holds what was staged, and only messages that are sent apart were handed over. -/
structure Tidy (staging : StagingId) (s : Moment) : Prop extends Gathers staging s where
  /-- Every batch holds the operations of one message that is sent apart. -/
  apart : ∀ entry ∈ handed s.log, Apart entry.1

/-- It stays so, and scopes that lead to the list still do. -/
structure Forth (staging : StagingId) (s t : Moment) : Prop where
  /-- The list holds what was staged. -/
  tidy : Tidy staging t
  /-- The scopes still lead to it. -/
  sees : ∀ scope, Sees staging scope s → Sees staging scope t

/-- Where nothing happens everything stays as it is. -/
theorem Forth.refl (h : Tidy staging s) : Forth staging s s := ⟨h, fun _ => id⟩

theorem Forth.trans (hst : Forth staging s t) (htu : Forth staging t u) : Forth staging s u :=
  ⟨htu.tidy, fun scope hscope => htu.sees scope (hst.sees scope hscope)⟩

/-- It stays so whatever others do. -/
theorem Tidy.spared (hs : Tidy staging s) (h : Spared s t) : Forth staging s t where
  tidy := ⟨h.gathers hs.toGathers, by rw [h.log]; exact hs.apart⟩
  sees _ := h.sees

/-- It stays so with a request that has nothing to do with the list. -/
theorem Tidy.aside (hs : Tidy staging s) (effect : Effect) (heffect : IsAside effect) :
    Forth staging s (s.after effect) where
  tidy := by
    refine ⟨hs.toGathers.aside heffect, ?_⟩
    rw [handed_after, handedBy_aside heffect, Option.toList_none, List.append_nil]
    exact hs.apart
  sees _ hscope := hscope.aside heffect

/-- It stays so when operations are staged. -/
theorem Tidy.stage (hs : Tidy staging s) {operations : List Operation}
    (htogether : ∀ operation ∈ operations, operation.isolated = false) :
    Forth staging s (s.after (.stage staging operations)) where
  tidy := by
    refine ⟨hs.toGathers.stage operations htogether, ?_⟩
    rw [handed_after]
    exact List.forall_mem_append.2 ⟨hs.apart, nofun⟩
  sees _ hscope := ⟨hscope.owned.after _, hscope.found⟩

/-- It stays so when a message that is sent apart is handed over. -/
theorem Tidy.dispatch (hs : Tidy staging s) {batch : Batch} (hapart : Apart batch) :
    Forth staging s (s.after (.dispatch batch)) := by
  -- the transport has no part in lists and scopes
  have hworld : (s.after (.dispatch batch)).world.stagings = s.world.stagings ∧
      (s.after (.dispatch batch)).world.scopes = s.world.scopes := by
    change (World.dispatch _ _).2.stagings = _ ∧ (World.dispatch _ _).2.scopes = _
    rw [World.dispatch]
    split <;> exact ⟨rfl, rfl⟩
  have hstaged : staged (s.after (.dispatch batch)).log = staged s.log :=
    (s.staged_after _).trans (List.append_nil _)
  refine ⟨⟨⟨hs.kept.after _, ?_, ?_⟩, ?_⟩, fun scope hscope => ⟨hscope.owned.after _, ?_⟩⟩
  · rw [hworld.1, hstaged]
    exact hs.holds
  · rw [hstaged]
    exact hs.together
  · rw [handed_after]
    exact List.forall_mem_append.2 ⟨hs.apart, List.forall_mem_singleton.2 hapart⟩
  · rw [hworld.2]
    exact hscope.found

/-- What the answer of the transport makes of an outcome. -/
def said (outcome : Outcome) : Except TransportError Unit → StageResult
  | .ok _ => .ok outcome
  | .error error => .error (.transport error)

/-- What becomes of a message with its routes while another one is handled. -/
inductive Produced (capabilities : Capabilities) (context : RoutingContext) (s : Moment) :
    StageResult → Moment → Prop where
  /-- A constraint that the transport does not keep is refused. -/
  | refused {constraint : Constraint} (hconstraint : constraint ∈ context.constraints)
      (hunsupported : capabilities.supports constraint.kind = false) :
      Produced capabilities context s (.error (.config (.unsupportedConstraint constraint.kind))) s
  /-- It goes nowhere. -/
  | nowhere (hroutes : context.routes = []) :
      Produced capabilities context s (.ok .completed) s
  /-- A message that is sent apart is handed over at once, and nothing of it is staged. -/
  | atOnce {u : Moment} {answer : Except TransportError Unit} (hisolated : context.isolated = true)
      (hstaged : staged u.log = staged s.log)
      (hhanded : handed u.log
        = handed s.log ++ [(inOrder (Outgoing.operations context), answer)]) :
      Produced capabilities context s (said .completed answer) u
  /-- Any other message is staged as a whole, and nothing of it is handed over. -/
  | later {u : Moment} (htogether : context.isolated = false)
      (hstaged : staged u.log = staged s.log ++ Outgoing.operations context)
      (hhanded : handed u.log = handed s.log) :
      Produced capabilities context s (.ok .completed) u

/-- A message that is sent apart is handed over once. -/
theorem dispatchNow_hands {batch : Batch} (hs : Tidy staging s) (hapart : Apart batch) :
    Assured terms
      (fun ended t => ∃ answer, ended = .ok (said .completed answer) ∧ Forth staging s t ∧
        staged t.log = staged s.log ∧ handed t.log = handed s.log ++ [(batch, answer)])
      (Outgoing.dispatchNow batch) s := by
  refine assured_ask nofun fun t hst => ?_
  have ht := hs.spared hst
  have hforth := ht.trans (ht.tidy.dispatch hapart)
  have hstaged : staged (t.after (.dispatch batch)).log = staged s.log :=
    ((t.staged_after _).trans (List.append_nil _)).trans hst.quiet.staged
  have hhanded := handed_after t (.dispatch batch)
  rw [hst.log] at hhanded
  -- accepted or refused, the batch was handed over once
  cases hanswer : (t.world.perform (.dispatch batch)).1 with
  | ok =>
    rw [hanswer] at hhanded
    exact ⟨.ok (), rfl, hforth, hstaged, hhanded⟩
  | error error =>
    rw [hanswer] at hhanded
    exact ⟨.error error, rfl, hforth, hstaged, hhanded⟩

/-- Operations for which a list is found are staged there, and nothing is handed over. -/
theorem Tidy.stages (hs : Tidy staging s) (hscope : Sees staging scope s)
    {operations : List Operation} (htogether : ∀ operation ∈ operations, operation.isolated = false)
    {f : Option StagingId → Act α} {result : α}
    (hf : f (some staging)
      = (Act.ask (.stage staging operations)).bind fun _ => .done result) :
    Assured terms
      (fun ended t => ended = .ok result ∧ Forth staging s t ∧
        staged t.log = staged s.log ++ operations ∧ handed t.log = handed s.log)
      ((Act.ask (.readSlot scope .staging)).bind f) s := by
  refine assured_ask nofun fun t hst => ?_
  have ht := hs.spared hst
  have hu := ht.trans (ht.tidy.aside (.readSlot scope .staging) trivial)
  -- the scope leads to the list
  have hfound : (t.world.perform (.readSlot scope .staging)).1 = some staging :=
    (ht.sees _ hscope).found
  rw [hfound, hf]
  refine assured_ask nofun fun v huv => ?_
  have hv := hu.trans (hu.tidy.spared huv)
  refine ⟨rfl, hv.trans (hv.tidy.stage htogether), ?_, ?_⟩
  · rw [Moment.staged_after, huv.log, Moment.staged_after, hst.log]
    exact congrArg (· ++ _) (List.append_nil _)
  · rw [handed_after, huv.log, handed_after, hst.log]
    exact (List.append_nil _).trans (List.append_nil _)

/-- The last stage of routed messages does one of these, and the list stays tidy. -/
theorem dispatchLast_produces {context : RoutingContext} (hs : Tidy staging s)
    (hscope : Sees staging context.scope s) :
    Assured terms (fun ended t => Forth staging s t ∧
        ∃ result, ended = .ok (result, context) ∧ Produced capabilities context s result t)
      (Outgoing.dispatchLast capabilities context) s := by
  rw [Outgoing.dispatchLast]
  split
  · next constraint hfound =>
    have hunsupported := List.find?_some hfound
    rw [Bool.not_eq_true'] at hunsupported
    exact ⟨.refl hs, _, rfl, .refused (List.mem_of_find?_eq_some hfound) hunsupported⟩
  · split
    · next hroutes => exact ⟨.refl hs, _, rfl, .nowhere (List.isEmpty_iff.1 hroutes)⟩
    · -- with supported constraints and a route: at once if isolated, and staged if not
      rw [ofList_eq_inOrder]
      split
      · next hisolated =>
        refine Assured.bind (Assured.imp (dispatchNow_hands hs ⟨context, hisolated, rfl⟩) ?_)
        rintro _ t ⟨answer, rfl, hforth, hstaged, hhanded⟩
        exact ⟨hforth, _, rfl, .atOnce hisolated hstaged hhanded⟩
      · next hisolated =>
        have htogether : context.isolated = false := Bool.eq_false_iff.2 hisolated
        have hmine : ∀ operation ∈ Outgoing.operations context, operation.isolated = false :=
          fun operation hmem => (isolated_of_mem_operations hmem).trans htogether
        refine Assured.imp (hs.stages hscope hmine rfl) ?_
        rintro _ t ⟨rfl, hforth, hstaged, hhanded⟩
        exact ⟨hforth, _, rfl, .later htogether hstaged hhanded⟩

/-- Code has ended, and the list has stayed tidy. The scopes that the code has by then lead to
it. -/
structure Ended (staging : StagingId) (scopes : List ScopeId) (s : Moment) (post : Post α)
    (ended : Except Panic α) (t : Moment) : Prop where
  /-- The list has stayed tidy. -/
  forth : Forth staging s t
  /-- What is said of a result is true of scopes that lead to the list. -/
  result : ∀ result, ended = .ok result → ∃ scopes', scopes ⊆ scopes' ∧
    (∀ scope ∈ scopes', Sees staging scope t) ∧ post scopes' result

/-- Code that has no scopes more than before has ended so, if the list has stayed tidy. -/
theorem Ended.same {scopes : List ScopeId} {post : Post α} {ended : Except Panic α}
    (hforth : Forth staging s t) (hscopes : ∀ scope ∈ scopes, Sees staging scope s)
    (hpost : ∀ result, ended = .ok result → post scopes result) :
    Ended staging scopes s post ended t :=
  ⟨hforth, fun result hresult => ⟨scopes, fun _ => id, fun scope hmem =>
    hforth.sees scope (hscopes scope hmem), hpost result hresult⟩⟩

/-- Whatever code does in scopes that lead to the list, the list stays tidy. -/
theorem forth_of_works {scopes : List ScopeId} {program : Act α} {post : Post α}
    (h : Works (Hands capabilities) scopes program post) (hs : Tidy staging s)
    (hscopes : ∀ scope ∈ scopes, Sees staging scope s) :
    Assured terms (Ended staging scopes s post) program s := by
  -- by induction on what the code does; only its verb and the list are of interest
  induction h generalizing s with
  | done hpost => exact .same (.refl hs) hscopes (by rintro _ ⟨⟩; exact hpost)
  | panic => exact .same (.refl hs) hscopes nofun
  | aside heffect =>
    intro t hst answer u hserved
    have ht := hs.spared hst
    refine ⟨trivial, .same ?_ hscopes fun _ _ => trivial⟩
    cases hserved with
    | slept => exact ht
    | performed => exact ht.trans (ht.tidy.aside _ heffect)
  | verb hverb =>
    cases hverb with
    | last hscope =>
      refine (dispatchLast_produces hs (hscopes _ hscope)).imp ?_
      rintro _ t ⟨hforth, result, rfl, -⟩
      exact .same hforth hscopes (by rintro _ ⟨⟩; rfl)
  | extend hscope htogether =>
    refine Assured.imp (hs.stages (hscopes _ hscope) htogether rfl) ?_
    rintro _ t ⟨rfl, hforth, -, -⟩
    exact .same hforth hscopes fun _ _ => trivial
  | @childScope scopes parent hparent =>
    refine assured_ask nofun fun t hst => ?_
    have ht := hs.spared hst
    have hu := ht.trans (ht.tidy.aside (.openScope (some parent)) trivial)
    refine ⟨hu, ?_⟩
    rintro _ ⟨⟩
    exact ⟨_ :: scopes, List.subset_cons_self _ _, List.forall_mem_cons.2
      ⟨(ht.sees _ (hscopes parent hparent)).openScope, fun scope hmem =>
        hu.sees scope (hscopes scope hmem)⟩, List.mem_cons_self⟩
  | bind _ _ ih ihf =>
    refine Assured.bind ((ih hs hscopes).yields.imp ?_)
    rintro (payload | result) t ⟨ht, hyields⟩
    · exact ⟨ht.forth, nofun⟩
    · obtain ⟨scopes', hmore, hscopes', hmiddle⟩ := ht.result result rfl
      refine (ihf scopes' result hmore hmiddle (hyields result rfl) ht.forth.tidy hscopes').imp ?_
      intro ended u hu
      refine ⟨ht.forth.trans hu.forth, fun result hresult => ?_⟩
      obtain ⟨scopes'', hmore', hrest⟩ := hu.result result hresult
      exact ⟨scopes'', List.Subset.trans hmore hmore', hrest⟩
  | attempt _ ih =>
    refine Assured.attempt ((ih hs hscopes).imp fun ended t ht => ?_)
    cases ended with
    | error payload => exact .same ht.forth hscopes (by rintro _ ⟨⟩; exact nofun)
    | ok result =>
      refine ⟨ht.forth, ?_⟩
      rintro _ ⟨⟩
      obtain ⟨scopes', hmore, hscopes', hpost⟩ := ht.result result rfl
      exact ⟨scopes', hmore, hscopes', by rintro _ ⟨⟩; exact hpost⟩

/-! ### Once a message was handled -/

/-- What follows once a message was handled: from how this has ended, what the receive comes to. -/
inductive Closed (last : Moment) :
    Except Panic StageResult → Except Panic StageResult → Moment → Prop where
  /-- A panic is passed on at once. -/
  | panicked (payload : Panic) : Closed last (.error payload) (.error payload) last
  /-- So is a failure. -/
  | failed (failure : Failure) : Closed last (.ok (.error failure)) (.ok (.error failure)) last
  /-- Nothing is handed over if the message is to be received again, or nothing was staged. -/
  | dropped {outcome : Outcome} {u : Moment}
      (hnone : outcome.commits = false ∨ staged last.log = [])
      (hstaged : staged u.log = staged last.log) (hhanded : handed u.log = handed last.log) :
      Closed last (.ok (.ok outcome)) (.ok (.ok outcome)) u
  /-- Otherwise all that was staged is handed over in one batch, and its answer decides. -/
  | dispatched {outcome : Outcome} {answer : Except TransportError Unit} {u : Moment}
      (hcommits : outcome.commits = true) (hsome : staged last.log ≠ [])
      (hstaged : staged u.log = staged last.log)
      (hhanded : handed u.log = handed last.log ++ [(inOrder (staged last.log), answer)]) :
      Closed last (.ok (.ok outcome)) (.ok (said outcome answer)) u

/-- A receive ends so once its message was handled. -/
theorem closed_of_runs {last : Moment} {segment result : StageResult} (hs : Tidy staging last)
    (hruns : Runs serves (closing staging segment) last result u) :
    Closed last (.ok segment) (.ok result) u := by
  cases segment with
  | error failure =>
    obtain ⟨rfl, rfl⟩ := hruns.of_done
    exact .failed failure
  | ok outcome =>
    obtain ⟨taken, t, htake, hfinish⟩ := Runs.of_ask hruns
    have hstaged : staged t.log = staged last.log :=
      (staged_of_served htake).trans (List.append_nil _)
    have hhanded : handed t.log = handed last.log :=
      (handed_of_served htake).trans (List.append_nil _)
    -- the list is taken with everything that was staged
    obtain rfl : taken = staged last.log := by
      obtain ⟨v, hspared, hserved⟩ := htake
      cases hserved with
      | performed =>
        have hholds := (hspared.gathers hs.toGathers).holds
        rw [hspared.log] at hholds
        exact congrArg (Option.getD · []) hholds
    rw [Incoming.finishReceive, ofList_eq_inOrder] at hfinish
    split at hfinish
    · next hcommits =>
      obtain ⟨rfl, rfl⟩ := hfinish.of_done
      exact .dropped (.inl (by simpa using hcommits)) hstaged hhanded
    · next hcommits =>
      split at hfinish
      · next hnone =>
        obtain ⟨rfl, rfl⟩ := hfinish.of_done
        exact .dropped (.inr (List.isEmpty_iff.1 hnone)) hstaged hhanded
      · next hsome =>
        obtain ⟨answer, v, hdispatch, hanswer⟩ := Runs.of_ask hfinish
        have hsaid : result = said outcome answer ∧ u = v := by
          cases answer <;> exact hanswer.of_done
        obtain ⟨rfl, rfl⟩ := hsaid
        refine .dispatched (by simpa using hcommits) (mt List.isEmpty_iff.2 hsome) ?_ ?_
        · rw [staged_of_served hdispatch, hstaged]
          exact List.append_nil _
        · rw [handed_of_served hdispatch, hhanded]
          rfl

/-- The opening of a receive leads to a list that is tidy. -/
theorem tidy_of_opening {world : World} {context : ReceiveContext} {opened : StagingId × ScopeId}
    (hruns : Runs serves (opening context) { world } opened u) :
    Tidy opened.1 u ∧ Sees opened.1 opened.2 u := by
  have hclean : Clean { world } := ⟨rfl, rfl⟩
  have hopened : Assured terms (fun ended t => ∀ opened, ended = .ok opened →
      Pending opened.1 t ∧ Sees opened.1 opened.2 t) (opening context) { world } :=
    hclean.openStaging fun staging t ht => ht.openScope fun scope v hv hscope =>
      assured_ask nofun fun w hvw => by
        have hw := (hvw.onward hv).trans
          ((hvw.onward hv).pending.aside (.writeSlot scope .received context.message) nofun)
        rintro opened ⟨⟩
        exact ⟨hw.pending, hw.sees scope hscope⟩
  obtain ⟨hpending, hsees⟩ := hopened.of_among hruns.attempt opened rfl
  refine ⟨⟨hpending.gathers, ?_⟩, hsees⟩
  -- nothing was handed over on the way
  obtain ⟨staging, s, hlist, hruns⟩ := Runs.of_ask hruns
  obtain ⟨scope, t, hscope, hruns⟩ := Runs.of_ask hruns
  obtain ⟨_, v, hstaging, hruns⟩ := Runs.of_ask hruns
  obtain ⟨_, w, hreceived, hruns⟩ := Runs.of_ask hruns
  obtain ⟨-, rfl⟩ := hruns.of_done
  rw [handed_of_served hreceived, handed_of_served hstaging, handed_of_served hscope,
    handed_of_served hlist]
  exact nofun

/-- What a receive comes to, and what it hands over on the way. -/
inductive Received (serializer : Serializer) (incoming : Chain IncomingContext)
    (context : ReceiveContext) (s : Moment) : Except Panic StageResult → Moment → Prop where
  /-- A message without a logical body is done at once. -/
  | control (hcontrol : context.message.isControl = true) :
      Received serializer incoming context s (.ok (.ok .completed)) s
  /-- A message that cannot be read fails at once. -/
  | unreadable {failure : Failure} (hcontrol : context.message.isControl = false)
      (hread : Incoming.logicalMessage serializer context.message = .error failure) :
      Received serializer incoming context s (.ok (.error failure)) s
  /-- Any other message is handled. Meanwhile messages are handed over only if they are sent apart,
  and all others are staged. What was staged is dealt with afterwards. -/
  | handled {message : LogicalMessage} {opened : StagingId × ScopeId} {first last u : Moment}
      {segment result : Except Panic StageResult} (hcontrol : context.message.isControl = false)
      (hread : Incoming.logicalMessage serializer context.message = .ok message)
      (hopening : Runs serves (opening context) s opened first)
      (hsegment : Runs serves (incoming.result (readContext context message opened.2)).attempt first
        segment last)
      (htogether : ∀ operation ∈ staged last.log, operation.isolated = false)
      (hapart : ∀ entry ∈ handed last.log, Apart entry.1)
      (hclosed : Closed last segment result u) :
      Received serializer incoming context s result u

section Receiving

variable {settings : Settings} {resolver : Resolver} {user outward inward : EndpointSteps}
  {faults : Option (Chain FaultContext)} {serializer : Serializer} {sending : Assembly.SendingSide}
  {endpointName : String} {localAddress : Option String} {handlers : Incoming.Handlers}
  {incoming : Chain IncomingContext} {context : ReceiveContext} {world : World}

/-- Every receive comes to that. -/
theorem received_of_runs (hworks : ∀ scopes context, context.scope ∈ scopes →
      Works (Hands capabilities) scopes (incoming.result context) fun _ _ => True)
    {ended : Except Panic (StageResult × ReceiveContext)}
    (hruns : Runs serves (Incoming.deserialize serializer incoming context).attempt { world }
      ended u) :
    Received serializer incoming context { world } (ended.map Prod.fst) u ∧
      ∀ result after, ended = .ok (result, after) → after = context := by
  cases hcontrol : context.message.isControl with
  | true =>
    rw [Incoming.deserialize_control hcontrol] at hruns
    obtain ⟨rfl, rfl⟩ := hruns.of_done
    exact ⟨.control hcontrol, by rintro _ _ ⟨⟩; rfl⟩
  | false =>
    cases hread : Incoming.logicalMessage serializer context.message with
    | error failure =>
      rw [Incoming.deserialize_unreadable hcontrol hread] at hruns
      obtain ⟨rfl, rfl⟩ := hruns.of_done
      exact ⟨.unreadable hcontrol hread, by rintro _ _ ⟨⟩; rfl⟩
    | ok message =>
      rw [Incoming.deserialize_eq hcontrol hread] at hruns
      obtain ⟨payload, -, hopening⟩ | ⟨opened, first, hopening, hruns⟩ := hruns.of_attempt_bind
      · obtain ⟨_, hpanic, -⟩ := hopening.of_attempt (Incoming.calm_opening context)
        cases hpanic
      obtain ⟨_, ⟨⟩, hopening⟩ := hopening.of_attempt (Incoming.calm_opening context)
      obtain ⟨htidy, hsees⟩ := tidy_of_opening hopening
      -- while the message is handled the list stays tidy, however that ends
      have hforth {segment last} (hsegment : Runs serves
          (incoming.result (Incoming.readContext context message opened.2)).attempt first segment
          last) : Forth opened.1 first last :=
        ((forth_of_works (hworks [opened.2] _ List.mem_cons_self) htidy
          (List.forall_mem_singleton.2 hsees)).of_among hsegment).forth
      obtain ⟨payload, rfl, hsegment⟩ | ⟨segment, last, hsegment, hruns⟩ := hruns.of_attempt_bind
      · have hlast := (hforth hsegment).tidy
        exact ⟨.handled hcontrol hread hopening hsegment hlast.together hlast.apart
          (.panicked payload), nofun⟩
      · have hlast := (hforth hsegment).tidy
        have hcalm : ((closing opened.1 segment).bind fun result =>
            Program.done (result, context)).Calm :=
          (Incoming.calm_closing opened.1 segment).bind fun _ => trivial
        obtain ⟨ended, rfl, hended⟩ := hruns.of_attempt hcalm
        obtain ⟨result, v, hclosing, hdone⟩ := hended.of_bind
        obtain ⟨rfl, rfl⟩ := hdone.of_done
        exact ⟨.handled hcontrol hread hopening hsegment hlast.together hlast.apart
          (closed_of_runs hlast hclosing), by rintro _ _ ⟨⟩; rfl⟩

/-- The batches that were handed over with an operation that is not sent apart. -/
def shared (log : List Exchange) : List (Batch × Except TransportError Unit) :=
  (handed log).filter fun entry => entry.1.toList.any fun operation => !operation.isolated

/-- In the batch of a list are the operations of the list. -/
theorem mem_toList_inOrder {operations : List Operation} {operation : Operation} :
    operation ∈ (inOrder operations).toList ↔ operation ∈ operations := by
  rw [← ofList_eq_inOrder]
  exact Batch.mem_toList_ofList

/-- Messages that are sent apart are not in such batches. -/
theorem shared_eq_nil {log : List Exchange} (hapart : ∀ entry ∈ handed log, Apart entry.1) :
    shared log = [] := by
  refine List.filter_eq_nil_iff.2 fun entry hentry hany => ?_
  obtain ⟨routed, hisolated, hbatch⟩ := hapart entry hentry
  obtain ⟨operation, hmem, htogether⟩ := List.any_eq_true.1 hany
  rw [hbatch, mem_toList_inOrder] at hmem
  rw [isolated_of_mem_operations hmem, hisolated] at htogether
  cases htogether

/-- At most one such batch is handed over, with all that was staged. -/
theorem Received.shared {ended : Except Panic StageResult}
    (h : Received serializer incoming context { world } ended u) :
    shared u.log = [] ∨ staged u.log ≠ [] ∧
      ∃ answer, shared u.log = [(inOrder (staged u.log), answer)] := by
  cases h with
  | control => exact .inl rfl
  | unreadable => exact .inl rfl
  | @handled message opened first last u segment ended hcontrol hread hopening hsegment htogether
      hapart hclosed =>
    -- until the receive is closed only isolated batches were handed over
    have hlast := shared_eq_nil hapart
    cases hclosed with
    | panicked => exact .inl hlast
    | failed => exact .inl hlast
    | dropped hnone hstaged hhanded =>
      rw [Batching.shared, hhanded]
      exact .inl hlast
    -- what was staged follows in one batch that is not isolated
    | @dispatched outcome answer u hcommits hsome hstaged hhanded =>
      obtain ⟨operation, hmem⟩ := List.exists_mem_of_ne_nil _ hsome
      have hany : (inOrder (staged last.log)).toList.any (fun operation => !operation.isolated)
          = true :=
        List.any_eq_true.2 ⟨operation, mem_toList_inOrder.2 hmem, by rw [htogether _ hmem]; rfl⟩
      refine .inr ⟨hstaged ▸ hsome, answer, ?_⟩
      rw [Batching.shared, hhanded, hstaged, List.filter_append]
      change Batching.shared last.log ++ _ = _
      rw [hlast, List.nil_append]
      exact List.filter_eq_self.2 (List.forall_mem_singleton.2 hany)

/-- Whatever message is received, whatever steps and handlers the user has, as long as they send
from the scopes that they are given, and whatever others do meanwhile: the receive ends, and what it
hands to the transport is all or nothing. While the message is handled, a message that is sent apart
is handed over at once and is not staged, and any other one is staged and not handed over. If the
message was handled and is not to be received again, what was staged follows in one batch in its
order, and otherwise none of it does. If that batch is refused, the receive fails with the error. -/
theorem all_or_nothing (huser : Courteous user) (hhandlers : Spoken handlers)
    (houtward : Assembly.mainSteps settings resolver user none = .ok outward)
    (hsending : Assembly.sendingSide outward serializer capabilities = .ok sending)
    (hinward : Assembly.mainSteps settings resolver user faults = .ok inward)
    (hincoming : Assembly.incomingPipeline inward handlers
      (through sending endpointName localAddress) = .ok incoming)
    (context : ReceiveContext) (world : World) :
    (∃ ended u, Runs serves (Incoming.deserialize serializer incoming context).attempt { world }
      ended u) ∧
    (∀ ended u, Runs serves (Incoming.deserialize serializer incoming context).attempt { world }
        ended u →
      Received serializer incoming context { world } (ended.map Prod.fst) u ∧
      (∀ result after, ended = .ok (result, after) → after = context) ∧
      (shared u.log = [] ∨ staged u.log ≠ [] ∧
        ∃ answer, shared u.log = [(inOrder (staged u.log), answer)])) ∧
    ∀ staging s routed, Tidy staging s → Sees staging routed.scope s →
      ∀ ended t, Runs serves (Outgoing.dispatchLast capabilities routed).attempt s ended t →
        ∃ result, ended = .ok (result, routed) ∧ Produced capabilities routed s result t := by
  refine ⟨?_, fun ended u hruns => ?_, fun staging s routed hs hscope ended t hruns => ?_⟩
  · exact Runs.exists_of_calm exists_serves (Program.calm_attempt _) _
  · obtain ⟨hreceived, hsame⟩ := received_of_runs (fun scopes context hscope =>
      incoming_works houtward huser hsending hinward hhandlers hincoming hscope) hruns
    exact ⟨hreceived, hsame, hreceived.shared⟩
  · exact ((dispatchLast_produces hs hscope).of_among hruns).2

end Receiving

/-- A step that lets the messages of a type be sent apart. -/
def isolating (messageType : String) : Stage RoutingContext := fun next context =>
  next.run { context with
    isolated := context.isolated || context.message.enclosedType? == some messageType }

/-- `isolating` changes how a message is sent and sends nothing itself. -/
theorem polite_isolating (messageType : String) : Polite .routing (isolating messageType) :=
  fun _ _ _ _ hcontext => .verb (.next ⟨hcontext.scope, trivial⟩)

/-- A step that publishes an event after a handler was called. -/
def auditing (payload : Payload) : Stage Invocation := fun next context => do
  let (result, after) ← next.run context
  match ← after.publish payload with
  | .ok () => pure (result, after)
  | .error failure => pure (.error failure, after)

/-- What `auditing` sends, it sends with the operations of its context. -/
theorem polite_auditing (payload : Payload) : Polite .invocation (auditing payload) := by
  intro operations next scopes context hcontext
  refine .bind (.verb (.next hcontext)) ?_
  rintro scopes ⟨result, after⟩ - hafter -
  obtain ⟨hoperations, -⟩ := hafter.equipped
  have hpublish : Works (StepVerbs operations .invocation next) scopes (after.publish payload)
      fun _ _ => True := by
    rw [HandlerContext.publish, hoperations]
    exact .verb (.sends rfl (.dispatch hafter.scope ..))
  refine .bind hpublish fun scopes published hscopes _ _ => ?_
  cases published with
  | ok => exact .done (hafter.mono hscopes)
  | error failure => exact .done (hafter.mono hscopes)

/-- The steps of a shop that sends alerts apart and publishes what was handled. -/
def watchfulSteps : EndpointSteps where
  name := mainPipeline
  steps := [
    { id := "IsolateAlerts", description := "Sends alerts apart", kind := .routing
      behavior := isolating "Alert" },
    { id := "Audit", description := "Publishes what was handled", kind := .invocation
      behavior := auditing (Scripted.payload "OrderHandled" .null) }]

/-- The `watchfulSteps` are `Courteous`, so an endpoint may be given them. -/
theorem courteous_watchfulSteps : Courteous watchfulSteps where
  steps := List.forall_mem_cons.2 ⟨fun _ => polite_isolating _,
    List.forall_mem_singleton.2 fun _ => polite_auditing _⟩
  replacements := nofun

/-- A handler of orders that sends an alert and publishes an event. -/
def orderScript : Scripted.HandlerScript where
  name := "orders"
  label := "orders"
  key := "orders"
  messageType := "Order"
  lines := [⟨.send (Scripted.payload "Alert" .null) { destination := some "ops" }, false⟩,
    ⟨.publish (Scripted.payload "OrderShipped" .null), false⟩]

/-- Where the messages of the shop go. -/
def shopResolver : Resolver where
  routes := ∅
  localAddress := some "shop"
  policy := Memory.capabilities.policy

/-- An order that the shop receives. -/
def orderReceived : ReceiveContext where
  message :=
    { id := "order", headers := Table.insert ∅ Header.enclosedMessageTypes "Order"
      body := Body.ofText "null" }
  scope := 0

/-- The shop with the scope that the order is received in. -/
def shopWorld : World where
  clock := ⟨0, 0⟩
  scopes := (ScopeForest.openUnder {} none).2

/-- An alert with its route. -/
def alertRouted (scope : ScopeId) : RoutingContext where
  message := { id := "alert", headers := Table.insert ∅ Header.enclosedMessageTypes "Alert"
               body := Body.ofText "null" }
  routes := [.unicast "ops"]
  isolated := true
  scope

/-- The shop keeps to it with every order, and an alert that is sent meanwhile is handed over at
once. -/
theorem all_or_nothing_order :
    ∃ outward sending inward incoming,
      Assembly.mainSteps Deferring.shopSettings shopResolver watchfulSteps none = .ok outward ∧
      Assembly.sendingSide outward .json Memory.capabilities = .ok sending ∧
      Assembly.mainSteps Deferring.shopSettings shopResolver watchfulSteps (some sending.fault)
        = .ok inward ∧
      Assembly.incomingPipeline inward (Scripted.registerHandlers [orderScript])
        (through sending "shop" (some "shop")) = .ok incoming ∧
      (∃ ended u, Runs serves (Incoming.deserialize .json incoming orderReceived).attempt
        { world := shopWorld } ended u) ∧
      (∀ ended u, Runs serves (Incoming.deserialize .json incoming orderReceived).attempt
          { world := shopWorld } ended u →
        Received .json incoming orderReceived { world := shopWorld } (ended.map Prod.fst) u ∧
        (shared u.log = [] ∨ staged u.log ≠ [] ∧
          ∃ answer, shared u.log = [(inOrder (staged u.log), answer)])) ∧
      ∃ staging scope s, Tidy staging s ∧ Sees staging scope s ∧
        ∀ ended t, Runs serves
            (Outgoing.dispatchLast Memory.capabilities (alertRouted scope)).attempt s ended t →
          ∃ result, ended = .ok (result, alertRouted scope) ∧
            Produced Memory.capabilities (alertRouted scope) s result t := by
  obtain ⟨outward, houtward⟩ : ∃ outward, Assembly.mainSteps Deferring.shopSettings shopResolver
      watchfulSteps none = .ok outward := ⟨_, rfl⟩
  obtain ⟨sending, hsending⟩ : ∃ sending,
      Assembly.sendingSide outward .json Memory.capabilities = .ok sending := by
    cases houtward
    exact ⟨_, rfl⟩
  obtain ⟨inward, hinward⟩ : ∃ inward, Assembly.mainSteps Deferring.shopSettings shopResolver
      watchfulSteps (some sending.fault) = .ok inward := ⟨_, rfl⟩
  obtain ⟨incoming, hincoming⟩ : ∃ incoming, Assembly.incomingPipeline inward
      (Scripted.registerHandlers [orderScript]) (through sending "shop" (some "shop"))
        = .ok incoming := by
    cases hinward
    exact ⟨_, rfl⟩
  obtain ⟨hends, hreceives, hproduces⟩ := all_or_nothing courteous_watchfulSteps
    (spoken_registerHandlers [orderScript]) houtward hsending hinward hincoming orderReceived
    shopWorld
  -- a real opening gives the list and the scope for the last part
  obtain ⟨opened, first, hopening⟩ := Runs.exists_of_calm exists_serves
    (Incoming.calm_opening orderReceived) { world := shopWorld }
  obtain ⟨htidy, hsees⟩ := tidy_of_opening hopening
  exact ⟨outward, sending, inward, incoming, houtward, hsending, hinward, hincoming, hends,
    fun ended u hruns => ⟨(hreceives ended u hruns).1, (hreceives ended u hruns).2.2⟩,
    opened.1, opened.2, first, htidy, hsees, hproduces _ _ (alertRouted opened.2) htidy hsees⟩

end Messaging.Batching
