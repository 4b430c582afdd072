import Mathlib.Data.List.Induction
import Messaging.Proofs.Batching
import Messaging.Proofs.Drafts

/-!
# Publishing by routes

An event that is published becomes one operation for the subscribers of its type, or one for each
address that a lookup names, or none at all.

- `FirstPlaces` says which addresses are left of a list in which some occur more than once, and
  `firstPlaces_distinct` that these are found.
- `HandedOn` says what a publish does with its operations: they are handed to the transport in one
  batch, or staged, or there are none.
- `outgoing_hands` follows a message with routes through the built-in stages, and
  `publish_fans_out` says which operations a publish makes.
-/

namespace Messaging.Publishing

open Redelivery Deferring

/-! ### Addresses -/

/-- The addresses of a list, in the order of the first place of each. -/
structure FirstPlaces (addresses targets : List String) : Prop where
  /-- No address is lost, and none is added. -/
  mem : ∀ address, address ∈ targets ↔ address ∈ addresses
  /-- An address that occurs first at an earlier place comes first, and each comes once. -/
  ordered : targets.Pairwise fun first later => addresses.idxOf first < addresses.idxOf later

/-- There is only one list of the addresses at their first places. -/
theorem FirstPlaces.unique {addresses targets targets' : List String}
    (h : FirstPlaces addresses targets) (h' : FirstPlaces addresses targets') :
    targets = targets' := by
  have hnodup {targets : List String} (h : FirstPlaces addresses targets) : targets.Nodup := by
    refine h.ordered.imp ?_
    rintro address _ hlt rfl
    exact Nat.lt_irrefl _ hlt
  have hperm : targets.Perm targets' :=
    (List.perm_ext_iff_of_nodup (hnodup h) (hnodup h')).2 fun address =>
      (h.mem address).trans (h'.mem address).symm
  exact hperm.eq_of_pairwise (fun _ _ _ _ hlt hgt => absurd hlt (Nat.lt_asymm hgt))
    h.ordered h'.ordered

theorem distinct_concat (addresses : List String) (address : String) :
    Resolver.distinct (addresses ++ [address])
      = if address ∈ Resolver.distinct addresses then Resolver.distinct addresses
        else Resolver.distinct addresses ++ [address] := by
  rw [Resolver.distinct, List.foldl_append, List.foldl_cons, List.foldl_nil, Resolver.distinct]
  exact if_congr List.contains_iff_mem rfl rfl

/-- Addresses that occur again are left out. -/
theorem firstPlaces_distinct (addresses : List String) :
    FirstPlaces addresses (Resolver.distinct addresses) := by
  -- by induction from the end, since the addresses seen so far are those of the list before
  induction addresses using List.reverseRecOn with
  | nil => exact ⟨fun _ => Iff.rfl, .nil⟩
  | append_singleton addresses address ih =>
    have hplaces : ∀ other ∈ Resolver.distinct addresses,
        (addresses ++ [address]).idxOf other = addresses.idxOf other :=
      fun other hmem => List.idxOf_append_of_mem ((ih.mem other).1 hmem)
    have hordered : (Resolver.distinct addresses).Pairwise fun first later =>
        (addresses ++ [address]).idxOf first < (addresses ++ [address]).idxOf later :=
      ih.ordered.imp_of_mem fun {first later} hfirst hlater hlt => by
        rwa [hplaces first hfirst, hplaces later hlater]
    rw [distinct_concat]
    split
    · next hseen =>
      refine ⟨fun other => ?_, hordered⟩
      rw [ih.mem, List.mem_append, List.mem_singleton]
      exact ⟨.inl, fun h => h.elim id fun heq => heq ▸ (ih.mem address).1 hseen⟩
    · next hnew =>
      have hfresh : address ∉ addresses := fun hmem => hnew ((ih.mem address).2 hmem)
      refine ⟨fun other => ?_, List.pairwise_append.2 ⟨hordered, List.pairwise_singleton _ _, ?_⟩⟩
      · rw [List.mem_append, List.mem_append, ih.mem]
      · intro other hmem last hlast
        rw [List.mem_singleton.1 hlast, hplaces other hmem, List.idxOf_append_of_notMem hfresh]
        exact Nat.lt_of_lt_of_le (List.idxOf_lt_length_of_mem ((ih.mem other).1 hmem))
          (Nat.le_add_right _ _)

/-! ### Handing operations on -/

/-- Nothing was asked for that has to do with operations. -/
def Aside (log : List Exchange) : Prop := ∀ exchange ∈ log, IsAside exchange.effect

variable {log : List Exchange} {operations : List Operation}

theorem aside_nil : Aside [] := List.forall_mem_nil _

theorem Aside.append (h : Aside log) (effect : Effect) (heffect : IsAside effect)
    (answer : effect.Answer) : Aside (log ++ [⟨effect, answer⟩]) := by
  intro exchange hmem
  rcases List.mem_append.1 hmem with hmem | hmem
  · exact h exchange hmem
  · rw [List.mem_singleton.1 hmem]
    exact heffect

/-- What becomes of operations that are to be handed on. -/
inductive HandedOn (operations : List Operation) : Except Failure Unit → List Exchange → Prop where
  /-- There are none, and that is a success. -/
  | nothing {log : List Exchange} (hnone : operations = []) (haside : Aside log) :
      HandedOn operations (.ok ()) log
  /-- Outside of a receive the transport gets them in one batch, and its answer is the result. -/
  | dispatched {before : List Exchange} {scope : ScopeId} {batch : Batch}
      {answer : Except TransportError Unit} (hsome : operations ≠ []) (haside : Aside before)
      (halone : ⟨.readSlot scope .staging, none⟩ ∈ before) (hbatch : batch.toList = operations) :
      HandedOn operations (answer.mapError .transport) (before ++ [⟨.dispatch batch, answer⟩])
  /-- While a message is received they are staged. -/
  | staged {before : List Exchange} {scope : ScopeId} {staging : StagingId}
      (hsome : operations ≠ []) (haside : Aside before)
      (hreceives : ⟨.readSlot scope .staging, some staging⟩ ∈ before) :
      HandedOn operations (.ok ()) (before ++ [⟨.stage staging operations, ()⟩])

/-- The operations of one message, one for each route. -/
def operationsOf (message : Message) (constraints : List Constraint) (routes : List Route) :
    List Operation :=
  routes.map fun route => { message, route, constraints }

/-- A batch keeps the order of operations to single addresses. -/
theorem toList_ofList_unicast (message : Message) (constraints : List Constraint)
    (targets : List String) :
    (Batch.ofList (operationsOf message constraints (targets.map .unicast))).toList
      = operationsOf message constraints (targets.map .unicast) := by
  rw [Batching.ofList_eq_inOrder]
  simp [Batching.inOrder, Batch.toList, operationsOf, List.filterMap_map, Function.comp_def]

/-! ### The stages -/

variable {message : Message} {routes : List Route} {constraints : List Constraint}

/-- A batch that is handed to the transport has its answer as the result. -/
theorem dispatchNow_hands {C : Type} (context : C) {scope : ScopeId}
    (hsome : operations ≠ []) (haside : Aside log)
    (halone : ⟨.readSlot scope .staging, none⟩ ∈ log)
    (hkept : (Batch.ofList operations).toList = operations) :
    Ends (fun result => HandedOn operations (Operations.unitResult result))
      ((Outgoing.dispatchNow (.ofList operations)).bind fun result => .done (result, context))
      log := by
  refine assured_ask fun answer => ?_
  have hhanded : HandedOn operations (answer.mapError .transport)
      (log ++ [⟨.dispatch (.ofList operations), answer⟩]) :=
    .dispatched hsome haside halone hkept
  cases answer with
  | ok => exact ⟨_, _, rfl, hhanded⟩
  | error error => exact ⟨_, _, rfl, hhanded⟩

/-- The last stage hands on what its transport supports. -/
theorem dispatchLast_hands {capabilities : Capabilities} (scope : ScopeId) (haside : Aside log)
    (hsupported : ∀ constraint ∈ constraints, capabilities.supports constraint.kind = true)
    (hkept : (Batch.ofList (operationsOf message constraints routes)).toList
      = operationsOf message constraints routes) :
    Ends (fun result =>
        HandedOn (operationsOf message constraints routes) (Operations.unitResult result))
      (Outgoing.dispatchLast capabilities { message, routes, constraints, scope }) log := by
  rw [Outgoing.dispatchLast]
  split
  · -- a constraint that is not supported would be refused, but all of them are
    next constraint hfound =>
    have hunsupported := List.find?_some hfound
    rw [hsupported constraint (List.mem_of_find?_eq_some hfound)] at hunsupported
    cases hunsupported
  · split
    · next hempty =>
      obtain rfl : routes = [] := List.isEmpty_iff.1 hempty
      exact ⟨_, _, rfl, .nothing rfl haside⟩
    · next hsome =>
      have hoperations : operationsOf message constraints routes ≠ [] := fun h =>
        hsome (List.isEmpty_iff.2 (List.map_eq_nil_iff.1 h))
      rw [if_neg Bool.false_ne_true]
      refine assured_ask fun staging => ?_
      have haside' := haside.append (.readSlot scope .staging) trivial staging
      -- the answer says whether a message is received, and decides where the operations go
      have hread : (⟨.readSlot scope .staging, staging⟩ : Exchange)
        ∈ log ++ [⟨.readSlot scope .staging, staging⟩] := by simp
      generalize log ++ [_] = log' at haside' hread ⊢
      cases staging with
      | none => exact dispatchNow_hands _ hoperations haside' hread hkept
      | some staging =>
        exact assured_ask fun _ => ⟨_, _, rfl, .staged hoperations haside' hread⟩

section Stages

variable (outbound : Outbound)
  (hprompt : ∀ constraint ∈ constraints, constraint.isDelay = false)
  (hsupported : ∀ constraint ∈ constraints,
    outbound.capabilities.supports constraint.kind = true)
include hprompt hsupported

/-- A routed message without a delay is handed on, also past a timeout manager. -/
theorem routing_hands (scope : ScopeId) (haside : Aside log)
    (hkept : (Batch.ofList (operationsOf message constraints routes)).toList
      = operationsOf message constraints routes) :
    Ends (fun result =>
        HandedOn (operationsOf message constraints routes) (Operations.unitResult result))
      (outbound.sending.routing.invoke { message, routes, constraints, scope }) log := by
  obtain ⟨resolver, manager, serializer, capabilities⟩ := outbound
  cases manager with
  | none => exact dispatchLast_hands scope haside hsupported hkept
  | some address =>
    -- the stage asks for the time, finds no delay and lets the message pass
    change Ends _ (Timeouts.routeDeferred address _ _) log
    rw [Timeouts.routeDeferred]
    refine assured_ask fun now => ?_
    have hnone : Timeouts.dueAt? constraints now = none := by
      refine List.findSome?_eq_none_iff.2 fun constraint hmem => ?_
      rw [← Option.not_isSome_iff_eq_none, isSome_dueAt?, hprompt constraint hmem]
      exact Bool.false_ne_true
    dsimp only
    rw [hnone]
    exact dispatchLast_hands scope (haside.append .clock trivial now) hsupported hkept

/-- A message that is not yet written and has routes is handed on once it is written. -/
theorem serialize_hands {context : OutgoingContext} {body : Body}
    (hconstraints : context.constraints = constraints)
    (hbody : outbound.serializer.write context.message.body = .ok body) (haside : Aside log)
    (hkept : ∀ message, (Batch.ofList (operationsOf message constraints context.routes)).toList
      = operationsOf message constraints context.routes) :
    Ends (fun result => HandedOn
        (operationsOf ⟨context.messageId, writtenHeaders outbound.serializer
          context.message.messageType context.messageId context.headers, body⟩ constraints
          context.routes) (Operations.unitResult result))
      (Outgoing.serialize outbound.serializer outbound.sending.physical context) log := by
  rw [Outgoing.serialize, hbody]
  subst hconstraints
  -- a scope is opened for each of the two pipelines that the message still goes through
  refine assured_ask fun inner => Ends.nested (assured_ask fun scope => Ends.nested ?_)
  exact routing_hands outbound hprompt hsupported scope
    ((haside.append (.openScope _) trivial inner).append (.openScope _) trivial scope) (hkept _)

end Stages

/-! ### A publish -/

/-- The message that a publish writes; its id is the one that user code chose, or drawn. -/
inductive Published (serializer : Serializer) (sender : Operations) (messageType : String)
    (content : Json) (options : SendOptions) (log : List Exchange) : Message → Prop where
  | intro {messageId : String} {now : Time.Instant} {body : Body}
      (hid : Named options log messageId) (hnow : ⟨.clock, now⟩ ∈ log)
      (hbody : serializer.write content = .ok body) :
      Published serializer sender messageType content options log
        ⟨messageId, writtenHeaders serializer messageType messageId
          (sender.newHeaders .publish messageId (Time.Wire.write now) options.headers), body⟩

/-- What a publish comes to, with its result and what was asked. -/
inductive FansOut (resolver : Resolver) (serializer : Serializer) (sender : Operations)
    (messageType : String) (content : Json) (options : SendOptions) :
    Except Failure Unit → List Exchange → Prop where
  /-- Where the transport knows the subscribers there is one operation for the type. -/
  | multicast {message : Message} {result : Except Failure Unit} {log : List Exchange}
      (hpolicy : resolver.policy.publishes = .multicast)
      (hmessage : Published serializer sender messageType content options log message)
      (hhanded : HandedOn
        (operationsOf message options.constraints [.multicast messageType]) result log) :
      FansOut resolver serializer sender messageType content options result log
  /-- Otherwise there is one for each address that a lookup names, with the same message. -/
  | unicast {message : Message} {table : Table (List String)} {targets : List String}
      {result : Except Failure Unit} {log : List Exchange}
      (hpolicy : resolver.policy.publishes ≠ .multicast)
      (hlookup : resolver.subscribers = some table)
      (hplaces : FirstPlaces (table.getD messageType []) targets)
      (hmessage : Published serializer sender messageType content options log message)
      (hhanded : HandedOn
        (operationsOf message options.constraints (targets.map .unicast)) result log) :
      FansOut resolver serializer sender messageType content options result log
  /-- Without a lookup the publish fails. -/
  | unsupported {log : List Exchange} (hpolicy : resolver.policy.publishes ≠ .multicast)
      (hlookup : resolver.subscribers = none) (haside : Aside log) :
      FansOut resolver serializer sender messageType content options
        (.error (.routing (.publishNotSupported messageType))) log
  /-- A content that the format of the endpoint has no body for is refused. -/
  | unwritten {reason : String} {log : List Exchange}
      (hroutes : resolver.policy.publishes = .multicast ∨ resolver.subscribers.isSome = true)
      (hbody : serializer.write content = .error reason) (haside : Aside log) :
      FansOut resolver serializer sender messageType content options
        (.error (.serialization reason)) log

variable {outbound : Outbound} {sender : Operations} {messageType messageId : String}
  {content : Json} {options : SendOptions} {now : Time.Instant}

section Drafts

variable (hprompt : ∀ constraint ∈ options.constraints, constraint.isDelay = false)
  (hsupported : ∀ constraint ∈ options.constraints,
    outbound.capabilities.supports constraint.kind = true)
include hprompt hsupported

/-- An event with routes is written and handed on, or it has no body. -/
theorem serialize_fans_out (scope : ScopeId) (haside : Aside log)
    (hid : Named options log messageId) (hnow : ⟨.clock, now⟩ ∈ log)
    (hroutes : outbound.resolver.policy.publishes = .multicast ∨
      outbound.resolver.subscribers.isSome = true)
    (hkept : ∀ message, (Batch.ofList (operationsOf message options.constraints routes)).toList
      = operationsOf message options.constraints routes)
    (hfans : ∀ message result after,
      Published outbound.serializer sender messageType content options after message →
      HandedOn (operationsOf message options.constraints routes) result after →
      FansOut outbound.resolver outbound.serializer sender messageType content options result
        after) :
    Ends (fun result => FansOut outbound.resolver outbound.serializer sender messageType content
        options (Operations.unitResult result))
      (Outgoing.serialize outbound.serializer outbound.sending.physical
        { draft sender .publish ⟨messageType, .ok content⟩ content options messageId now scope with
          routes })
      log := by
  -- without a body nothing leaves
  cases hbody : outbound.serializer.write content with
  | error reason =>
    rw [Outgoing.serialize]
    dsimp only [draft]
    rw [hbody]
    exact ⟨_, _, rfl, .unwritten hroutes hbody haside⟩
  | ok body =>
    refine Ends.imp (serialize_hands outbound hprompt hsupported rfl hbody haside hkept) ?_
    intro result after hgrown hhanded
    exact hfans _ _ after (.intro (hid.mono hgrown) (hgrown.subset hnow) hbody) hhanded

/-- What the built-in stages make of an event. -/
theorem outgoing_fans_out (scope : ScopeId) (haside : Aside log)
    (hid : Named options log messageId) (hnow : ⟨.clock, now⟩ ∈ log) :
    Ends (fun result => FansOut outbound.resolver outbound.serializer sender messageType content
        options (Operations.unitResult result))
      (outbound.sending.outgoing.invoke
        (draft sender .publish ⟨messageType, .ok content⟩ content options messageId now scope))
      log := by
  change Ends _ (Outgoing.resolveRoutes outbound.resolver _ (draft ..)) log
  simp only [Outgoing.resolveRoutes, draft, List.isEmpty_nil, reduceIte, Resolver.resolve,
    Resolver.publish]
  by_cases hpolicy : outbound.resolver.policy.publishes = .multicast
  · rw [if_pos hpolicy]
    exact serialize_fans_out hprompt hsupported scope haside hid hnow (.inl hpolicy) (fun _ => rfl)
      fun _ _ _ => .multicast hpolicy
  · -- without a lookup the publish ends here, before the event is written
    rw [if_neg hpolicy]
    cases hlookup : outbound.resolver.subscribers with
    | none => exact ⟨_, _, rfl, .unsupported hpolicy hlookup haside⟩
    | some table =>
      exact serialize_fans_out hprompt hsupported scope haside hid hnow
        (.inr (by rw [hlookup]; rfl)) (fun _ => toList_ofList_unicast _ _ _)
        fun _ _ _ => .unicast hpolicy hlookup (firstPlaces_distinct _)

/-- What a publish makes of an event whose id is known. -/
theorem draft_fans_out (hsender : sender.outgoing = outbound.sending.outgoing)
    (parent : ScopeId) (haside : Aside log) (hid : Named options log messageId) :
    Assured anyAnswers
      (fun ended after => ∃ result, ended = .ok result ∧ FansOut outbound.resolver
        outbound.serializer sender messageType content options result after)
      ((Act.ask .clock).bind fun now => (Act.childScope parent).bind fun scope =>
        (sender.outgoing.result (draft sender .publish ⟨messageType, .ok content⟩ content options
          messageId now scope)).bind fun result => .done (Operations.unitResult result))
      log := by
  rw [hsender]
  refine assured_ask fun now => assured_ask fun scope => Assured.bind (Assured.bind ?_)
  -- the log holds the clock, and the id as before
  have hgrown : log <+: log ++ [⟨.clock, now⟩] ++ [⟨.openScope (some parent), scope⟩] := by
    rw [List.append_assoc]
    exact List.prefix_append _ _
  refine Assured.imp (outgoing_fans_out hprompt hsupported scope
    ((haside.append .clock trivial now).append (.openScope _) trivial scope) (hid.mono hgrown)
    (by simp)) ?_
  rintro _ after ⟨result, context, rfl, hresult⟩
  exact ⟨_, rfl, hresult⟩

/-- A publish asks for an id, unless user code chose one, and then for the time and a scope. -/
theorem publish_assured (hsender : sender.outgoing = outbound.sending.outgoing)
    (parent : ScopeId) :
    Assured anyAnswers
      (fun ended after => ∃ result, ended = .ok result ∧ FansOut outbound.resolver
        outbound.serializer sender messageType content options result after)
      (sender.publish parent ⟨messageType, .ok content⟩ options) [] := by
  rw [Operations.publish, Operations.dispatch]
  cases hid : options.messageId with
  | some id =>
    exact draft_fans_out hprompt hsupported hsender parent aside_nil (by simp [Named, hid])
  | none =>
    refine assured_ask fun id => draft_fans_out hprompt hsupported hsender parent ?_ ?_
    · exact aside_nil.append .freshId trivial id
    · simp [Named, hid]

end Drafts

/-- With the built-in steps of an endpoint an event without a delay becomes one operation for the
subscribers of its type, or one for each address that a lookup names, whatever the surroundings
answer. Without addresses a publish succeeds, and where there is neither of the two it fails. -/
theorem publish_fans_out (settings : Settings) (resolver : Resolver)
    (faults : Option (Chain FaultContext)) (serializer : Serializer)
    (capabilities : Capabilities) :
    ∃ steps side,
      Assembly.mainSteps settings resolver { name := mainPipeline } faults = .ok steps ∧
      Assembly.sendingSide steps serializer capabilities = .ok side ∧
      ∀ (endpointName : String) (localAddress : Option String) (parent : ScopeId)
        (messageType : String) (content : Json) (options : SendOptions),
        (∀ constraint ∈ options.constraints,
          constraint.isDelay = false ∧ capabilities.supports constraint.kind = true) →
        let sender : Operations := ⟨side.outgoing, side.routing, endpointName, localAddress⟩
        Assured anyAnswers
          (fun ended log => ∃ result, ended = .ok result ∧
            FansOut resolver serializer sender messageType content options result log)
          (sender.publish parent ⟨messageType, .ok content⟩ options) [] := by
  refine ⟨_, _, mainSteps_builtIn settings resolver faults,
    sendingSide_builtIn settings resolver faults serializer capabilities, ?_⟩
  intro endpointName localAddress parent messageType content options hconstraints sender
  have hsender : sender.outgoing
      = (outboundOf settings resolver serializer capabilities).sending.outgoing := rfl
  exact publish_assured (fun constraint hmem => (hconstraints constraint hmem).1)
    (fun constraint hmem => (hconstraints constraint hmem).2) hsender parent

/-- A lookup that names an address twice, for a transport that only sends to single addresses. -/
def lookingUp : Resolver where
  routes := ∅
  localAddress := some "shop"
  policy := ⟨.unicast, .unicast, .unicast⟩
  subscribers := some (addSubscriber (addSubscriber (addSubscriber ∅ "OrderPlaced" "shipping")
    "OrderPlaced" "billing") "OrderPlaced" "shipping")

/-- An event that is of no use after a minute. -/
def shortLived : SendOptions := { constraints := [.discardAfter (.ofSeconds 60)] }

theorem publish_fans_out_lookingUp :
    ∃ steps side,
      Assembly.mainSteps shopSettings lookingUp { name := mainPipeline } none = .ok steps ∧
      Assembly.sendingSide steps .json Memory.capabilities = .ok side ∧
      let sender : Operations := ⟨side.outgoing, side.routing, "shop", some "shop"⟩
      Assured anyAnswers
        (fun ended log => ∃ result message, ended = .ok result ∧
          Published .json sender "OrderPlaced" .null shortLived log message ∧
          HandedOn (operationsOf message shortLived.constraints
            [.unicast "shipping", .unicast "billing"]) result log)
        (sender.publish 0 ⟨"OrderPlaced", .ok .null⟩ shortLived) [] := by
  obtain ⟨steps, side, hsteps, hside, hpublish⟩ :=
    publish_fans_out shopSettings lookingUp none .json Memory.capabilities
  refine ⟨steps, side, hsteps, hside, Assured.imp
    (hpublish "shop" (some "shop") 0 "OrderPlaced" .null shortLived (by decide)) ?_⟩
  rintro _ log ⟨result, rfl, hfans⟩
  -- the policy of the shop is to look subscribers up, and there are two
  cases hfans with
  | multicast hpolicy => cases hpolicy
  | unicast _ hlookup hplaces hmessage hhanded =>
    cases hlookup
    obtain rfl := hplaces.unique (firstPlaces_distinct _)
    exact ⟨_, _, rfl, hmessage, hhanded⟩
  | unsupported _ hlookup => cases hlookup
  | unwritten _ hbody => cases hbody

end Messaging.Publishing
