import Mathlib.Data.List.TakeWhile
import Mathlib.Logic.Function.Iterate
import Messaging.Host.Receive
import Messaging.Proofs.Drafts
import Messaging.Proofs.JsonText
import Messaging.Proofs.Subscribing

/-!
# From a send to its receiver

A message is written and sent to a queue in memory, taken from it and read.

- `Finishes` says what a program comes to that nothing interrupts.
- `get?_newHeaders_eq` says what the headers of a new message are.
- `Arrives` says where a message is after it was sent to one queue, and `dispatch_arrives` that it
  gets there. `received_of_arrives` says that it is taken from the queue in its turn.
- `HandsOn` says that a message is read as what was sent, and `sent_is_received` puts both ends
  together.
-/

namespace Messaging

open Redelivery Deferring

variable {α β : Type}

/-! ### Programs that finish -/

namespace World

/-- A program runs through its first part before its second. -/
theorem run_bind (program : Act α) (f : α → Act β) (world : World) :
    run (program.bind f) world
      = match run program world with
        | (.ok result, world) => run (f result) world
        | (.error payload, world) => (.error payload, world) := by
  induction program generalizing world with
  | done => rfl
  | panic => rfl
  | call effect next ih => exact ih _ _

end World

/-- On a world a program finishes with a result and a world that are as promised. -/
def Finishes (program : Act α) (world : World) (post : α → World → Prop) : Prop :=
  ∃ result world', World.run program world = (.ok result, world') ∧ post result world'

namespace Finishes

variable {world : World} {program : Act α}

/-- A program `Finishes` as its second part does from where the first one has finished. -/
theorem bind {f : α → Act β} {post : β → World → Prop}
    (h : Finishes program world fun result world' => Finishes (f result) world' post) :
    Finishes (program.bind f) world post := by
  obtain ⟨middle, world', hfirst, result, world'', hsecond, hpost⟩ := h
  exact ⟨result, world'', by rw [World.run_bind, hfirst]; exact hsecond, hpost⟩

theorem imp {post post' : α → World → Prop} (h : Finishes program world post)
    (hpost : ∀ result world', post result world' → post' result world') :
    Finishes program world post' := by
  obtain ⟨result, world', hrun, hresult⟩ := h
  exact ⟨result, world', hrun, hpost _ _ hresult⟩

end Finishes

/-! ### The headers of a message -/

/-- The headers that the sending side defines. -/
def definedKeys : List String :=
  [Header.messageIntent, Header.originatingEndpoint, Header.timeSent, Header.contentType,
    Header.enclosedMessageTypes, Header.messageId]

/-- What a header of a new message is, unless user code set it. -/
def defaultHeader? (sender : Operations) (messageId key : String) : Option String :=
  if key = Header.correlationId then some messageId
  else if key = Header.replyToAddress then sender.localAddress else none

/-- A new message has the headers of user code, and others in the places that this left free. -/
theorem get?_newHeaders_eq (sender : Operations) (intent : Intent)
    (messageId timeSent : String) (headers : Headers) {key : String} (hkey : key ∉ definedKeys) :
    (sender.newHeaders intent messageId timeSent headers).get? key
      = (headers.get? key).or (defaultHeader? sender messageId key) := by
  simp only [definedKeys, List.mem_cons, List.not_mem_nil, or_false, not_or] at hkey
  have hcorrelation : Header.correlationId ≠ Header.replyToAddress := by decide
  -- the three headers that are always set are not among those looked at
  have hsame (key : String) (hkey : key ∉ [Header.messageIntent, Header.originatingEndpoint,
      Header.timeSent]) : (((headers.insert Header.messageIntent intent.name).insert
        Header.originatingEndpoint sender.endpointName).insert Header.timeSent timeSent).get? key
      = headers.get? key := by
    simp only [List.mem_cons, List.not_mem_nil, or_false, not_or] at hkey
    simp only [Table.get?_insert, hkey, if_false]
  rw [Operations.newHeaders, defaultHeader?]
  cases sender.localAddress <;>
    simp only [Table.get?_insertIfNew, Table.getD, hsame Header.correlationId (by decide),
      hsame Header.replyToAddress (by decide), hcorrelation.symm, if_false] <;>
    grind

/-- A written message keeps the headers that the sending side does not define. -/
theorem get?_writtenHeaders_eq (serializer : Serializer) (messageType messageId : String)
    (headers : Headers) {key : String} (hkey : key ∉ definedKeys) :
    (writtenHeaders serializer messageType messageId headers).get? key = headers.get? key := by
  simp only [definedKeys, List.mem_cons, List.not_mem_nil, or_false, not_or] at hkey
  simp only [writtenHeaders, Table.get?_insert, hkey, if_false]

/-! ### Into a queue -/

namespace Broker

variable {broker broker' : Broker} {address : String} {waiting : List Queued}

/-- One message for a queue that exists is put behind those that wait there. -/
theorem deliver_single (now : Time.Instant) (message : Message)
    (hwaiting : broker.queue? address = some waiting) :
    broker.deliver now (.ofList [{ message, route := .unicast address }])
        = (.ok (), broker.push address ⟨message, none⟩) ∧
      (broker.push address ⟨message, none⟩).queue? address
        = some (waiting ++ [⟨message, none⟩]) := by
  have hexists : broker.queueExists address = true := by
    rw [queueExists, hwaiting, Option.isSome]
  -- without constraints the message is neither delayed nor does it expire
  have hdelivery : broker.unicastDelivery now ⟨address, message, [], false⟩
      = .ok (address, ⟨message, none⟩) := by
    rw [unicastDelivery, if_pos hexists]
    rfl
  refine ⟨?_, by rw [queue?_push, hwaiting, Option.map_some]⟩
  show broker.deliver now ⟨[⟨address, message, [], false⟩], []⟩ = _
  simp only [deliver, deliveries, List.mapM_cons, hdelivery, List.mapM_nil]
  rfl

/-- Every item of a list has a partner in a list that is related to it. -/
theorem exists_of_forall₂ {γ δ : Type} {related : γ → δ → Prop} {items : List γ}
    {results : List δ} (h : List.Forall₂ related items results) {item : γ} (hmem : item ∈ items) :
    ∃ result ∈ results, related item result := by
  induction h with
  | nil => cases hmem
  | cons hfirst _ ih =>
    rcases List.mem_cons.1 hmem with rfl | hrest
    · exact ⟨_, List.mem_cons_self, hfirst⟩
    · obtain ⟨result, hresult, hrelated⟩ := ih hrest
      exact ⟨result, List.mem_cons_of_mem _ hresult, hrelated⟩

/-- A batch that is taken puts each message for an address into its queue. -/
theorem mem_queue?_deliver {operations : List Operation} {now : Time.Instant} {message : Message}
    (hmem : { message, route := .unicast address } ∈ operations)
    (h : broker.deliver now (.ofList operations) = (.ok (), broker')) :
    ∃ later, broker'.queue? address = some later ∧ ⟨message, none⟩ ∈ later := by
  -- in the batch the operation is among those to single addresses
  have hdelivery : (⟨address, message, [], false⟩ : Delivery)
      ∈ (Batch.ofList operations).unicast := by
    have hbatch := Batch.mem_toList_ofList.2 hmem
    rw [Batch.toList, List.mem_append, List.mem_map, List.mem_map] at hbatch
    obtain ⟨⟨target, _, _, _⟩, hfound, heq⟩ | ⟨_, _, heq⟩ := hbatch
    · cases heq
      exact hfound
    · cases heq
  -- the batch was taken, so that each of its two parts was
  rw [deliver, deliveries] at h
  cases hunicast : (Batch.ofList operations).unicast.mapM (broker.unicastDelivery now) with
  | error error =>
    rw [hunicast] at h
    cases h
  | ok single =>
    cases hmulticast : (Batch.ofList operations).multicast.mapM
        (broker.multicastDeliveries now) with
    | error error =>
      rw [hunicast, hmulticast] at h
      cases h
    | ok several =>
      rw [hunicast, hmulticast] at h
      cases h
      obtain ⟨entry, hentry, hqueued⟩ :=
        exists_of_forall₂ (forall₂_of_mapM hunicast) hdelivery
      rw [unicastDelivery] at hqueued
      split at hqueued
      · next hexists =>
        cases hqueued
        obtain ⟨waiting, hwaiting⟩ := Option.isSome_iff_exists.1 hexists
        refine ⟨_, by rw [queue?_pushAll, hwaiting, Option.map_some], ?_⟩
        refine List.mem_append_right _ (List.mem_map.2 ⟨(address, ⟨message, none⟩), ?_, rfl⟩)
        rw [List.mem_filter]
        exact ⟨List.mem_append_left _ hentry, by simp⟩
      · cases hqueued

end Broker

/-! ### On the way out -/

/-- A new scope sees what its parent sees, even if that was never opened. -/
theorem get?_childScope (scopes : Scopes) (slot : Slot) (parent : ScopeId) :
    (scopes.openUnder (some parent)).2.get? slot (scopes.openUnder (some parent)).1
      = scopes.get? slot parent := by
  by_cases hparent : parent < scopes.nodes.size
  · exact ScopeForest.get?_openUnder_self scopes slot hparent
  · have hnone : scopes.nodes[parent]? = none := Array.getElem?_eq_none (Nat.not_lt.1 hparent)
    have hnode : (scopes.openUnder (some parent)).2.nodes[scopes.nodes.size]?
        = some ⟨some parent, Scope.noValues⟩ := by
      rw [ScopeForest.openUnder, Array.getElem?_push, if_pos rfl]
    rw [ScopeForest.get?, show (scopes.openUnder (some parent)).1 = scopes.nodes.size from rfl,
      hnode, ScopeForest.get?, hnone]
    simp only [Scope.noValues, if_neg hparent]

/-- What a send changes before it hands its message on: the clock, the ids and the scopes. Its own
scope leads to the staged operations that its parent leads to, if to any. -/
structure Underway (world : World) (seen : Option StagingId) (scope : ScopeId) (world' : World) :
    Prop where
  broker : world'.broker = world.broker
  stagings : world'.stagings = world.stagings
  outlet : world'.site.outlet = world.site.outlet
  seen : world'.scopes.get? .staging scope = seen

variable {world world' : World} {seen : Option StagingId} {scope : ScopeId} {message : Message}
  {options : SendOptions} {address : String} {waiting : List Queued} {post : β → World → Prop}

/-- Reading the clock leaves a send `Underway`. -/
theorem Underway.clock (h : Underway world seen scope world') {f : Time.Instant → Act β}
    (hf : ∀ now world'', Underway world seen scope world'' → Finishes (f now) world'' post) :
    Finishes (Act.clock.bind f) world' post :=
  hf world'.clock _ ⟨h.broker, h.stagings, h.outlet, h.seen⟩

/-- A new scope below is again one that leads to the staged operations. -/
theorem Underway.childScope (h : Underway world seen scope world') {f : ScopeId → Act β}
    (hf : ∀ child world'', Underway world seen child world'' → Finishes (f child) world'' post) :
    Finishes ((Act.childScope scope).bind f) world' post := by
  refine hf _ _ ⟨h.broker, h.stagings, h.outlet, ?_⟩
  exact (get?_childScope world'.scopes .staging scope).trans h.seen

/-- Where a message is after it was sent to one address: in its queue, or among the staged
operations that are dispatched when the receive that sends it ends. -/
inductive Arrives (world : World) (message : Message) (address : String) :
    Option StagingId → World → Prop where
  | queued {world' : World} {waiting : List Queued}
      (hwaiting : world.broker.queue? address = some waiting)
      (hqueue : world'.broker.queue? address = some (waiting ++ [⟨message, none⟩])) :
      Arrives world message address none world'
  | staged {world' : World} {staging : StagingId}
      (hstaged : world'.stagings
        = world.stagings.modify staging (· ++ [{ message, route := .unicast address }])) :
      Arrives world message address (some staging) world'

/-- The message of a pipeline that completes arrives. -/
def Carries {C : Type} (world : World) (message : Message) (address : String)
    (seen : Option StagingId) (program : Act (StageResult × C)) (world' : World) : Prop :=
  Finishes program world' fun ended world'' =>
    ended.1 = .ok .completed ∧ Arrives world message address seen world''

/-- A pipeline inside of a stage carries the message for it. -/
theorem Carries.nested {C D : Type} {pipeline : Chain C} {inner : C} {outer : D}
    (h : Carries world message address seen (pipeline.invoke inner) world') :
    Carries world message address seen
      ((pipeline.result inner).bind fun result => .done (result, outer)) world' := by
  refine Finishes.bind (Finishes.bind (Finishes.imp h ?_))
  rintro ⟨result, context⟩ world'' hended
  exact ⟨_, _, rfl, _, _, rfl, hended⟩

/-- On a site whose outlet is the broker a dispatch is `Broker.deliver`. -/
theorem run_dispatch (batch : Batch) (houtlet : world.site.outlet = .broker) :
    World.run (Act.dispatch batch) world
      = (.ok (world.broker.deliver world.clock batch).1,
        { world.readClock.2 with broker := (world.broker.deliver world.clock batch).2 }) := by
  -- a program of one request comes to its answer
  show (Except.ok (world.dispatch batch).1, (world.dispatch batch).2) = _
  simp only [World.dispatch, houtlet, World.readClock]

section Stages

variable (outbound : Outbound) (houtlet : world.site.outlet = .broker)
  (hwaiting : world.broker.queue? address = some waiting)
include houtlet hwaiting

/-- The last stage stages the message, or hands it over where nothing is staged. -/
theorem dispatchLast_carries (capabilities : Capabilities) (message : Message)
    (hunderway : Underway world seen scope world') :
    Carries world message address seen
      (Outgoing.dispatchLast capabilities { message, routes := [.unicast address], scope })
      world' := by
  have hread : (world'.perform (.readSlot scope .staging)).1 = seen := hunderway.seen
  -- without constraints the last stage asks its scope where the message is to go
  refine Finishes.bind ⟨seen, world', by rw [← hread]; rfl, ?_⟩
  cases seen with
  | some staging =>
    refine ⟨_, _, rfl, rfl, .staged ?_⟩
    rw [← hunderway.stagings]
    rfl
  | none =>
    obtain ⟨hdeliver, hqueue⟩ := Broker.deliver_single world'.clock message hwaiting
    rw [← hunderway.broker] at hdeliver hqueue
    have hrun := run_dispatch (.ofList [{ message, route := .unicast address }])
      (hunderway.outlet.trans houtlet)
    rw [hdeliver] at hrun
    refine Finishes.bind (Finishes.bind ⟨_, _, hrun, ?_⟩)
    exact ⟨_, _, rfl, _, _, rfl, rfl, .queued hwaiting hqueue⟩

/-- A message without constraints passes the deferring step by. -/
theorem routing_carries (message : Message) (hunderway : Underway world seen scope world') :
    Carries world message address seen
      (outbound.sending.routing.invoke { message, routes := [.unicast address], scope })
      world' := by
  obtain ⟨resolver, manager, serializer, capabilities⟩ := outbound
  cases manager with
  | none => exact dispatchLast_carries houtlet hwaiting capabilities message hunderway
  | some manager =>
    -- a message without constraints is not due later
    refine hunderway.clock fun now world'' hunderway => ?_
    exact dispatchLast_carries houtlet hwaiting capabilities message hunderway

/-- The stage that writes the body sends the message with the headers of `writtenHeaders`. -/
theorem serialize_carries (context : OutgoingContext) {body : Body}
    (hbody : outbound.serializer.write context.message.body = .ok body)
    (hroutes : context.routes = [.unicast address]) (hconstraints : context.constraints = [])
    (hunderway : Underway world seen context.scope world') :
    Carries world
      ⟨context.messageId, writtenHeaders outbound.serializer context.message.messageType
        context.messageId context.headers, body⟩ address seen
      (Outgoing.serialize outbound.serializer outbound.sending.physical context) world' := by
  rw [Outgoing.serialize, hbody]
  refine hunderway.childScope fun scope world'' hunderway => Carries.nested ?_
  refine hunderway.childScope fun scope world'' hunderway => Carries.nested ?_
  rw [hroutes, hconstraints]
  exact routing_carries outbound houtlet hwaiting _ hunderway

/-- The outermost pipeline of outgoing messages does so with the route that was resolved. -/
theorem outgoing_carries (context : OutgoingContext) {body : Body}
    (hbody : outbound.serializer.write context.message.body = .ok body)
    (hroutes : destinations outbound.resolver context = .ok [.unicast address])
    (hconstraints : context.constraints = [])
    (hunderway : Underway world seen context.scope world') :
    Carries world
      ⟨context.messageId, writtenHeaders outbound.serializer context.message.messageType
        context.messageId context.headers, body⟩ address seen
      (outbound.sending.outgoing.invoke context) world' := by
  show Carries _ _ _ _ (Outgoing.resolveRoutes outbound.resolver _ context) world'
  rw [destinations] at hroutes
  rw [Outgoing.resolveRoutes]
  -- the route is resolved, or it is given
  split
  · next hempty =>
    rw [if_pos hempty] at hroutes
    rw [hroutes]
    exact serialize_carries outbound houtlet hwaiting { context with routes := _ } hbody rfl
      hconstraints hunderway
  · next hsome =>
    rw [if_neg hsome] at hroutes
    exact serialize_carries outbound houtlet hwaiting context hbody (Except.ok.inj hroutes)
      hconstraints hunderway

end Stages

/-- The id of a message: the one that user code gave it, or else the next new one. -/
def idOf (options : SendOptions) (world : World) : String :=
  options.messageId.getD (idText world.ids)

/-- A message without constraints that is sent to one address arrives there. -/
theorem dispatch_arrives (outbound : Outbound) (houtlet : world.site.outlet = .broker)
    (hwaiting : world.broker.queue? address = some waiting) (sender : Operations)
    (hsender : sender.outgoing = outbound.sending.outgoing) (parent : ScopeId) (intent : Intent)
    (messageType : String) {content : Json} {body : Body}
    (hbody : outbound.serializer.write content = .ok body)
    (hroutes : ∀ messageId, outbound.resolver.resolve intent messageType messageId
      options.destination options.toSelf = .ok [.unicast address])
    (hconstraints : options.constraints = []) :
    Finishes (sender.dispatch parent intent ⟨messageType, .ok content⟩ options) world
      fun result world' => result = .ok () ∧ ∃ now, Arrives world
        ⟨idOf options world, writtenHeaders outbound.serializer messageType (idOf options world)
          (sender.newHeaders intent (idOf options world) (Time.Wire.write now) options.headers),
          body⟩ address (world.scopes.get? .staging parent) world' := by
  have hunderway : Underway world (world.scopes.get? .staging parent) parent world :=
    ⟨rfl, rfl, rfl, rfl⟩
  -- once the id is known the time and a scope are asked for, and the stages run
  have hdraft (messageId : String) {world' : World}
      (hunderway : Underway world (world.scopes.get? .staging parent) parent world') :
      Finishes (Act.clock.bind fun now => (Act.childScope parent).bind fun scope =>
          (sender.outgoing.result
            (draft sender intent ⟨messageType, .ok content⟩ content options messageId now
              scope)).bind fun result => .done (Operations.unitResult result)) world'
        fun result world'' => result = .ok () ∧ ∃ now, Arrives world
          ⟨messageId, writtenHeaders outbound.serializer messageType messageId
            (sender.newHeaders intent messageId (Time.Wire.write now) options.headers), body⟩
          address (world.scopes.get? .staging parent) world'' := by
    refine hunderway.clock fun now _ hunderway => hunderway.childScope fun scope _ hunderway => ?_
    have hcarries := outgoing_carries outbound houtlet hwaiting
      (draft sender intent ⟨messageType, .ok content⟩ content options messageId now scope) hbody
      (hroutes messageId) hconstraints hunderway
    rw [hsender]
    refine Finishes.bind (Finishes.bind (Finishes.imp hcarries ?_))
    rintro ⟨result, context⟩ world'' ⟨rfl, harrives⟩
    exact ⟨_, _, rfl, _, _, rfl, rfl, now, harrives⟩
  rw [Operations.dispatch, idOf]
  cases options.messageId with
  | some messageId => exact hdraft messageId hunderway
  | none => exact hdraft (idText world.ids) ⟨rfl, rfl, rfl, rfl⟩

/-! ### Out of the queue -/

/-- `Host.popMessage` takes the first message of a queue. -/
theorem popMessage_cons {first : Queued} {rest : List Queued}
    (hqueue : world.broker.queue? address = some (first :: rest)) :
    (Host.popMessage address world).1 = some (first, first.isExpired world.clock) ∧
      (Host.popMessage address world).2.broker.queue? address = some rest := by
  have hrest : (world.broker.modifyQueue address List.tail).queue? address = some rest := by
    rw [Broker.queue?_modifyQueue, if_pos rfl, hqueue]
    rfl
  simp only [Host.popMessage, Broker.pop, hqueue]
  exact ⟨rfl, hrest⟩

/-- The world after some messages were taken from a queue. -/
def popMessages (address : String) (count : Nat) (world : World) : World :=
  (fun world => (Host.popMessage address world).2)^[count] world

/-- After as many of them as stand before it, the message is the first one. -/
theorem queue?_popMessages (before rest : List Queued)
    (hqueue : world.broker.queue? address = some (before ++ rest)) :
    (popMessages address before.length world).broker.queue? address = some rest := by
  induction before generalizing world with
  | nil => exact hqueue
  | cons first before ih =>
    rw [List.length_cons, popMessages, Function.iterate_succ_apply]
    exact ih (popMessage_cons hqueue).2

/-- How a receiver gets a message that was sent to one address. -/
structure Received (world : World) (message : Message) (address : String)
    (seen : Option StagingId) (world' : World) : Prop where
  arrives : Arrives world message address seen world'
  /-- In its queue the message comes after those that waited there, and it is not dropped. -/
  inTurn : seen = none → ∀ waiting, world.broker.queue? address = some waiting →
    (Host.popMessage address (popMessages address waiting.length world')).1
      = some (⟨message, none⟩, false)
  /-- If it was staged, it is in its queue once the staged operations were dispatched. -/
  afterwards : ∀ (operations : List Operation) (outcome : Outcome) (before after : World),
    { message, route := .unicast address } ∈ operations → outcome.commits = true →
    before.site.outlet = .broker →
    World.run (Incoming.finishReceive operations outcome) before = (.ok (.ok outcome), after) →
    ∃ later, after.broker.queue? address = some later ∧ ⟨message, none⟩ ∈ later

/-- A message that `Arrives` is `Received` once those before it were taken. -/
theorem received_of_arrives (h : Arrives world message address seen world') :
    Received world message address seen world' where
  arrives := h
  inTurn := by
    rintro rfl waiting hwaiting
    cases h with
    | queued hfound hqueue =>
      cases hwaiting.symm.trans hfound
      exact (popMessage_cons (queue?_popMessages _ _ hqueue)).1
  afterwards operations outcome before after hmem hcommits houtlet hrun := by
    have hsome : ¬ operations.isEmpty = true := by
      intro hempty
      rw [List.isEmpty_iff.1 hempty] at hmem
      cases hmem
    rw [Incoming.finishReceive, hcommits, if_neg (by decide), if_neg hsome, Program.bind_eq,
      World.run_bind, run_dispatch _ houtlet] at hrun
    -- the receive ends as it was only if the broker took the batch
    cases hdeliver : before.broker.deliver before.clock (.ofList operations) with
    | mk answer broker =>
      rw [hdeliver] at hrun
      cases answer with
      | error error => cases hrun
      | ok =>
        cases hrun
        exact Broker.mem_queue?_deliver hmem hdeliver

/-! ### Reading -/

/-- A text is the name of one message type. -/
structure IsTypeName (text : String) : Prop where
  nonempty : text ≠ ""
  single : ';' ∉ text.toList
  trimmed : Text.trim text = text

/-- A type header with one name in it is read as that name. -/
theorem IsTypeName.enclosedType? {messageType : String} (h : IsTypeName messageType)
    (message : Message)
    (hheader : message.headers.get? Header.enclosedMessageTypes = some messageType) :
    message.enclosedType? = some messageType := by
  have hfirst : Message.firstPart messageType = messageType := by
    rw [Message.firstPart, List.takeWhile_eq_self_iff.2, String.ofList_toList]
    intro c hc
    simpa using fun hsemicolon : c = ';' => h.single (hsemicolon ▸ hc)
  have hheader : message.header? Header.enclosedMessageTypes = some messageType := hheader
  simp only [Message.enclosedType?, hheader, hfirst, h.trimmed]
  rw [if_neg (by simpa using h.nonempty)]

/-- Headers mark a message without a logical body. -/
def MarksControl (headers : Headers) : Prop :=
  ∃ value, headers.get? Header.controlMessage = some value ∧
    value.toList.map Char.toLower = "true".toList

/-- Opens what a receive needs: a list of staged operations, and a scope that leads to it and to the
message. -/
def openReceive (message : Message) (scope : ScopeId) : Act (StagingId × ScopeId) := do
  let staging ← Act.ask .openStaging
  let scope ← Act.childScope scope
  Act.ask (.writeSlot scope .staging staging)
  Act.ask (.writeSlot scope .received message)
  pure (staging, scope)

/-- Ends a receive whose stages of read messages came to a result: unless they failed, the staged
operations are dispatched. -/
def closeReceive (context : ReceiveContext) (staging : StagingId) :
    StageResult → Act (StageResult × ReceiveContext)
  | .error failure => pure (.error failure, context)
  | .ok outcome => do
    let staged ← Act.ask (.takeStaged staging)
    let result ← Incoming.finishReceive staged outcome
    pure (result, context)

/-- A message is read as a content: the stages of read messages run once, on that content and with
the id and the headers of the message. -/
def HandsOn (message : Message) (content : LogicalMessage) : Prop :=
  ∀ (incoming : Chain IncomingContext) (scope : ScopeId),
    Incoming.deserialize .json incoming ⟨message, scope⟩
      = (openReceive message scope).bind fun (staging, inner) =>
        (incoming.result {
          messageId := message.id, headers := message.headers, message := content
          scope := inner }).bind (closeReceive ⟨message, scope⟩ staging)

/-- A message whose body can be read is handed on as it was written. -/
theorem handsOn_of_logicalMessage {content : LogicalMessage} (hcontrol : message.isControl = false)
    (hcontent : Incoming.logicalMessage .json message = .ok content) :
    HandsOn message content := by
  intro incoming scope
  rw [Incoming.deserialize]
  simp only [hcontrol, hcontent, Bool.false_eq_true, if_false, openReceive, Program.bind_eq,
    Program.bind_assoc]
  rfl

/-! ### Both ends together -/

/-- A message is no control message unless its sender has marked it so. -/
theorem isControl_eq_false (hheader : message.headers.get? Header.controlMessage
      = options.headers.get? Header.controlMessage) (hplain : ¬ MarksControl options.headers) :
    message.isControl = false := by
  rw [Message.isControl, Message.header?, hheader]
  cases hvalue : options.headers.get? Header.controlMessage with
  | none => rfl
  | some value => simpa using fun hsame => hplain ⟨value, hvalue, hsame⟩

/-- What is sent is what is received. A message with JSON text for a body that is sent without
constraints to a queue in memory gets there, or does when the receive that sends it ends. From the
queue it is read as the type and the content that were sent, under the same id, and with the headers
of user code but for those that the sending side defines. -/
theorem sent_is_received (settings : Settings) (resolver : Resolver)
    (faults : Option (Chain FaultContext)) (capabilities : Capabilities) :
    ∃ steps side,
      Assembly.mainSteps settings resolver { name := mainPipeline } faults = .ok steps ∧
      Assembly.sendingSide steps .json capabilities = .ok side ∧
      ∀ (endpointName : String) (localAddress : Option String) (parent : ScopeId) (intent : Intent)
        (messageType : String) (body : Json) (options : SendOptions) (address : String)
        (world : World),
        let sender : Operations := ⟨side.outgoing, side.routing, endpointName, localAddress⟩
        IsTypeName messageType → Json.Readable 127 body → options.constraints = [] →
        ¬ MarksControl options.headers →
        (∀ messageId, resolver.resolve intent messageType messageId options.destination
          options.toSelf = .ok [.unicast address]) →
        world.site.outlet = .broker → world.broker.queueExists address = true →
        ∃ message world',
          World.run (sender.dispatch parent intent ⟨messageType, .ok body⟩ options) world
            = (.ok (.ok ()), world') ∧
          Received world message address (world.scopes.get? .staging parent) world' ∧
          HandsOn message ⟨messageType, body⟩ ∧ message.id = idOf options world ∧
          ∀ key value, key ∉ definedKeys → options.headers.get? key = some value →
            message.headers.get? key = some value := by
  refine ⟨_, _, mainSteps_builtIn settings resolver faults,
    sendingSide_builtIn settings resolver faults .json capabilities, ?_⟩
  intro endpointName localAddress parent intent messageType body options address world sender
    hname hbody hconstraints hplain hroutes houtlet hexists
  obtain ⟨waiting, hwaiting⟩ := Option.isSome_iff_exists.1 hexists
  obtain ⟨_, world', hrun, rfl, now, harrives⟩ :=
    dispatch_arrives (outboundOf settings resolver .json capabilities) houtlet hwaiting
      sender rfl parent intent messageType rfl hroutes hconstraints
  -- a header that the sending side does not define is that of user code, if this set it
  have hheaders (key : String) (hkey : key ∉ definedKeys) :=
    (get?_writtenHeaders_eq .json messageType (idOf options world) _ hkey).trans
      (get?_newHeaders_eq sender intent (idOf options world) (Time.Wire.write now) options.headers
        hkey)
  refine ⟨_, world', hrun, received_of_arrives harrives, ?_, rfl, ?_⟩
  · apply handsOn_of_logicalMessage
    · refine isControl_eq_false ((hheaders _ (by decide)).trans ?_) hplain
      rw [defaultHeader?, if_neg (by decide), if_neg (by decide), Option.or_none]
    · rw [Incoming.logicalMessage, hname.enclosedType?]
      · simp only [Serializer.json, Json.read_toBytes hbody]
      · show (writtenHeaders .json messageType _ _).get? Header.enclosedMessageTypes = _
        rw [writtenHeaders, Table.get?_insert_of_ne _ _ (by decide), Table.get?_insert_self]
  · intro key value hkey hvalue
    exact (hheaders key hkey).trans (by rw [hvalue, Option.some_or])

/-- An order with a text that needs escapes and the greatest integer. -/
def orderBody : Json :=
  .object [("id", .integer 18446744073709551615),
    ("lines", .array [.string "7\" disc\n", .null])]

/-- An order for one address, with a header of its own and another that is not to be kept. -/
def orderOptions : SendOptions :=
  { destination := some " BILLING"
    headers := (Table.empty.insert "tenant" "blue").insert Header.timeSent "yesterday" }

/-- A world with one message in the queue. -/
def busyWorld : World :=
  { clock := ⟨0, 0⟩
    broker := (({} : Broker).createQueue "billing").2.push "Billing" ⟨⟨"m-0", ∅, []⟩, none⟩ }

/-- The body of the order below can be read again. -/
theorem readable_orderBody : Json.Readable 127 orderBody := by
  refine .object (by decide) ?_
  simp only [List.forall_mem_cons, List.not_mem_nil, false_imp_iff, implies_true, and_true]
  refine ⟨.integer (by decide) (by decide), .array ?_⟩
  simp only [List.forall_mem_cons, List.not_mem_nil, false_imp_iff, implies_true, and_true]
  exact ⟨.string _, .null⟩

/-- An order is sent by a shop without steps of its own and reaches the handlers of its own queue.
-/
theorem sent_is_received_order : ∃ steps side message world',
    Assembly.mainSteps shopSettings ⟨∅, none, Memory.capabilities.policy, none⟩
      { name := mainPipeline } none = .ok steps ∧
    Assembly.sendingSide steps .json Memory.capabilities = .ok side ∧
    World.run ((⟨side.outgoing, side.routing, "shop", some "shop"⟩ : Operations).dispatch 0 .send
        ⟨"Order", .ok orderBody⟩ orderOptions) busyWorld = (.ok (.ok ()), world') ∧
    Received busyWorld message " BILLING" none world' ∧ HandsOn message ⟨"Order", orderBody⟩ ∧
    message.id = idText 0 ∧ message.headers.get? "tenant" = some "blue" := by
  obtain ⟨steps, side, hsteps, hside, hreceived⟩ := sent_is_received shopSettings
    ⟨∅, none, Memory.capabilities.policy, none⟩ none Memory.capabilities
  have hunmarked : ¬ MarksControl orderOptions.headers := by
    rintro ⟨value, hvalue, -⟩
    cases hvalue
  -- outside of a receive nothing is staged
  have hunseen : busyWorld.scopes.get? .staging 0 = none := by
    rw [ScopeForest.get?]
    rfl
  obtain ⟨message, world', hrun, harrived, hreads, hid, hheaders⟩ := hreceived "shop" (some "shop")
    0 .send "Order" orderBody orderOptions " BILLING" busyWorld
    ⟨by decide, by decide, by decide +kernel⟩ readable_orderBody rfl hunmarked (fun _ => rfl) rfl
    (by decide +kernel)
  rw [hunseen] at harrived
  exact ⟨steps, side, message, world', hsteps, hside, hrun, harrived, hreads, hid,
    hheaders "tenant" "blue" (by decide) (by decide +kernel)⟩

end Messaging
