import Messaging.Proofs.Instants
import Messaging.Proofs.Polling
import Messaging.World.Basic

/-!
# What the parts of a timeout manager share

- `Scene` is the world with the requests so far and a time that has passed, and `Serves` says how a
  request is answered at any later time.
- `Accepted` and `Sent` say what has become of a timeout, judged by the requests so far.
- `Sound` is what always holds: every accepted timeout is stored unless it was sent, under an id
  that no other one has.
- `Onward` and `Aside` are what a step does to a scene: the first is all that the poller keeps to,
  the second what everyone else does.
-/

namespace Messaging

open Time (Instant)

/-! ### Ids -/

/-- The value of a hexadecimal digit. -/
def hexDigit (c : Char) : Nat := if c.isDigit then c.toNat - 48 else c.toNat - 87

/-- The number that hexadecimal digits stand for. -/
def hexValue (digits : List Char) : Nat := digits.foldl (fun n c => 16 * n + hexDigit c) 0

/-- A digit is read as it was written. -/
theorem hexDigit_digitChar {n : Nat} (hn : n < 16) : hexDigit n.digitChar = n := by
  decide +revert

/-- A number in base sixteen is read as it was written. -/
theorem hexValue_toDigits (n : Nat) : hexValue (Nat.toDigits 16 n) = n := by
  -- the last digit is the remainder, and the digits before it stand for the quotient
  induction n using Nat.strongRecOn with
  | ind n ih =>
    rw [Nat.toDigits_eq_if (by decide)]
    split
    · next hn => simpa [hexValue] using hexDigit_digitChar hn
    · next hn =>
      have hrest := ih (n / 16) (by omega)
      rw [hexValue] at hrest
      rw [hexValue, List.foldl_append, hrest, List.foldl_cons, List.foldl_nil,
        hexDigit_digitChar (Nat.mod_lt _ (by decide))]
      omega

/-- Zeros in front change no number, so that different numbers give different ids. -/
theorem hexValue_leftpad (k : Nat) (digits : List Char) :
    hexValue (digits.leftpad k '0') = hexValue digits := by
  rw [List.leftpad, hexValue, List.foldl_append]
  congr 1
  induction k - digits.length with
  | zero => rfl
  | succ n ih => rw [List.replicate_succ, List.foldl_cons]; exact ih

/-- Texts with the same beginning differ behind it. -/
theorem ofList_inj_of_append {front : String} {xs ys : List Char}
    (h : front ++ String.ofList xs = front ++ String.ofList ys) : xs = ys := by
  have hlists := congrArg String.toList h
  rwa [String.toList_append, String.toList_append, List.append_right_inj, String.toList_ofList,
    String.toList_ofList] at hlists

/-- No two ids are the same. -/
theorem idText_injective {m n : Nat} (h : idText m = idText n) : m = n := by
  have hvalues := congrArg hexValue (ofList_inj_of_append h)
  rwa [hexValue_leftpad, hexValue_leftpad, hexValue_toDigits, hexValue_toDigits] at hvalues

namespace Timeouts.Manager

/-! ### Scenes -/

/-- What the parts of a timeout manager share. -/
structure Scene where
  /-- The world. -/
  world : World
  /-- A time that has passed. -/
  now : Instant
  /-- The requests so far with their answers, first asked first. -/
  log : List Exchange := []

namespace Scene

/-- Answers a request at a time. -/
def serve (s : Scene) (t : Instant) (effect : Effect) : effect.Answer × Scene :=
  let (answer, world) := { s.world with clock := t }.perform effect
  (answer, { world, now := t, log := s.log ++ [⟨effect, answer⟩] })

/-- The stored timeout under a key. -/
def stored? (s : Scene) (id : String) : Option Timeout := s.world.site.storage.store.peek? id

/-- The start of the next query. -/
def start (s : Scene) : Instant := s.world.site.schedule.start

end Scene

/-- A request is answered by the world, at a time that is not earlier than any before it. -/
def Serves : Service Scene := fun s effect answer u =>
  ∃ t, s.now ≤ t ∧ t ≤ Instant.last ∧ s.serve t effect = (answer, u)

/-- An answered request is the last one so far. -/
theorem Serves.log {s u : Scene} {effect : Effect} {answer : effect.Answer}
    (h : Serves s effect answer u) : u.log = s.log ++ [⟨effect, answer⟩] := by
  obtain ⟨t, -, -, hserve⟩ := h
  obtain ⟨rfl, rfl⟩ := Prod.mk.inj hserve
  rfl

/-- Every request that is served goes into the log. -/
theorem Serves.log_prefix {s u : Scene} {effect : Effect} {answer : effect.Answer}
    (h : Serves s effect answer u) : s.log <+: u.log := by
  rw [h.log]
  exact List.prefix_append _ _

/-- No request is answered before an earlier one, or after the last instant. -/
theorem Serves.now {s u : Scene} {effect : Effect} {answer : effect.Answer}
    (h : Serves s effect answer u) : s.now ≤ u.now ∧ u.now ≤ Instant.last := by
  obtain ⟨t, ht, hlast, hserve⟩ := h
  obtain ⟨rfl, rfl⟩ := Prod.mk.inj hserve
  exact ⟨ht, hlast⟩

/-- The storage has accepted a timeout. -/
def Accepted (log : List Exchange) (x : Timeout) : Prop := ⟨.addTimeout x, .ok ()⟩ ∈ log

/-- The message of a timeout was sent on to its destination. -/
def Sent (log : List Exchange) (x : Timeout) : Prop :=
  ∃ timeSent isolated, ⟨.dispatch (.ofList [{ message := expiredMessage x timeSent
                                              route := .unicast x.destination, isolated }]),
    .ok ()⟩ ∈ log

/-- What holds in every scene of a timeout manager. -/
structure Sound (s : Scene) : Prop where
  /-- An accepted timeout has an id that was given. -/
  given : ∀ x, Accepted s.log x → ∃ n < s.world.ids, x.id = idText n
  /-- No two accepted timeouts have the same id. -/
  unique : ∀ x y, Accepted s.log x → Accepted s.log y → x.id = y.id → x = y
  /-- What is stored was accepted, and stands under its id. -/
  origin : ∀ id x, s.stored? id = some x → x.id = id ∧ Accepted s.log x
  /-- What was accepted is stored unless it was sent on. -/
  kept : ∀ x, Accepted s.log x → s.stored? x.id = some x ∨ Sent s.log x ∧ s.stored? x.id = none
  /-- Queries do not start in the future. -/
  past : s.start ≤ s.now
  /-- The storage answers queries itself. -/
  honest : ∀ call, s.world.site.storage.scripted call = none

/-- A step to a sound scene that forgets no request. -/
structure Onward (s u : Scene) : Prop where
  /-- The scene is sound. -/
  sound : Sound u
  /-- The requests so far stay. -/
  log : s.log <+: u.log

/-- A step that leaves the start of queries alone, and stores nothing that is due already. -/
structure Aside (s u : Scene) : Prop extends Onward s u where
  /-- Time does not go back. -/
  now : s.now ≤ u.now
  /-- The start of queries stays. -/
  start : u.start = s.start
  /-- What is stored was stored before or is due later. -/
  stored : ∀ id x, u.stored? id = some x → s.stored? id = some x ∨ s.now < x.due

variable {s t u : Scene}

theorem Onward.trans (hst : Onward s t) (htu : Onward t u) : Onward s u :=
  ⟨htu.sound, hst.log.trans htu.log⟩

theorem Aside.trans (hst : Aside s t) (htu : Aside t u) : Aside s u where
  toOnward := hst.toOnward.trans htu.toOnward
  now := hst.now.trans htu.now
  start := htu.start.trans hst.start
  stored id x hx := by
    rcases htu.stored id x hx with ht | hdue
    · exact hst.stored id x ht
    · exact .inr (hst.now.trans_lt hdue)

theorem Aside.refl (hs : Sound s) : Aside s s :=
  ⟨⟨hs, List.prefix_rfl⟩, le_rfl, rfl, fun _ _ => .inl⟩

/-- What was `Accepted` or `Sent` stays so as the log grows. -/
theorem Accepted.mono {log log' : List Exchange} {x : Timeout} (h : Accepted log x)
    (hlog : log <+: log') : Accepted log' x := hlog.subset h

theorem Sent.mono {log log' : List Exchange} {x : Timeout} (h : Sent log x)
    (hlog : log <+: log') : Sent log' x := by
  obtain ⟨timeSent, isolated, hmem⟩ := h
  exact ⟨timeSent, isolated, hlog.subset hmem⟩

/-! ### Requests that leave the stored timeouts alone -/

/-- A scene goes on to another in which the same timeouts are stored. -/
structure Kept (s u : Scene) : Prop where
  /-- Nothing was accepted that was not before. -/
  log : s.log <+: u.log
  /-- Nothing was accepted. -/
  accepted : ∀ x, Accepted u.log x → Accepted s.log x
  /-- Time does not go back. -/
  now : s.now ≤ u.now
  /-- Ids are not taken back. -/
  ids : s.world.ids ≤ u.world.ids
  /-- The same timeouts are stored. -/
  stored : ∀ id, u.stored? id = s.stored? id
  /-- The storage answers queries as before. -/
  scripted : u.world.site.storage.scripted = s.world.site.storage.scripted

/-- A scene in which the same timeouts are stored is sound, unless queries start in the future. -/
theorem Kept.sound (h : Kept s u) (hs : Sound s) (hstart : u.start ≤ u.now) : Sound u where
  given x hx := by
    obtain ⟨n, hn, hid⟩ := hs.given x (h.accepted x hx)
    exact ⟨n, hn.trans_le h.ids, hid⟩
  unique x y hx hy := hs.unique x y (h.accepted x hx) (h.accepted y hy)
  origin id x hx := by
    rw [h.stored] at hx
    obtain ⟨hid, haccepted⟩ := hs.origin id x hx
    exact ⟨hid, haccepted.mono h.log⟩
  kept x hx := by
    rw [h.stored]
    exact (hs.kept x (h.accepted x hx)).imp id (And.imp_left fun hsent => hsent.mono h.log)
  past := hstart
  honest call := by
    rw [h.scripted]
    exact hs.honest call

/-- A step after which the same timeouts are stored, and that leaves the start of queries alone. -/
theorem Kept.aside (h : Kept s u) (hs : Sound s) (hstart : u.start = s.start) : Aside s u where
  sound := h.sound hs (by rw [hstart]; exact hs.past.trans h.now)
  log := h.log
  now := h.now
  start := hstart
  stored id x hx := by
    rw [h.stored] at hx
    exact .inl hx

/-- A request that changes neither the stored timeouts nor the schedule of queries. -/
def Harmless : Effect → Prop
  | .addTimeout _ | .removeTimeout _ | .changeSchedule _ => False
  | _ => True

/-- A harmless request changes neither the stored timeouts nor the schedule of queries. -/
theorem perform_of_harmless {effect : Effect} (heffect : Harmless effect) (world : World) :
    (world.perform effect).2.site.storage.store = world.site.storage.store ∧
      (world.perform effect).2.site.storage.scripted = world.site.storage.scripted ∧
        (world.perform effect).2.site.schedule = world.site.schedule ∧
          world.ids ≤ (world.perform effect).2.ids := by
  cases effect
  case addTimeout => exact heffect.elim
  case removeTimeout => exact heffect.elim
  case changeSchedule => exact heffect.elim
  case freshId => exact ⟨rfl, rfl, rfl, Nat.le_succ _⟩
  -- the transport has no part in the store
  case dispatch batch =>
    rw [World.perform, World.dispatch]
    split
    · exact ⟨rfl, rfl, rfl, Nat.le_refl _⟩
    · exact ⟨rfl, rfl, rfl, Nat.le_refl _⟩
  case peekTimeout id =>
    have hpeek := Storage.peek_store world.site.storage id
    exact ⟨hpeek.1, hpeek.2, rfl, Nat.le_refl _⟩
  case nextChunk start =>
    have hchunk := Storage.nextChunk_store world.site.storage start world.clock
    exact ⟨hchunk.1, hchunk.2, rfl, Nat.le_refl _⟩
  all_goals exact ⟨rfl, rfl, rfl, Nat.le_refl _⟩

/-- What was accepted before is what was accepted without a request that stores nothing. -/
theorem accepted_of_append {log : List Exchange} {effect : Effect} {answer : effect.Answer}
    (heffect : ∀ x, effect ≠ .addTimeout x) {x : Timeout}
    (hx : Accepted (log ++ [⟨effect, answer⟩]) x) : Accepted log x := by
  rw [Accepted, List.mem_append, List.mem_singleton, Exchange.mk.injEq] at hx
  exact hx.resolve_right fun h => heffect x h.1.symm

/-- After a harmless request the same timeouts are stored. -/
theorem kept_of_serves {effect : Effect} {answer : effect.Answer}
    (h : Serves s effect answer u) (heffect : Harmless effect) : Kept s u ∧ u.start = s.start := by
  obtain ⟨t, ht, -, hserve⟩ := h
  obtain ⟨hstore, hscripted, hschedule, hids⟩ :=
    perform_of_harmless heffect { s.world with clock := t }
  obtain ⟨rfl, rfl⟩ := Prod.mk.inj hserve
  refine ⟨⟨List.prefix_append _ _, fun x => accepted_of_append ?_, ht, hids, fun id => ?_,
    hscripted⟩, congrArg Schedule.start hschedule⟩
  · rintro x rfl
    exact heffect
  · exact congrArg (·.peek? id) hstore

/-- A harmless request is a step aside. -/
theorem aside_of_serves {effect : Effect} {answer : effect.Answer}
    (h : Serves s effect answer u) (heffect : Harmless effect) (hs : Sound s) : Aside s u :=
  (kept_of_serves h heffect).1.aside hs (kept_of_serves h heffect).2

/-- A change of the schedule leaves the stored timeouts alone. -/
theorem kept_of_changeSchedule {change : Schedule → Schedule} {answer : Unit}
    (h : Serves s (.changeSchedule change) answer u) :
    Kept s u ∧ u.start = (change s.world.site.schedule).start := by
  obtain ⟨t, ht, -, hserve⟩ := h
  obtain ⟨rfl, rfl⟩ := Prod.mk.inj hserve
  exact ⟨⟨List.prefix_append _ _, fun x => accepted_of_append (by simp), ht, Nat.le_refl _,
    fun _ => rfl, rfl⟩, rfl⟩

end Timeouts.Manager

end Messaging
