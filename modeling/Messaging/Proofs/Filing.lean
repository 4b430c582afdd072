import Messaging.Proofs.Scene

/-!
# What is stored was accepted

- `addTimeout_stored` and `removeTimeout_stored` say what becomes of the stored timeouts, and
  `stored_of_serves` that no other request adds any.
- `Filed` is what holds of a scene whatever is done to the schedule: what was accepted, and so what
  is stored, goes by different ids. `Filed.serves` and `Filed.addTimeout` say that requests keep it.
-/

namespace Messaging.Timeouts.Manager

variable {s u : Scene}

/-! ### Stored timeouts -/

/-- A removal touches no timeout but the one under its key. -/
theorem removeTimeout_stored {id : String} {answer : Except StorageError Bool}
    (h : Serves s (.removeTimeout id) answer u) :
    ((∀ other, u.stored? other = s.stored? other) ∨
        ∀ other, u.stored? other = if other = id then none else s.stored? other) ∧
      u.start = s.start ∧ u.world.ids = s.world.ids ∧
        u.world.site.storage.scripted = s.world.site.storage.scripted := by
  obtain ⟨t, -, -, hserve⟩ := h
  obtain ⟨rfl, rfl⟩ := Prod.mk.inj hserve
  obtain ⟨hstore, hscripted⟩ := Storage.remove_store s.world.site.storage id
  refine ⟨hstore.imp (fun hsame other => ?_) fun hremoved other => ?_, rfl, rfl, hscripted⟩
  · exact congrArg (·.peek? other) hsame
  · exact (congrArg (·.peek? other) hremoved).trans (TimeoutStore.peek?_remove _ _ _)

/-- An addition is refused, or the timeout is stored under its key. -/
theorem addTimeout_stored {x : Timeout} {answer : Except StorageError Unit}
    (h : Serves s (.addTimeout x) answer u) :
    ((∃ error, answer = .error error) ∧ (∀ id, u.stored? id = s.stored? id) ∨
        answer = .ok () ∧
          ∀ id, u.stored? id = if id = x.id then some x else s.stored? id) ∧
      u.start = s.start ∧ u.world.ids = s.world.ids ∧
        u.world.site.storage.scripted = s.world.site.storage.scripted := by
  obtain ⟨t, -, -, hserve⟩ := h
  obtain ⟨rfl, rfl⟩ := Prod.mk.inj hserve
  obtain ⟨hstore, hscripted⟩ := Storage.add_store s.world.site.storage x
  refine ⟨hstore.imp (fun hrefused => ⟨hrefused.1, fun id => ?_⟩)
    fun hadded => ⟨hadded.1, fun id => ?_⟩, rfl, rfl, hscripted⟩
  · exact congrArg (·.peek? id) hrefused.2
  · exact (TimeoutStore.peek?_add hadded.2).2 id

/-- What is accepted after an addition was accepted before, or is what was added. -/
theorem accepted_of_addTimeout {log : List Exchange} {x y : Timeout}
    {answer : Except StorageError Unit} (hy : Accepted (log ++ [⟨.addTimeout x, answer⟩]) y) :
    Accepted log y ∨ y = x ∧ answer = .ok () := by
  rw [Accepted, List.mem_append, List.mem_singleton, Exchange.mk.injEq,
    Effect.addTimeout.injEq] at hy
  exact hy.imp_right fun h => ⟨h.1, (eq_of_heq h.2).symm⟩

/-- The storage answers queries itself. -/
def Scene.Honest (s : Scene) : Prop := ∀ call, s.world.site.storage.scripted call = none

/-- No request makes a storage answer queries otherwise. -/
theorem honest_of_serves {effect : Effect} {answer : effect.Answer}
    (h : Serves s effect answer u) (hs : s.Honest) : u.Honest := by
  intro call
  have hscripted : u.world.site.storage.scripted = s.world.site.storage.scripted := by
    cases effect
    case addTimeout => exact (addTimeout_stored h).2.2.2
    case removeTimeout => exact (removeTimeout_stored h).2.2.2
    case changeSchedule => exact (kept_of_changeSchedule h).1.scripted
    all_goals exact (kept_of_serves h trivial).1.scripted
  rw [hscripted, hs]

/-- A request that adds nothing leaves no more stored than before. -/
theorem stored_of_serves {effect : Effect} {answer : effect.Answer}
    (h : Serves s effect answer u) (heffect : ∀ x, effect ≠ .addTimeout x) {id : String}
    {x : Timeout} (hx : u.stored? id = some x) : s.stored? id = some x := by
  cases effect
  case addTimeout x => exact absurd rfl (heffect x)
  case removeTimeout removed =>
    rcases (removeTimeout_stored h).1 with hsame | hremoved
    · rwa [hsame] at hx
    · rw [hremoved] at hx
      split at hx
      · cases hx
      · exact hx
  case changeSchedule =>
    rw [(kept_of_changeSchedule h).1.stored] at hx
    exact hx
  all_goals
    rw [(kept_of_serves h trivial).1.stored] at hx
    exact hx

theorem ids_le_of_serves {effect : Effect} {answer : effect.Answer}
    (h : Serves s effect answer u) : s.world.ids ≤ u.world.ids := by
  cases effect
  case addTimeout => exact (addTimeout_stored h).2.2.1.ge
  case removeTimeout => exact (removeTimeout_stored h).2.2.1.ge
  case changeSchedule => exact (kept_of_changeSchedule h).1.ids
  all_goals exact (kept_of_serves h trivial).1.ids

theorem accepted_of_serves {effect : Effect} {answer : effect.Answer}
    (h : Serves s effect answer u) (heffect : ∀ x, effect ≠ .addTimeout x) {x : Timeout}
    (hx : Accepted u.log x) : Accepted s.log x := by
  rw [h.log] at hx
  exact accepted_of_append heffect hx

/-! ### Ids -/

/-- What was accepted goes by different ids, and only what was accepted is stored. -/
structure Filed (s : Scene) : Prop where
  /-- The storage answers queries itself. -/
  honest : s.Honest
  /-- An accepted timeout has an id that was given. -/
  given : ∀ x, Accepted s.log x → ∃ n < s.world.ids, x.id = idText n
  /-- No two accepted timeouts have the same id. -/
  unique : ∀ x y, Accepted s.log x → Accepted s.log y → x.id = y.id → x = y
  /-- What is stored was accepted, and stands under its id. -/
  origin : ∀ id x, s.stored? id = some x → x.id = id ∧ Accepted s.log x

/-- A request that adds nothing keeps different ids different. -/
theorem Filed.serves {effect : Effect} {answer : effect.Answer} (hs : Filed s)
    (h : Serves s effect answer u) (heffect : ∀ x, effect ≠ .addTimeout x) : Filed u where
  honest := honest_of_serves h hs.honest
  given x hx := by
    obtain ⟨n, hn, hid⟩ := hs.given x (accepted_of_serves h heffect hx)
    exact ⟨n, hn.trans_le (ids_le_of_serves h), hid⟩
  unique x y hx hy :=
    hs.unique x y (accepted_of_serves h heffect hx) (accepted_of_serves h heffect hy)
  origin id x hx := by
    obtain ⟨hid, haccepted⟩ := hs.origin id x (stored_of_serves h heffect hx)
    exact ⟨hid, haccepted.mono h.log_prefix⟩

/-- What is added under an id that was given, and under which nothing was accepted, goes by a
different id from the others. -/
theorem Filed.addTimeout {x : Timeout} {answer : Except StorageError Unit} (hs : Filed s)
    (h : Serves s (.addTimeout x) answer u) (hgiven : ∃ n < s.world.ids, x.id = idText n)
    (hfree : ∀ y, Accepted s.log y → y.id ≠ x.id) : Filed u := by
  obtain ⟨hstored, -, hids, -⟩ := addTimeout_stored h
  have hlog := h.log_prefix
  -- what is accepted afterwards was accepted before, or is what was added
  have hback (y : Timeout) (hy : Accepted u.log y) : Accepted s.log y ∨ y = x := by
    rw [h.log] at hy
    exact (accepted_of_addTimeout hy).imp_right And.left
  refine ⟨honest_of_serves h hs.honest, fun y hy => ?_, fun y z hy hz hsame => ?_,
    fun id y hy => ?_⟩
  · rw [hids]
    rcases hback y hy with hy | rfl
    · exact hs.given y hy
    · exact hgiven
  · rcases hback y hy with hy | rfl
    · rcases hback z hz with hz | rfl
      · exact hs.unique y z hy hz hsame
      · exact absurd hsame (hfree y hy)
    · rcases hback z hz with hz | rfl
      · exact absurd hsame.symm (hfree z hz)
      · rfl
  · rcases hstored with ⟨-, hsame⟩ | ⟨rfl, hadded⟩
    · rw [hsame] at hy
      exact (hs.origin id y hy).imp_right fun haccepted => haccepted.mono hlog
    · rw [hadded] at hy
      split at hy
      · next hid =>
        cases hy
        refine ⟨hid.symm, ?_⟩
        rw [Accepted, h.log]
        simp
      · exact (hs.origin id y hy).imp_right fun haccepted => haccepted.mono hlog

theorem Sound.filed (hs : Sound s) : Filed s := ⟨hs.honest, hs.given, hs.unique, hs.origin⟩

/-- A scene that is filed is sound if nothing that was accepted got lost. -/
theorem Filed.sound (hs : Filed s)
    (hkept : ∀ x, Accepted s.log x → s.stored? x.id = some x ∨ Sent s.log x ∧ s.stored? x.id = none)
    (hpast : s.start ≤ s.now) : Sound s :=
  ⟨hs.given, hs.unique, hs.origin, hkept, hpast, hs.honest⟩

end Messaging.Timeouts.Manager
