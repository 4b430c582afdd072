/-!
# Tables keyed by text

A `Table β` is a finite map from texts to values. Its entries stand in the order of their keys, so
listing a table needs no sorting.

- `Table.get?`, `Table.insert` and `Table.erase` are the map operations.
- `Table.get?_insert` and `Table.get?_erase` say what a look-up finds after a change.
- `Table.get?_eq_some_iff` says that the entries of a table are what its look-ups find.
-/

namespace Messaging

universe u

variable {β : Type u}

/-- The entry list with `value` under `key`, in key order. -/
def insertEntry (key : String) (value : β) : List (String × β) → List (String × β)
  | [] => [(key, value)]
  | (k, v) :: rest =>
    if key < k then (key, value) :: (k, v) :: rest
    else if key = k then (key, value) :: rest
    else (k, v) :: insertEntry key value rest

/-- The value under `key` in an entry list. -/
def lookupEntry (key : String) : List (String × β) → Option β
  | [] => none
  | (k, v) :: rest => if key = k then some v else lookupEntry key rest

/-- An entry of the extended list is the new one or an old one. -/
theorem mem_insertEntry {key : String} {value : β} {entry : String × β} :
    ∀ {entries : List (String × β)}, entry ∈ insertEntry key value entries →
      entry = (key, value) ∨ entry ∈ entries
  | [], h => by simpa [insertEntry] using h
  | (k, v) :: rest, h => by
    unfold insertEntry at h
    split at h
    · simpa using h
    · split at h
      · -- an entry with the same key is replaced, and one with a smaller key stays in front
        rcases List.mem_cons.1 h with h | h
        · exact .inl h
        · exact .inr (List.mem_cons_of_mem _ h)
      · rcases List.mem_cons.1 h with h | h
        · exact .inr (by simp [h])
        · rcases mem_insertEntry h with h | h
          · exact .inl h
          · exact .inr (List.mem_cons_of_mem _ h)

/-- Two texts of which neither is below the other are equal. -/
theorem lt_of_not_lt_of_ne {a b : String} (h : ¬ a < b) (hne : a ≠ b) : b < a := by
  rcases Decidable.em (b < a) with hlt | hlt
  · exact hlt
  · exact absurd (String.le_antisymm (String.not_lt.1 hlt) (String.not_lt.1 h)) hne

/-- Insertion keeps the entries in key order. -/
theorem pairwise_insertEntry (key : String) (value : β) :
    ∀ {entries : List (String × β)}, entries.Pairwise (fun a b => a.1 < b.1) →
      (insertEntry key value entries).Pairwise (fun a b => a.1 < b.1)
  | [], _ => by simp [insertEntry]
  | (k, v) :: rest, h => by
    have hrest := (List.pairwise_cons.1 h).2
    have hhead := (List.pairwise_cons.1 h).1
    unfold insertEntry
    split
    · rename_i hlt
      refine List.pairwise_cons.2 ⟨fun e he => ?_, h⟩
      rcases List.mem_cons.1 he with he | he
      · simpa [he] using hlt
      · exact String.lt_trans hlt (hhead e he)
    · rename_i hlt
      split
      · rename_i heq
        subst heq
        exact List.pairwise_cons.2 ⟨hhead, hrest⟩
      · rename_i hne
        -- the new entry comes behind the head, and the head stays the least
        refine List.pairwise_cons.2 ⟨fun e he => ?_, pairwise_insertEntry key value hrest⟩
        rcases mem_insertEntry he with he | he
        · simpa [he] using lt_of_not_lt_of_ne hlt hne
        · exact hhead e he

/-- A look-up below the smallest key finds nothing. -/
theorem lookupEntry_eq_none {key : String} :
    ∀ {entries : List (String × β)}, (∀ e ∈ entries, key ≠ e.1) → lookupEntry key entries = none
  | [], _ => rfl
  | (k, v) :: rest, h => by
    have hk : key ≠ k := h (k, v) (by simp)
    simp only [lookupEntry, hk, if_false]
    exact lookupEntry_eq_none fun e he => h e (List.mem_cons_of_mem _ he)

/-- Where no key stands twice, a look-up finds exactly the values that stand under its key. -/
theorem lookupEntry_eq_some_iff {key : String} {value : β} :
    ∀ {entries : List (String × β)}, entries.Pairwise (fun a b => a.1 < b.1) →
      (lookupEntry key entries = some value ↔ (key, value) ∈ entries)
  | [], _ => by simp [lookupEntry]
  | (k, v) :: rest, h => by
    obtain ⟨hhead, hrest⟩ := List.pairwise_cons.1 h
    rw [lookupEntry, List.mem_cons]
    split
    · rename_i heq
      subst heq
      have hother : (key, value) ∉ rest := fun hmem => String.lt_irrefl key (hhead _ hmem)
      simp [hother, eq_comm]
    · rename_i hne
      rw [lookupEntry_eq_some_iff hrest]
      simp [hne]

/-- After an insertion the look-up of the inserted key finds the inserted value. -/
theorem lookupEntry_insertEntry (key other : String) (value : β) :
    ∀ entries : List (String × β),
      lookupEntry other (insertEntry key value entries)
        = if other = key then some value else lookupEntry other entries
  | [] => by simp [insertEntry, lookupEntry]
  | (k, v) :: rest => by
    unfold insertEntry
    split
    · simp only [lookupEntry]
    · split
      · -- the key was there and has its new value
        rename_i heq
        subst heq
        by_cases h : other = key <;> simp [lookupEntry, h]
      · rename_i hne
        simp only [lookupEntry]
        by_cases h : other = k
        · subst h
          simp [Ne.symm hne]
        · simp only [h, if_false]
          exact lookupEntry_insertEntry key other value rest

/-- A finite map from texts to values, kept in the order of its keys. -/
structure Table (β : Type u) where
  /-- The entries, each key once. -/
  entries : List (String × β)
  /-- Keys increase along the entries. -/
  ordered : entries.Pairwise (fun a b => a.1 < b.1)
deriving DecidableEq

namespace Table

/-- The table with no entry. -/
def empty : Table β := ⟨[], .nil⟩

instance : EmptyCollection (Table β) := ⟨empty⟩

instance : Inhabited (Table β) := ⟨empty⟩

/-- The value under a key. -/
def get? (table : Table β) (key : String) : Option β :=
  lookupEntry key table.entries

/-- The value under a key, or `fallback` when there is none. -/
def getD (table : Table β) (key : String) (fallback : β) : β :=
  (table.get? key).getD fallback

/-- Whether a key has a value. -/
def contains (table : Table β) (key : String) : Bool :=
  (table.get? key).isSome

/-- The table with `value` under `key`, whatever stood there before. -/
def insert (table : Table β) (key : String) (value : β) : Table β :=
  ⟨insertEntry key value table.entries, pairwise_insertEntry key value table.ordered⟩

/-- The table with `value` under `key` unless the key has a value already. -/
def insertIfNew (table : Table β) (key : String) (value : β) : Table β :=
  if table.contains key then table else table.insert key value

/-- The table without `key`. -/
def erase (table : Table β) (key : String) : Table β :=
  ⟨table.entries.filter fun e => e.1 != key, table.ordered.filter _⟩

/-- How many keys have a value. -/
def size (table : Table β) : Nat := table.entries.length

/-- Whether no key has a value. -/
def isEmpty (table : Table β) : Bool := table.entries.isEmpty

/-- The entries in key order. -/
def toList (table : Table β) : List (String × β) := table.entries

/-- The keys in order. -/
def keys (table : Table β) : List String := table.entries.map (·.1)

/-- The table of a list of pairs; the last pair of a key wins. -/
def ofList (pairs : List (String × β)) : Table β :=
  pairs.foldl (fun table pair => table.insert pair.1 pair.2) empty

@[simp] theorem get?_empty (key : String) : (∅ : Table β).get? key = none := rfl

/-- After an insertion only the inserted key answers anew. -/
@[grind =]
theorem get?_insert (table : Table β) (key other : String) (value : β) :
    (table.insert key value).get? other = if other = key then some value else table.get? other :=
  lookupEntry_insertEntry key other value table.entries

/-- The look-up of `get?_insert` under the same key, and below under another. -/
@[simp] theorem get?_insert_self (table : Table β) (key : String) (value : β) :
    (table.insert key value).get? key = some value := by
  simp [get?_insert]

theorem get?_insert_of_ne (table : Table β) {key other : String} (value : β) (h : other ≠ key) :
    (table.insert key value).get? other = table.get? other := by
  simp [get?_insert, h]

/-- After such an insertion the key answers as before, or else anew. -/
theorem get?_insertIfNew (table : Table β) (key other : String) (value : β) :
    (table.insertIfNew key value).get? other
      = if other = key then some (table.getD key value) else table.get? other := by
  by_cases h : (table.get? key).isSome
  · obtain ⟨old, hold⟩ := Option.isSome_iff_exists.1 h
    rw [insertIfNew, contains, if_pos h]
    split
    · next hsame => rw [hsame, getD, hold, Option.getD_some]
    · rfl
  · rw [insertIfNew, contains, if_neg h, get?_insert, getD, Option.not_isSome_iff_eq_none.1 h,
      Option.getD_none]

/-- After an erasure only the erased key answers anew. -/
@[grind =]
theorem get?_erase (table : Table β) (key other : String) :
    (table.erase key).get? other = if other = key then none else table.get? other := by
  obtain ⟨entries, ordered⟩ := table
  simp only [get?, erase]
  clear ordered
  induction entries with
  | nil => simp [lookupEntry]
  | cons entry rest ih =>
    obtain ⟨k, v⟩ := entry
    by_cases hk : k = key
    · subst hk
      simp only [List.filter_cons, bne_self_eq_false, Bool.false_eq_true, if_false, ih, lookupEntry]
      by_cases ho : other = k <;> simp [ho]
    · have hbne : (k != key) = true := by simp [hk]
      simp only [List.filter_cons, hbne, if_true, lookupEntry, ih]
      by_cases ho : other = k
      · subst ho
        simp [hk]
      · simp [ho]

/-- The entries of a table are what its look-ups find. -/
theorem get?_eq_some_iff {table : Table β} {key : String} {value : β} :
    table.get? key = some value ↔ (key, value) ∈ table.toList :=
  lookupEntry_eq_some_iff table.ordered

end Table

end Messaging
