/-!
# Ordered maps

An `OrderedMap α` holds values under distinct text keys, in the order in which the keys first
arrived.  Writing to a key that is already there replaces its value and leaves it where it stands
(`insert`), so of several values given to one key the last one stays, at the place of the first.

`keys_insertEntry` says which keys a write leaves, and in which order; it is what keeps the keys
distinct.  Writing keys that are not there appends them (`entries_insertMany`).  The clauses of a filter expression and the lookups of a resolved query are such maps.
-/

namespace RecordQuery

/-- Values under distinct text keys, in the order in which the keys first arrived. -/
structure OrderedMap (α : Type) where
  /-- The entries, in order. -/
  entries : List (String × α)
  /-- No key stands twice. -/
  nodup : (entries.map Prod.fst).Nodup

namespace OrderedMap

variable {α : Type}

/-! ### Writing -/

/-- Gives `key` the value `value`: at its place if it is there, at the end otherwise. -/
def insertEntry (key : String) (value : α) : List (String × α) → List (String × α)
  | [] => [(key, value)]
  | (k, v) :: rest => if k = key then (k, value) :: rest else (k, v) :: insertEntry key value rest

/-- A write leaves the keys as they are, and appends the key if it was not there. -/
theorem keys_insertEntry (key : String) (value : α) (entries : List (String × α)) :
    (insertEntry key value entries).map Prod.fst =
      if key ∈ entries.map Prod.fst then entries.map Prod.fst
      else entries.map Prod.fst ++ [key] := by
  induction entries with
  | nil => simp [insertEntry]
  | cons e rest ih =>
    obtain ⟨k, v⟩ := e
    by_cases h : k = key
    · simp [insertEntry, h]
    · have h' : ¬ key = k := fun e => h e.symm
      by_cases hm : key ∈ rest.map Prod.fst
      · have := ih
        rw [if_pos hm] at this
        simp only [insertEntry, if_neg h, List.map_cons, this]
        rw [if_pos (List.mem_cons_of_mem _ hm)]
      · have := ih
        rw [if_neg hm] at this
        simp only [insertEntry, if_neg h, List.map_cons, this]
        rw [if_neg (by simp only [List.mem_cons, not_or]; exact ⟨h', hm⟩)]
        rfl

/-- A write keeps the keys distinct. -/
theorem nodup_insertEntry (key : String) (value : α) {entries : List (String × α)}
    (h : (entries.map Prod.fst).Nodup) :
    ((insertEntry key value entries).map Prod.fst).Nodup := by
  rw [keys_insertEntry]
  split
  · exact h
  · rename_i hm
    rw [List.nodup_append]
    refine ⟨h, by simp, ?_⟩
    intro a ha b hb
    simp only [List.mem_singleton] at hb
    subst hb
    exact fun e => hm (e ▸ ha)

/-- The map without entries. -/
def empty : OrderedMap α := ⟨[], by simp⟩

instance : Inhabited (OrderedMap α) := ⟨empty⟩

/-- Gives `key` the value `value`, at the place of `key` if it has one and at the end otherwise. -/
def insert (m : OrderedMap α) (key : String) (value : α) : OrderedMap α :=
  ⟨insertEntry key value m.entries, nodup_insertEntry key value m.nodup⟩

/-- Writes the pairs one after the other. -/
def insertMany (m : OrderedMap α) (pairs : List (String × α)) : OrderedMap α :=
  pairs.foldl (fun m p => m.insert p.1 p.2) m

/-- The map that the pairs write, one after the other, starting from nothing. -/
def ofList (pairs : List (String × α)) : OrderedMap α := empty.insertMany pairs

/-- Merges `other` into `m`; where both have a key, the value of `other` stays. -/
def extend (m other : OrderedMap α) : OrderedMap α := m.insertMany other.entries

theorem insertEntry_of_notMem {key : String} (value : α) {entries : List (String × α)}
    (h : key ∉ entries.map Prod.fst) : insertEntry key value entries = entries ++ [(key, value)] := by
  induction entries with
  | nil => rfl
  | cons e rest ih =>
    obtain ⟨k, v⟩ := e
    simp only [List.map_cons, List.mem_cons, not_or] at h
    have hne : k ≠ key := fun heq => h.1 heq.symm
    rw [insertEntry, if_neg hne, ih h.2, List.cons_append]

/-- Pairs whose keys are new and distinct are appended as they stand. -/
theorem entries_insertMany {pairs : List (String × α)} (hnodup : (pairs.map Prod.fst).Nodup)
    (m : OrderedMap α) (hnew : ∀ p ∈ pairs, p.1 ∉ m.entries.map Prod.fst) :
    (m.insertMany pairs).entries = m.entries ++ pairs := by
  induction pairs generalizing m with
  | nil => exact (List.append_nil _).symm
  | cons p pairs ih =>
    obtain ⟨key, value⟩ := p
    obtain ⟨hfirst, hrest⟩ := List.forall_mem_cons.mp hnew
    obtain ⟨hkey, hnodup⟩ := List.nodup_cons.mp hnodup
    have hinsert : (m.insert key value).entries = m.entries ++ [(key, value)] :=
      insertEntry_of_notMem value hfirst
    have hnew' : ∀ p ∈ pairs, p.1 ∉ (m.insert key value).entries.map Prod.fst := by
      intro p hp
      rw [hinsert, List.map_append, List.mem_append, not_or]
      refine ⟨hrest p hp, fun heq => hkey ?_⟩
      rw [← List.mem_singleton.mp heq]
      exact List.mem_map_of_mem hp
    show ((m.insert key value).insertMany pairs).entries = _
    rw [ih hnodup _ hnew', hinsert, List.append_assoc]
    rfl

/-! ### Reading -/

/-- The entries, in order. -/
def toList (m : OrderedMap α) : List (String × α) := m.entries

/-- The keys, in order. -/
def keys (m : OrderedMap α) : List String := m.entries.map Prod.fst

/-- The value of `key`. -/
def get? (m : OrderedMap α) (key : String) : Option α := m.entries.lookup key

/-- The number of keys. -/
def size (m : OrderedMap α) : Nat := m.entries.length

/-- Whether there is no entry. -/
def isEmpty (m : OrderedMap α) : Bool := m.entries.isEmpty

end OrderedMap

end RecordQuery
