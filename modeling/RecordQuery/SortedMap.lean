/-!
# Sorted maps

A `SortedMap α` holds values under text keys, in the order of the keys by code point.  It is what
a store of tables, a registry of models, the cells of a row and the members of a JSON object are:
collections that are listed by key, whatever the order in which they were filled.

`get?_insert_self` and `get?_insert_of_ne` say what a write changes.
-/

namespace RecordQuery

/-- Values under text keys, listed in the order of the keys. -/
structure SortedMap (α : Type) where
  /-- The entries, in the order of their keys. -/
  entries : List (String × α)

namespace SortedMap

variable {α : Type}

/-- The map without entries. -/
def empty : SortedMap α := ⟨[]⟩

instance : Inhabited (SortedMap α) := ⟨empty⟩

/-- Writes an entry in front of the first one with a larger key, or over the one with its key. -/
def insertEntry (key : String) (value : α) : List (String × α) → List (String × α)
  | [] => [(key, value)]
  | (k, v) :: rest =>
    if key = k then (key, value) :: rest
    else if key < k then (key, value) :: (k, v) :: rest
    else (k, v) :: insertEntry key value rest

/-- Gives `key` the value `value`. -/
def insert (m : SortedMap α) (key : String) (value : α) : SortedMap α :=
  ⟨insertEntry key value m.entries⟩

/-- The value of `key`. -/
def get? (m : SortedMap α) (key : String) : Option α := m.entries.lookup key

/-- The entries, in the order of their keys. -/
def toList (m : SortedMap α) : List (String × α) := m.entries

/-- The values, in the order of their keys. -/
def values (m : SortedMap α) : List α := m.entries.map Prod.snd

/-- The number of keys. -/
def size (m : SortedMap α) : Nat := m.entries.length

/-- The map that the pairs write, one after the other. -/
def ofList (pairs : List (String × α)) : SortedMap α :=
  pairs.foldl (fun m p => m.insert p.1 p.2) empty

/-! ### What a write changes -/

theorem lookup_insertEntry_self (key : String) (value : α) (entries : List (String × α)) :
    (insertEntry key value entries).lookup key = some value := by
  induction entries with
  | nil => simp [insertEntry]
  | cons e rest ih =>
    obtain ⟨k, v⟩ := e
    by_cases h : key = k
    · simp [insertEntry, h]
    · by_cases hlt : key < k
      · simp [insertEntry, h, hlt]
      · simp only [insertEntry, if_neg h, if_neg hlt, List.lookup_cons, beq_eq_false_iff_ne.2 h, ih]

theorem lookup_insertEntry_of_ne {key other : String} (h : other ≠ key) (value : α)
    (entries : List (String × α)) :
    (insertEntry key value entries).lookup other = entries.lookup other := by
  have hb : (other == key) = false := beq_eq_false_iff_ne.2 h
  induction entries with
  | nil => simp [insertEntry, List.lookup_cons, hb]
  | cons e rest ih =>
    obtain ⟨k, v⟩ := e
    by_cases hk : key = k
    · subst hk
      simp [insertEntry, List.lookup_cons, hb]
    · by_cases hlt : key < k
      · simp [insertEntry, hk, hlt, List.lookup_cons, hb]
      · simp only [insertEntry, if_neg hk, if_neg hlt, List.lookup_cons, ih]

/-- The key that was written has the value written. -/
@[simp] theorem get?_insert_self (m : SortedMap α) (key : String) (value : α) :
    (m.insert key value).get? key = some value :=
  lookup_insertEntry_self key value m.entries

/-- The other keys have the values they had. -/
theorem get?_insert_of_ne (m : SortedMap α) {key other : String} (h : other ≠ key) (value : α) :
    (m.insert key value).get? other = m.get? other :=
  lookup_insertEntry_of_ne h value m.entries

end SortedMap

end RecordQuery
