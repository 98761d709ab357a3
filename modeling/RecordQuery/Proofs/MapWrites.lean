import Mathlib.Data.List.Basic
import Mathlib.Data.List.Induction
import RecordQuery.OrderedMap

/-!
# Runs of writes

A run of writes to an `OrderedMap` leaves the keys in the order in which each was first there
(`keys_insertMany`), and each with the value that it was given last (`get?_insertMany`).  A map is
determined by its keys and their values (`ext_get?`), so these two say all of what a run does.  It
follows that writing a map that pairs were collected in is the same as writing the pairs
(`extend_ofList`).
-/

namespace RecordQuery

/-! ### First occurrences -/

theorem eraseDups_concat (keys : List String) (key : String) :
    (keys ++ [key]).eraseDups =
      if key ∈ keys then keys.eraseDups else keys.eraseDups ++ [key] := by
  rw [List.eraseDups_append, List.cons_removeAll, List.nil_removeAll]
  by_cases hkey : key ∈ keys <;> simp [hkey, List.eraseDups_cons]

theorem eraseDups_eq_self {keys : List String} (h : keys.Nodup) : keys.eraseDups = keys := by
  induction keys using List.reverseRecOn with
  | nil => rfl
  | append_singleton keys key ih =>
    obtain ⟨hkeys, -, hdisjoint⟩ := List.nodup_append.mp h
    have hkey : key ∉ keys := fun hmem => hdisjoint key hmem key (List.mem_singleton_self key) rfl
    rw [eraseDups_concat, if_neg hkey, ih hkeys]

/-- Of what is appended only the first occurrences matter. -/
theorem eraseDups_append_eraseDups (earlier later : List String) :
    (earlier ++ later.eraseDups).eraseDups = (earlier ++ later).eraseDups := by
  induction later using List.reverseRecOn with
  | nil => rfl
  | append_singleton later key ih =>
    rw [← List.append_assoc, eraseDups_concat (earlier ++ later), eraseDups_concat later]
    by_cases hkey : key ∈ later
    · rw [if_pos hkey, ih, if_pos (List.mem_append_right earlier hkey)]
    · rw [if_neg hkey, ← List.append_assoc, eraseDups_concat, ih]
      simp only [List.mem_append, List.mem_eraseDups]

namespace OrderedMap

variable {α : Type}

/-! ### One write -/

theorem keys_insert (m : OrderedMap α) (key : String) (value : α) :
    (m.insert key value).keys = if key ∈ m.keys then m.keys else m.keys ++ [key] :=
  keys_insertEntry key value m.entries

theorem lookup_cons_of_ne {k key : String} (h : k ≠ key) (value : α)
    (entries : List (String × α)) : ((key, value) :: entries).lookup k = entries.lookup k := by
  rw [List.lookup_cons, beq_false_of_ne h]

theorem get?_insert (m : OrderedMap α) (key : String) (value : α) (k : String) :
    (m.insert key value).get? k = if k = key then some value else m.get? k := by
  show (insertEntry key value m.entries).lookup k = if k = key then _ else m.entries.lookup k
  induction m.entries with
  | nil =>
    rw [insertEntry]
    by_cases hk : k = key
    · rw [if_pos hk, hk, List.lookup_cons_self]
    · rw [if_neg hk, lookup_cons_of_ne hk]
  | cons e rest ih =>
    obtain ⟨key', value'⟩ := e
    by_cases hkey : key' = key
    · subst hkey
      rw [insertEntry, if_pos rfl]
      by_cases hk : k = key'
      · rw [if_pos hk, hk, List.lookup_cons_self]
      · rw [if_neg hk, lookup_cons_of_ne hk, lookup_cons_of_ne hk]
    · rw [insertEntry, if_neg hkey]
      by_cases hk : k = key'
      · subst hk
        rw [if_neg hkey, List.lookup_cons_self, List.lookup_cons_self]
      · rw [lookup_cons_of_ne hk, lookup_cons_of_ne hk, ih]

theorem mem_insertEntry {key : String} {value : α} {entries : List (String × α)} {e : String × α}
    (h : e ∈ insertEntry key value entries) : e = (key, value) ∨ e ∈ entries := by
  induction entries with
  | nil => simpa [insertEntry] using h
  | cons first rest ih =>
    obtain ⟨k, v⟩ := first
    rw [insertEntry] at h
    split at h
    · rename_i hk
      rcases List.mem_cons.mp h with rfl | h
      · exact Or.inl (by rw [hk])
      · exact Or.inr (List.mem_cons_of_mem _ h)
    · rcases List.mem_cons.mp h with rfl | h
      · exact Or.inr List.mem_cons_self
      · exact (ih h).imp_right (List.mem_cons_of_mem _)

/-! ### All writes -/

theorem insertMany_append (m : OrderedMap α) (first second : List (String × α)) :
    m.insertMany (first ++ second) = (m.insertMany first).insertMany second :=
  List.foldl_append

theorem insertMany_concat (m : OrderedMap α) (pairs : List (String × α)) (key : String)
    (value : α) : m.insertMany (pairs ++ [(key, value)]) = (m.insertMany pairs).insert key value :=
  insertMany_append m pairs [(key, value)]

/-- The keys stand in the order in which each was first there. -/
theorem keys_insertMany (m : OrderedMap α) (pairs : List (String × α)) :
    (m.insertMany pairs).keys = (m.keys ++ pairs.map Prod.fst).eraseDups := by
  -- from the right, as the last pair is the last to be written
  induction pairs using List.reverseRecOn with
  | nil =>
    rw [List.map_nil, List.append_nil]
    exact (eraseDups_eq_self m.nodup).symm
  | append_singleton pairs p ih =>
    rw [insertMany_concat, keys_insert, ih, List.map_append, List.map_singleton,
      ← List.append_assoc, eraseDups_concat]
    simp only [List.mem_eraseDups]

/-- A key has the value that it was given last. -/
theorem get?_insertMany (m : OrderedMap α) (pairs : List (String × α)) (key : String) :
    (m.insertMany pairs).get? key = (pairs.reverse.lookup key).or (m.get? key) := by
  induction pairs using List.reverseRecOn with
  | nil => rfl
  | append_singleton pairs p ih =>
    rw [insertMany_concat, get?_insert, ih, List.reverse_concat]
    by_cases hkey : key = p.1
    · rw [if_pos hkey, hkey, List.lookup_cons_self, Option.some_or]
    · rw [if_neg hkey, lookup_cons_of_ne hkey]

theorem keys_ofList (pairs : List (String × α)) :
    (ofList pairs).keys = (pairs.map Prod.fst).eraseDups :=
  keys_insertMany empty pairs

theorem get?_ofList (pairs : List (String × α)) (key : String) :
    (ofList pairs).get? key = pairs.reverse.lookup key := by
  rw [ofList, get?_insertMany]
  exact Option.or_none

/-- What a map holds was written to it. -/
theorem mem_of_mem_ofList {pairs : List (String × α)} {e : String × α}
    (h : e ∈ (ofList pairs).toList) : e ∈ pairs := by
  induction pairs using List.reverseRecOn with
  | nil => exact absurd h List.not_mem_nil
  | append_singleton pairs p ih =>
    rw [ofList, insertMany_concat] at h
    rcases mem_insertEntry h with rfl | h
    · exact List.mem_append_right pairs (List.mem_singleton_self _)
    · exact List.mem_append_left _ (ih h)

/-! ### What determines a map -/

theorem eq_of_entries_eq {m n : OrderedMap α} (h : m.entries = n.entries) : m = n := by
  cases m
  cases n
  congr

theorem entries_eq_filterMap (m : OrderedMap α) :
    m.entries = m.keys.filterMap fun key => (m.get? key).map (key, ·) := by
  obtain ⟨entries, hnodup⟩ := m
  show entries = (entries.map Prod.fst).filterMap fun key => (entries.lookup key).map (key, ·)
  induction entries with
  | nil => rfl
  | cons e rest ih =>
    obtain ⟨key, value⟩ := e
    obtain ⟨hkey, hrest⟩ := List.nodup_cons.mp hnodup
    have hlater : ∀ k ∈ rest.map Prod.fst,
        (((key, value) :: rest).lookup k).map (k, ·) = (rest.lookup k).map (k, ·) := by
      intro k hk
      have hne : k ≠ key := fun heq => hkey (heq ▸ hk)
      rw [lookup_cons_of_ne hne]
    rw [List.map_cons, List.filterMap_cons, List.lookup_cons_self, Option.map_some,
      List.filterMap_congr hlater, ← ih hrest]

/-- Maps with the same keys in the same order and the same values are the same. -/
theorem ext_get? {m n : OrderedMap α} (hkeys : m.keys = n.keys)
    (hget : ∀ key, m.get? key = n.get? key) : m = n := by
  apply eq_of_entries_eq
  rw [entries_eq_filterMap, entries_eq_filterMap n, hkeys]
  simp only [hget]

theorem eq_ofList_iff {m : OrderedMap α} {pairs : List (String × α)} :
    m = ofList pairs ↔ m.keys = (pairs.map Prod.fst).eraseDups ∧
      ∀ key, m.get? key = pairs.reverse.lookup key := by
  constructor
  · rintro rfl
    exact ⟨keys_ofList pairs, get?_ofList pairs⟩
  · rintro ⟨hkeys, hget⟩
    refine ext_get? (hkeys.trans (keys_ofList pairs).symm) fun key => ?_
    rw [hget, get?_ofList]

/-! ### Merging -/

/-- Collecting the entries of a map gives the map. -/
theorem ofList_entries (m : OrderedMap α) : ofList m.entries = m :=
  eq_of_entries_eq (entries_insertMany m.nodup empty fun _ _ => List.not_mem_nil)

/-- Merging what pairs were collected in is writing the pairs. -/
theorem extend_ofList (m : OrderedMap α) (pairs : List (String × α)) :
    m.extend (ofList pairs) = m.insertMany pairs := by
  -- collecting drops the values that are written over, which changes no key and no look-up
  refine ext_get? ?_ fun key => ?_
  · have hkeys : (ofList pairs).entries.map Prod.fst = (pairs.map Prod.fst).eraseDups :=
      keys_ofList pairs
    rw [extend, keys_insertMany, keys_insertMany, hkeys, eraseDups_append_eraseDups]
  · have hget : (ofList pairs).entries.reverse.lookup key = pairs.reverse.lookup key := by
      rw [← get?_ofList, ofList_entries, get?_ofList]
    rw [extend, get?_insertMany, get?_insertMany, hget]

theorem ofList_append (first second : List (String × α)) :
    ofList (first ++ second) = (ofList first).extend (ofList second) := by
  rw [extend_ofList, ofList, insertMany_append]
  rfl

theorem empty_extend (m : OrderedMap α) : empty.extend m = m := ofList_entries m

/-- Merging maps one after the other is writing all their entries. -/
theorem foldl_extend (m : OrderedMap α) (maps : List (OrderedMap α)) :
    maps.foldl extend m = m.insertMany (maps.flatMap entries) := by
  induction maps generalizing m with
  | nil => rfl
  | cons n maps ih => rw [List.foldl_cons, ih, List.flatMap_cons, insertMany_append, extend]

/-- It does not matter whether maps are merged into `m` or among themselves first. -/
theorem extend_foldl_extend (m : OrderedMap α) (maps : List (OrderedMap α)) :
    m.extend (maps.foldl extend empty) = maps.foldl extend m := by
  rw [foldl_extend, foldl_extend m]
  exact extend_ofList m (maps.flatMap entries)

end OrderedMap

end RecordQuery
