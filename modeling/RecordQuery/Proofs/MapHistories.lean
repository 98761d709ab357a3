import Mathlib.Data.Finset.Card
import RecordQuery.Proofs.MapWrites

/-!
# How ordered maps come about

A map is collected from pairs, is given one more value, or has another map merged into it, which
came about in the same way (`OrderedMap.History`).  However it came about, it is the map of all the
pairs that were written on the way, one after the other (`OrderedMap.History.map_eq_ofList`): its
keys stand in the order in which each was first written, and each has the value that it was given
last.

Merging maps is writing what they hold, one after the other, so it does not matter how a row of
merges is put in brackets; merging with the empty map, or with the map itself, changes nothing
(`OrderedMap.history_writes`).
-/

namespace RecordQuery.OrderedMap

variable {α : Type}

/-- How a map came about. -/
inductive History (α : Type) where
  /-- Pairs were collected, perhaps none. -/
  | collected (pairs : List (String × α))
  /-- A key was given a value. -/
  | inserted (before : History α) (key : String) (value : α)
  /-- Another map was merged in. -/
  | extended (before other : History α)

namespace History

/-- The map that came about. -/
def map : History α → OrderedMap α
  | collected pairs => ofList pairs
  | inserted before key value => before.map.insert key value
  | extended before other => before.map.extend other.map

/-- All the pairs that were written, in order. -/
def pairs : History α → List (String × α)
  | collected pairs => pairs
  | inserted before key value => before.pairs ++ [(key, value)]
  | extended before other => before.pairs ++ other.pairs

/-- What came about is what the pairs write. -/
theorem map_eq_ofList (h : History α) : h.map = ofList h.pairs := by
  induction h with
  | collected pairs => rfl
  | inserted before key value ih =>
    show before.map.insert key value = ofList (before.pairs ++ [(key, value)])
    rw [ofList, insertMany_concat, ih]
    rfl
  | extended before other ihBefore ihOther =>
    show before.map.extend other.map = ofList (before.pairs ++ other.pairs)
    rw [ihBefore, ihOther, ofList_append]

end History

/-! ### The last value of a key -/

/-- The last of the pairs that has the key gives it this value. -/
def GivenLast (pairs : List (String × α)) (key : String) (value : α) : Prop :=
  ∃ earlier later, pairs = earlier ++ (key, value) :: later ∧ ∀ p ∈ later, key ≠ p.1

theorem lookup_reverse_eq_some_iff {pairs : List (String × α)} {key : String} {value : α} :
    pairs.reverse.lookup key = some value ↔ GivenLast pairs key value := by
  rw [List.lookup_eq_some_iff, GivenLast]
  constructor
  · rintro ⟨later, earlier, hpairs, hlater⟩
    refine ⟨earlier.reverse, later.reverse, ?_, fun p hp => ?_⟩
    · rw [List.reverse_eq_iff.mp hpairs]
      simp
    · exact bne_iff_ne.mp (hlater p (List.mem_reverse.mp hp))
  · rintro ⟨earlier, later, rfl, hlater⟩
    refine ⟨later.reverse, earlier.reverse, by simp, fun p hp => ?_⟩
    exact bne_iff_ne.mpr (hlater p (List.mem_reverse.mp hp))

theorem lookup_reverse_eq_none_iff {pairs : List (String × α)} {key : String} :
    pairs.reverse.lookup key = none ↔ ∀ p ∈ pairs, key ≠ p.1 := by
  simp only [List.lookup_eq_none_iff, List.mem_reverse, bne_iff_ne]

/-! ### The number of keys -/

theorem size_ofList (pairs : List (String × α)) :
    (ofList pairs).size = (pairs.map Prod.fst).toFinset.card := by
  have hkeys := keys_ofList pairs
  calc (ofList pairs).size = (ofList pairs).keys.length := (List.length_map _).symm
    _ = (ofList pairs).keys.toFinset.card := (List.toFinset_card_of_nodup (ofList pairs).nodup).symm
    _ = (pairs.map Prod.fst).toFinset.card := by
      congr 1
      ext key
      rw [hkeys, List.mem_toFinset, List.mem_toFinset, List.mem_eraseDups]

/-! ### Merging -/

theorem extend_assoc (m n o : OrderedMap α) : m.extend (n.extend o) = (m.extend n).extend o := by
  -- what is merged last is the map of all that the other two hold
  have hwrites : n.extend o = ofList (n.entries ++ o.entries) := by
    rw [ofList_append, ofList_entries, ofList_entries]
  rw [hwrites, extend_ofList, insertMany_append]
  rfl

/-- Writing to a map what it holds changes neither its keys nor their values. -/
theorem extend_self (m : OrderedMap α) : m.extend m = m := by
  apply ext_get?
  · show (m.insertMany m.entries).keys = m.keys
    rw [keys_insertMany, List.eraseDups_append]
    show m.keys.eraseDups ++ (m.keys.removeAll m.keys).eraseDups = m.keys
    have hnone : m.keys.removeAll m.keys = [] := by simp [List.removeAll]
    rw [hnone, List.eraseDups_nil, List.append_nil]
    exact eraseDups_eq_self m.nodup
  · intro key
    have hget : m.entries.reverse.lookup key = m.get? key := by
      rw [← get?_ofList, ofList_entries]
    rw [extend, get?_insertMany, hget, Option.or_self]

/-! ### All histories -/

/-- **However a map came about, its keys are distinct and stand in the order in which they were
first written, and each has the value that it was given last.**  A key that was never written has
none, and the size is the number of different keys.  Merges can be put in brackets as one likes,
merging with nothing or with the map itself changes nothing, and pairs may be collected in two
parts. -/
theorem history_writes :
    (∀ h : History α,
      h.map.keys.Nodup ∧ h.map.keys = (h.pairs.map Prod.fst).eraseDups ∧
      (∀ key value, h.map.get? key = some value ↔ GivenLast h.pairs key value) ∧
      (∀ key, h.map.get? key = none ↔ ∀ p ∈ h.pairs, key ≠ p.1) ∧
      h.map.size = (h.pairs.map Prod.fst).toFinset.card) ∧
    (∀ m n o : OrderedMap α, m.extend (n.extend o) = (m.extend n).extend o) ∧
    (∀ m : OrderedMap α, m.extend empty = m ∧ empty.extend m = m ∧ m.extend m = m) ∧
    ∀ first second : List (String × α),
      ofList (first ++ second) = (ofList first).extend (ofList second) := by
  refine ⟨fun h => ?_, extend_assoc, fun m => ⟨rfl, empty_extend m, extend_self m⟩, ofList_append⟩
  obtain ⟨hkeys, hget⟩ := eq_ofList_iff.mp h.map_eq_ofList
  refine ⟨h.map.nodup, hkeys, fun key value => ?_, fun key => ?_, ?_⟩
  · rw [hget, lookup_reverse_eq_some_iff]
  · rw [hget, lookup_reverse_eq_none_iff]
  · rw [h.map_eq_ofList, size_ofList]

/-- A key that is merged in again keeps its place and takes the later value. -/
example : (History.extended (.inserted (.collected [("a", 1), ("b", 2)]) "c" 3)
    (.collected [("d", 4), ("a", 5)])).map.toList = [("a", 5), ("b", 2), ("c", 3), ("d", 4)] := rfl

end RecordQuery.OrderedMap
