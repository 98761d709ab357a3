import Mathlib.Data.String.Basic
import RecordQuery.SortedMap

/-!
# Sorted maps are sorted

A `SortedMap` that is filled by writes, starting from nothing, has its entries in the order of their
keys and no key twice (`sorted_empty`, `Sorted.insert`).  So its entries and the answers to look-ups
say the same (`Sorted.get?_eq_some_iff`): nothing is listed that cannot be found.

Of several writes to a key the last one stays (`get?_ofList`).
-/

namespace RecordQuery.SortedMap

variable {α : Type}

/-- The entries stand in the order of their keys, each key once. -/
def Sorted (m : SortedMap α) : Prop := m.entries.Pairwise fun a b => a.1 < b.1

theorem sorted_empty : (empty : SortedMap α).Sorted := List.Pairwise.nil

theorem mem_insertEntry {key : String} {value : α} {entries : List (String × α)} {e : String × α}
    (h : e ∈ insertEntry key value entries) : e = (key, value) ∨ e ∈ entries := by
  induction entries with
  | nil => simpa [insertEntry] using h
  | cons first rest ih =>
    obtain ⟨k, v⟩ := first
    rw [insertEntry] at h
    split at h
    · exact (List.mem_cons.mp h).imp_right (List.mem_cons_of_mem _)
    · split at h
      · exact List.mem_cons.mp h
      · rcases List.mem_cons.mp h with rfl | h
        · exact Or.inr List.mem_cons_self
        · exact (ih h).imp_right (List.mem_cons_of_mem _)

/-- A write puts a key where it belongs. -/
theorem Sorted.insert {m : SortedMap α} (h : m.Sorted) (key : String) (value : α) :
    (m.insert key value).Sorted := by
  obtain ⟨entries⟩ := m
  show (insertEntry key value entries).Pairwise _
  induction entries with
  | nil => exact List.pairwise_singleton _ _
  | cons first rest ih =>
    obtain ⟨k, v⟩ := first
    have hcons : ((k, v) :: rest).Pairwise fun a b => a.1 < b.1 := h
    obtain ⟨hfirst, hrest⟩ := List.pairwise_cons.mp hcons
    rw [insertEntry]
    split
    · rename_i heq
      subst heq
      exact List.pairwise_cons.mpr ⟨hfirst, hrest⟩
    · rename_i hne
      split
      · rename_i hlt
        refine List.pairwise_cons.mpr ⟨?_, hcons⟩
        intro e he
        rcases List.mem_cons.mp he with rfl | he
        · exact hlt
        · exact hlt.trans (hfirst e he)
      · rename_i hnot
        have hgt : k < key := lt_of_le_of_ne (not_lt.mp hnot) fun heq => hne heq.symm
        refine List.pairwise_cons.mpr ⟨?_, ih hrest⟩
        intro e he
        rcases mem_insertEntry he with rfl | he
        · exact hgt
        · exact hfirst e he

/-- **What is listed is what can be found.** -/
theorem Sorted.get?_eq_some_iff {m : SortedMap α} (h : m.Sorted) {key : String} {value : α} :
    m.get? key = some value ↔ (key, value) ∈ m.toList := by
  rw [get?, toList, List.lookup_eq_some_iff]
  constructor
  · rintro ⟨before, after, hentries, -⟩
    rw [hentries]
    simp
  · intro hmem
    obtain ⟨before, after, hentries⟩ := List.append_of_mem hmem
    refine ⟨before, after, hentries, fun e he => ?_⟩
    -- the keys in front of an entry are smaller than its own
    have hsorted : m.entries.Pairwise fun a b => a.1 < b.1 := h
    rw [hentries, List.pairwise_append] at hsorted
    have hlt : e.1 < key := hsorted.2.2 e he (key, value) List.mem_cons_self
    simpa using hlt.ne'

/-! ### Several writes -/

/-- A key has the value that it was given last, or the one that it had if it was given none. -/
theorem get?_foldl_insert (pairs : List (String × α)) (m : SortedMap α) (key : String) :
    (pairs.foldl (fun m p => m.insert p.1 p.2) m).get? key =
      ((pairs.filter fun p => p.1 = key).getLast?.map Prod.snd).or (m.get? key) := by
  induction pairs generalizing m with
  | nil => rfl
  | cons p pairs ih =>
    obtain ⟨k, v⟩ := p
    rw [List.foldl_cons, ih, List.filter_cons]
    by_cases hk : k = key
    · subst hk
      rw [if_pos (by simp), get?_insert_self, List.getLast?_cons]
      cases (pairs.filter fun p => p.1 = k).getLast? <;> rfl
    · rw [if_neg (by simpa using hk), get?_insert_of_ne m (fun h => hk h.symm)]

/-- Of several values given to one key the last one stays. -/
theorem get?_ofList (pairs : List (String × α)) (key : String) :
    (ofList pairs).get? key = (pairs.filter fun p => p.1 = key).getLast?.map Prod.snd := by
  rw [ofList, get?_foldl_insert]
  exact Option.or_none

theorem mem_of_mem_ofList {pairs : List (String × α)} {e : String × α}
    (h : e ∈ (ofList pairs).toList) : e ∈ pairs := by
  have hfold : ∀ (pairs : List (String × α)) (m : SortedMap α),
      e ∈ (pairs.foldl (fun m p => m.insert p.1 p.2) m).toList → e ∈ m.toList ∨ e ∈ pairs := by
    intro pairs
    induction pairs with
    | nil => exact fun m h => Or.inl h
    | cons p pairs ih =>
      intro m h
      rcases ih (m.insert p.1 p.2) h with h | h
      · exact (mem_insertEntry h).symm.imp_right fun h => List.mem_cons.mpr (Or.inl h)
      · exact Or.inr (List.mem_cons_of_mem p h)
  exact (hfold pairs empty h).resolve_left List.not_mem_nil

theorem sorted_ofList (pairs : List (String × α)) : (ofList pairs).Sorted := by
  have hfold : ∀ (pairs : List (String × α)) (m : SortedMap α), m.Sorted →
      (pairs.foldl (fun m p => m.insert p.1 p.2) m).Sorted := by
    intro pairs
    induction pairs with
    | nil => exact fun m hm => hm
    | cons p pairs ih => exact fun m hm => ih _ (hm.insert p.1 p.2)
  exact hfold pairs empty sorted_empty

end RecordQuery.SortedMap
