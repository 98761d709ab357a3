import RecordQuery.Lookup
import RecordQuery.Proofs.Segments

/-!
# Qualified keys

A store is asked by qualified keys, which it takes apart again.  It finds the path and the operator
that were put in (`split_qualified_of_not_open`), unless the last field of the path ends with an
underscore: that underscore and the separator behind it are then read as a separator and an
underscore in front of the operator, which so becomes a field (`split_qualified_of_open`).  In terms
of the key itself the path survives exactly if the key ends with an even number of underscores
(`split_qualified_iff`).
-/

namespace RecordQuery.Lookup

open Text

/-! ### Taking a key apart -/

/-- Whether the last field of the path ends with an underscore. -/
def EndsOpen (path : List String) : Prop :=
  (path.getLast?.bind fun s => s.toList.getLast?) = some '_'

theorem unsnoc?_concat (front : List String) (last : String) :
    unsnoc? (front ++ [last]) = some (front, last) := by
  induction front with
  | nil => rfl
  | cons s front ih =>
    rw [List.cons_append, unsnoc?, ih]
    · rfl
    · simp

theorem ofSegments_concat {front : List String} (hne : front ≠ []) {last : String} :
    ofSegments (front ++ [last]) =
      if last = "" then ⟨front, .exact⟩
      else match Operator.ofToken? last with
        | some op => ⟨front, op⟩
        | none => ⟨front ++ [last], .exact⟩ := by
  obtain ⟨s, front, rfl⟩ := List.exists_cons_of_ne_nil hne
  rw [ofSegments, unsnoc?_concat]
  rfl

theorem token_ne_empty (op : Operator) : op.token ≠ "" := by
  cases op <;> decide

theorem token_unbroken (op : Operator) : Unbroken op.token.toList := by
  cases op <;> simp [Operator.token, Unbroken]

theorem token_getLast? (op : Operator) : op.token.toList.getLast? ≠ some '_' := by
  cases op <;> decide

theorem token_of_ofToken? {s : String} {op : Operator} (h : Operator.ofToken? s = some op) :
    op.token = s := by
  simpa using List.find?_some h

/-- A path is all segments of its key, or all but a last one that does not end with an
underscore. -/
theorem segments_eq (key : String) :
    segments key = (split key).path ∨
      (split key).path ≠ [] ∧ ∃ last : String,
        segments key = (split key).path ++ [last] ∧ last.toList.getLast? ≠ some '_' := by
  have hne : segments key ≠ [] := by simp [segments, segmentChars_ne_nil]
  obtain ⟨front, last, hseg⟩ := (List.eq_nil_or_concat' (segments key)).resolve_left hne
  rw [split, hseg]
  by_cases hfront : front = []
  · subst hfront
    exact Or.inl rfl
  · rw [ofSegments_concat hfront]
    split
    · rename_i hlast
      exact Or.inr ⟨hfront, last, rfl, by simp [hlast]⟩
    · cases htok : Operator.ofToken? last with
      | none => exact Or.inl rfl
      | some op =>
        refine Or.inr ⟨hfront, last, rfl, ?_⟩
        rw [← token_of_ofToken? htok]
        exact token_getLast? op

theorem path_ne_nil (key : String) : (split key).path ≠ [] := by
  rcases segments_eq key with h | h
  · rw [← h]
    simp [segments, segmentChars_ne_nil]
  · exact h.1

/-- A path is a list of segments that cutting gives. -/
theorem segmented_path (key : String) : Segmented ((split key).path.map String.toList) := by
  have hseg := segmented_segmentChars key.toList
  rw [← toList_segments] at hseg
  rcases segments_eq key with h | ⟨hne, last, h, -⟩
  · rwa [h] at hseg
  · rw [h, List.map_append] at hseg
    refine ⟨by simpa using hne, fun p hp => ?_, fun p hp => ?_⟩
    · exact hseg.unbroken p (List.mem_append_left _ hp)
    · refine hseg.closed p ?_
      rw [List.map_singleton, List.dropLast_concat]
      exact (List.dropLast_sublist _).subset hp

/-- The last field of the path ends with an underscore exactly if the key ends with an odd number
of them. -/
theorem endsOpen_path_iff (key : String) :
    EndsOpen (split key).path ↔ Odd (trailingCount key.toList) := by
  have hlast := getLast?_segment_eq_underscore_iff key.toList
  have hseg := segmented_segmentChars key.toList
  rw [← toList_segments] at hlast hseg
  rcases segments_eq key with h | ⟨hne, last, h, hend⟩
  · rw [← hlast, h, EndsOpen, List.getLast?_map, Option.bind_map]
    rfl
  · -- both sides are false: the path is what stands in front of the last segment
    rw [← hlast, h, List.map_append, List.map_singleton, List.getLast?_concat]
    refine iff_of_false ?_ (by simpa using hend)
    obtain ⟨front, field, hpath⟩ := (List.eq_nil_or_concat' _).resolve_left hne
    rw [hpath, EndsOpen, List.getLast?_concat]
    refine hseg.closed field.toList ?_
    rw [h, hpath, List.map_append, List.map_singleton, List.dropLast_concat]
    simp

/-! ### Reading a qualified key -/

theorem segmented_concat {ps : List (List Char)} {p : List Char} (hps : Segmented ps)
    (hend : ps.getLast?.bind List.getLast? ≠ some '_') (hp : Unbroken p) :
    Segmented (ps ++ [p]) := by
  obtain ⟨front, last, rfl⟩ := (List.eq_nil_or_concat' ps).resolve_left hps.ne_nil
  refine ⟨by simp, fun q hq => ?_, fun q hq => ?_⟩
  · rcases List.mem_append.mp hq with hq | hq
    · exact hps.unbroken q hq
    · rw [List.mem_singleton.mp hq]
      exact hp
  · rw [List.dropLast_concat] at hq
    rcases List.mem_append.mp hq with hq | hq
    · exact hps.closed q (by rwa [List.dropLast_concat])
    · rw [List.mem_singleton.mp hq]
      simpa using hend

/-- A path and an operator are read back from their qualified key unless the path ends with an
underscore. -/
theorem split_qualified_of_not_open {path : List String}
    (hpath : Segmented (path.map String.toList)) (hopen : ¬ EndsOpen path) (op : Operator) :
    split (qualified ⟨path, op⟩) = ⟨path, op⟩ := by
  have hne : path ≠ [] := by simpa using hpath.ne_nil
  have hseg : Segmented ((path ++ [op.token]).map String.toList) := by
    rw [List.map_append, List.map_singleton]
    refine segmented_concat hpath ?_ (token_unbroken op)
    rwa [List.getLast?_map, Option.bind_map]
  rw [split, qualified, ← join_concat "__" op.token hne, segments_join hseg, ofSegments_concat hne,
    if_neg (token_ne_empty op), Operator.ofToken?_token]

theorem ofToken?_underscore (op : Operator) : Operator.ofToken? ("_" ++ op.token) = none := by
  cases op <;> decide

/-- If the path ends with an underscore, its qualified key is read as a path with one more field:
the operator, behind the underscore that the last field loses. -/
theorem split_qualified_of_open {front : List String} {last : String}
    (hpath : Segmented ((front ++ [last ++ "_"]).map String.toList)) (op : Operator) :
    split (qualified ⟨front ++ [last ++ "_"], op⟩) =
      ⟨front ++ [last] ++ ["_" ++ op.token], .exact⟩ := by
  have hne : front ++ [last] ≠ [] := by simp
  have hkey : qualified ⟨front ++ [last ++ "_"], op⟩ =
      join "__" (front ++ [last] ++ ["_" ++ op.token]) := by
    rw [qualified, join_concat_append, join_concat "__" _ hne]
    simp only [String.append_assoc]
    rfl
  have hunbroken : Unbroken (last.toList ++ ['_']) := by
    simpa using hpath.unbroken (last ++ "_").toList (by simp)
  have hlast : Segmented ((front ++ [last]).map String.toList) := by
    refine ⟨by simp, fun p hp => ?_, fun p hp => ?_⟩
    · rw [List.map_append, List.map_singleton, List.mem_append, List.mem_singleton] at hp
      rcases hp with hp | rfl
      · exact hpath.unbroken p (by simp [hp])
      · exact hunbroken.left_of_append
    · refine hpath.closed p ?_
      rw [List.map_append, List.map_singleton, List.dropLast_concat] at hp ⊢
      exact hp
  have hopen : ¬ EndsOpen (front ++ [last]) := by
    rw [EndsOpen, List.getLast?_concat]
    intro h
    obtain ⟨stem, hstem⟩ := List.getLast?_eq_some_iff.mp h
    rw [hstem, List.append_assoc] at hunbroken
    exact (List.isChain_cons_cons.mp hunbroken.right_of_append).1 ⟨rfl, rfl⟩
  have hseg : Segmented ((front ++ [last] ++ ["_" ++ op.token]).map String.toList) := by
    rw [List.map_append, List.map_singleton]
    refine segmented_concat hlast (by rwa [List.getLast?_map, Option.bind_map]) ?_
    cases op <;> simp [Operator.token, Unbroken]
  rw [split, hkey, segments_join hseg, ofSegments_concat hne, ofToken?_underscore]
  simp

/-! ### Keys -/

theorem exists_eq_append_underscore {path : List String} (h : EndsOpen path) :
    ∃ front last, path = front ++ [last ++ "_"] := by
  have hne : path ≠ [] := by
    rintro rfl
    simp [EndsOpen] at h
  obtain ⟨front, field, rfl⟩ := (List.eq_nil_or_concat' path).resolve_left hne
  rw [EndsOpen, List.getLast?_concat] at h
  obtain ⟨stem, hstem⟩ := List.getLast?_eq_some_iff.mp h
  refine ⟨front, String.ofList stem, ?_⟩
  have hfield : field = String.ofList stem ++ "_" := by
    rw [← String.toList_inj, hstem, String.toList_append, String.toList_ofList]
    rfl
  rw [hfield]

/-- A key whose path does not end with an underscore survives being qualified. -/
theorem split_qualified_split {key : String} (hopen : ¬ EndsOpen (split key).path) :
    split (split key).qualified = split key :=
  split_qualified_of_not_open (segmented_path key) hopen _

/-- The operator of a key survives being qualified, or becomes `exact`. -/
theorem operator_split_qualified (key : String) :
    (split (split key).qualified).operator = (split key).operator ∨
      (split (split key).qualified).operator = .exact := by
  by_cases hopen : EndsOpen (split key).path
  · right
    obtain ⟨front, last, hpath⟩ := exists_eq_append_underscore hopen
    have hseg := segmented_path key
    have hsplit : split key = ⟨front ++ [last ++ "_"], (split key).operator⟩ := by rw [← hpath]
    rw [hpath] at hseg
    rw [hsplit, split_qualified_of_open hseg]
  · left
    rw [split_qualified_split hopen]

/-- **A key survives** being qualified and taken apart again exactly if it ends with an even number
of underscores. -/
theorem split_qualified_iff (key : String) :
    split (split key).qualified = split key ↔ Even (trailingCount key.toList) := by
  rw [← Nat.not_odd_iff_even, ← endsOpen_path_iff]
  constructor
  · intro h hopen
    obtain ⟨front, last, hpath⟩ := exists_eq_append_underscore hopen
    have hseg := segmented_path key
    have hsplit : split key = ⟨front ++ [last ++ "_"], (split key).operator⟩ := by rw [← hpath]
    rw [hpath] at hseg
    rw [hsplit, split_qualified_of_open hseg] at h
    -- the path that is read back is longer
    simpa using congrArg (fun l => l.path.length) h
  · exact fun hopen => split_qualified_split hopen

example : split (split "a_").qualified = ⟨["a", "_exact"], .exact⟩ := by decide

end RecordQuery.Lookup
