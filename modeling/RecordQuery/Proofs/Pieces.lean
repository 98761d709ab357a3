import RecordQuery.Proofs.Segments

/-!
# Pieces between separators

`Text.splitOn sep` cuts a text at every `sep`.  Its pieces are the only ones that have no separator
inside and that give the text back when they are put together (`splitOn_eq_iff`), and there is one
more of them than there are separators (`length_splitOn`).  Texts that are joined by a separator
have the pieces of the one and then those of the other (`splitOn_append`).

A text is a part of another one if it stands there without a gap (`occursIn_iff`).
-/

namespace RecordQuery.Text

/-- The pieces of a text between separators. -/
structure IsCut (sep : Char) (s : String) (ps : List String) : Prop where
  ne_nil : ps ≠ []
  /-- No piece has the separator inside. -/
  closed : ∀ p ∈ ps, sep ∉ p.toList
  /-- Put together they are the text. -/
  joined : join (String.singleton sep) ps = s

/-! ### Joining -/

theorem join_eq_intercalate (sep : String) (ss : List String) :
    join sep ss = sep.intercalate ss := by
  apply String.toList_inj.mp
  rw [toList_join, String.toList_intercalate]

theorem join_cons (sep s : String) {ss : List String} (h : ss ≠ []) :
    join sep (s :: ss) = s ++ sep ++ join sep ss := by
  rw [join_eq_intercalate, String.intercalate_cons_of_ne_nil h, join_eq_intercalate]

theorem join_append (sep : String) {ss ts : List String} (hss : ss ≠ []) (hts : ts ≠ []) :
    join sep (ss ++ ts) = join sep ss ++ sep ++ join sep ts := by
  simp only [join_eq_intercalate, String.intercalate_append_of_ne_nil hss hts]

/-- The first two texts may be joined beforehand. -/
theorem join_joined_cons (sep s t : String) (ss : List String) :
    join sep ((s ++ sep ++ t) :: ss) = join sep (s :: t :: ss) := by
  rw [join_cons sep s (List.cons_ne_nil t ss), join_eq_intercalate, join_eq_intercalate,
    String.intercalate_cons_append]

theorem mem_toList_join {sep : String} {ss : List String} {c : Char} (hsep : c ∉ sep.toList) :
    c ∈ (join sep ss).toList ↔ ∃ s ∈ ss, c ∈ s.toList := by
  fun_induction join sep ss with
  | case1 => simp
  | case2 s => simp
  | case3 s rest _ ih => simp [hsep, ih]

/-! ### Cutting -/

theorem splitChars_eq_splitOn (sep : Char) (cs : List Char) :
    splitChars sep cs = cs.splitOn sep := by
  induction cs with
  | nil => rfl
  | cons c cs ih =>
    obtain ⟨p, ps, hps⟩ := List.exists_cons_of_ne_nil (List.splitOn_ne_nil sep cs)
    have hcons := List.splitOnP_cons_eq_if_modifyHead (p := (· == sep)) c cs
    rw [← List.splitOn, ← List.splitOn, hps] at hcons
    rw [splitChars, ih, hps, hcons]
    simp [consHead]

theorem splitChars_ne_nil (sep : Char) (cs : List Char) : splitChars sep cs ≠ [] := by
  rw [splitChars_eq_splitOn]
  exact List.splitOn_ne_nil sep cs

theorem toList_splitOn (sep : Char) (s : String) :
    (splitOn sep s).map String.toList = s.toList.splitOn sep := by
  rw [splitOn, List.map_map, splitChars_eq_splitOn]
  exact (List.map_congr_left fun cs _ => String.toList_ofList).trans (List.map_id _)

theorem length_splitOn (sep : Char) (s : String) :
    (splitOn sep s).length = s.toList.count sep + 1 := by
  rw [splitOn, List.length_map]
  induction s.toList with
  | nil => rfl
  | cons c cs ih =>
    rw [splitChars, List.count_cons]
    by_cases hc : c = sep
    · rw [if_pos hc, List.length_cons, ih, if_pos (beq_iff_eq.mpr hc)]
    · obtain ⟨p, ps, hps⟩ := List.exists_cons_of_ne_nil (splitChars_ne_nil sep cs)
      rw [if_neg hc, hps, consHead, List.length_cons, ← List.length_cons, ← hps, ih,
        if_neg (by simpa using hc)]

theorem not_mem_of_mem_splitChars {sep : Char} {cs piece : List Char}
    (h : piece ∈ splitChars sep cs) : sep ∉ piece := by
  induction cs generalizing piece with
  | nil =>
    rw [splitChars, List.mem_singleton] at h
    exact h ▸ List.not_mem_nil
  | cons c cs ih =>
    obtain ⟨first, others, hcons⟩ := List.exists_cons_of_ne_nil (splitChars_ne_nil sep cs)
    rw [splitChars] at h
    split at h
    · rcases List.mem_cons.mp h with rfl | h
      · exact List.not_mem_nil
      · exact ih h
    · rename_i hc
      rw [hcons] at h ih
      rcases List.mem_cons.mp h with rfl | h
      · rw [List.mem_cons, not_or]
        exact ⟨fun heq => hc heq.symm, ih List.mem_cons_self⟩
      · exact ih (List.mem_cons_of_mem first h)

theorem not_mem_of_mem_splitOn {sep : Char} {s p : String} (hp : p ∈ splitOn sep s) :
    sep ∉ p.toList := by
  obtain ⟨piece, hpiece, rfl⟩ := List.mem_map.mp hp
  rw [String.toList_ofList]
  exact not_mem_of_mem_splitChars hpiece

theorem isCut_splitOn (sep : Char) (s : String) : IsCut sep s (splitOn sep s) := by
  refine ⟨?_, fun p hp => not_mem_of_mem_splitOn hp, ?_⟩
  · apply List.ne_nil_of_length_pos
    rw [length_splitOn]
    omega
  · apply String.toList_inj.mp
    rw [toList_join, toList_splitOn, String.toList_singleton]
    exact List.intercalate_splitOn sep

/-- The pieces are determined by having no separator inside and giving the text back. -/
theorem splitOn_eq_iff {sep : Char} {s : String} {ps : List String} :
    splitOn sep s = ps ↔ IsCut sep s ps := by
  constructor
  · rintro rfl
    exact isCut_splitOn sep s
  · rintro ⟨hne, hclosed, rfl⟩
    -- as lists of characters, which the library cuts and puts together as well
    have hcut : (splitOn sep (join (String.singleton sep) ps)).map String.toList =
        ps.map String.toList := by
      rw [toList_splitOn, toList_join, String.toList_singleton]
      refine List.splitOn_intercalate sep ?_ (by simpa using hne)
      simpa using hclosed
    exact List.map_injective_iff.mpr (fun a b => String.toList_inj.mp) hcut

theorem splitOn_join {sep : Char} {ps : List String} (hne : ps ≠ [])
    (hclosed : ∀ p ∈ ps, sep ∉ p.toList) : splitOn sep (join (String.singleton sep) ps) = ps :=
  splitOn_eq_iff.mpr ⟨hne, hclosed, rfl⟩

theorem join_splitOn (sep : Char) (s : String) :
    join (String.singleton sep) (splitOn sep s) = s :=
  (isCut_splitOn sep s).joined

/-- A text without a separator is one piece. -/
theorem splitOn_of_not_mem {sep : Char} {s : String} (h : sep ∉ s.toList) : splitOn sep s = [s] :=
  splitOn_join (List.cons_ne_nil s []) (by simpa using h)

/-- Joining two texts by a separator joins their pieces. -/
theorem splitOn_append (sep : Char) (s t : String) :
    splitOn sep (s ++ String.singleton sep ++ t) = splitOn sep s ++ splitOn sep t := by
  have hs := isCut_splitOn sep s
  have ht := isCut_splitOn sep t
  refine splitOn_eq_iff.mpr ⟨by simp [hs.ne_nil], fun p hp => ?_, ?_⟩
  · exact (List.mem_append.mp hp).elim (hs.closed p) (ht.closed p)
  · rw [join_append _ hs.ne_nil ht.ne_nil, hs.joined, ht.joined]

/-- What stands in front of the first separator goes to the first piece. -/
theorem splitOn_append_of_not_mem {sep : Char} {s t first : String} {others : List String}
    (hs : sep ∉ s.toList) (ht : splitOn sep t = first :: others) :
    splitOn sep (s ++ t) = (s ++ first) :: others := by
  have hcut := splitOn_eq_iff.mp ht
  refine splitOn_eq_iff.mpr ⟨List.cons_ne_nil _ _, fun p hp => ?_, ?_⟩
  · rcases List.mem_cons.mp hp with rfl | hp
    · rw [String.toList_append, List.mem_append, not_or]
      exact ⟨hs, hcut.closed first List.mem_cons_self⟩
    · exact hcut.closed p (List.mem_cons_of_mem first hp)
  · rw [join_eq_intercalate, String.intercalate_cons_append, ← join_eq_intercalate, hcut.joined]

/-! ### Beginnings and parts -/

theorem stripStart?_eq (start text : List Char) :
    stripStart? start text = if start <+: text then some (text.drop start.length) else none := by
  fun_induction stripStart? start text with
  | case1 text => simp
  | case2 a start => simp
  | case3 start c text ih => simpa [List.cons_prefix_cons] using ih
  | case4 a start c text hne => simp [List.cons_prefix_cons, hne]

theorem occursIn_iff {part text : List Char} : occursIn part text = true ↔ part <:+: text := by
  induction text with
  | nil => simp [occursIn]
  | cons c text ih =>
    rw [occursIn, Bool.or_eq_true, ih, stripStart?_eq, List.infix_cons_iff]
    split <;> simp_all

end RecordQuery.Text
