import RecordQuery.Proofs.Pieces
import RecordQuery.Proofs.TrimmedLiterals

/-!
# Texts without the blanks at their ends

`Text.trim s` is the only text without blanks at its ends that has nothing but blanks around it in
`s` (`Text.trim_eq_iff`).  Hence it is left as it is when it is trimmed again, blanks that are put
around `s` make no difference to it, and it is empty exactly for blank texts
(`Text.isBlankText_iff`).

If the pieces between separators are trimmed, it makes no difference whether the text as a whole was
trimmed before it was cut (`Text.map_trim_splitOn_trim`).
-/

namespace RecordQuery

namespace Text

/-! ### Blanks at the ends -/

/-- What is left of a text without the blanks at its ends. -/
structure IsTrim (s t : String) : Prop where
  between : ∃ y z, s = y ++ t ++ z ∧ (∀ c ∈ y.toList, isBlank c = true) ∧
    ∀ c ∈ z.toList, isBlank c = true
  first : ∀ c ∈ t.toList.head?, isBlank c = false
  last : ∀ c ∈ t.toList.getLast?, isBlank c = false

variable {s t y z : String}

theorem isBlank_of_head?_trimStart {cs : List Char} {c : Char} (h : c ∈ (trimStart cs).head?) :
    isBlank c = false := by
  have hfirst := List.head?_dropWhile_not isBlank cs
  rw [← trimStart, Option.mem_def.mp h] at hfirst
  exact hfirst

theorem isTrim_trim (s : String) : IsTrim s (trim s) := by
  obtain ⟨z, hz, hblanks⟩ := exists_eq_trimEnd_append (trimStart s.toList)
  have htrim : (trim s).toList = trimEnd (trimStart s.toList) := String.toList_ofList
  refine ⟨⟨String.ofList (s.toList.takeWhile isBlank), String.ofList z, ?_, ?_, ?_⟩, ?_, ?_⟩
  · apply String.toList_inj.mp
    rw [String.toList_append, String.toList_append, String.toList_ofList, String.toList_ofList,
      htrim, List.append_assoc, ← hz]
    exact (List.takeWhile_append_dropWhile).symm
  · rw [String.toList_ofList]
    exact fun c => List.mem_takeWhile_imp
  · rw [String.toList_ofList]
    exact hblanks
  · -- the first character that is left stands in front of the blanks at the end
    intro c hc
    rw [htrim] at hc
    have hstart : c ∈ (trimStart s.toList).head? := by
      rw [hz, List.head?_append, Option.mem_def.mp hc]
      rfl
    exact isBlank_of_head?_trimStart hstart
  · intro c hc
    rw [htrim, trimEnd, List.getLast?_reverse] at hc
    exact isBlank_of_head?_trimStart hc

theorem trimStart_of_head? {cs : List Char} (h : ∀ c ∈ cs.head?, isBlank c = false) :
    trimStart cs = cs := by
  cases cs with
  | nil => rfl
  | cons c cs => exact trimStart_of_not_blank (h c rfl) cs

/-- The text that is left is determined by having no blanks at its ends and nothing but blanks
around it. -/
theorem trim_eq_iff : trim s = t ↔ IsTrim s t := by
  constructor
  · rintro rfl
    exact isTrim_trim s
  · rintro ⟨⟨y, z, rfl, hy, hz⟩, hfirst, hlast⟩
    apply String.toList_inj.mp
    rw [trim, String.toList_ofList, String.toList_append, String.toList_append, List.append_assoc]
    have hstart : trimStart (y.toList ++ (t.toList ++ z.toList)) =
        if t.toList = [] then [] else t.toList ++ z.toList := by
      rw [trimStart, List.dropWhile_append_of_pos hy, ← trimStart, trimStart_append hz,
        trimStart_of_head? hfirst]
    have hend : trimEnd (t.toList ++ z.toList) = t.toList := by
      rw [trimEnd, List.reverse_append, List.dropWhile_append_of_pos (by simpa using hz),
        ← trimStart, trimStart_of_head? (by rwa [List.head?_reverse]), List.reverse_reverse]
    rw [hstart]
    split
    · -- nothing but blanks: all of them are cut off in front
      rename_i hnil
      rw [hnil]
      rfl
    · exact hend

/-- Blanks around a text make no difference to what is left. -/
theorem trim_append (hy : ∀ c ∈ y.toList, isBlank c = true)
    (hz : ∀ c ∈ z.toList, isBlank c = true) : trim (y ++ s ++ z) = trim s := by
  obtain ⟨⟨y', z', hs, hy', hz'⟩, hfirst, hlast⟩ := isTrim_trim s
  refine trim_eq_iff.mpr ⟨⟨y ++ y', z' ++ z, ?_, ?_, ?_⟩, hfirst, hlast⟩
  · conv_lhs => rw [hs]
    simp only [String.append_assoc]
  · rw [String.toList_append]
    exact List.forall_mem_append.mpr ⟨hy, hy'⟩
  · rw [String.toList_append]
    exact List.forall_mem_append.mpr ⟨hz', hz⟩

theorem trim_of_ends (hfirst : ∀ c ∈ s.toList.head?, isBlank c = false)
    (hlast : ∀ c ∈ s.toList.getLast?, isBlank c = false) : trim s = s :=
  trim_eq_iff.mpr ⟨⟨"", "", by simp, by simp, by simp⟩, hfirst, hlast⟩

@[simp]
theorem trim_trim (s : String) : trim (trim s) = trim s :=
  trim_of_ends (isTrim_trim s).first (isTrim_trim s).last

theorem isBlankText_iff : isBlankText s = true ↔ trim s = "" := by
  rw [isBlankText, List.all_eq_true]
  constructor
  · intro h
    exact trim_eq_iff.mpr ⟨⟨s, "", by simp, h, by simp⟩, by simp, by simp⟩
  · intro h
    obtain ⟨⟨y, z, hs, hy, hz⟩, -, -⟩ := trim_eq_iff.mp h
    rw [hs, String.append_empty, String.toList_append]
    exact List.forall_mem_append.mpr ⟨hy, hz⟩

@[simp]
theorem isBlankText_trim (s : String) : isBlankText (trim s) = isBlankText s := by
  rw [Bool.eq_iff_iff, isBlankText_iff, isBlankText_iff, trim_trim]

/-! ### Blanks around pieces -/

variable {sep : Char}

/-- What stands behind the last separator goes to the last piece. -/
theorem splitOn_append_last {front : List String} {last : String} (ht : sep ∉ t.toList)
    (hs : splitOn sep s = front ++ [last]) : splitOn sep (s ++ t) = front ++ [last ++ t] := by
  have hcut := splitOn_eq_iff.mp hs
  refine splitOn_eq_iff.mpr ⟨by simp, fun p hp => ?_, ?_⟩
  · rcases List.mem_append.mp hp with hp | hp
    · exact hcut.closed p (List.mem_append_left _ hp)
    · rw [List.mem_singleton.mp hp, String.toList_append, List.mem_append, not_or]
      exact ⟨hcut.closed last (by simp), ht⟩
  · rw [join_concat_append, hcut.joined]

theorem not_mem_of_blanks (hsep : isBlank sep = false) (hy : ∀ c ∈ y.toList, isBlank c = true) :
    sep ∉ y.toList := by
  intro hmem
  rw [hy sep hmem] at hsep
  cases hsep

/-- Blanks around a text go to its first and to its last piece, and are cut off there as well. -/
theorem map_trim_splitOn_append (hsep : isBlank sep = false)
    (hy : ∀ c ∈ y.toList, isBlank c = true) (hz : ∀ c ∈ z.toList, isBlank c = true) :
    (splitOn sep (y ++ s ++ z)).map trim = (splitOn sep s).map trim := by
  have hstart (p : String) : trim (y ++ p) = trim p := by
    simpa using trim_append (s := p) (z := "") hy (by simp)
  have hend (p : String) : trim (p ++ z) = trim p := by
    simpa using trim_append (s := p) (y := "") (by simp) hz
  obtain ⟨first, others, hs⟩ := List.exists_cons_of_ne_nil (isCut_splitOn sep s).ne_nil
  have hfirst := splitOn_append_of_not_mem (not_mem_of_blanks hsep hy) hs
  obtain ⟨front, last, hlast⟩ : ∃ front last, (y ++ first) :: others = front ++ [last] :=
    ⟨_, _, (List.dropLast_append_getLast (List.cons_ne_nil _ _)).symm⟩
  -- a single piece is the first and the last one
  rw [hlast] at hfirst
  calc (splitOn sep (y ++ s ++ z)).map trim
      = (front ++ [last ++ z]).map trim := by
        rw [splitOn_append_last (not_mem_of_blanks hsep hz) hfirst]
    _ = (front ++ [last]).map trim := by simp [hend]
    _ = ((y ++ first) :: others).map trim := by rw [hlast]
    _ = (splitOn sep s).map trim := by simp [hs, hstart]

theorem map_trim_splitOn_trim (hsep : isBlank sep = false) (s : String) :
    (splitOn sep (trim s)).map trim = (splitOn sep s).map trim := by
  obtain ⟨⟨y, z, hs, hy, hz⟩, -, -⟩ := isTrim_trim s
  conv_rhs => rw [hs]
  exact (map_trim_splitOn_append hsep hy hz).symm

end Text

end RecordQuery
