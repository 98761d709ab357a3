import Mathlib.Data.List.Perm.Basic
import RecordQuery.Proofs.Comparison

/-!
# The stable sort

`StablySorted compare list sorted` says what sorting is for: if every element of `list` is paired
with its position, `sorted` lists the pairs so that of any two the first compares as less than the
second, or as equal to it and was in front of it.  So nothing is lost or repeated, no element stands
behind a larger one, and elements that tie keep their order.  There is at most one such list
(`StablySorted.unique`), and `stableSort` gives it wherever the comparison is a total preorder
(`stablySorted_stableSort`).  Elements can be dropped before sorting as well as after it
(`filter_stableSort`).

Whatever the comparison, sorting is a rearrangement (`stableSort_perm`).
-/

namespace RecordQuery

variable {α β : Type} {compare : α → α → Ordering}

/-- Of two elements with their positions, the first compares as less, or as equal and stood in
front. -/
def RankedBefore (compare : α → α → Ordering) (a b : α × ℕ) : Prop :=
  compare a.1 b.1 = .lt ∨ compare a.1 b.1 = .eq ∧ a.2 < b.2

/-- `sorted` is `list` in ascending order, with ties in the order in which they stood. -/
def StablySorted (compare : α → α → Ordering) (list sorted : List α) : Prop :=
  ∃ ranked : List (α × ℕ), ranked.Perm list.zipIdx ∧ ranked.map Prod.fst = sorted ∧
    ranked.Pairwise (RankedBefore compare)

/-! ### Rearranging -/

theorem insertFromBack_perm (compare : α → α → Ordering) (a : α) (list : List α) :
    (insertFromBack compare a list).Perm (a :: list) := by
  induction list with
  | nil => exact List.Perm.refl _
  | cons b larger ih =>
    rw [insertFromBack]
    split
    · exact (ih.cons b).trans (List.Perm.swap a b larger)
    · exact List.Perm.refl _

theorem foldl_insertFromBack_perm (compare : α → α → Ordering) (list sorted : List α) :
    (list.foldl (fun sorted a => insertFromBack compare a sorted) sorted).Perm
      (list ++ sorted) := by
  induction list generalizing sorted with
  | nil => exact List.Perm.refl _
  | cons a list ih =>
    refine (ih (insertFromBack compare a sorted)).trans ?_
    refine ((insertFromBack_perm compare a sorted).append_left list).trans ?_
    exact List.perm_middle

/-- Sorting loses nothing and repeats nothing, whatever the comparison. -/
theorem stableSort_perm (compare : α → α → Ordering) (list : List α) :
    (stableSort compare list).Perm list := by
  refine (List.reverse_perm _).trans ?_
  simpa using foldl_insertFromBack_perm compare list []

/-- Sorting by a key of the elements is sorting the keys. -/
theorem map_stableSort {compare' : β → β → Ordering} (key : α → β)
    (h : ∀ a b, compare' (key a) (key b) = compare a b) (list : List α) :
    (stableSort compare list).map key = stableSort compare' (list.map key) := by
  have hinsert : ∀ a sorted, (insertFromBack compare a sorted).map key =
      insertFromBack compare' (key a) (sorted.map key) := by
    intro a sorted
    induction sorted with
    | nil => rfl
    | cons b larger ih =>
      simp only [insertFromBack, List.map_cons, h]
      split
      · rw [List.map_cons, ih]
      · rfl
  have hfold : ∀ list sorted : List α,
      (list.foldl (fun sorted a => insertFromBack compare a sorted) sorted).map key =
        (list.map key).foldl (fun sorted b => insertFromBack compare' b sorted)
          (sorted.map key) := by
    intro list
    induction list with
    | nil => exact fun sorted => rfl
    | cons a list ih =>
      intro sorted
      rw [List.foldl_cons, ih, hinsert, List.map_cons, List.foldl_cons]
  rw [stableSort, stableSort, List.map_reverse, hfold, List.map_nil]

/-- A list of which no later element compares as less is left as it is. -/
theorem stableSort_eq_self {list : List α}
    (h : list.Pairwise fun a b => compare b a ≠ .lt) : stableSort compare list = list := by
  have hfold : ∀ list sorted : List α, list.Pairwise (fun a b => compare b a ≠ .lt) →
      (∀ a ∈ sorted, ∀ b ∈ list, compare b a ≠ .lt) →
      list.foldl (fun sorted a => insertFromBack compare a sorted) sorted =
        list.reverse ++ sorted := by
    intro list
    induction list with
    | nil => exact fun sorted _ _ => rfl
    | cons a list ih =>
      intro sorted hlist hsorted
      obtain ⟨ha, hlist⟩ := List.pairwise_cons.mp hlist
      have hinsert : insertFromBack compare a sorted = a :: sorted := by
        cases sorted with
        | nil => rfl
        | cons b larger => rw [insertFromBack, if_neg (hsorted b (by simp) a (by simp))]
      rw [List.foldl_cons, hinsert, ih _ hlist, List.reverse_cons, List.append_assoc,
        List.singleton_append]
      rintro b (_ | ⟨_, hb⟩) c hc
      · exact ha c hc
      · exact hsorted b hb c (List.mem_cons_of_mem a hc)
  rw [stableSort, hfold list [] h (by simp), List.append_nil, List.reverse_reverse]

/-! ### Sorting -/

/-- Inserting an element that stood behind all others into a list that is sorted from the largest
down keeps it sorted. -/
theorem pairwise_insertFromBack {P : α → Prop} (hcmp : TotalPreorderOn compare P) {a : α × ℕ}
    {sorted : List (α × ℕ)} (ha : P a.1) (hsorted : ∀ b ∈ sorted, P b.1 ∧ b.2 < a.2)
    (h : sorted.Pairwise fun b c => RankedBefore compare c b) :
    (insertFromBack (fun b c => compare b.1 c.1) a sorted).Pairwise
      fun b c => RankedBefore compare c b := by
  induction sorted with
  | nil => exact List.pairwise_singleton _ a
  | cons b larger ih =>
    obtain ⟨hb, hlarger⟩ := List.pairwise_cons.mp h
    obtain ⟨hPb, hlt⟩ := hsorted b (by simp)
    rw [insertFromBack]
    split
    · rename_i hab
      refine List.pairwise_cons.mpr ⟨fun c hc => ?_, ?_⟩
      · rcases List.mem_cons.mp ((insertFromBack_perm _ a larger).mem_iff.mp hc) with rfl | hc
        · exact Or.inl hab
        · exact hb c hc
      · exact ih (fun c hc => hsorted c (List.mem_cons_of_mem b hc)) hlarger
    · rename_i hab
      -- `b` and everything behind it compares as at most `a`, and stood in front of `a`
      have hba : (compare b.1 a.1).isLE := by
        rw [hcmp.swap hPb ha, Ordering.isLE_swap, ← Ordering.ne_lt_iff_isGE]
        exact hab
      have hle : ∀ c ∈ b :: larger, (compare c.1 a.1).isLE := by
        rintro c (_ | ⟨_, hc⟩)
        · exact hba
        · have hPc := (hsorted c (List.mem_cons_of_mem b hc)).1
          refine hcmp.trans hPc hPb ha ?_ hba
          rcases hb c hc with hcb | ⟨hcb, -⟩
          · exact Ordering.isLE_of_eq_lt hcb
          · exact Ordering.isLE_of_eq_eq hcb
      refine List.pairwise_cons.mpr ⟨fun c hc => ?_, h⟩
      rcases Ordering.isLE_iff_eq_lt_or_eq_eq.mp (hle c hc) with hca | hca
      · exact Or.inl hca
      · exact Or.inr ⟨hca, (hsorted c hc).2⟩

/-- Inserting elements in the order in which they stood keeps the list sorted from the largest
down. -/
theorem pairwise_foldl_insertFromBack {P : α → Prop} (hcmp : TotalPreorderOn compare P)
    {list sorted : List (α × ℕ)} (hlist : ∀ a ∈ list, P a.1) (hsorted : ∀ b ∈ sorted, P b.1)
    (hidx : list.Pairwise fun a b => a.2 < b.2) (hlt : ∀ b ∈ sorted, ∀ a ∈ list, b.2 < a.2)
    (h : sorted.Pairwise fun b c => RankedBefore compare c b) :
    (list.foldl (fun sorted a => insertFromBack (fun b c => compare b.1 c.1) a sorted)
      sorted).Pairwise fun b c => RankedBefore compare c b := by
  induction list generalizing sorted with
  | nil => exact h
  | cons a list ih =>
    obtain ⟨ha, hidx⟩ := List.pairwise_cons.mp hidx
    have hmem : ∀ b ∈ insertFromBack (fun b c => compare b.1 c.1) a sorted, b = a ∨ b ∈ sorted :=
      fun b hb => List.mem_cons.mp ((insertFromBack_perm _ a sorted).mem_iff.mp hb)
    rw [List.foldl_cons]
    apply ih
    · exact fun b hb => hlist b (List.mem_cons_of_mem a hb)
    · intro b hb
      rcases hmem b hb with rfl | hb
      · exact hlist b (by simp)
      · exact hsorted b hb
    · exact hidx
    · intro b hb c hc
      rcases hmem b hb with rfl | hb
      · exact ha c hc
      · exact hlt b hb c (List.mem_cons_of_mem a hc)
    · exact pairwise_insertFromBack hcmp (hlist a (by simp))
        (fun b hb => ⟨hsorted b hb, hlt b hb a (by simp)⟩) h

theorem pairwise_snd_lt_zipIdx (list : List α) (n : ℕ) :
    (list.zipIdx n).Pairwise fun a b => a.2 < b.2 := by
  rw [← List.pairwise_map (f := Prod.snd) (R := (· < ·)), List.zipIdx_map_snd]
  exact List.pairwise_lt_range'

/-- Elements that are numbered in order are sorted so that ties keep the order of the numbers. -/
theorem pairwise_stableSort {P : α → Prop} (hcmp : TotalPreorderOn compare P)
    {list : List (α × ℕ)} (hlist : ∀ a ∈ list, P a.1) (hidx : list.Pairwise fun a b => a.2 < b.2) :
    (stableSort (fun a b => compare a.1 b.1) list).Pairwise (RankedBefore compare) := by
  rw [stableSort, List.pairwise_reverse]
  exact pairwise_foldl_insertFromBack hcmp hlist (by simp) hidx (by simp) List.Pairwise.nil

/-- Sorting numbered elements and taking the numbers off is sorting the elements. -/
theorem map_fst_stableSort (list : List (α × ℕ)) :
    (stableSort (fun a b => compare a.1 b.1) list).map Prod.fst =
      stableSort compare (list.map Prod.fst) :=
  map_stableSort Prod.fst (fun _ _ => rfl) list

/-- **`stableSort` sorts, and keeps ties in order**, by every comparison that is a total preorder
among the elements. -/
theorem stablySorted_stableSort {list : List α} (hcmp : TotalPreorderOn compare (· ∈ list)) :
    StablySorted compare list (stableSort compare list) := by
  refine ⟨stableSort (fun a b => compare a.1 b.1) list.zipIdx, stableSort_perm _ _, ?_, ?_⟩
  · rw [map_fst_stableSort, List.zipIdx_map_fst]
  · exact pairwise_stableSort hcmp (fun a ha => List.fst_mem_of_mem_zipIdx ha)
      (pairwise_snd_lt_zipIdx list 0)

theorem StablySorted.perm {list sorted : List α} (h : StablySorted compare list sorted) :
    sorted.Perm list := by
  obtain ⟨ranked, hperm, rfl, -⟩ := h
  simpa using hperm.map Prod.fst

/-- Numbered elements can be ranked in one way only. -/
theorem eq_of_pairwise_rankedBefore {P : α → Prop} (hcmp : TotalPreorderOn compare P)
    {ranked ranked' : List (α × ℕ)} (hmem : ∀ a ∈ ranked, P a.1) (hperm : ranked.Perm ranked')
    (h : ranked.Pairwise (RankedBefore compare)) (h' : ranked'.Pairwise (RankedBefore compare)) :
    ranked = ranked' := by
  refine hperm.eq_of_pairwise ?_ h h'
  intro a b ha hb hab hba
  have hswap := hcmp.swap (hmem a ha) (hmem b (hperm.mem_iff.mpr hb))
  -- no pair stands both in front of another one and behind it
  rcases hab with hab | ⟨hab, hlt⟩ <;> rcases hba with hba | ⟨hba, hgt⟩
  · simp [hab, hba] at hswap
  · simp [hab, hba] at hswap
  · simp [hab, hba] at hswap
  · omega

/-- There is only one way to sort stably. -/
theorem StablySorted.unique {list sorted sorted' : List α}
    (hcmp : TotalPreorderOn compare (· ∈ list)) (h : StablySorted compare list sorted)
    (h' : StablySorted compare list sorted') : sorted = sorted' := by
  obtain ⟨ranked, hperm, rfl, hranked⟩ := h
  obtain ⟨ranked', hperm', rfl, hranked'⟩ := h'
  have hmem : ∀ a ∈ ranked, a.1 ∈ list :=
    fun a ha => List.fst_mem_of_mem_zipIdx (hperm.mem_iff.mp ha)
  rw [eq_of_pairwise_rankedBefore hcmp hmem (hperm.trans hperm'.symm) hranked hranked']

/-- **Dropping elements before sorting or after it is the same.**  The elements that stay keep the
numbers that they had among all, which order ties as their own numbers do. -/
theorem filter_stableSort {list : List α} (hcmp : TotalPreorderOn compare (· ∈ list))
    (p : α → Bool) : (stableSort compare list).filter p = stableSort compare (list.filter p) := by
  have hmem : ∀ a ∈ list.zipIdx, a.1 ∈ list := fun a ha => List.fst_mem_of_mem_zipIdx ha
  have hidx := pairwise_snd_lt_zipIdx list 0
  let byElement : α × ℕ → α × ℕ → Ordering := fun a b => compare a.1 b.1
  let kept := list.zipIdx.filter fun a => p a.1
  have hkept : kept.map Prod.fst = list.filter p := by
    rw [← List.zipIdx_map_fst 0 list, List.filter_map]
    rfl
  have hranked : (stableSort byElement list.zipIdx).filter (fun a => p a.1) =
      stableSort byElement kept := by
    apply eq_of_pairwise_rankedBefore hcmp
    · intro a ha
      exact hmem a ((stableSort_perm _ _).mem_iff.mp (List.mem_filter.mp ha).1)
    · exact ((stableSort_perm _ _).filter _).trans (stableSort_perm _ kept).symm
    · exact (pairwise_stableSort hcmp hmem hidx).filter _
    · exact pairwise_stableSort hcmp (fun a ha => hmem a (List.mem_filter.mp ha).1) (hidx.filter _)
  calc (stableSort compare list).filter p
      = ((stableSort byElement list.zipIdx).map Prod.fst).filter p := by
        rw [map_fst_stableSort, List.zipIdx_map_fst]
    _ = ((stableSort byElement list.zipIdx).filter fun a => p a.1).map Prod.fst :=
        List.filter_map ..
    _ = (stableSort byElement kept).map Prod.fst := by rw [hranked]
    _ = stableSort compare (list.filter p) := by rw [map_fst_stableSort, hkept]

end RecordQuery
