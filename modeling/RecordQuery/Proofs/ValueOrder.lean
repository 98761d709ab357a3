import RecordQuery.Proofs.NumberOrder

/-!
# The order in which values are sorted

`Value.sortCompare` puts values of different kinds in the order of the kinds, and lists in the order
of their first items that differ.  Comparing lists is comparing by one item after the other, so three
values compare as in some total preorder if the numbers in them do, at whatever depth
(`coherent_sortCompare`).

Numbers do unless they clash.  The values whose scalars are in a set are sorted by a total preorder
exactly if no numbers of the set clash (`sortCompare_preorder_iff`).  In particular they are if
the set has no NaN and not both integers and floating-point numbers (`NumbersAgree`,
`totalPreorderOn_sortCompare`).
-/

namespace RecordQuery.Value

/-! ### The scalars in a value -/

mutual

/-- What stands in a value that is not a list, at any depth. -/
def leaves : Value → List Value
  | list items => itemLeaves items
  | v => [v]

/-- What stands in the items of a list. -/
def itemLeaves : List Value → List Value
  | [] => []
  | item :: items => leaves item ++ itemLeaves items

end

theorem leaves_of_rank_ne {v : Value} (h : v.rank ≠ 5) : v.leaves = [v] := by
  cases v with
  | list _ => exact absurd rfl h
  | _ => rfl

theorem forall_leaves_iff_of_number {P : Value → Prop} {v : Value} (h : v.rank = 2) :
    (∀ leaf ∈ v.leaves, P leaf) ↔ P v := by
  rw [leaves_of_rank_ne (by omega), List.forall_mem_singleton]

/-- No NaN occurs, and not both integers and floating-point numbers. -/
structure NumbersAgree (leaves : List Value) : Prop where
  no_nan : ∀ x, float x ∈ leaves → x.isNaN = false
  one_kind : ¬ ((∃ i, int i ∈ leaves) ∧ ∃ x, float x ∈ leaves)

theorem NumbersAgree.subset {leaves leaves' : List Value} (h : NumbersAgree leaves)
    (hsub : leaves' ⊆ leaves) : NumbersAgree leaves' := by
  refine ⟨fun x hx => h.no_nan x (hsub hx), ?_⟩
  rintro ⟨⟨i, hi⟩, x, hx⟩
  exact h.one_kind ⟨⟨i, hsub hi⟩, x, hsub hx⟩

/-! ### The other way round -/

theorem sortCompare_eq_swap_of_unlisted {a b : Value} (h : ¬ (a.rank = 5 ∧ b.rank = 5)) :
    a.sortCompare b = (b.sortCompare a).swap := by
  by_cases hrank : a.rank = b.rank
  · have ha : a.rank ≠ 5 := fun ha => h ⟨ha, hrank ▸ ha⟩
    rw [sortCompare_of_rank_eq hrank ha, sortCompare_of_rank_eq hrank.symm (hrank ▸ ha),
      compare?_eq_swap a b]
    cases b.compare? a <;> rfl
  · rw [sortCompare_of_rank_ne hrank, sortCompare_of_rank_ne (Ne.symm hrank)]
    exact Std.OrientedCmp.eq_swap

mutual

/-- The other way round, values compare the other way. -/
theorem sortCompare_eq_swap (a b : Value) : a.sortCompare b = (b.sortCompare a).swap := by
  match a, b with
  | list as, list bs => exact sortCompareItems_eq_swap as bs
  | null, _ | bool _, _ | int _, _ | float _, _ | text _, _ | dateTime _, _ =>
    exact sortCompare_eq_swap_of_unlisted (by simp [rank])
  | _, null | _, bool _ | _, int _ | _, float _ | _, text _ | _, dateTime _ =>
    exact sortCompare_eq_swap_of_unlisted (by simp [rank])

theorem sortCompareItems_eq_swap (as bs : List Value) :
    sortCompareItems as bs = (sortCompareItems bs as).swap := by
  match as, bs with
  | [], [] | [], _ :: _ | _ :: _, [] => rfl
  | a :: as, b :: bs =>
    rw [sortCompareItems, sortCompareItems, Ordering.swap_then, sortCompare_eq_swap a b,
      sortCompareItems_eq_swap as bs]

end

theorem sortCompare_self (a : Value) : a.sortCompare a = .eq := by
  have hself := sortCompare_eq_swap a a
  cases h : a.sortCompare a with
  | eq => rfl
  | lt | gt =>
    rw [h] at hself
    cases hself

/-! ### Three values -/

/-- Sorting looks at the kinds first. -/
theorem sortCompare_eq_rank_then (a b : Value) :
    a.sortCompare b = (Ord.compare a.rank b.rank).then (a.sortCompare b) := by
  by_cases h : a.rank = b.rank
  · rw [compare_eq_iff_eq.mpr h, Ordering.eq_then]
  · rw [sortCompare_of_rank_ne h, Ordering.then_self]

/-- Three values have to be looked at only if they are of one kind. -/
theorem coherent_of_kinds {a b c : Value}
    (h : a.rank = b.rank → b.rank = c.rank →
      Coherent (a.sortCompare b) (b.sortCompare c) (a.sortCompare c)) :
    Coherent (a.sortCompare b) (b.sortCompare c) (a.sortCompare c) := by
  rw [sortCompare_eq_rank_then a b, sortCompare_eq_rank_then b c, sortCompare_eq_rank_then a c]
  refine (coherent_of_transCmp Ord.compare a.rank b.rank c.rank).andThen fun hab hbc => ?_
  exact h (compare_eq_iff_eq.mp hab) (compare_eq_iff_eq.mp hbc)

/-- Values of one kind, if they are no numbers and no lists, are sorted by a total preorder. -/
theorem coherent_of_rank_eq {a b c : Value} (hab : a.rank = b.rank) (hbc : b.rank = c.rank)
    (hnumber : a.rank ≠ 2) (hlist : a.rank ≠ 5) :
    Coherent (a.sortCompare b) (b.sortCompare c) (a.sortCompare c) := by
  cases a with
  | null =>
    cases b with
    | null =>
      cases c with
      | null => exact ⟨fun _ => rfl, fun _ => rfl, fun _ => rfl⟩
      | _ => cases hbc
    | _ => cases hab
  | bool a =>
    cases b with
    | bool b =>
      cases c with
      | bool c => exact coherent_of_transCmp Ord.compare a b c
      | _ => cases hbc
    | _ => cases hab
  | text a =>
    cases b with
    | text b =>
      cases c with
      | text c => exact coherent_of_transCmp Ord.compare a b c
      | _ => cases hbc
    | _ => cases hab
  | dateTime a =>
    cases b with
    | dateTime b =>
      cases c with
      | dateTime c => exact coherent_of_transCmp Ord.compare a.orderKey b.orderKey c.orderKey
      | _ => cases hbc
    | _ => cases hab
  | int _ | float _ => exact absurd rfl hnumber
  | list _ => exact absurd rfl hlist

section Lists

variable {P : Value → Prop}

theorem coherent_of_unlisted (hnumbers : NumbersCohere P) {a b c : Value}
    (hlist : ¬ (a.rank = 5 ∧ b.rank = 5 ∧ c.rank = 5))
    (ha : ∀ leaf ∈ a.leaves, P leaf) (hb : ∀ leaf ∈ b.leaves, P leaf)
    (hc : ∀ leaf ∈ c.leaves, P leaf) :
    Coherent (a.sortCompare b) (b.sortCompare c) (a.sortCompare c) := by
  refine coherent_of_kinds fun hab hbc => ?_
  have halist : a.rank ≠ 5 := fun ha => hlist ⟨ha, hab ▸ ha, hbc ▸ hab ▸ ha⟩
  by_cases hnumber : a.rank = 2
  · have hb2 : b.rank = 2 := hab ▸ hnumber
    have hc2 : c.rank = 2 := hbc ▸ hb2
    rw [forall_leaves_iff_of_number hnumber] at ha
    rw [forall_leaves_iff_of_number hb2] at hb
    rw [forall_leaves_iff_of_number hc2] at hc
    exact hnumbers a b c hnumber hb2 hc2 ha hb hc
  · exact coherent_of_rank_eq hab hbc hnumber halist

mutual

theorem coherent_sortCompare (hnumbers : NumbersCohere P) (a b c : Value)
    (ha : ∀ leaf ∈ a.leaves, P leaf) (hb : ∀ leaf ∈ b.leaves, P leaf)
    (hc : ∀ leaf ∈ c.leaves, P leaf) :
    Coherent (a.sortCompare b) (b.sortCompare c) (a.sortCompare c) := by
  match a, b, c with
  | list as, list bs, list cs => exact coherent_sortCompareItems hnumbers as bs cs ha hb hc
  | null, _, _ | bool _, _, _ | int _, _, _ | float _, _, _ | text _, _, _ | dateTime _, _, _ =>
    exact coherent_of_unlisted hnumbers (by simp [rank]) ha hb hc
  | _, null, _ | _, bool _, _ | _, int _, _ | _, float _, _ | _, text _, _ | _, dateTime _, _ =>
    exact coherent_of_unlisted hnumbers (by simp [rank]) ha hb hc
  | _, _, null | _, _, bool _ | _, _, int _ | _, _, float _ | _, _, text _ | _, _, dateTime _ =>
    exact coherent_of_unlisted hnumbers (by simp [rank]) ha hb hc

theorem coherent_sortCompareItems (hnumbers : NumbersCohere P) (as bs cs : List Value)
    (ha : ∀ leaf ∈ itemLeaves as, P leaf) (hb : ∀ leaf ∈ itemLeaves bs, P leaf)
    (hc : ∀ leaf ∈ itemLeaves cs, P leaf) :
    Coherent (sortCompareItems as bs) (sortCompareItems bs cs) (sortCompareItems as cs) := by
  match as, bs, cs with
  | [], [], [] => exact ⟨fun _ => rfl, fun _ => rfl, fun _ => rfl⟩
  | [], [], _ :: _ => exact ⟨fun _ => rfl, nofun, nofun⟩
  | _ :: _, [], [] => exact ⟨nofun, fun _ => rfl, nofun⟩
  | [], _ :: _, [] | _ :: _, [], _ :: _ => exact ⟨nofun, nofun, nofun⟩
  | [], _ :: _, _ :: _ => exact ⟨nofun, fun _ => rfl, fun _ => rfl⟩
  | _ :: _, _ :: _, [] => exact ⟨fun _ => rfl, nofun, fun heq => heq.symm⟩
  | a :: as, b :: bs, c :: cs =>
    rw [itemLeaves, List.forall_mem_append] at ha hb hc
    exact (coherent_sortCompare hnumbers a b c ha.1 hb.1 hc.1).andThen fun _ _ =>
      coherent_sortCompareItems hnumbers as bs cs ha.2 hb.2 hc.2

end

/-- Values are sorted by a total preorder as long as the numbers in them are. -/
theorem totalPreorderOn_of_numbersCohere (hnumbers : NumbersCohere P) :
    TotalPreorderOn sortCompare fun v => ∀ leaf ∈ v.leaves, P leaf :=
  .of_coherent (fun a b _ _ => sortCompare_eq_swap a b) fun a b c ha hb hc =>
    coherent_sortCompare hnumbers a b c ha hb hc

end Lists

/-- Numbers do not clash if no NaN is among them and they are all integers or all floating-point. -/
theorem NumbersAgree.not_clash {leaves : List Value} (h : NumbersAgree leaves) :
    ¬ NumbersClash (· ∈ leaves) := by
  rintro (⟨hx, hnan, -, -, -, -⟩ | ⟨hx, hi, -, -, -, -⟩)
  · rw [h.no_nan _ hx] at hnan
    cases hnan
  · exact h.one_kind ⟨⟨_, hi⟩, _, hx⟩

/-- **Values are sorted by a total preorder** as long as numbers agree. -/
theorem totalPreorderOn_sortCompare {leaves : List Value} (h : NumbersAgree leaves) :
    TotalPreorderOn sortCompare fun v => v.leaves ⊆ leaves :=
  totalPreorderOn_of_numbersCohere (numbersCohere_of_not_clash h.not_clash)

/-! ### Where values are not sorted -/

/-- Numbers that clash tie with a third number that leads from the larger to the smaller one. -/
theorem NumbersClash.exists_ties {P : Value → Prop} (h : NumbersClash P) :
    ∃ a x b : Value, (a.rank = 2 ∧ x.rank = 2 ∧ b.rank = 2) ∧ (P a ∧ P x ∧ P b) ∧
      a.sortCompare x = .eq ∧ x.sortCompare b = .eq ∧ a.sortCompare b = .gt := by
  cases h with
  | @nan x a b hx hnan ha hb hnumber hgt =>
    have hbnumber : b.rank = 2 := (rank_eq_of_compare? hgt).symm.trans hnumber
    refine ⟨a, float x, b, ⟨hnumber, rfl, hbnumber⟩, ⟨ha, hx, hb⟩, ?_, ?_, ?_⟩
    · rw [sortCompare_of_numbers hnumber rfl, compare?_nan a hnan]
      rfl
    · rw [sortCompare_of_numbers rfl hbnumber, compare?_eq_swap, compare?_nan b hnan]
      rfl
    · rw [sortCompare_of_numbers hnumber hbnumber, hgt]
      rfl
  | @rounded x i j hx hi hj hlt hix hjx =>
    refine ⟨int i, float x, int j, ⟨rfl, rfl, rfl⟩, ⟨hi, hx, hj⟩, ?_, ?_, ?_⟩
    · rw [sortCompare_of_numbers rfl rfl, hix]
      rfl
    · rw [sortCompare_of_numbers rfl rfl, compare?_eq_swap, hjx]
      rfl
    · exact compare_gt_iff_gt.mpr hlt

/-- **The values with scalars of `P` are sorted by a total preorder exactly if no numbers of `P`
clash.**  The other way round any two values compare the other way, and any value ties with itself; what
numbers that clash break is transitivity. -/
theorem sortCompare_preorder_iff (P : Value → Prop) :
    (∀ a b : Value, b.sortCompare a = (a.sortCompare b).swap) ∧
    (∀ a : Value, a.sortCompare a = .eq) ∧
    ((∀ a b c : Value, (∀ leaf ∈ a.leaves, P leaf) → (∀ leaf ∈ b.leaves, P leaf) →
        (∀ leaf ∈ c.leaves, P leaf) → a.sortCompare b ≠ .gt → b.sortCompare c ≠ .gt →
        a.sortCompare c ≠ .gt) ↔
      ¬ NumbersClash P) := by
  refine ⟨fun a b => sortCompare_eq_swap b a, sortCompare_self, fun htrans hclash => ?_, ?_⟩
  · obtain ⟨a, x, b, ⟨ha, hx, hb⟩, ⟨hPa, hPx, hPb⟩, hax, hxb, hab⟩ := hclash.exists_ties
    have hPa : ∀ leaf ∈ a.leaves, P leaf := (forall_leaves_iff_of_number ha).mpr hPa
    have hPx : ∀ leaf ∈ x.leaves, P leaf := (forall_leaves_iff_of_number hx).mpr hPx
    have hPb : ∀ leaf ∈ b.leaves, P leaf := (forall_leaves_iff_of_number hb).mpr hPb
    have hle : a.sortCompare x ≠ .gt := by simp [hax]
    have hle' : x.sortCompare b ≠ .gt := by simp [hxb]
    exact htrans a x b hPa hPx hPb hle hle' hab
  · intro hclash a b c ha hb hc hab hbc
    have hpreorder := totalPreorderOn_of_numbersCohere (numbersCohere_of_not_clash hclash)
    exact Ordering.isLE_iff_ne_gt.mp (hpreorder.trans ha hb hc (Ordering.isLE_iff_ne_gt.mpr hab)
      (Ordering.isLE_iff_ne_gt.mpr hbc))

/-- `2 ^ 53 + 1` and `2 ^ 53` are both rounded to `2 ^ 53`. -/
theorem sortCompare_preorder_iff_two_pow :
    ¬ ∀ a b c : Value, a.sortCompare b ≠ .gt → b.sortCompare c ≠ .gt → a.sortCompare c ≠ .gt := by
  intro htrans
  have hclash : NumbersClash fun _ => True :=
    .rounded (x := ⟨0x4340000000000000⟩) (i := 9007199254740993) (j := 9007199254740992)
      trivial trivial trivial (by decide) (by decide) (by decide)
  exact (sortCompare_preorder_iff fun _ => True).2.2.mp (fun a b c _ _ _ => htrans a b c) hclash

end RecordQuery.Value
