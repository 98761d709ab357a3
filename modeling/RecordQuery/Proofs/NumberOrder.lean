import RecordQuery.Proofs.Comparison
import RecordQuery.Proofs.RoundedIntegers
import RecordQuery.Value.Basic

/-!
# The order in which numbers are sorted

Two integers are compared as integers, and an integer with a floating-point number after it has been
rounded.  Rounding keeps the order of integers, so this is comparing what all numbers are rounded to,
and integers that are rounded to the same number exactly (`sortCompare_eq_then`).

Two things keep that from being a total preorder (`NumbersClash`): a floating-point number ties with
all the integers that are rounded to it, which do not tie with each other, and a NaN ties with every
number.  Nothing else does (`numbersCohere_of_not_clash`).
-/

namespace RecordQuery

theorem Binary64.compare?_of_ordered {x y : Binary64} (hx : x.isNaN = false)
    (hy : y.isNaN = false) : x.compare? y = some (Ord.compare x.orderKey y.orderKey) := by
  simp [Binary64.compare?, hx, hy]

namespace Value

/-! ### Kinds of values -/

theorem compare?_eq_swap (a b : Value) : a.compare? b = (b.compare? a).map Ordering.swap := by
  have hnumbers : ∀ x y : Binary64, x.compare? y = (y.compare? x).map Ordering.swap := by
    intro x y
    rw [Binary64.compare?, Binary64.compare?, Bool.or_comm]
    split
    · rfl
    · exact congrArg some Std.OrientedCmp.eq_swap
  cases a <;> cases b
  case bool.bool a b => exact congrArg some Std.OrientedCmp.eq_swap
  case int.int i j => exact congrArg some Std.OrientedCmp.eq_swap
  case int.float i x => exact hnumbers _ x
  case float.int x i => exact hnumbers x _
  case float.float x y => exact hnumbers x y
  case text.text s t => exact congrArg some Std.OrientedCmp.eq_swap
  case dateTime.dateTime s t =>
    exact congrArg some (Std.OrientedCmp.eq_swap (a := s.orderKey) (b := t.orderKey))
  all_goals rfl

/-- Values of different kinds cannot be compared. -/
theorem compare?_eq_none_of_rank_ne {a b : Value} (h : a.rank ≠ b.rank) : a.compare? b = none := by
  cases a <;> cases b
  case bool.bool | text.text | dateTime.dateTime => exact absurd rfl h
  case int.int | int.float | float.int | float.float => exact absurd rfl h
  all_goals rfl

theorem rank_eq_of_compare? {a b : Value} {order : Ordering} (h : a.compare? b = some order) :
    a.rank = b.rank := by
  by_contra hne
  rw [compare?_eq_none_of_rank_ne hne] at h
  cases h

/-- A NaN compares with nothing. -/
theorem compare?_nan (a : Value) {x : Binary64} (hx : x.isNaN = true) :
    a.compare? (float x) = none := by
  cases a <;> simp [compare?, toBinary64?, Binary64.compare?, hx]

theorem sortCompare_of_unlisted {a b : Value} (h : ¬ (a.rank = 5 ∧ b.rank = 5)) :
    a.sortCompare b = a.compareUnlisted b := by
  cases a <;> cases b
  case list.list => exact absurd ⟨rfl, rfl⟩ h
  all_goals rfl

/-- Values of different kinds are sorted by their kinds. -/
theorem sortCompare_of_rank_ne {a b : Value} (h : a.rank ≠ b.rank) :
    a.sortCompare b = Ord.compare a.rank b.rank := by
  have hunlisted : ¬ (a.rank = 5 ∧ b.rank = 5) := fun hlists => h (hlists.1.trans hlists.2.symm)
  rw [sortCompare_of_unlisted hunlisted, compareUnlisted, compare?_eq_none_of_rank_ne h,
    Option.getD_none]

/-- Values of one kind, if they are no lists, are sorted as they compare, or tie. -/
theorem sortCompare_of_rank_eq {a b : Value} (h : a.rank = b.rank) (hlist : a.rank ≠ 5) :
    a.sortCompare b = (a.compare? b).getD .eq := by
  have hunlisted : ¬ (a.rank = 5 ∧ b.rank = 5) := fun hlists => hlist hlists.1
  rw [sortCompare_of_unlisted hunlisted, compareUnlisted, compare_eq_iff_eq.mpr h]

/-! ### Comparing numbers -/

theorem eq_int_or_eq_float {a : Value} (h : a.rank = 2) :
    (∃ i, a = int i) ∨ ∃ x, a = float x := by
  cases a with
  | int i => exact Or.inl ⟨i, rfl⟩
  | float x => exact Or.inr ⟨x, rfl⟩
  | _ => cases h

theorem sortCompare_of_numbers {a b : Value} (ha : a.rank = 2) (hb : b.rank = 2) :
    a.sortCompare b = (a.compare? b).getD .eq :=
  sortCompare_of_rank_eq (ha.trans hb.symm) (by omega)

/-- The place of a number among the floating-point numbers. -/
def roundedKey : Value → Int
  | int i => (Binary64.ofInt i.toInt).orderKey
  | float x => x.orderKey
  | _ => 0

/-- The order of two integers, whatever they are rounded to. -/
def compareExactly : Value → Value → Ordering
  | int i, int j => Ord.compare i.toInt j.toInt
  | _, _ => .eq

/-- Comparing first by what grows with the numbers compared changes nothing. -/
theorem compare_eq_then_of_monotone {f : ℤ → ℤ} (hf : Monotone f) (i j : ℤ) :
    Ord.compare i j = (Ord.compare (f i) (f j)).then (Ord.compare i j) := by
  rcases lt_trichotomy i j with hlt | rfl | hgt
  · rcases (hf hlt.le).lt_or_eq with hkey | hkey
    · rw [compare_lt_iff_lt.mpr hlt, compare_lt_iff_lt.mpr hkey, Ordering.lt_then]
    · rw [compare_eq_iff_eq.mpr hkey, Ordering.eq_then]
  · rw [compare_eq_iff_eq.mpr (Eq.refl (f i)), Ordering.eq_then]
  · rcases (hf hgt.le).lt_or_eq with hkey | hkey
    · rw [compare_gt_iff_gt.mpr hgt, compare_gt_iff_gt.mpr hkey, Ordering.gt_then]
    · rw [compare_eq_iff_eq.mpr hkey.symm, Ordering.eq_then]

/-- **Numbers are sorted by what they are rounded to**, and integers that are rounded to the same
number exactly. -/
theorem sortCompare_eq_then {a b : Value} (ha : a.rank = 2) (hb : b.rank = 2)
    (hanan : ∀ x, a = float x → x.isNaN = false) (hbnan : ∀ x, b = float x → x.isNaN = false) :
    a.sortCompare b = (Ord.compare a.roundedKey b.roundedKey).then (a.compareExactly b) := by
  have hordered : ∀ {x y : Binary64}, x.isNaN = false → y.isNaN = false →
      (x.compare? y).getD .eq = (Ord.compare x.orderKey y.orderKey).then .eq := by
    intro x y hx hy
    rw [Binary64.compare?_of_ordered hx hy, Option.getD_some, Ordering.then_eq]
  have hint := fun i : Int64 => Binary64.isNaN_ofInt i.toInt
  rw [sortCompare_of_numbers ha hb]
  obtain ⟨i, rfl⟩ | ⟨x, rfl⟩ := eq_int_or_eq_float ha <;>
    obtain ⟨j, rfl⟩ | ⟨y, rfl⟩ := eq_int_or_eq_float hb
  · exact compare_eq_then_of_monotone (fun _ _ => Binary64.orderKey_ofInt_mono) i.toInt j.toInt
  · exact hordered (hint i) (hbnan y rfl)
  · exact hordered (hanan x rfl) (hint j)
  · exact hordered (hanan x rfl) (hbnan y rfl)

/-! ### Numbers that clash -/

/-- Among the values of `P` there are numbers that no total preorder can sort as they compare. -/
inductive NumbersClash (P : Value → Prop) : Prop where
  /-- A NaN, which ties with every number, beside two numbers that do not tie with each other. -/
  | nan {x : Binary64} {a b : Value} (hx : P (float x)) (hnan : x.isNaN = true) (ha : P a)
    (hb : P b) (hnumber : a.rank = 2) (hgt : a.compare? b = some .gt) : NumbersClash P
  /-- Two integers beside a floating-point number that both of them are rounded to. -/
  | rounded {x : Binary64} {i j : Int64} (hx : P (float x)) (hi : P (int i)) (hj : P (int j))
    (hlt : j.toInt < i.toInt) (hix : (int i).compare? (float x) = some .eq)
    (hjx : (int j).compare? (float x) = some .eq) : NumbersClash P

/-- Among the numbers of `P`, three always compare as in some total preorder. -/
def NumbersCohere (P : Value → Prop) : Prop :=
  ∀ a b c : Value, a.rank = 2 → b.rank = 2 → c.rank = 2 → P a → P b → P c →
    Coherent (a.sortCompare b) (b.sortCompare c) (a.sortCompare c)

variable {P : Value → Prop}

/-- Beside a NaN, numbers that do not clash all tie. -/
theorem sortCompare_eq_eq_of_nan (hclash : ¬ NumbersClash P) {x : Binary64} (hx : P (float x))
    (hnan : x.isNaN = true) {a b : Value} (ha : a.rank = 2) (hb : b.rank = 2) (hPa : P a)
    (hPb : P b) : a.sortCompare b = .eq := by
  rw [sortCompare_of_numbers ha hb]
  cases hab : a.compare? b with
  | none => rfl
  | some order =>
    cases order with
    | eq => rfl
    | gt => exact absurd (.nan hx hnan hPa hPb ha hab) hclash
    | lt =>
      have hba : b.compare? a = some .gt := by rw [compare?_eq_swap, hab]; rfl
      exact absurd (.nan hx hnan hPb hPa hb hba) hclash

/-- Numbers that do not clash tie if a floating-point number beside them is what both are rounded to. -/
theorem compareExactly_eq_eq_of_float (hclash : ¬ NumbersClash P) {x : Binary64} (hx : P (float x))
    (hnan : x.isNaN = false) {a b : Value} (hPa : P a) (hPb : P b)
    (ha : a.roundedKey = x.orderKey) (hb : b.roundedKey = x.orderKey) :
    a.compareExactly b = .eq := by
  have hties : ∀ {i : Int64}, (int i).roundedKey = x.orderKey →
      (int i).compare? (float x) = some .eq := by
    intro i hi
    have hordered := Binary64.compare?_of_ordered (Binary64.isNaN_ofInt i.toInt) hnan
    exact hordered.trans (congrArg some (compare_eq_iff_eq.mpr hi))
  cases a with
  | int i =>
    cases b with
    | int j =>
      rcases lt_trichotomy i.toInt j.toInt with hlt | heq | hgt
      · exact absurd (.rounded hx hPb hPa hlt (hties hb) (hties ha)) hclash
      · exact compare_eq_iff_eq.mpr heq
      · exact absurd (.rounded hx hPa hPb hgt (hties ha) (hties hb)) hclash
    | _ => rfl
  | _ => rfl

theorem numbersCohere_of_not_clash (hclash : ¬ NumbersClash P) : NumbersCohere P := by
  intro a b c ha hb hc hPa hPb hPc
  by_cases hnan : ∃ x, P (float x) ∧ x.isNaN = true
  · obtain ⟨x, hx, hnan⟩ := hnan
    have hties := @sortCompare_eq_eq_of_nan P hclash x hx hnan
    rw [hties ha hb hPa hPb, hties hb hc hPb hPc, hties ha hc hPa hPc]
    exact ⟨fun _ => rfl, fun _ => rfl, fun _ => rfl⟩
  have hordered : ∀ {v : Value}, P v → ∀ x, v = float x → x.isNaN = false := by
    rintro v hv x rfl
    exact Bool.eq_false_iff.mpr fun hx => hnan ⟨x, hv, hx⟩
  rw [sortCompare_eq_then ha hb (hordered hPa) (hordered hPb),
    sortCompare_eq_then hb hc (hordered hPb) (hordered hPc),
    sortCompare_eq_then ha hc (hordered hPa) (hordered hPc)]
  refine (coherent_of_transCmp Ord.compare a.roundedKey b.roundedKey c.roundedKey).andThen ?_
  intro hab hbc
  rw [compare_eq_iff_eq] at hab hbc
  by_cases hfloat : ∃ x, P (float x) ∧ a.roundedKey = x.orderKey
  · obtain ⟨x, hx, hax⟩ := hfloat
    have hbx := hab.symm.trans hax
    have hcx := hbc.symm.trans hbx
    have hties := @compareExactly_eq_eq_of_float P hclash x hx (hordered hx x rfl)
    rw [hties hPa hPb hax hbx, hties hPb hPc hbx hcx, hties hPa hPc hax hcx]
    exact ⟨fun _ => rfl, fun _ => rfl, fun _ => rfl⟩
  · -- none of the three is a floating-point number
    have hint : ∀ {v : Value}, v.rank = 2 → P v → a.roundedKey = v.roundedKey → ∃ i, v = int i := by
      intro v hv hPv hkey
      rcases eq_int_or_eq_float hv with hi | ⟨x, rfl⟩
      · exact hi
      · exact absurd ⟨x, hPv, hkey⟩ hfloat
    obtain ⟨i, rfl⟩ := hint ha hPa rfl
    obtain ⟨j, rfl⟩ := hint hb hPb hab
    obtain ⟨k, rfl⟩ := hint hc hPc (hab.trans hbc)
    exact coherent_of_transCmp Ord.compare i.toInt j.toInt k.toInt

end Value

end RecordQuery
