import Mathlib
import RecordQuery.Binary64.Basic

/-!
# Finite numbers

`Binary64.Finite` says that a number is neither an infinity nor a NaN.  How large a rounded quotient is
follows from the lengths of its parts (`Binary64.magnitude_ofRatio_le_of_log2`): an integer of 64 bits
is rounded to a finite number (`Binary64.finite_ofInt`), and dividing by a long number makes a number
smaller (`Binary64.magnitude_div_le`).  Magnitudes are compared with multiples of `2 ^ 52`, that is, by
their exponent fields.
-/

namespace RecordQuery

theorem twoPow_eq (n : ℕ) : twoPow n = 2 ^ n := rfl

theorem log2_mono {m n : ℕ} (h : m ≤ n) : m.log2 ≤ n.log2 := by
  by_cases hm : m = 0
  · rw [hm]
    exact Nat.zero_le _
  · have hn : n ≠ 0 := by omega
    exact (Nat.le_log2 hn).mpr ((Nat.log2_self_le hm).trans h)

namespace Binary64

/-- The number is no infinity and no NaN. -/
def Finite (x : Binary64) : Prop := x.magnitude < infinityMagnitude

instance (x : Binary64) : Decidable x.Finite :=
  inferInstanceAs (Decidable (x.magnitude < infinityMagnitude))

theorem finite_iff {x : Binary64} : x.Finite ↔ (x.isNaN || x.isInfinite) = false := by
  simp only [Finite, isNaN, isInfinite, Bool.or_eq_false_iff, decide_eq_false_iff_not]
  omega

theorem infinityMagnitude_lt : infinityMagnitude < 2 ^ 63 := by decide

theorem magnitude_ofMagnitude (negative : Bool) {m : ℕ} (hm : m < 2 ^ 63) :
    (ofMagnitude negative m).magnitude = m := by
  unfold magnitude ofMagnitude
  rw [twoPow_eq, UInt64.toNat_ofNat']
  split <;> omega

theorem magnitude_neg (x : Binary64) : x.neg.magnitude = x.magnitude := by
  have hlt : x.magnitude < 2 ^ 63 := Nat.mod_lt _ (by decide)
  rw [neg, magnitude_ofMagnitude _ hlt]

theorem Finite.neg {x : Binary64} (h : x.Finite) : x.neg.Finite := by
  rw [Finite, magnitude_neg]
  exact h

/-! ### How large a quotient is -/

theorem nearestMagnitude_le_infinityMagnitude (num den : ℕ) :
    nearestMagnitude num den ≤ infinityMagnitude :=
  Nat.min_le_right _ _

theorem roundHalfEven_le {num den k : ℕ} (h : num < den * k) : roundHalfEven num den ≤ k := by
  have hquotient : num / den < k := Nat.div_lt_of_lt_mul h
  unfold roundHalfEven
  simp only
  split <;> omega

theorem le_roundHalfEven {num den k : ℕ} (hden : 0 < den) (h : k * den ≤ num) :
    k ≤ roundHalfEven num den := by
  have hquotient : k ≤ num / den := (Nat.le_div_iff_mul_le hden).mpr h
  unfold roundHalfEven
  simp only
  split <;> omega

theorem doublings_le (num den : ℕ) : doublings num den ≤ num.log2 + 1022 - den.log2 := by
  unfold doublings
  simp only
  split <;> omega

theorem le_doublings (num den : ℕ) : num.log2 + 1021 ≤ doublings num den + den.log2 := by
  unfold doublings
  simp only
  split <;> omega

/-- Counted from the spacing that it is rounded to, a quotient has at most 54 bits. -/
theorem nearestMagnitude_le (num : ℕ) {den : ℕ} (hden : den ≠ 0) :
    nearestMagnitude num den ≤ (doublings num den + 4) * 2 ^ 52 := by
  have hnum : num < 2 ^ (num.log2 + 1) := Nat.lt_log2_self
  have hlow : 2 ^ den.log2 ≤ den := Nat.log2_self_le hden
  have hle := le_doublings num den
  unfold nearestMagnitude
  simp only [twoPow_eq]
  generalize doublings num den = d at hle ⊢
  have hsteps : (if d ≤ 1074 then roundHalfEven (num * 2 ^ (1074 - d)) den
      else roundHalfEven num (den * 2 ^ (d - 1074))) ≤ 2 ^ 54 := by
    split
    · apply roundHalfEven_le
      calc num * 2 ^ (1074 - d) < 2 ^ (num.log2 + 1) * 2 ^ (1074 - d) :=
            Nat.mul_lt_mul_of_pos_right hnum (Nat.two_pow_pos _)
        _ = 2 ^ (num.log2 + 1 + (1074 - d)) := (pow_add _ _ _).symm
        _ ≤ 2 ^ (den.log2 + 54) := Nat.pow_le_pow_right (by decide) (by omega)
        _ = 2 ^ den.log2 * 2 ^ 54 := pow_add _ _ _
        _ ≤ den * 2 ^ 54 := Nat.mul_le_mul_right _ hlow
    · apply roundHalfEven_le
      calc num < 2 ^ (num.log2 + 1) := hnum
        _ ≤ 2 ^ (den.log2 + (d - 1074) + 54) := Nat.pow_le_pow_right (by decide) (by omega)
        _ = 2 ^ den.log2 * 2 ^ (d - 1074) * 2 ^ 54 := by rw [pow_add, pow_add]
        _ ≤ den * 2 ^ (d - 1074) * 2 ^ 54 :=
            Nat.mul_le_mul_right _ (Nat.mul_le_mul_right _ hlow)
  refine (Nat.min_le_left _ _).trans ?_
  omega

theorem magnitude_ofRatio (negative : Bool) (num den : ℕ) :
    (ofRatio negative num den).magnitude = if num = 0 then 0 else nearestMagnitude num den := by
  apply magnitude_ofMagnitude
  split
  · decide
  · exact Nat.lt_of_le_of_lt (nearestMagnitude_le_infinityMagnitude num den) infinityMagnitude_lt

/-- A quotient is never a NaN. -/
theorem magnitude_ofRatio_le (negative : Bool) (num den : ℕ) :
    (ofRatio negative num den).magnitude ≤ infinityMagnitude := by
  rw [magnitude_ofRatio]
  split
  · exact Nat.zero_le _
  · exact nearestMagnitude_le_infinityMagnitude num den

theorem finite_ofRatio {negative : Bool} {num den : ℕ}
    (h : (ofRatio negative num den).isInfinite = false) : (ofRatio negative num den).Finite := by
  have hle := magnitude_ofRatio_le negative num den
  have hne : (ofRatio negative num den).magnitude ≠ infinityMagnitude := by
    simpa [isInfinite] using h
  exact Nat.lt_of_le_of_ne hle hne

/-- The magnitude of a quotient by the lengths of its parts. -/
theorem magnitude_ofRatio_le_of_log2 (negative : Bool) {num den k : ℕ} (hden : den ≠ 0)
    (h : num.log2 + 1022 ≤ den.log2 + k) :
    (ofRatio negative num den).magnitude ≤ (k + 4) * 2 ^ 52 := by
  rw [magnitude_ofRatio]
  split
  · exact Nat.zero_le _
  · have hdoublings := doublings_le num den
    exact (nearestMagnitude_le num hden).trans (Nat.mul_le_mul_right _ (by omega))

theorem finite_of_magnitude_le {x : Binary64} {k : ℕ} (h : x.magnitude ≤ k * 2 ^ 52)
    (hk : k < 2047) : x.Finite := by
  have hinfinity : infinityMagnitude = 2047 * 2 ^ 52 := rfl
  rw [Finite, hinfinity]
  omega

/-- An integer of 64 bits is rounded to a number below `2 ^ 67`. -/
theorem magnitude_ofInt_le {i : ℤ} (hi : i.natAbs < 2 ^ 64) :
    (ofInt i).magnitude ≤ 1089 * 2 ^ 52 := by
  have hlog : i.natAbs.log2 ≤ 63 := by
    by_cases hzero : i.natAbs = 0
    · rw [hzero]
      decide
    · have hlt := (Nat.log2_lt hzero).mpr hi
      omega
  have hone : Nat.log2 1 = 0 := by decide
  exact magnitude_ofRatio_le_of_log2 _ (k := 1085) (by decide) (by omega)

theorem finite_ofInt {i : ℤ} (hi : i.natAbs < 2 ^ 64) : (ofInt i).Finite :=
  finite_of_magnitude_le (magnitude_ofInt_le hi) (by decide)

theorem finite_zero (negative : Bool) : (zero negative).Finite := by
  cases negative <;> decide

/-! ### Dividing -/

theorem log2_mul_two_pow_le (n k : ℕ) : (n * 2 ^ k).log2 ≤ n.log2 + k := by
  by_cases hzero : n * 2 ^ k = 0
  · rw [hzero]
    exact Nat.zero_le _
  · have hlt : n * 2 ^ k < 2 ^ (n.log2 + k + 1) := by
      calc n * 2 ^ k < 2 ^ (n.log2 + 1) * 2 ^ k :=
            Nat.mul_lt_mul_of_pos_right Nat.lt_log2_self (Nat.two_pow_pos _)
        _ = 2 ^ (n.log2 + k + 1) := by rw [← pow_add, Nat.add_right_comm]
    have hlog := (Nat.log2_lt hzero).mpr hlt
    omega

theorem le_log2_two_pow_mul {n : ℕ} (hn : n ≠ 0) (k : ℕ) : k + n.log2 ≤ (2 ^ k * n).log2 := by
  have hne : 2 ^ k * n ≠ 0 := Nat.mul_ne_zero (Nat.two_pow_pos k).ne' hn
  rw [Nat.le_log2 hne, pow_add]
  exact Nat.mul_le_mul_left _ (Nat.log2_self_le hn)

theorem log2_numerator_le (x : Binary64) : x.numerator.log2 ≤ 52 + x.scale.toNat := by
  have hlt : x.significand < 2 ^ 53 := by
    have hfraction : x.fractionField < 2 ^ 52 := Nat.mod_lt _ (by decide)
    unfold significand
    rw [twoPow_eq]
    split <;> omega
  have hlog : x.significand.log2 ≤ 52 := by
    by_cases hzero : x.significand = 0
    · rw [hzero]
      decide
    · have := (Nat.log2_lt hzero).mpr hlt
      omega
  have hmul := log2_mul_two_pow_le x.significand x.scale.toNat
  rw [numerator, twoPow_eq]
  omega

/-- A number from `2 ^ s` on has a numerator longer by `s` than its denominator. -/
theorem log2_numerator_of_le {x : Binary64} {s : ℕ} (h : (1023 + s) * 2 ^ 52 ≤ x.magnitude) :
    x.numerator ≠ 0 ∧ x.denominator.log2 + s ≤ x.numerator.log2 := by
  have hexponent : 1023 + s ≤ x.exponentField := by
    rw [exponentField, twoPow_eq]
    omega
  have hscale : x.scale = (max x.exponentField 1 : ℕ) - 1075 := rfl
  have hsignificand : 2 ^ 52 ≤ x.significand := by
    rw [significand, if_neg (by omega), twoPow_eq]
    omega
  have hlow : 2 ^ (52 + x.scale.toNat) ≤ x.numerator := by
    rw [pow_add]
    exact Nat.mul_le_mul_right _ hsignificand
  have hne : x.numerator ≠ 0 := by
    have hpos := Nat.two_pow_pos (52 + x.scale.toNat)
    omega
  have hlog := (Nat.le_log2 hne).mpr hlow
  have hdenominator : x.denominator.log2 = (-x.scale).toNat := Nat.log2_two_pow
  exact ⟨hne, by omega⟩

/-- Dividing by a number with a numerator longer by `s` than its denominator takes `s` off the
exponent, up to the rounding. -/
theorem magnitude_div_le {x y : Binary64} {k s : ℕ} (hx : x.magnitude ≤ k * 2 ^ 52)
    (hzero : y.numerator ≠ 0) (hy : y.denominator.log2 + s ≤ y.numerator.log2) :
    (x.div y).magnitude ≤ (k - s + 4) * 2 ^ 52 := by
  have hexponent : x.exponentField ≤ k := by
    rw [exponentField, twoPow_eq]
    omega
  have hscale : x.scale = (max x.exponentField 1 : ℕ) - 1075 := rfl
  have hnumerator := log2_numerator_le x
  have hdenominator : y.denominator.log2 = (-y.scale).toNat := Nat.log2_two_pow
  have hnum : (x.numerator * y.denominator).log2 ≤ x.numerator.log2 + (-y.scale).toNat :=
    log2_mul_two_pow_le _ _
  have hden : (-x.scale).toNat + y.numerator.log2 ≤ (x.denominator * y.numerator).log2 :=
    le_log2_two_pow_mul hzero _
  have hne : x.denominator * y.numerator ≠ 0 := Nat.mul_ne_zero (Nat.two_pow_pos _).ne' hzero
  exact magnitude_ofRatio_le_of_log2 _ hne (by omega)

end Binary64

end RecordQuery
