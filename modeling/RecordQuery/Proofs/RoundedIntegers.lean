import RecordQuery.Proofs.FiniteNumbers

/-!
# Integers rounded to floating-point numbers

A positive integer is counted from the spacing of the numbers around it, and the count is rounded
(`Binary64.integerSteps`); the exponent field says which spacing that is (`Binary64.nearestMagnitude_one`).
So a larger integer is rounded to a number at least as large (`Binary64.orderKey_ofInt_mono`), which
beyond `2 ^ 53` may be the same one, and no integer is rounded to a NaN (`Binary64.isNaN_ofInt`).
-/

namespace RecordQuery.Binary64

/-- Rounding a quotient keeps the order of the numerators. -/
theorem roundHalfEven_mono {m n : ℕ} (h : m ≤ n) (den : ℕ) :
    roundHalfEven m den ≤ roundHalfEven n den := by
  have hquotient : m / den ≤ n / den := Nat.div_le_div_right h
  have hm := Nat.div_add_mod m den
  have hn := Nat.div_add_mod n den
  unfold roundHalfEven
  simp only
  by_cases heq : m / den = n / den
  · -- the rests are in order, and a tie goes the same way for both
    rw [heq] at hm ⊢
    split <;> split <;> omega
  · split <;> split <;> omega

/-! ### Positive integers -/

/-- How often a positive integer holds the spacing of the numbers around it, rounded; between
`2 ^ 52` and `2 ^ 53`. -/
def integerSteps (n : ℕ) : ℕ :=
  if n.log2 ≤ 52 then roundHalfEven (n * 2 ^ (52 - n.log2)) 1
  else roundHalfEven n (2 ^ (n.log2 - 52))

theorem le_integerSteps {n : ℕ} (hn : n ≠ 0) : 2 ^ 52 ≤ integerSteps n := by
  have hlow : 2 ^ n.log2 ≤ n := Nat.log2_self_le hn
  unfold integerSteps
  split
  · have hplaces : n.log2 + (52 - n.log2) = 52 := by omega
    apply le_roundHalfEven Nat.one_pos
    calc 2 ^ 52 * 1 = 2 ^ (n.log2 + (52 - n.log2)) := by rw [hplaces, Nat.mul_one]
      _ = 2 ^ n.log2 * 2 ^ (52 - n.log2) := pow_add _ _ _
      _ ≤ n * 2 ^ (52 - n.log2) := Nat.mul_le_mul_right _ hlow
  · have hplaces : 52 + (n.log2 - 52) = n.log2 := by omega
    apply le_roundHalfEven (by positivity)
    calc 2 ^ 52 * 2 ^ (n.log2 - 52) = 2 ^ n.log2 := by rw [← pow_add, hplaces]
      _ ≤ n := hlow

theorem integerSteps_le (n : ℕ) : integerSteps n ≤ 2 ^ 53 := by
  have hhigh : n < 2 ^ (n.log2 + 1) := Nat.lt_log2_self
  unfold integerSteps
  split
  · have hplaces : n.log2 + 1 + (52 - n.log2) = 53 := by omega
    apply roundHalfEven_le
    calc n * 2 ^ (52 - n.log2) < 2 ^ (n.log2 + 1) * 2 ^ (52 - n.log2) :=
          Nat.mul_lt_mul_of_pos_right hhigh (Nat.two_pow_pos _)
      _ = 1 * 2 ^ 53 := by rw [← pow_add, hplaces, Nat.one_mul]
  · have hplaces : n.log2 + 1 = n.log2 - 52 + 53 := by omega
    apply roundHalfEven_le
    calc n < 2 ^ (n.log2 + 1) := hhigh
      _ = 2 ^ (n.log2 - 52) * 2 ^ 53 := by rw [hplaces, pow_add]

theorem integerSteps_mono {m n : ℕ} (hlog : m.log2 = n.log2) (h : m ≤ n) :
    integerSteps m ≤ integerSteps n := by
  unfold integerSteps
  rw [hlog]
  split
  · exact roundHalfEven_mono (Nat.mul_le_mul_right _ h) 1
  · exact roundHalfEven_mono h _

theorem doublings_one {n : ℕ} (hn : n ≠ 0) : doublings n 1 = n.log2 + 1022 := by
  have hone : Nat.log2 1 = 0 := by decide
  have hlow : 2 ^ n.log2 ≤ n := Nat.log2_self_le hn
  have hreached : ¬ n < 2 ^ n.log2 := by omega
  simp [doublings, hone, twoPow_eq, hreached]
  omega

/-- The number nearest to a positive integer, by the exponent field and the steps of its spacing. -/
theorem nearestMagnitude_one {n : ℕ} (hn : n ≠ 0) :
    nearestMagnitude n 1 = min ((n.log2 + 1022) * 2 ^ 52 + integerSteps n) infinityMagnitude := by
  have hplaces : 1074 - (n.log2 + 1022) = 52 - n.log2 := Nat.add_sub_add_right 52 1022 _
  have hbeyond : n.log2 + 1022 - 1074 = n.log2 - 52 := Nat.add_sub_add_right _ 1022 52
  unfold nearestMagnitude integerSteps
  simp only [twoPow_eq, doublings_one hn]
  rw [hplaces, hbeyond, Nat.one_mul]
  by_cases hsmall : n.log2 ≤ 52
  · rw [if_pos hsmall, if_pos (by omega)]
  · rw [if_neg hsmall, if_neg (by omega)]

theorem nearestMagnitude_one_mono {m n : ℕ} (hm : m ≠ 0) (h : m ≤ n) :
    nearestMagnitude m 1 ≤ nearestMagnitude n 1 := by
  have hn : n ≠ 0 := by omega
  rw [nearestMagnitude_one hm, nearestMagnitude_one hn]
  apply min_le_min_right
  rcases (log2_mono h).eq_or_lt with hlog | hlog
  · have hsteps := integerSteps_mono hlog h
    rw [hlog]
    omega
  · -- the steps of one spacing reach no further than to the first of the next
    have hupper := integerSteps_le m
    have hlower := le_integerSteps hn
    omega

/-- A positive integer is not rounded below the power of two that it reaches. -/
theorem le_magnitude_ofRatio_one (negative : Bool) {n : ℕ} (hn : n ≠ 0) :
    min ((1023 + n.log2) * 2 ^ 52) infinityMagnitude ≤ (ofRatio negative n 1).magnitude := by
  have hsteps := le_integerSteps hn
  rw [magnitude_ofRatio, if_neg hn, nearestMagnitude_one hn]
  omega

/-! ### All integers -/

theorem isNaN_ofInt (i : ℤ) : (ofInt i).isNaN = false := by
  have hle := magnitude_ofRatio_le (i < 0) i.natAbs 1
  exact decide_eq_false (Nat.not_lt.mpr hle)

theorem isNegative_ofMagnitude (negative : Bool) {m : ℕ} (hm : m < 2 ^ 63) :
    (ofMagnitude negative m).isNegative = negative := by
  unfold isNegative ofMagnitude
  rw [twoPow_eq, UInt64.toNat_ofNat']
  cases negative <;> simp <;> omega

/-- The magnitude of the number nearest to an integer, with the sign of the integer. -/
theorem orderKey_ofInt (i : ℤ) :
    (ofInt i).orderKey = if i < 0 then -((ofInt i).magnitude : ℤ) else (ofInt i).magnitude := by
  have hlt : (if i.natAbs = 0 then 0 else nearestMagnitude i.natAbs 1) < 2 ^ 63 := by
    have hle := nearestMagnitude_le_infinityMagnitude i.natAbs 1
    have hinfinity := infinityMagnitude_lt
    split <;> omega
  have hnegative : (ofInt i).isNegative = decide (i < 0) := isNegative_ofMagnitude _ hlt
  rw [orderKey, hnegative]
  simp only [decide_eq_true_eq]

theorem magnitude_ofInt_mono {i j : ℤ} (h : i.natAbs ≤ j.natAbs) :
    (ofInt i).magnitude ≤ (ofInt j).magnitude := by
  rw [ofInt, ofInt, magnitude_ofRatio, magnitude_ofRatio]
  by_cases hi : i.natAbs = 0
  · rw [if_pos hi]
    exact Nat.zero_le _
  · rw [if_neg hi, if_neg (by omega)]
    exact nearestMagnitude_one_mono hi h

/-- **A larger integer is not rounded to a smaller number.** -/
theorem orderKey_ofInt_mono {i j : ℤ} (h : i ≤ j) : (ofInt i).orderKey ≤ (ofInt j).orderKey := by
  rw [orderKey_ofInt, orderKey_ofInt]
  split <;> split
  · -- of two negative integers the smaller one lies further from zero
    have hmagnitude : (ofInt j).magnitude ≤ (ofInt i).magnitude := magnitude_ofInt_mono (by omega)
    omega
  · omega
  · omega
  · have hmagnitude : (ofInt i).magnitude ≤ (ofInt j).magnitude := magnitude_ofInt_mono (by omega)
    omega

end RecordQuery.Binary64
