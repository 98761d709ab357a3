import RecordQuery.Binary64.Shortest
import RecordQuery.Proofs.RoundedIntegers

/-!
# What rounds to a number

A quotient is counted in the spacing of the numbers around it (`Binary64.doublings_le_iff`), and the
count is rounded.  Neither depends on more than the value of the quotient
(`Binary64.ofRatio_mul_right`).  So a quotient between the two midpoints around a finite number rounds to
that number, and one at a midpoint does so if the significand is even
(`Binary64.ofRatio_of_mem`).

Just below a power of two the numbers lie twice as close as above it.  A quotient there is counted in
the narrower spacing, and its count is rounded up to the power of two.
-/

namespace RecordQuery.Binary64

/-! ### Rounding a quotient -/

theorem roundHalfEven_mul_right (num den : ℕ) {k : ℕ} (hk : 0 < k) :
    roundHalfEven (num * k) (den * k) = roundHalfEven num den := by
  have hhalf : den * k < 2 * (num % den * k) ↔ den < 2 * (num % den) := by
    rw [← Nat.mul_assoc]
    exact Nat.mul_lt_mul_right hk
  have htie : 2 * (num % den * k) = den * k ↔ 2 * (num % den) = den := by
    rw [← Nat.mul_assoc]
    exact Nat.mul_left_inj hk.ne'
  unfold roundHalfEven
  simp only [Nat.mul_div_mul_right _ _ hk, Nat.mul_mod_mul_right, hhalf, htie]

/-- A quotient is rounded to a whole number that is at most a half away, and that is even if it is a
half away. -/
theorem roundHalfEven_eq {num den n : ℕ} (hden : 0 < den) (hlow : 2 * n * den ≤ 2 * num + den)
    (hhigh : 2 * num ≤ (2 * n + 1) * den)
    (hodd : n % 2 = 1 → 2 * n * den < 2 * num + den ∧ 2 * num < (2 * n + 1) * den) :
    roundHalfEven num den = n := by
  have hnum := Nat.div_add_mod num den
  have hrest := Nat.mod_lt num hden
  unfold roundHalfEven
  simp only
  generalize num / den = q at hnum ⊢
  generalize num % den = r at hnum hrest ⊢
  subst hnum
  -- rounded down, the quotient is `n` or the number before it
  have hle : q ≤ n := by
    by_contra hlt
    have hmul : (n + 1) * den ≤ q * den := Nat.mul_le_mul_right den (by omega)
    nlinarith
  have hle' : n ≤ q + 1 := by
    by_contra hlt
    have hmul : (q + 2) * den ≤ n * den := Nat.mul_le_mul_right den (by omega)
    nlinarith
  rcases hle.eq_or_lt with rfl | hlt
  · rw [if_neg]
    rintro (hnear | ⟨htie, hq⟩)
    · nlinarith
    · have hstrict := (hodd hq).2
      nlinarith
  · obtain rfl : n = q + 1 := by omega
    rw [if_pos]
    by_cases htie : 2 * r = den
    · refine Or.inr ⟨htie, ?_⟩
      by_contra heven
      have hstrict := (hodd (by omega)).1
      nlinarith
    · have hnear : den ≤ 2 * r := by nlinarith
      exact Or.inl (by omega)

/-- A quotient is compared with a power of two, whatever the sign of the exponent. -/
theorem decide_lt_twoPow (num den a b : ℕ) :
    (if 0 ≤ (a - b : ℤ) then decide (num < den * twoPow (a - b : ℤ).toNat)
      else decide (num * twoPow (-(a - b : ℤ)).toNat < den)) =
      decide (num * 2 ^ b < den * 2 ^ a) := by
  split
  · obtain ⟨k, rfl⟩ : ∃ k, a = b + k := ⟨a - b, by omega⟩
    have hk : ((b + k : ℕ) - b : ℤ).toNat = k := by omega
    rw [decide_eq_decide, hk, twoPow_eq, pow_add, Nat.mul_comm (2 ^ b), ← Nat.mul_assoc,
      Nat.mul_lt_mul_right (Nat.two_pow_pos b)]
  · obtain ⟨k, rfl⟩ : ∃ k, b = a + k := ⟨b - a, by omega⟩
    have hk : (-(a - (a + k : ℕ) : ℤ)).toNat = k := by omega
    rw [decide_eq_decide, hk, twoPow_eq, pow_add, Nat.mul_comm (2 ^ a), ← Nat.mul_assoc,
      Nat.mul_lt_mul_right (Nat.two_pow_pos a)]

/-- The spacing in which a quotient is counted, by the powers of two that it lies below. -/
theorem doublings_le_iff {num den : ℕ} (hnum : num ≠ 0) (hden : den ≠ 0) (d : ℕ) :
    doublings num den ≤ d ↔ num * 2 ^ 1021 < den * 2 ^ d := by
  have hlow := Nat.log2_self_le hnum
  have hlow' := Nat.log2_self_le hden
  have hhigh : num < 2 ^ (num.log2 + 1) := Nat.lt_log2_self
  have hhigh' : den < 2 ^ (den.log2 + 1) := Nat.lt_log2_self
  unfold doublings
  simp only [decide_lt_twoPow]
  generalize num.log2 = a at *
  generalize den.log2 = b at *
  -- both parts are brought to the length of their product
  have hscale : num * 2 ^ 1021 < den * 2 ^ d ↔ num * 2 ^ b * 2 ^ 1021 < den * 2 ^ (d + b) := by
    rw [← Nat.mul_lt_mul_right (Nat.two_pow_pos b), Nat.mul_right_comm, Nat.mul_assoc den, ← pow_add]
  have hless : num * 2 ^ b < 2 * (den * 2 ^ a) := by
    calc num * 2 ^ b < 2 ^ (a + 1) * 2 ^ b := Nat.mul_lt_mul_of_pos_right hhigh (Nat.two_pow_pos b)
      _ ≤ 2 ^ (a + 1) * den := Nat.mul_le_mul_left _ hlow'
      _ = 2 * (den * 2 ^ a) := by ring
  have hless' : den * 2 ^ a < 2 * (num * 2 ^ b) := by
    calc den * 2 ^ a < 2 ^ (b + 1) * 2 ^ a := Nat.mul_lt_mul_of_pos_right hhigh' (Nat.two_pow_pos a)
      _ ≤ 2 ^ (b + 1) * num := Nat.mul_le_mul_left _ hlow
      _ = 2 * (num * 2 ^ b) := by ring
  have hbeyond {t : ℕ} (ht : a + t ≤ d + b) : den * 2 ^ a * 2 ^ t ≤ den * 2 ^ (d + b) := by
    rw [Nat.mul_assoc, ← pow_add]
    exact Nat.mul_le_mul_left _ (Nat.pow_le_pow_right (by decide) ht)
  have hwithin {t : ℕ} (ht : d + b ≤ a + t) : den * 2 ^ (d + b) ≤ den * 2 ^ a * 2 ^ t := by
    rw [Nat.mul_assoc den, ← pow_add]
    exact Nat.mul_le_mul_left _ (Nat.pow_le_pow_right (by decide) ht)
  rw [hscale]
  by_cases h : num * 2 ^ b < den * 2 ^ a
  · have hplaces : ((if decide (num * 2 ^ b < den * 2 ^ a) = true then (a - b : ℤ) - 1
        else (a - b : ℤ)) - 52 + 1074).toNat ≤ d ↔ a + 1021 ≤ d + b := by
      rw [if_pos (decide_eq_true h)]
      omega
    rw [hplaces]
    constructor
    · intro ht
      have := hbeyond ht
      omega
    · intro hlt
      by_contra ht
      have := @hwithin 1020 (by omega)
      omega
  · have hplaces : ((if decide (num * 2 ^ b < den * 2 ^ a) = true then (a - b : ℤ) - 1
        else (a - b : ℤ)) - 52 + 1074).toNat ≤ d ↔ a + 1022 ≤ d + b := by
      rw [if_neg (by simpa using h)]
      omega
    rw [hplaces]
    constructor
    · intro ht
      have := hbeyond ht
      omega
    · intro hlt
      by_contra ht
      have := @hwithin 1021 (by omega)
      omega

/-- A quotient is rounded to as many of the spacings around it as are nearest to it. -/
theorem nearestMagnitude_eq (num den : ℕ) :
    nearestMagnitude num den = min (doublings num den * 2 ^ 52 +
      roundHalfEven (num * 2 ^ 1074) (den * 2 ^ doublings num den)) infinityMagnitude := by
  unfold nearestMagnitude
  simp only [twoPow_eq]
  generalize doublings num den = d
  split
  · rename_i hd
    rw [← roundHalfEven_mul_right _ den (Nat.two_pow_pos d), Nat.mul_assoc, ← pow_add,
      Nat.sub_add_cancel hd]
  · rename_i hd
    have hplaces : d - 1074 + 1074 = d := Nat.sub_add_cancel (Nat.le_of_not_le hd)
    rw [← roundHalfEven_mul_right num _ (k := 2 ^ 1074) (by positivity), Nat.mul_assoc,
      ← pow_add, hplaces]

theorem doublings_mul_right {num den k : ℕ} (hnum : num ≠ 0) (hden : den ≠ 0) (hk : 0 < k) :
    doublings (num * k) (den * k) = doublings num den := by
  have hle (d : ℕ) : doublings (num * k) (den * k) ≤ d ↔ doublings num den ≤ d := by
    rw [doublings_le_iff (Nat.mul_ne_zero hnum hk.ne') (Nat.mul_ne_zero hden hk.ne'),
      doublings_le_iff hnum hden, Nat.mul_right_comm, Nat.mul_right_comm den,
      Nat.mul_lt_mul_right hk]
  exact Nat.le_antisymm ((hle _).mpr le_rfl) ((hle _).mp le_rfl)

/-- Rounding looks at no more than the value of a quotient. -/
theorem ofRatio_mul_right (negative : Bool) {num den k : ℕ} (hden : den ≠ 0) (hk : 0 < k) :
    ofRatio negative (num * k) (den * k) = ofRatio negative num den := by
  rcases Nat.eq_zero_or_pos num with rfl | hnum
  · rw [Nat.zero_mul, ofRatio, ofRatio, if_pos rfl, if_pos rfl]
  · have hne : num * k ≠ 0 := Nat.mul_ne_zero hnum.ne' hk.ne'
    have hrounded : nearestMagnitude (num * k) (den * k) = nearestMagnitude num den := by
      rw [nearestMagnitude_eq, nearestMagnitude_eq, doublings_mul_right hnum.ne' hden hk,
        Nat.mul_right_comm, Nat.mul_right_comm den, roundHalfEven_mul_right _ _ hk]
    rw [ofRatio, ofRatio, if_neg hne, if_neg hnum.ne', hrounded]

/-! ### The interval around a number -/

variable {x : Binary64}

/-- The spacing in which a number is counted. -/
def spacing (x : Binary64) : ℕ := max x.exponentField 1 - 1

theorem magnitude_eq (x : Binary64) : x.magnitude = x.spacing * 2 ^ 52 + x.significand := by
  have hmagnitude := Nat.div_add_mod x.magnitude (2 ^ 52)
  rw [spacing, significand, exponentField, fractionField, twoPow_eq]
  split <;> omega

theorem scale_eq (x : Binary64) : x.scale = (x.spacing : ℤ) - 1074 := by
  rw [scale, spacing]
  omega

theorem significand_lt (x : Binary64) : x.significand < 2 ^ 53 := by
  have hfraction : x.fractionField < 2 ^ 52 := Nat.mod_lt _ (by decide)
  rw [significand, twoPow_eq]
  split <;> omega

/-- Only the numbers in the narrowest spacing have a significand without a leading bit. -/
theorem le_significand (h : 0 < x.spacing) : 2 ^ 52 ≤ x.significand := by
  rw [spacing] at h
  rw [significand, if_neg (by omega), twoPow_eq]
  omega

theorem significand_ne_zero (h : x.isZero = false) : x.significand ≠ 0 := by
  have hmagnitude := magnitude_eq x
  have hne : x.magnitude ≠ 0 := by simpa [isZero] using h
  rcases Nat.eq_zero_or_pos x.spacing with hspacing | hspacing
  · rw [hspacing] at hmagnitude
    omega
  · have := le_significand hspacing
    omega

/-- The lower end of the interval around a number.  Below a power of two it is nearer. -/
theorem low_roundingInterval (hzero : x.isZero = false) :
    x.roundingInterval.low + 2 = 4 * x.significand ∧ (0 < x.spacing → 2 ^ 52 < x.significand) ∨
      x.roundingInterval.low + 1 = 4 * x.significand ∧ x.significand = 2 ^ 52 ∧ 0 < x.spacing := by
  have hne := significand_ne_zero hzero
  have hlow : x.roundingInterval.low =
      if x.fractionField = 0 ∧ 1 < x.exponentField then 4 * x.significand - 1
      else 4 * x.significand - 2 := rfl
  rw [hlow, spacing]
  split
  · rename_i h
    refine Or.inr ⟨by omega, ?_, by omega⟩
    rw [significand, if_neg (by omega), h.1]
    rfl
  · rename_i h
    refine Or.inl ⟨by omega, fun hspacing => ?_⟩
    rw [significand, if_neg (by omega), twoPow_eq]
    omega

theorem ofMagnitude_magnitude (x : Binary64) : ofMagnitude x.isNegative x.magnitude = x := by
  have hlt := x.bits.toNat_lt
  have hbits : (if x.isNegative then twoPow 63 + x.magnitude else x.magnitude) = x.bits.toNat := by
    have hsign : x.isNegative = decide (2 ^ 63 ≤ x.bits.toNat) := rfl
    rw [hsign, magnitude, twoPow_eq]
    simp only [decide_eq_true_eq]
    split <;> omega
  rw [ofMagnitude, hbits, UInt64.ofNat_toNat]

section

variable {num den : ℕ}

theorem ofRatio_eq (hx : x.Finite) (hnum : num ≠ 0)
    (h : doublings num den * 2 ^ 52 +
      roundHalfEven (num * 2 ^ 1074) (den * 2 ^ doublings num den) = x.magnitude) :
    ofRatio x.isNegative num den = x := by
  have hmin : min x.magnitude infinityMagnitude = x.magnitude := Nat.min_eq_left (Nat.le_of_lt hx)
  rw [ofRatio, if_neg hnum, nearestMagnitude_eq, h, hmin, ofMagnitude_magnitude]

theorem doublings_le_iff_spacings (hnum : num ≠ 0) (hden : den ≠ 0) (d : ℕ) :
    doublings num den ≤ d ↔ num * 2 ^ 1074 < 2 ^ 53 * (den * 2 ^ d) := by
  have hplaces : num * 2 ^ 1074 = 2 ^ 53 * (num * 2 ^ 1021) := by
    rw [Nat.mul_left_comm, ← pow_add]
  rw [doublings_le_iff hnum hden, hplaces]
  exact (Nat.mul_lt_mul_left (by decide)).symm

/-- A quotient that is counted in the spacing of a number. -/
theorem ofRatio_of_le (hx : x.Finite) (hnum : num ≠ 0) (hden : den ≠ 0)
    (hbinade : 0 < x.spacing → 2 ^ 52 * (den * 2 ^ x.spacing) ≤ num * 2 ^ 1074)
    (hlow : 2 * x.significand * (den * 2 ^ x.spacing) ≤
      2 * (num * 2 ^ 1074) + den * 2 ^ x.spacing)
    (hhigh : 2 * (num * 2 ^ 1074) ≤ (2 * x.significand + 1) * (den * 2 ^ x.spacing))
    (hodd : x.significand % 2 = 1 → 2 * x.significand * (den * 2 ^ x.spacing) <
      2 * (num * 2 ^ 1074) + den * 2 ^ x.spacing ∧
      2 * (num * 2 ^ 1074) < (2 * x.significand + 1) * (den * 2 ^ x.spacing)) :
    ofRatio x.isNegative num den = x := by
  have hle := doublings_le_iff_spacings hnum hden
  have hpos : 0 < den * 2 ^ x.spacing := Nat.mul_pos (Nat.pos_of_ne_zero hden) (Nat.two_pow_pos _)
  -- the upper midpoint lies below the power of two that ends the binade
  have hspacing : doublings num den = x.spacing := by
    apply Nat.le_antisymm
    · have hlt := significand_lt x
      have hmul : (2 * x.significand + 1) * (den * 2 ^ x.spacing) ≤
          (2 ^ 54 - 1) * (den * 2 ^ x.spacing) := Nat.mul_le_mul_right _ (by omega)
      rw [hle]
      omega
    · rcases Nat.eq_zero_or_pos x.spacing with hzero | hposition
      · omega
      · have hnot : ¬ doublings num den ≤ x.spacing - 1 := by
          have hhalf : den * 2 ^ x.spacing = 2 * (den * 2 ^ (x.spacing - 1)) := by
            rw [Nat.mul_left_comm, ← pow_succ', Nat.sub_add_cancel hposition]
          have := hbinade hposition
          rw [hle]
          omega
        omega
  apply ofRatio_eq hx hnum
  rw [hspacing, roundHalfEven_eq hpos hlow hhigh hodd, magnitude_eq]

/-- A quotient below a power of two, counted in the narrower spacing there. -/
theorem ofRatio_of_lt (hx : x.Finite) (hnum : num ≠ 0) (hden : den ≠ 0) (hspacing : 0 < x.spacing)
    (hsignificand : x.significand = 2 ^ 52)
    (hbinade : num * 2 ^ 1074 < 2 ^ 52 * (den * 2 ^ x.spacing))
    (hlow : (2 ^ 54 - 1) * (den * 2 ^ x.spacing) ≤ 4 * (num * 2 ^ 1074)) :
    ofRatio x.isNegative num den = x := by
  have hle := doublings_le_iff_spacings hnum hden
  have hpos : 0 < den * 2 ^ (x.spacing - 1) :=
    Nat.mul_pos (Nat.pos_of_ne_zero hden) (Nat.two_pow_pos _)
  have hhalf : den * 2 ^ x.spacing = 2 * (den * 2 ^ (x.spacing - 1)) := by
    rw [Nat.mul_left_comm, ← pow_succ', Nat.sub_add_cancel hspacing]
  have hnarrow : doublings num den = x.spacing - 1 := by
    apply Nat.le_antisymm
    · rw [hle]
      omega
    · by_contra hlt
      have hquarter : den * 2 ^ (x.spacing - 1) = 2 * (den * 2 ^ (x.spacing - 1 - 1)) := by
        rw [Nat.mul_left_comm, ← pow_succ', Nat.sub_add_cancel (by omega)]
      have hnot := (hle (x.spacing - 1 - 1)).mp (by omega)
      omega
  -- the count is rounded up to twice the significand, which carries into the exponent field
  have hround : roundHalfEven (num * 2 ^ 1074) (den * 2 ^ (x.spacing - 1)) = 2 ^ 53 :=
    roundHalfEven_eq hpos (by omega) (by omega) fun hodd => absurd hodd (by decide)
  apply ofRatio_eq hx hnum
  rw [hnarrow, hround, magnitude_eq, hsignificand]
  omega

end

/-- **What lies between the two midpoints around a number rounds to it**, and what lies at one of them
if the significand is even. -/
theorem ofRatio_of_mem {num den : ℕ} (hx : x.Finite) (hzero : x.isZero = false) (hden : den ≠ 0)
    (hlow : x.roundingInterval.low * (den * 2 ^ x.spacing) ≤ 4 * (num * 2 ^ 1074))
    (hhigh : 4 * (num * 2 ^ 1074) ≤ x.roundingInterval.high * (den * 2 ^ x.spacing))
    (hopen : x.roundingInterval.closed = false →
      x.roundingInterval.low * (den * 2 ^ x.spacing) < 4 * (num * 2 ^ 1074) ∧
      4 * (num * 2 ^ 1074) < x.roundingInterval.high * (den * 2 ^ x.spacing)) :
    ofRatio x.isNegative num den = x := by
  have hne := significand_ne_zero hzero
  have hpos : 0 < den * 2 ^ x.spacing := Nat.mul_pos (Nat.pos_of_ne_zero hden) (Nat.two_pow_pos _)
  have hhigh' : x.roundingInterval.high = 4 * x.significand + 2 := rfl
  have hclosed : x.significand % 2 = 1 → x.roundingInterval.closed = false := by
    intro hodd
    exact decide_eq_false (by omega)
  have hnum : num ≠ 0 := by
    rintro rfl
    have hlow_pos : 0 < x.roundingInterval.low := by
      have := low_roundingInterval hzero
      omega
    rw [Nat.zero_mul, Nat.mul_zero, Nat.le_zero] at hlow
    exact absurd hlow (Nat.mul_pos hlow_pos hpos).ne'
  rw [hhigh'] at hhigh hopen
  rcases low_roundingInterval hzero with ⟨hlow', hleading⟩ | ⟨hlow', hsignificand, hspacing⟩
  · have hlower : 2 * (2 * x.significand * (den * 2 ^ x.spacing)) =
        x.roundingInterval.low * (den * 2 ^ x.spacing) + 2 * (den * 2 ^ x.spacing) := by
      rw [← Nat.add_mul, hlow']
      ring
    have hupper : 2 * ((2 * x.significand + 1) * (den * 2 ^ x.spacing)) =
        (4 * x.significand + 2) * (den * 2 ^ x.spacing) := by
      ring
    refine ofRatio_of_le hx hnum hden ?_ (by omega) (by omega) ?_
    · intro hspacing
      have hle : 2 ^ 54 ≤ x.roundingInterval.low := by
        have := hleading hspacing
        omega
      have hmul := Nat.mul_le_mul_right (den * 2 ^ x.spacing) hle
      omega
    · intro hodd
      obtain ⟨hlow, hhigh⟩ := hopen (hclosed hodd)
      exact ⟨by omega, by omega⟩
  · -- just below the power of two the spacing is narrower
    have hlow54 : x.roundingInterval.low = 2 ^ 54 - 1 := by omega
    rw [hlow54] at hlow
    by_cases hbinade : num * 2 ^ 1074 < 2 ^ 52 * (den * 2 ^ x.spacing)
    · exact ofRatio_of_lt hx hnum hden hspacing hsignificand hbinade hlow
    · rw [hsignificand] at hhigh
      refine ofRatio_of_le hx hnum hden (fun _ => Nat.le_of_not_lt hbinade) ?_ ?_ ?_
      · rw [hsignificand]
        omega
      · rw [hsignificand]
        omega
      · rw [hsignificand]
        exact fun hodd => absurd hodd (by decide)

end RecordQuery.Binary64
