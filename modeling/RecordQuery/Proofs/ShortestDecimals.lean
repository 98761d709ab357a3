import RecordQuery.Proofs.NearestNumbers

/-!
# The shortest decimal is read back

The search for the shortest decimal goes down from a power of ten that is above the number.  It ends
(`Binary64.contains_shortest`): where the power of ten is no larger than the unit in which the interval
around the number is counted, the multiple of it above the number lies in the interval
(`Binary64.Interval.isSome_nearestAt`), and twenty-three steps lead there.  The decimal that is found lies
in the interval, and so the number is the one nearest to it (`Binary64.ofDecimal_shortest`).
-/

namespace RecordQuery

theorem tenPow_eq (n : ℕ) : tenPow n = 10 ^ n := rfl

/-! ### Powers of two and ten -/

theorem ten_pow_le_two_pow {m n : ℕ} (h : 10 * m ≤ 3 * n) : 10 ^ m ≤ 2 ^ n := by
  have hcube : (10 ^ m) ^ 3 ≤ (2 ^ n) ^ 3 := by
    calc (10 ^ m) ^ 3 = (10 ^ 3) ^ m := by rw [← pow_mul, ← pow_mul, Nat.mul_comm]
      _ ≤ (2 ^ 10) ^ m := Nat.pow_le_pow_left (by decide) m
      _ = 2 ^ (10 * m) := (pow_mul _ _ _).symm
      _ ≤ 2 ^ (3 * n) := Nat.pow_le_pow_right (by decide) h
      _ = (2 ^ n) ^ 3 := by rw [← pow_mul, Nat.mul_comm]
  exact (Nat.pow_le_pow_iff_left (by decide)).mp hcube

theorem two_pow_le_ten_pow {m n : ℕ} (h : 10 * m ≤ 33 * n) : 2 ^ m ≤ 10 ^ n := by
  have htenth : (2 ^ m) ^ 10 ≤ (10 ^ n) ^ 10 := by
    calc (2 ^ m) ^ 10 = 2 ^ (10 * m) := by rw [← pow_mul, Nat.mul_comm]
      _ ≤ 2 ^ (33 * n) := Nat.pow_le_pow_right (by decide) h
      _ = (2 ^ 33) ^ n := pow_mul _ _ _
      _ ≤ (10 ^ 10) ^ n := Nat.pow_le_pow_left (by decide) n
      _ = (10 ^ n) ^ 10 := by rw [← pow_mul, ← pow_mul, Nat.mul_comm]
  exact (Nat.pow_le_pow_iff_left (by decide)).mp htenth

/-- A power of ten is at most a power of two, whatever the signs of the exponents. -/
theorem tenPow_mul_twoPow_le {e k : ℤ} (hthree : 10 * e ≤ 3 * k) (hten : 33 * e ≤ 10 * k) :
    tenPow e.toNat * twoPow (-k).toNat ≤ twoPow k.toNat * tenPow (-e).toNat := by
  rw [tenPow_eq, tenPow_eq, twoPow_eq, twoPow_eq]
  rcases Int.le_total 0 e with he | he
  · have hk : (-k).toNat = 0 := by omega
    have he' : (-e).toNat = 0 := by omega
    rw [hk, he', pow_zero, pow_zero, Nat.mul_one, Nat.mul_one]
    exact ten_pow_le_two_pow (by omega)
  · have he' : e.toNat = 0 := by omega
    rw [he', pow_zero, Nat.one_mul]
    exact (two_pow_le_ten_pow (by omega)).trans
      (Nat.le_mul_of_pos_left _ (Nat.two_pow_pos k.toNat))

namespace Binary64

/-! ### The search -/

namespace Interval

variable {r : Interval} {tie : Tie}

/-- The decimal `digits * 10 ^ exponent` lies in the interval. -/
def Contains (r : Interval) (digits : ℕ) (exponent : ℤ) : Prop :=
  let unit := tenPow exponent.toNat * twoPow (-r.scale).toNat
  let step := twoPow r.scale.toNat * tenPow (-exponent).toNat
  r.low * step ≤ digits * unit ∧ digits * unit ≤ r.high * step ∧
    (r.closed = false → r.low * step < digits * unit ∧ digits * unit < r.high * step)

instance (digits : ℕ) (exponent : ℤ) : Decidable (r.Contains digits exponent) := by
  unfold Contains
  infer_instance

theorem contains_iff {digits : ℕ} {exponent : ℤ} :
    (let unit := tenPow exponent.toNat * twoPow (-r.scale).toNat
      let step := twoPow r.scale.toNat * tenPow (-exponent).toNat
      if r.closed then r.low * step ≤ digits * unit && digits * unit ≤ r.high * step
      else r.low * step < digits * unit && digits * unit < r.high * step) = true ↔
      r.Contains digits exponent := by
  simp only [Contains]
  cases r.closed
  · simp
    omega
  · simp

/-- Of the two neighbours of the middle the first one that lies in the interval is taken. -/
theorem exists_nearestAt_eq (r : Interval) (tie : Tie) (exponent : ℤ) :
    ∃ near far, (r.middle * (twoPow r.scale.toNat * tenPow (-exponent).toNat) /
        (tenPow exponent.toNat * twoPow (-r.scale).toNat) + 1 ∈ [near, far]) ∧
      r.nearestAt tie exponent = if r.Contains near exponent then some near
        else if r.Contains far exponent then some far else none := by
  simp only [nearestAt, contains_iff]
  generalize hpair : (if upperIsNearer _ _ _ _ then _ else _ : ℕ × ℕ) = pair
  refine ⟨pair.1, pair.2, ?_, rfl⟩
  rw [← hpair]
  split
  · exact List.mem_cons_self
  · exact List.mem_cons_of_mem _ List.mem_cons_self

theorem contains_of_nearestAt {exponent : ℤ} {digits : ℕ}
    (h : r.nearestAt tie exponent = some digits) : r.Contains digits exponent := by
  obtain ⟨near, far, -, hnearest⟩ := exists_nearestAt_eq r tie exponent
  rw [hnearest] at h
  split at h
  · rename_i hnear
    cases h
    exact hnear
  · split at h
    · rename_i hfar
      cases h
      exact hfar
    · cases h

/-- Where the power of ten is no larger than the unit of the interval, the next multiple of it above
the middle lies in the interval. -/
theorem isSome_nearestAt {exponent : ℤ} (hlow : r.low ≤ r.middle) (hhigh : r.high = r.middle + 2)
    (hunit : tenPow exponent.toNat * twoPow (-r.scale).toNat ≤
      twoPow r.scale.toNat * tenPow (-exponent).toNat) : (r.nearestAt tie exponent).isSome := by
  obtain ⟨near, far, hmem, hnearest⟩ := exists_nearestAt_eq r tie exponent
  have hcontains : ∃ digits ∈ [near, far], r.Contains digits exponent := by
    refine ⟨_, hmem, ?_⟩
    have hunit_pos : 0 < tenPow exponent.toNat * twoPow (-r.scale).toNat :=
      Nat.mul_pos (Nat.pow_pos (by decide)) (Nat.two_pow_pos _)
    unfold Contains
    simp only
    generalize tenPow exponent.toNat * twoPow (-r.scale).toNat = unit at *
    generalize twoPow r.scale.toNat * tenPow (-exponent).toNat = step at *
    have habove : r.middle * step < (r.middle * step / unit + 1) * unit := by
      rw [Nat.add_mul, Nat.one_mul]
      exact Nat.lt_div_mul_add hunit_pos
    have hbelow : r.middle * step / unit * unit ≤ r.middle * step := Nat.div_mul_le_self _ _
    have hmul := Nat.mul_le_mul_right step hlow
    rw [Nat.add_mul] at habove ⊢
    rw [hhigh, Nat.add_mul]
    omega
  rw [hnearest]
  obtain ⟨digits, hdigits, hcontains⟩ := hcontains
  split
  · rfl
  · rename_i hnear
    rw [if_pos]
    · rfl
    · simp only [List.mem_cons, List.not_mem_nil, or_false] at hdigits
      rcases hdigits with rfl | rfl
      · exact absurd hcontains hnear
      · exact hcontains

theorem contains_search {exponent : ℤ} {tries i : ℕ} (hi : i < tries)
    (h : (r.nearestAt tie (exponent - i)).isSome) :
    r.Contains (r.search tie exponent tries).digits (r.search tie exponent tries).exponent := by
  induction tries generalizing exponent i with
  | zero => omega
  | succ tries ih =>
    rw [search]
    split
    · rename_i digits hdigits
      exact contains_of_nearestAt hdigits
    · rename_i hnone
      cases i with
      | zero =>
        rw [Nat.cast_zero, sub_zero, hnone] at h
        cases h
      | succ i =>
        have hstep : exponent - 1 - i = exponent - (i + 1 : ℕ) := by push_cast; ring
        exact ih (Nat.lt_of_succ_lt_succ hi) (hstep ▸ h)

end Interval

variable {x : Binary64}

theorem contains_shortest (hx : x.Finite) (hzero : x.isZero = false) (tie : Tie) :
    x.roundingInterval.Contains (x.shortest tie).digits (x.shortest tie).exponent := by
  have hscale : x.roundingInterval.scale = (x.spacing : ℤ) - 1076 := by
    have hlarger : x.roundingInterval.scale = x.scale - 2 := rfl
    rw [hlarger, scale_eq]
    omega
  have hlog : x.roundingInterval.middle.log2 < 55 := by
    have hlt := significand_lt x
    have hne := significand_ne_zero hzero
    exact (Nat.log2_lt (Nat.mul_ne_zero (by decide) hne)).mpr (by omega)
  have hspacing : x.spacing < 2047 := by
    have hmagnitude := magnitude_eq x
    have hlt : x.magnitude < 2047 * 2 ^ 52 := hx
    omega
  have hlow : x.roundingInterval.low ≤ x.roundingInterval.middle := by
    have hmiddle : x.roundingInterval.middle = 4 * x.significand := rfl
    have := low_roundingInterval hzero
    omega
  -- the powers are compared by `2 ^ 33 ≤ 10 ^ 10` and `10 ^ 3 ≤ 2 ^ 10`, which leaves room enough
  apply Interval.contains_search (i := 23) (by decide)
  apply Interval.isSome_nearestAt hlow rfl
  apply tenPow_mul_twoPow_le <;> omega

/-- Powers of two on both sides may be brought to one sign. -/
theorem exists_two_pow_eq {p q : ℕ} {i : ℤ} (h : i = p - q) :
    ∃ k, 0 < k ∧ 2 ^ p = 2 ^ i.toNat * k ∧ 2 ^ q = 2 ^ (-i).toNat * k := by
  refine ⟨2 ^ min p q, Nat.two_pow_pos _, ?_, ?_⟩
  · rw [← pow_add]
    congr 1
    omega
  · rw [← pow_add]
    congr 1
    omega

theorem ofDecimal_eq_ofRatio (negative : Bool) (digits : ℕ) (exponent : ℤ) :
    ofDecimal negative digits exponent =
      ofRatio negative (digits * tenPow exponent.toNat) (tenPow (-exponent).toNat) := by
  rw [ofDecimal]
  split
  · have hnone : (-exponent).toNat = 0 := by omega
    rw [hnone]
    rfl
  · have hnone : exponent.toNat = 0 := by omega
    have hone : tenPow 0 = 1 := rfl
    rw [hnone, hone, Nat.mul_one]

theorem ofDecimal_zero (negative : Bool) (digits : ℕ) :
    ofDecimal negative digits 0 = ofRatio negative digits 1 := by
  simp [ofDecimal_eq_ofRatio, tenPow_eq]

theorem ofDecimal_mul_ten_pow (negative : Bool) (digits exponent : ℕ) :
    ofDecimal negative (digits * 10 ^ exponent) 0 = ofDecimal negative digits exponent := by
  simp [ofDecimal_eq_ofRatio, tenPow_eq]

/-- A last digit `0` behind the point makes no difference. -/
theorem ofDecimal_mul_ten (negative : Bool) (digits : ℕ) :
    ofDecimal negative (digits * 10) (-1) = ofDecimal negative digits 0 := by
  have hten : ofRatio negative (digits * 10) (1 * 10) = ofRatio negative digits 1 :=
    ofRatio_mul_right negative Nat.one_ne_zero (by decide)
  rw [ofDecimal_zero, ← hten, ofDecimal_eq_ofRatio]
  simp [tenPow_eq]

/-- **The shortest decimal of a number is read back as the number.** -/
theorem ofDecimal_shortest (hx : x.Finite) (hzero : x.isZero = false) (tie : Tie) :
    ofDecimal x.isNegative (x.shortest tie).digits (x.shortest tie).exponent = x := by
  have hcontains := contains_shortest hx hzero tie
  generalize (x.shortest tie).digits = digits at hcontains ⊢
  generalize (x.shortest tie).exponent = exponent at hcontains ⊢
  obtain ⟨hlow, hhigh, hopen⟩ := hcontains
  have hscale : x.roundingInterval.scale = (x.spacing : ℤ) - (1076 : ℕ) := by
    have hlarger : x.roundingInterval.scale = x.scale - 2 := rfl
    rw [hlarger, scale_eq]
    omega
  obtain ⟨k, hk, hspacing, hunit⟩ := exists_two_pow_eq hscale
  have hden : tenPow (-exponent).toNat ≠ 0 := (Nat.pow_pos (by decide)).ne'
  have hstep (m : ℕ) : m * (tenPow (-exponent).toNat * 2 ^ x.spacing) =
      m * (twoPow x.roundingInterval.scale.toNat * tenPow (-exponent).toNat) * k := by
    rw [hspacing, twoPow_eq]
    ring
  have hvalue : 4 * (digits * tenPow exponent.toNat * 2 ^ 1074) =
      digits * (tenPow exponent.toNat * twoPow (-x.roundingInterval.scale).toNat) * k := by
    -- the interval counts in quarters of the spacing
    have hfour : 4 = 2 ^ 2 := rfl
    calc 4 * (digits * tenPow exponent.toNat * 2 ^ 1074)
        = digits * tenPow exponent.toNat * 2 ^ 1076 := by
          rw [hfour, Nat.mul_left_comm, ← pow_add]
      _ = digits * (tenPow exponent.toNat * twoPow (-x.roundingInterval.scale).toNat) * k := by
        rw [hunit, twoPow_eq]
        ring
  rw [ofDecimal_eq_ofRatio]
  apply ofRatio_of_mem hx hzero hden
  · rw [hstep, hvalue]
    exact Nat.mul_le_mul_right k hlow
  · rw [hstep, hvalue]
    exact Nat.mul_le_mul_right k hhigh
  · rw [hstep, hstep, hvalue, Nat.mul_lt_mul_right hk, Nat.mul_lt_mul_right hk]
    exact hopen

end Binary64

end RecordQuery
