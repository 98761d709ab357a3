import RecordQuery.Json.Meaning
import RecordQuery.Proofs.RoundedIntegers
import RecordQuery.Proofs.SortedEntries

/-!
# The numbers of a document

What is read from a JSON text has integers of 64 bits, with or without a sign, and finite
floating-point numbers, and no others (`Json.Syntax.numbersValid_of_meaning?`).  A number that is beyond
the largest finite one is refused where it is multiplied by a power of ten; where it is divided by
one, in however many steps, it only becomes smaller (`Json.magnitude_divPowTen_le`).
-/

namespace RecordQuery.Json

open Binary64 (Finite ofDecimal)

/-! ### Powers of ten -/

theorem log2_powTen_308 : (10 ^ 308).log2 = 1023 := by decide +kernel

theorem le_magnitude_powTen {p : ℕ} (hp : p ≤ 308) :
    (1023 + (10 ^ p).log2) * 2 ^ 52 ≤ (ofDecimal false 1 p).magnitude := by
  have hne : 10 ^ p ≠ 0 := by positivity
  have hlog : (10 ^ p).log2 ≤ 1023 := by
    rw [← log2_powTen_308]
    apply log2_mono
    gcongr
    decide
  have hpower : ofDecimal false 1 p = Binary64.ofRatio false (10 ^ p) 1 := by
    rw [ofDecimal, if_pos (Int.natCast_nonneg p), Int.toNat_natCast, Nat.one_mul]
    rfl
  have hinfinity : Binary64.infinityMagnitude = 2047 * 2 ^ 52 := rfl
  have hrounded := Binary64.le_magnitude_ofRatio_one false hne
  rw [hpower]
  omega

/-- Dividing by a power of ten takes off the exponent as much as the power has. -/
theorem magnitude_div_powTen_le {x : Binary64} {k p : ℕ} (hx : x.magnitude ≤ k * 2 ^ 52)
    (hp : p ≤ 308) :
    (x.div (ofDecimal false 1 p)).magnitude ≤ (k - (10 ^ p).log2 + 4) * 2 ^ 52 := by
  obtain ⟨hzero, hlog⟩ := Binary64.log2_numerator_of_le (le_magnitude_powTen hp)
  exact Binary64.magnitude_div_le hx hzero hlog

/-- Every step of the division but the last takes more off a number than rounding can add. -/
theorem magnitude_divPowTen_le (x : Binary64) (places : ℕ) (hx : x.magnitude ≤ 2000 * 2 ^ 52) :
    (divPowTen x places).magnitude ≤ 2004 * 2 ^ 52 := by
  fun_induction divPowTen x places with
  | case1 x places hplaces =>
    have hle : 2000 - (10 ^ places).log2 + 4 ≤ 2004 := Nat.add_le_add_right (Nat.sub_le _ _) 4
    exact (magnitude_div_powTen_le hx hplaces).trans (Nat.mul_le_mul_right _ hle)
  | case2 x places hplaces hzero => omega
  | case3 x places hplaces hzero ih =>
    have hdiv := magnitude_div_powTen_le hx (Nat.le_refl 308)
    rw [log2_powTen_308] at hdiv
    exact ih (hdiv.trans (Nat.mul_le_mul_right _ (by decide)))

/-- A number that is read in steps is finite. -/
theorem finite_of_scalePowTen? {significand : ℕ} {exponent : ℤ} {x : Binary64}
    (hlt : significand < 2 ^ 64) (h : scalePowTen? significand exponent = some x) : x.Finite := by
  have hbound : (Binary64.ofInt significand).magnitude ≤ 1089 * 2 ^ 52 :=
    Binary64.magnitude_ofInt_le hlt
  unfold scalePowTen? at h
  simp only at h
  split at h
  · cases h
    have hle := magnitude_divPowTen_le (Binary64.ofInt significand) (-exponent).toNat (by omega)
    exact Binary64.finite_of_magnitude_le hle (by decide)
  · split at h
    · split at h
      · cases h
      · rename_i hinfinite
        cases h
        exact Binary64.finite_ofRatio (Bool.eq_false_of_not_eq_true hinfinite)
    · split at h
      · cases h
        exact Binary64.finite_ofInt hlt
      · cases h

theorem finite_of_scaled? {significand : ℕ} {places : ℤ} {exponent : Option (Bool × List ℕ)}
    {x : Binary64} (hlt : significand < 2 ^ 64) (h : scaled? significand places exponent = some x) :
    x.Finite := by
  unfold scaled? at h
  split at h
  · exact finite_of_scalePowTen? hlt h
  · simp only at h
    split at h
    · split at h
      · cases h
      · cases h
        exact Binary64.finite_zero false
    · split at h
      · exact finite_of_scalePowTen? hlt h
      · exact finite_of_scalePowTen? hlt h

/-! ### Numerals -/

/-- What a number of a document can be: an integer of 64 bits, with or without a sign, or else a
finite number. -/
def Number.Valid : Number → Prop
  | integer i => -2 ^ 63 ≤ i ∧ i < 2 ^ 64
  | float x => x.Finite

theorem Number.Valid.finite_toBinary64 {n : Number} (hn : n.Valid) : n.toBinary64.Finite := by
  cases n with
  | integer i =>
    obtain ⟨hlow, hhigh⟩ : -2 ^ 63 ≤ i ∧ i < 2 ^ 64 := hn
    have habs : i.natAbs < 2 ^ 64 := by omega
    exact Binary64.finite_ofInt habs
  | float x => exact hn

theorem takeDigits_lt {significand : ℕ} (ds : List ℕ) (h : significand < 2 ^ 64) :
    (takeDigits significand ds).1 < 2 ^ 64 := by
  induction ds generalizing significand with
  | nil => exact h
  | cons d ds ih =>
    unfold takeDigits
    split
    · rename_i hfits
      apply ih
      exact Nat.lt_of_le_of_lt hfits (by decide)
    · exact h

theorem Numeral.valid_of_meaning? {n : Numeral} {m : Number} (h : n.meaning? = some m) :
    m.Valid := by
  have hsigned {x : Binary64} (hx : x.Finite) :
      (if n.negative then x.neg else x).Finite := by
    split
    · exact hx.neg
    · exact hx
  have hwhole : (takeDigits 0 n.whole).1 < 2 ^ 64 := takeDigits_lt n.whole (by decide)
  unfold Numeral.meaning? at h
  simp only at h
  split at h
  · split at h
    · split at h
      · have hfinite : (Binary64.ofInt (takeDigits 0 n.whole).1).Finite :=
          Binary64.finite_ofInt hwhole
        cases h
        exact hfinite.neg
      · rename_i hsmall
        cases h
        rw [twoPow_eq] at hsmall
        show -2 ^ 63 ≤ _ ∧ _
        omega
    · cases h
      show -2 ^ 63 ≤ _ ∧ _
      omega
  · obtain ⟨x, hx, rfl⟩ := Option.map_eq_some_iff.mp h
    exact hsigned (finite_of_scaled? (takeDigits_lt n.fraction hwhole) hx)

/-! ### Documents -/

mutual

/-- The numbers in a document, at any depth. -/
def numbers : Json → List Number
  | number n => [n]
  | array items => itemNumbers items
  | object members => memberNumbers members
  | null | bool _ | string _ => []

/-- The numbers in the items of an array. -/
def itemNumbers : List Json → List Number
  | [] => []
  | item :: items => numbers item ++ itemNumbers items

/-- The numbers in the members of an object. -/
def memberNumbers : List (String × Json) → List Number
  | [] => []
  | (_, value) :: members => numbers value ++ memberNumbers members

end

theorem mem_memberNumbers_iff {n : Number} {members : List (String × Json)} :
    n ∈ memberNumbers members ↔ ∃ m ∈ members, n ∈ numbers m.2 := by
  induction members with
  | nil => simp [memberNumbers]
  | cons m members ih => simp [memberNumbers, ih]

/-- Every number in the document is one that a document can have. -/
def NumbersValid (j : Json) : Prop := ∀ n ∈ j.numbers, n.Valid

namespace Syntax

mutual

/-- Whatever is read from a text has the numbers of a document. -/
theorem numbersValid_of_meaning? {depth : ℕ} {s : Syntax} {j : Json}
    (h : s.meaning? depth = some j) : j.NumbersValid := by
  match s with
  | .null | .bool b =>
    cases h
    simp [NumbersValid, numbers]
  | .string units =>
    obtain ⟨text, _, rfl⟩ := Option.map_eq_some_iff.mp h
    simp [NumbersValid, numbers]
  | .number n =>
    obtain ⟨m, hm, rfl⟩ := Option.map_eq_some_iff.mp h
    intro n' hn'
    rw [List.mem_singleton.mp hn']
    exact Numeral.valid_of_meaning? hm
  | .array items =>
    match depth with
    | 0 => cases h
    | depth + 1 =>
      obtain ⟨values, hvalues, rfl⟩ := Option.map_eq_some_iff.mp h
      exact numbersValid_of_itemMeanings? hvalues
  | .object members =>
    match depth with
    | 0 => cases h
    | depth + 1 =>
      obtain ⟨found, hfound, rfl⟩ := Option.map_eq_some_iff.mp h
      intro n hn
      obtain ⟨m, hm, hn⟩ := mem_memberNumbers_iff.mp hn
      have hmem : m ∈ found := SortedMap.mem_of_mem_ofList hm
      exact numbersValid_of_memberMeanings? hfound n (mem_memberNumbers_iff.mpr ⟨m, hmem, hn⟩)

theorem numbersValid_of_itemMeanings? {depth : ℕ} {items : List Syntax} {values : List Json}
    (h : itemMeanings? depth items = some values) : ∀ n ∈ itemNumbers values, n.Valid := by
  match items with
  | [] =>
    cases h
    simp [itemNumbers]
  | item :: items =>
    rw [itemMeanings?] at h
    obtain ⟨first, hfirst, h⟩ := Option.bind_eq_some_iff.mp h
    obtain ⟨others, hothers, h⟩ := Option.bind_eq_some_iff.mp h
    cases h
    exact List.forall_mem_append.mpr
      ⟨numbersValid_of_meaning? hfirst, numbersValid_of_itemMeanings? hothers⟩

theorem numbersValid_of_memberMeanings? {depth : ℕ} {members : List (List StringUnit × Syntax)}
    {values : List (String × Json)} (h : memberMeanings? depth members = some values) :
    ∀ n ∈ memberNumbers values, n.Valid := by
  match members with
  | [] =>
    cases h
    simp [memberNumbers]
  | (key, value) :: members =>
    rw [memberMeanings?] at h
    obtain ⟨name, _, h⟩ := Option.bind_eq_some_iff.mp h
    obtain ⟨first, hfirst, h⟩ := Option.bind_eq_some_iff.mp h
    obtain ⟨others, hothers, h⟩ := Option.bind_eq_some_iff.mp h
    cases h
    exact List.forall_mem_append.mpr
      ⟨numbersValid_of_meaning? hfirst, numbersValid_of_memberMeanings? hothers⟩

end

end Syntax

end RecordQuery.Json
