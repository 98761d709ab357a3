import RecordQuery.Proofs.DocumentNumbers
import RecordQuery.Proofs.ShortestDecimals
import RecordQuery.Proofs.TrimmedLiterals

/-!
# Numbers written in documents

A number of a document is written with the fewest digits that tell it apart, with an exponent if it is
very large or very small (`Literal.mem_write_document_iff`).  As a literal it is read back unless there
is one (`Literal.float?_render`): the digits and zeros in front of the point and behind it are those of
the shortest decimal (`Literal.float?_positional`), whose value rounds to the number.  The text of a
number that is shown never has an exponent, and is always read back (`Literal.float?_display`).
-/

namespace RecordQuery

open Text

namespace Literal

/-! ### Decimals -/

theorem float?_whole {whole : List Char} (hwhole : ∀ c ∈ whole, c.isDigit = true) (hne : whole ≠ [])
    (negative : Bool) : float? (String.ofList (minus negative ++ whole)) =
      some (Binary64.ofDecimal negative (Nat.ofDigitChars 10 whole 0) 0) := by
  obtain ⟨d, ds, hdigits, hvalue⟩ := digits_eq_cons hwhole hne
  rw [float?, String.toList_ofList, sign_minus_append negative (head?_isDigit hwhole)]
  simp only [hdigits, hvalue]

theorem float?_point {whole fraction : List Char} (hwhole : ∀ c ∈ whole, c.isDigit = true)
    (hne : whole ≠ []) (hfraction : ∀ c ∈ fraction, c.isDigit = true) (negative : Bool) :
    float? (String.ofList (minus negative ++ (whole ++ '.' :: fraction))) =
      some (Binary64.ofDecimal negative (Nat.ofDigitChars 10 (whole ++ fraction) 0)
        (-fraction.length)) := by
  have hdigits := digits_append hwhole (endsNumber_cons (c := '.') (by decide) fraction)
  have hmore := digits_append hfraction endsNumber_nil
  have hvalue := ofDigits_map (whole ++ fraction)
  rw [List.append_nil] at hmore
  have hhead : ∀ c ∈ (whole ++ '.' :: fraction).head?, c.isDigit = true := by
    obtain ⟨c, cs, rfl⟩ := List.exists_cons_of_ne_nil hne
    intro d hd
    exact hwhole d (by simp_all)
  rw [float?, String.toList_ofList, sign_minus_append negative hhead]
  obtain ⟨c, cs, rfl⟩ := List.exists_cons_of_ne_nil hne
  rw [List.map_append, List.map_cons] at hvalue
  rw [List.map_cons] at hdigits
  simp only [hdigits, hmore, hvalue, List.length_map]

/-- A whole number may have the digit `0` behind the point. -/
theorem float?_whole_point {whole : List Char} (hwhole : ∀ c ∈ whole, c.isDigit = true)
    (hne : whole ≠ []) (negative : Bool) :
    float? (String.ofList (minus negative ++ (whole ++ ['.', '0']))) =
      some (Binary64.ofDecimal negative (Nat.ofDigitChars 10 whole 0) 0) := by
  have hlast : ∀ c ∈ ['0'], c.isDigit = true := List.forall_mem_singleton.mpr rfl
  have hvalue : Nat.ofDigitChars 10 (whole ++ ['0']) 0 = Nat.ofDigitChars 10 whole 0 * 10 := by
    rw [Nat.ofDigitChars_append, ← List.replicate_one, Nat.ofDigitChars_replicate_zero,
      Nat.pow_one, Nat.mul_comm]
  have hread := float?_point hwhole hne hlast negative
  rw [hvalue] at hread
  rw [← Binary64.ofDecimal_mul_ten]
  exact hread

theorem isDigit_of_mem_zeros {n : ℕ} {c : Char} (h : c ∈ List.replicate n '0') :
    c.isDigit = true := by
  rw [List.eq_of_mem_replicate h]
  rfl

/-- Digits with a point among them or zeros around them are read as their decimal. -/
theorem float?_positional {mark digits : List Char} (hmark : mark = [] ∨ mark = ['.', '0'])
    (hdigits : ∀ c ∈ digits, c.isDigit = true) (hne : digits ≠ []) (negative : Bool) (point : ℤ) :
    float? (String.ofList (minus negative ++ Binary64.positional mark digits point)) =
      some (Binary64.ofDecimal negative (Nat.ofDigitChars 10 digits 0) (point - digits.length)) := by
  unfold Binary64.positional
  split
  · -- the point stands before the digits, behind a zero
    rename_i hpoint
    have hzero : ∀ c ∈ ['0'], c.isDigit = true := List.forall_mem_singleton.mpr rfl
    have hfraction : ∀ c ∈ List.replicate (-point).toNat '0' ++ digits, c.isDigit = true :=
      List.forall_mem_append.mpr ⟨fun c => isDigit_of_mem_zeros, hdigits⟩
    have hread := float?_point hzero (List.cons_ne_nil _ _) hfraction negative
    have hvalue : Nat.ofDigitChars 10 (['0'] ++ (List.replicate (-point).toNat '0' ++ digits)) 0 =
        Nat.ofDigitChars 10 digits 0 := by
      rw [← List.append_assoc, ← List.replicate_one, List.replicate_append_replicate,
        Nat.ofDigitChars_append, Nat.ofDigitChars_replicate_zero, Nat.mul_zero]
    have hlength : -((List.replicate (-point).toNat '0' ++ digits).length : ℤ) =
        point - digits.length := by
      rw [List.length_append, List.length_replicate]
      omega
    rw [hvalue, hlength] at hread
    exact hread
  · split
    · -- the point stands behind the digits
      rename_i hpoint hlength
      have hwhole : ∀ c ∈ digits ++ List.replicate (point.toNat - digits.length) '0',
          c.isDigit = true := List.forall_mem_append.mpr ⟨hdigits, fun c => isDigit_of_mem_zeros⟩
      have hvalue : Nat.ofDigitChars 10
          (digits ++ List.replicate (point.toNat - digits.length) '0') 0 =
            Nat.ofDigitChars 10 digits 0 * 10 ^ (point.toNat - digits.length) := by
        rw [Nat.ofDigitChars_append, Nat.ofDigitChars_replicate_zero, Nat.mul_comm]
      have hexponent : ((point.toNat - digits.length : ℕ) : ℤ) = point - digits.length := by omega
      rw [← hexponent, ← Binary64.ofDecimal_mul_ten_pow, ← hvalue]
      have hne' : digits ++ List.replicate (point.toNat - digits.length) '0' ≠ [] := by simp [hne]
      rcases hmark with rfl | rfl
      · rw [List.append_nil]
        exact float?_whole hwhole hne' negative
      · exact float?_whole_point hwhole hne' negative
    · -- the point stands among the digits
      rename_i hpoint hlength
      have hfront : digits.take point.toNat ≠ [] := by
        rw [Ne, List.take_eq_nil_iff, not_or]
        exact ⟨by omega, hne⟩
      have hwhole : ∀ c ∈ digits.take point.toNat, c.isDigit = true :=
        fun c hc => hdigits c (List.mem_of_mem_take hc)
      have hfraction : ∀ c ∈ digits.drop point.toNat, c.isDigit = true :=
        fun c hc => hdigits c (List.mem_of_mem_drop hc)
      have hread := float?_point hwhole hfront hfraction negative
      have hexponent : -((digits.drop point.toNat).length : ℤ) = point - digits.length := by
        rw [List.length_drop]
        omega
      rw [List.take_append_drop, hexponent] at hread
      exact hread

/-! ### Numbers of documents -/

theorem not_mem_of_float? {s : List Char} {x : Binary64} (h : float? (String.ofList s) = some x) :
    'e' ∉ s := by
  have hexponent : ¬ IsNumeric 'e' := by decide
  intro hmem
  exact hexponent (isNumeric_of_float? h 'e' (by rwa [String.toList_ofList]))

/-- A number that is written without an exponent is read back. -/
theorem float?_write {style : Binary64.Style} {x : Binary64} (hx : x.Finite)
    (hmark : style.wholeMark = [] ∨ style.wholeMark = ['.', '0'])
    (hposition : x.isZero = false → style.isPositional
      ((decimal (x.shortest style.tie).digits).length + (x.shortest style.tie).exponent) = true) :
    float? (String.ofList (x.write style)) = some x := by
  have hspecial : x.isNaN = false ∧ x.isInfinite = false := by
    simpa using Binary64.finite_iff.mp hx
  have htext : x.write style = minus x.isNegative ++
      if x.isZero then '0' :: style.wholeMark else x.writePositive style := by
    simp only [Binary64.write, hspecial, minus, Bool.false_eq_true, if_false]
    split <;> rfl
  rw [htext]
  cases hzero : x.isZero with
  | true =>
    have hvalue : Binary64.ofDecimal x.isNegative (Nat.ofDigitChars 10 ['0'] 0) 0 = x := by
      have hmagnitude : x.magnitude = 0 := of_decide_eq_true hzero
      have hx := x.ofMagnitude_magnitude
      rw [hmagnitude] at hx
      exact hx
    have hdigit : ∀ c ∈ ['0'], c.isDigit = true := List.forall_mem_singleton.mpr rfl
    rw [if_pos rfl]
    rcases hmark with hmark | hmark
    · have hread := float?_whole hdigit (List.cons_ne_nil _ _) x.isNegative
      rw [hmark, hread, hvalue]
    · have hread := float?_whole_point hdigit (List.cons_ne_nil _ _) x.isNegative
      rw [hvalue] at hread
      rw [hmark]
      exact hread
  | false =>
    have hdigits : ∀ c ∈ decimal (x.shortest style.tie).digits, c.isDigit = true :=
      fun c => isDigit_of_mem_decimal
    have hread := float?_positional hmark hdigits (decimal_ne_nil _) x.isNegative
      ((decimal (x.shortest style.tie).digits).length + (x.shortest style.tie).exponent)
    rw [ofDigitChars_decimal, add_sub_cancel_left, Binary64.ofDecimal_shortest hx hzero] at hread
    rw [if_neg Bool.false_ne_true, Binary64.writePositive]
    simp only [hposition hzero, if_true]
    exact hread

/-- The text of a number is read back. -/
theorem float?_display {x : Binary64} (hx : x.Finite) : float? x.display = some x :=
  float?_write hx (Or.inl rfl) fun _ => rfl

/-- A document has an exponent for a number exactly if the point of its shortest decimal would stand more
than four places in front of the first digit, or behind the sixteenth place. -/
theorem mem_write_document_iff {x : Binary64} (hx : x.Finite) :
    'e' ∈ x.write .document ↔ x.isZero = false ∧ Binary64.Style.document.isPositional
      ((decimal (x.shortest .even).digits).length + (x.shortest .even).exponent) = false := by
  constructor
  · intro hexponent
    by_contra hposition
    refine not_mem_of_float? (float?_write hx (Or.inr rfl) fun hzero => ?_) hexponent
    exact Bool.eq_true_of_not_eq_false fun hfalse => hposition ⟨hzero, hfalse⟩
  · rintro ⟨hzero, hposition⟩
    have hspecial : x.isNaN = false ∧ x.isInfinite = false := by
      simpa using Binary64.finite_iff.mp hx
    have hwritten : x.writePositive .document =
        Binary64.scientific (decimal (x.shortest .even).digits)
          ((decimal (x.shortest .even).digits).length + (x.shortest .even).exponent) :=
      if_neg (Bool.eq_false_iff.mp hposition)
    have hscientific : 'e' ∈ x.writePositive .document := by
      rw [hwritten]
      exact List.mem_append_right _ List.mem_cons_self
    simp [Binary64.write, hspecial, hzero, hscientific]

theorem float?_write_document {x : Binary64} (hx : x.Finite) :
    float? (String.ofList (x.write .document)) =
      if 'e' ∈ x.write .document then none else some x := by
  split
  · rename_i hexponent
    rw [Option.eq_none_iff_forall_ne_some]
    exact fun y hread => not_mem_of_float? hread hexponent
  · rename_i hexponent
    refine float?_write hx (Or.inr rfl) fun hzero => Bool.eq_true_of_not_eq_false fun hposition => ?_
    exact hexponent ((mem_write_document_iff hx).mpr ⟨hzero, hposition⟩)

theorem float?_signedDecimal (i : ℤ) :
    float? (String.ofList (signedDecimal i)) = some (Binary64.ofInt i) := by
  have hdigits : ∀ c ∈ decimal i.natAbs, c.isDigit = true := fun c => isDigit_of_mem_decimal
  rw [signedDecimal_eq, float?_whole hdigits (decimal_ne_nil _), ofDigitChars_decimal,
    Binary64.ofDecimal_zero]
  rfl

/-- **A number of a document is a literal exactly if it is written without an exponent**, and then it
is read back. -/
theorem float?_render {m : Json.Number} (hm : m.Valid) :
    float? (String.ofList m.render) = if 'e' ∈ m.render then none else some m.toBinary64 := by
  cases m with
  | float x => exact float?_write_document hm
  | integer i =>
    have hread := float?_signedDecimal i
    rw [Json.Number.render, hread, if_neg (not_mem_of_float? hread)]
    rfl

end Literal

end RecordQuery
