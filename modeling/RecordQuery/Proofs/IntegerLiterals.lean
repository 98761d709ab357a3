import RecordQuery.Coercion
import RecordQuery.Proofs.Digits

/-!
# Which texts are integers

An integer is written with ASCII digits, any number of them but at least one, behind a minus sign or
none (`Literal.IsNumeral`).  It is read if its value has 64 bits, and refused otherwise like a text
that is no numeral at all (`Literal.integer_numerals`).

The same comes out in two steps (`Literal.integerInSteps`).  First the text is tested against the
pattern of integers, in which digits of any script may stand; then it is read digit by digit, and
nothing on the way may leave 64 bits.  Digits of other scripts pass the test and are not read, a plus
sign could be read and does not pass.  No digit brings a number closer to zero, so that what leaves 64
bits on the way is outside of them at the end (`Literal.accumulate?_eq`).
-/

namespace RecordQuery

/-! ### Signed numbers -/

theorem signed_mul (negative : Bool) (m n : ℕ) : signed negative (m * n) = m * signed negative n := by
  cases negative <;> simp

theorem signed_add (negative : Bool) (m n : ℕ) :
    signed negative (m + n) = if negative then signed negative m - n else signed negative m + n := by
  cases negative with
  | false => simp
  | true =>
    simp only [signed_true, Nat.cast_add, if_true]
    ring

theorem int64?_eq_none_iff {v : ℤ} : int64? v = none ↔ v < -2 ^ 63 ∨ 2 ^ 63 ≤ v := by
  rw [int64?, ite_eq_right_iff]
  simp only [reduceCtorEq, imp_false, not_and_or, not_le]
  omega

/-- What is further away from zero than a number without 64 bits has not got them either. -/
theorem int64?_signed_eq_none_of_le {negative : Bool} {m n : ℕ} (hle : m ≤ n)
    (h : int64? (signed negative m) = none) : int64? (signed negative n) = none := by
  rw [int64?_eq_none_iff] at h ⊢
  cases negative with
  | false =>
    simp only [signed_false] at h ⊢
    omega
  | true =>
    simp only [signed_true] at h ⊢
    omega

namespace Literal

open Text

variable {negative : Bool} {cs : List Char} {s : String}

/-! ### Numerals -/

/-- An integer as it is written, and its value. -/
inductive IsNumeral : List Char → ℤ → Prop where
  | intro (negative : Bool) {cs : List Char} (hne : cs ≠ [])
    (hdigits : ∀ c ∈ cs, c.isDigit = true) :
    IsNumeral (minus negative ++ cs) (signed negative (Nat.ofDigitChars 10 cs 0))

/-- An integer is read from its numerals and from nothing else. -/
theorem integer?_eq_some_iff {n : Int64} : integer? s = some n ↔ IsNumeral s.toList n.toInt := by
  constructor
  · intro h
    rw [integer?] at h
    cases hsign : sign s.toList with
    | mk negative rest =>
      rw [hsign] at h
      dsimp only at h
      split at h
      · rename_i d ds hread
        obtain ⟨cs, rfl, hdigits, hds, -⟩ := eq_append_of_digits hread
        have hne : cs ≠ [] := by
          rintro rfl
          cases hds
        rw [hds, ofDigits_map] at h
        rw [eq_append_of_sign hsign, toInt_of_int64? h, List.append_nil]
        exact .intro negative hne hdigits
      · cases h
  · generalize hs : s.toList = text
    generalize hn : n.toInt = v
    rintro ⟨negative, hne, hdigits⟩
    rw [integer?_of_digits hdigits hne hs, ← hn, int64?_toInt]

/-! ### Reading in two steps -/

/-- Whether there is a character, and all are in the class. -/
def isRow (isNumber : Char → Bool) (cs : List Char) : Bool := !cs.isEmpty && cs.all isNumber

/-- Whether a text fits the pattern of integers: digits, which are those of a class, behind a minus
sign or none. -/
def fits (isNumber : Char → Bool) (text : List Char) : Bool :=
  isRow isNumber text || match text with
    | '-' :: rest => isRow isNumber rest
    | _ => false

/-- One more digit behind a number; neither ten times the number nor the sum may leave 64 bits. -/
def push? (negative : Bool) (n : Int64) (d : ℕ) : Option Int64 := do
  let tens ← int64? (n.toInt * 10)
  int64? (if negative then tens.toInt - d else tens.toInt + d)

/-- The number that comes about when digits are put behind a number one by one. -/
def accumulate? (negative : Bool) : Int64 → List Char → Option Int64
  | n, [] => some n
  | n, c :: rest => do accumulate? negative (← push? negative n (← digit? c)) rest

/-- The number that at least one digit stands for. -/
def row? (negative : Bool) (cs : List Char) : Option Int64 :=
  if cs.isEmpty then none else accumulate? negative 0 cs

/-- Reads a number of 64 bits behind either sign or none. -/
def signedRow? : List Char → Option Int64
  | '-' :: rest => row? true rest
  | '+' :: rest => row? false rest
  | rest => row? false rest

/-- Reads an integer that fits the pattern. -/
def integerInSteps (isNumber : Char → Bool) (raw : String) : Except LiteralError Int64 :=
  if fits isNumber raw.toList then (signedRow? raw.toList).elim (.error (.number raw)) .ok
  else .error (.number raw)

theorem push?_eq {n : Int64} {k : ℕ} (hn : n.toInt = signed negative k) (d : ℕ) :
    push? negative n d = int64? (signed negative (10 * k + d)) := by
  have htens : n.toInt * 10 = signed negative (10 * k) := by
    rw [hn, signed_mul, Nat.cast_ofNat, mul_comm]
  rw [push?, htens]
  cases hten : int64? (signed negative (10 * k)) with
  | none => exact (int64?_signed_eq_none_of_le (Nat.le_add_right (10 * k) d) hten).symm
  | some tens =>
    show int64? (if negative then tens.toInt - d else tens.toInt + d) = _
    rw [toInt_of_int64? hten, signed_add]

theorem le_ofDigitChars (cs : List Char) (k : ℕ) : k ≤ Nat.ofDigitChars 10 cs k := by
  rw [Nat.ofDigitChars_eq_ofDigitChars_zero]
  exact Nat.le_add_right_of_le (Nat.le_mul_of_pos_left k (by positivity))

/-- Reading digit by digit gives what the digits stand for, if that has 64 bits.  What is read up to a
digit is as far away from zero as `k`. -/
theorem accumulate?_eq (hdigits : ∀ c ∈ cs, c.isDigit = true) {n : Int64} {k : ℕ}
    (hn : n.toInt = signed negative k) :
    accumulate? negative n cs = int64? (signed negative (Nat.ofDigitChars 10 cs k)) := by
  induction cs generalizing n k with
  | nil => rw [Nat.ofDigitChars_nil, ← hn, int64?_toInt, accumulate?]
  | cons c cs ih =>
    obtain ⟨hc, hcs⟩ := List.forall_mem_cons.mp hdigits
    rw [Nat.ofDigitChars_cons]
    show (digit? c >>= fun d => push? negative n d >>= fun m => accumulate? negative m cs) = _
    rw [digit?_of_isDigit hc]
    show (push? negative n _ >>= fun m => accumulate? negative m cs) = _
    rw [push?_eq hn]
    cases hnext : int64? (signed negative (10 * k + (c.toNat - '0'.toNat))) with
    -- the digits behind this one do not bring the number back
    | none => exact (int64?_signed_eq_none_of_le (le_ofDigitChars cs _) hnext).symm
    | some m => exact ih hcs (toInt_of_int64? hnext)

theorem isDigit_of_accumulate? {n m : Int64} (h : accumulate? negative n cs = some m) :
    ∀ c ∈ cs, c.isDigit = true := by
  induction cs generalizing n with
  | nil => nofun
  | cons c cs ih =>
    obtain ⟨d, hd, h⟩ := Option.bind_eq_some_iff.mp h
    obtain ⟨next, -, h⟩ := Option.bind_eq_some_iff.mp h
    have hc : c.isDigit = true := by
      by_contra hc
      rw [digit?_of_isDigit_eq_false (Bool.eq_false_of_not_eq_true hc)] at hd
      cases hd
    exact List.forall_mem_cons.mpr ⟨hc, ih h⟩

theorem row?_eq_some_iff {n : Int64} : row? negative cs = some n ↔
    cs ≠ [] ∧ (∀ c ∈ cs, c.isDigit = true) ∧
      n.toInt = signed negative (Nat.ofDigitChars 10 cs 0) := by
  have hzero : (0 : Int64).toInt = signed negative 0 := by cases negative <;> rfl
  rw [row?]
  constructor
  · intro h
    split at h
    · cases h
    · rename_i hne
      have hdigits := isDigit_of_accumulate? h
      rw [accumulate?_eq hdigits hzero] at h
      exact ⟨by simpa using hne, hdigits, toInt_of_int64? h⟩
  · rintro ⟨hne, hdigits, hn⟩
    rw [if_neg (by simpa using hne), accumulate?_eq hdigits hzero, ← hn, int64?_toInt]

/-- Without a plus sign in front, numerals are read and nothing else is. -/
theorem signedRow?_eq_some_iff {text : List Char} (hplus : text.head? ≠ some '+') {n : Int64} :
    signedRow? text = some n ↔ IsNumeral text n.toInt := by
  constructor
  · intro h
    unfold signedRow? at h
    split at h
    · obtain ⟨hne, hdigits, hn⟩ := row?_eq_some_iff.mp h
      rw [hn]
      exact .intro true hne hdigits
    · exact absurd rfl hplus
    · obtain ⟨hne, hdigits, hn⟩ := row?_eq_some_iff.mp h
      rw [hn]
      exact .intro false hne hdigits
  · generalize hn : n.toInt = v
    rintro ⟨negative, hne, hdigits⟩
    have hrow := row?_eq_some_iff.mpr ⟨hne, hdigits, hn⟩
    cases negative with
    | true => exact hrow
    | false =>
      unfold signedRow?
      split
      · rename_i cs hcs
        -- digits without a sign do not begin with one
        have hminus : '-' ∈ minus false ++ _ := hcs ▸ List.mem_cons_self
        cases hdigits '-' hminus
      · rename_i cs hcs
        exact absurd (congrArg List.head? hcs) hplus
      · exact hrow

theorem isRow_of_digits {isNumber : Char → Bool} (hne : cs ≠ [])
    (hall : ∀ c ∈ cs, isNumber c = true) : isRow isNumber cs = true := by
  simpa [isRow, hne] using hall

theorem fits_of_isNumeral {isNumber : Char → Bool} {text : List Char} {v : ℤ}
    (hascii : ∀ c, c.isDigit = true → isNumber c = true) (h : IsNumeral text v) :
    fits isNumber text = true := by
  obtain ⟨negative, hne, hdigits⟩ := h
  have hrow := isRow_of_digits hne fun c hc => hascii c (hdigits c hc)
  cases negative with
  | false => exact Bool.or_eq_true_iff.mpr (Or.inl hrow)
  | true => exact Bool.or_eq_true_iff.mpr (Or.inr hrow)

theorem head?_ne_of_fits {isNumber : Char → Bool} {text : List Char} {c : Char}
    (hc : isNumber c = false) (hminus : c ≠ '-') (h : fits isNumber text = true) :
    text.head? ≠ some c := by
  intro hhead
  obtain ⟨rest, rfl⟩ := List.head?_eq_some_iff.mp hhead
  unfold fits at h
  split at h
  · rename_i hrest
    exact hminus (List.cons.inj hrest).1
  · simp [isRow, hc] at h

/-- The two steps come to the same as reading at once. -/
theorem integerInSteps_eq {isNumber : Char → Bool}
    (hascii : ∀ c, c.isDigit = true → isNumber c = true) (hplus : isNumber '+' = false)
    (s : String) : integerInSteps isNumber s = integer s := by
  rw [integerInSteps, integer]
  split
  · rename_i hfits
    have hhead := head?_ne_of_fits hplus (by decide) hfits
    have hread : signedRow? s.toList = integer? s := by
      ext n
      rw [signedRow?_eq_some_iff hhead, integer?_eq_some_iff]
    rw [hread]
  · rename_i hfits
    have hnone : integer? s = none := by
      refine Option.eq_none_iff_forall_ne_some.mpr fun n hn => ?_
      exact hfits (fits_of_isNumeral hascii (integer?_eq_some_iff.mp hn))
    rw [hnone]
    rfl

/-! ### All texts -/

theorem integer_eq_ok_iff {n : Int64} : integer s = .ok n ↔ integer? s = some n := by
  rw [integer]
  cases integer? s <;> simp

theorem integer_eq_error_iff {e : LiteralError} :
    integer s = .error e ↔ e = .number s ∧ integer? s = none := by
  rw [integer]
  cases integer? s <;> simp [eq_comm]

theorem integer?_eq_none_iff :
    integer? s = none ↔ ∀ v, IsNumeral s.toList v → v < -2 ^ 63 ∨ 2 ^ 63 ≤ v := by
  constructor
  · generalize hs : s.toList = text
    rintro hnone v ⟨negative, hne, hdigits⟩
    rw [integer?_of_digits hdigits hne hs] at hnone
    exact int64?_eq_none_iff.mp hnone
  · intro h
    refine Option.eq_none_iff_forall_ne_some.mpr fun n hn => ?_
    have hrange := h n.toInt (integer?_eq_some_iff.mp hn)
    have hle := n.le_toInt
    have hlt := n.toInt_lt
    omega

/-- **The integers are exactly the numerals whose value has 64 bits.**  Any other text is refused, and
the error holds the text as it is.  It makes no difference if the text is first tested against a
pattern that admits the digits of other scripts, but no plus sign, and is then read digit by digit
within 64 bits. -/
theorem integer_numerals (s : String) :
    (∀ n : Int64, integer s = .ok n ↔ IsNumeral s.toList n.toInt) ∧
    (∀ e, integer s = .error e ↔
      e = .number s ∧ ∀ v, IsNumeral s.toList v → v < -2 ^ 63 ∨ 2 ^ 63 ≤ v) ∧
    ∀ isNumber : Char → Bool, (∀ c, c.isDigit = true → isNumber c = true) →
      isNumber '+' = false → integerInSteps isNumber s = integer s := by
  refine ⟨fun n => ?_, fun e => ?_, fun isNumber hascii hplus => integerInSteps_eq hascii hplus s⟩
  · rw [integer_eq_ok_iff, integer?_eq_some_iff]
  · rw [integer_eq_error_iff, integer?_eq_none_iff]

/-- The least integer of 64 bits with zeros in front, the number after the greatest one, and a digit
of another script, which passes the test. -/
theorem integer_numerals_limits :
    let isNumber : Char → Bool := fun c => c.isDigit || '\u0660' ≤ c && c ≤ '\u0669'
    let least := "-009223372036854775808"
    let tooGreat := "9223372036854775808"
    (∀ c, c.isDigit = true → isNumber c = true) ∧ isNumber '+' = false ∧
      fits isNumber "1\u0663".toList = true ∧
      integerInSteps isNumber "1\u0663" = .error (.number "1\u0663") ∧
      integer least = .ok Int64.minValue ∧ IsNumeral least.toList Int64.minValue.toInt ∧
      integer tooGreat = .error (.number tooGreat) ∧
      ∀ v, IsNumeral tooGreat.toList v → v < -2 ^ 63 ∨ 2 ^ 63 ≤ v := by
  intro isNumber least tooGreat
  have hascii : ∀ c, c.isDigit = true → isNumber c = true := by
    intro c hc
    simp [isNumber, hc]
  have hplus : isNumber '+' = false := by decide
  have hfits : fits isNumber "1\u0663".toList = true := by decide
  have hsteps := (integer_numerals "1\u0663").2.2 isNumber hascii hplus
  have hleast : integer least = .ok Int64.minValue := by
    show integer "-009223372036854775808" = _
    cbv
  have htooGreat : integer tooGreat = .error (.number tooGreat) := by
    show integer "9223372036854775808" = _
    cbv
  have hother : integer "1\u0663" = .error (.number "1\u0663") := by cbv
  exact ⟨hascii, hplus, hfits, hsteps.trans hother, hleast,
    ((integer_numerals least).1 _).mp hleast, htooGreat,
    (((integer_numerals tooGreat).2.1 _).mp htooGreat).2⟩

end Literal

end RecordQuery
