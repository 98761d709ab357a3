import Mathlib
import RecordQuery.Calendar.Literal
import RecordQuery.Calendar.Notation
import RecordQuery.Value.Literal

/-!
# Numbers written and read

A number is written with decimal digits, filled up with zeros to a width.  It is read back by each of
the scanners that may come upon it: by those that take as many digits as there are up to a limit
(`number?_append`), by those that take two (`pair?_padded`, `twoDigits?_padded`), as a fraction of a
second (`nanoDigits_append`) and as an integer of 64 bits (`integer?_of_digits`).

A scanner that takes what digits there are stops where no further digit stands (`EndsNumber`) or where
its limit is reached.
-/

namespace RecordQuery

namespace Text

/-! ### Digits -/

theorem digit?_of_isDigit {c : Char} (h : c.isDigit = true) :
    digit? c = some (c.toNat - '0'.toNat) := by
  rw [digit?, if_pos h]
  rfl

theorem digit?_of_isDigit_eq_false {c : Char} (h : c.isDigit = false) : digit? c = none := by
  rw [digit?, if_neg (by simp [h])]

theorem toNat_of_isDigit {c : Char} (h : c.isDigit = true) : 48 ≤ c.toNat ∧ c.toNat ≤ 57 := by
  simpa [Char.isDigit, UInt32.le_iff_toNat_le] using h

theorem isBlank_of_isDigit {c : Char} (h : c.isDigit = true) : isBlank c = false := by
  have hrange := toNat_of_isDigit h
  simp only [isBlank, Bool.or_eq_false_iff, Bool.and_eq_false_iff, decide_eq_false_iff_not,
    beq_eq_false_iff_ne]
  omega

theorem trimStart_of_not_blank {c : Char} (h : isBlank c = false) (rest : List Char) :
    trimStart (c :: rest) = c :: rest := by
  rw [trimStart, List.dropWhile_cons_of_neg (by simp [h])]

/-- No digit stands at the front. -/
def EndsNumber (rest : List Char) : Prop := ∀ c ∈ rest.head?, c.isDigit = false

theorem endsNumber_nil : EndsNumber [] := nofun

theorem endsNumber_cons {c : Char} (h : c.isDigit = false) (rest : List Char) :
    EndsNumber (c :: rest) := by
  intro d hd
  cases hd
  exact h

theorem EndsNumber.append {s rest : List Char} (hs : EndsNumber s) (hrest : EndsNumber rest) :
    EndsNumber (s ++ rest) := by
  cases s with
  | nil => exact hrest
  | cons c s => exact endsNumber_cons (hs c rfl) (s ++ rest)

/-! ### Written numbers -/

theorem isDigit_of_mem_decimal {n : Nat} {c : Char} (h : c ∈ decimal n) : c.isDigit = true :=
  Nat.isDigit_of_mem_toDigits (by decide) (by decide) h

theorem ofDigitChars_decimal (n : Nat) : Nat.ofDigitChars 10 (decimal n) 0 = n :=
  Nat.ofDigitChars_ten_toDigits

theorem decimal_ne_nil (n : Nat) : decimal n ≠ [] := Nat.toDigits_ne_nil

theorem length_decimal_le {n width : Nat} (hwidth : 0 < width) (h : n < 10 ^ width) :
    (decimal n).length ≤ width :=
  Nat.toDigits_length 10 n width hwidth h

theorem digits_append {cs rest : List Char} (hcs : ∀ c ∈ cs, c.isDigit = true)
    (hrest : EndsNumber rest) :
    digits (cs ++ rest) = (cs.map fun c => c.toNat - '0'.toNat, rest) := by
  induction cs with
  | nil =>
    cases rest with
    | nil => rfl
    | cons c rest =>
      have hc : digit? c = none := digit?_of_isDigit_eq_false (hrest c rfl)
      simp only [List.nil_append, digits, hc]
      rfl
  | cons c cs ih =>
    obtain ⟨hc, hcs⟩ := List.forall_mem_cons.mp hcs
    simp only [List.cons_append, digits, digit?_of_isDigit hc, ih hcs, List.map_cons]

/-- Digits are taken off the front as far as they go. -/
theorem eq_append_of_digits {s rest : List Char} {ds : List Nat} (h : digits s = (ds, rest)) :
    ∃ cs, s = cs ++ rest ∧ (∀ c ∈ cs, c.isDigit = true) ∧
      ds = cs.map (fun c => c.toNat - '0'.toNat) ∧ EndsNumber rest := by
  induction s generalizing ds with
  | nil =>
    cases h
    exact ⟨[], rfl, nofun, rfl, endsNumber_nil⟩
  | cons c s ih =>
    by_cases hc : c.isDigit = true
    · simp only [digits, digit?_of_isDigit hc] at h
      obtain ⟨rfl, hmore⟩ := Prod.mk.inj h
      obtain ⟨cs, hs, hdigits, hds, hrest⟩ := ih (Prod.ext rfl hmore)
      exact ⟨c :: cs, congrArg (c :: ·) hs, List.forall_mem_cons.mpr ⟨hc, hdigits⟩,
        congrArg (_ :: ·) hds, hrest⟩
    · have hstop : digit? c = none := digit?_of_isDigit_eq_false (Bool.eq_false_of_not_eq_true hc)
      simp only [digits, hstop] at h
      cases h
      exact ⟨[], rfl, nofun, rfl, endsNumber_cons (Bool.eq_false_of_not_eq_true hc) s⟩

theorem ofDigits_map (cs : List Char) :
    ofDigits (cs.map fun c => c.toNat - '0'.toNat) = Nat.ofDigitChars 10 cs 0 := by
  rw [ofDigits, List.foldl_map, Nat.ofDigitChars_eq_foldl]
  simp only [Nat.mul_comm]

/-- Digits alone are all read, and stand for a number. -/
theorem digits_eq_cons {cs : List Char} (hcs : ∀ c ∈ cs, c.isDigit = true) (hne : cs ≠ []) :
    ∃ d ds, digits cs = (d :: ds, []) ∧ ofDigits (d :: ds) = Nat.ofDigitChars 10 cs 0 := by
  have hdigits := digits_append hcs endsNumber_nil
  have hvalue := ofDigits_map cs
  obtain ⟨c, cs, rfl⟩ := List.exists_cons_of_ne_nil hne
  rw [List.append_nil, List.map_cons] at hdigits
  rw [List.map_cons] at hvalue
  exact ⟨_, _, hdigits, hvalue⟩

end Text

open Text

theorem isDigit_of_mem_padded {width n : Nat} {c : Char} (h : c ∈ padded width n) :
    c.isDigit = true := by
  rcases List.mem_append.mp h with h | h
  · rw [List.eq_of_mem_replicate h]
    rfl
  · exact isDigit_of_mem_decimal h

theorem ofDigitChars_padded (width n : Nat) : Nat.ofDigitChars 10 (padded width n) 0 = n := by
  rw [padded, Nat.ofDigitChars_append, Nat.ofDigitChars_replicate_zero, Nat.mul_zero,
    ofDigitChars_decimal]

theorem padded_ne_nil (width n : Nat) : padded width n ≠ [] := by
  simp [padded, decimal_ne_nil]

theorem length_padded {width n : Nat} (hwidth : 0 < width) (h : n < 10 ^ width) :
    (padded width n).length = width := by
  have hle := length_decimal_le hwidth h
  rw [padded, List.length_append, List.length_replicate]
  omega

/-! ### Integers -/

theorem int64?_toInt (i : Int64) : int64? i.toInt = some i := by
  have hle := i.le_toInt
  have hlt := i.toInt_lt
  rw [int64?, if_pos (by omega), Int64.ofInt_toInt]

theorem toInt_of_int64? {n : Int} {i : Int64} (h : int64? n = some i) : i.toInt = n := by
  unfold int64? at h
  split at h
  · rename_i hrange
    cases h
    exact Int64.toInt_ofInt_of_le (by omega) (by omega)
  · cases h

/-- The integer of this magnitude that is below zero or not. -/
def signed (negative : Bool) (n : Nat) : Int := if negative then -n else n

@[simp]
theorem signed_false (n : Nat) : signed false n = n := rfl

@[simp]
theorem signed_true (n : Nat) : signed true n = -n := rfl

theorem signed_natAbs (i : Int) : signed (i < 0) i.natAbs = i := by
  rw [signed]
  simp only [decide_eq_true_eq]
  split <;> omega

/-! ### Signs -/

/-- A minus sign, if there is to be one. -/
def Text.minus (negative : Bool) : List Char := if negative then ['-'] else []

theorem Text.signedDecimal_eq (i : Int) : signedDecimal i = minus (i < 0) ++ decimal i.natAbs := by
  rw [signedDecimal, minus]
  split <;> simp_all

namespace Literal

theorem eq_append_of_sign {s rest : List Char} {negative : Bool} (h : sign s = (negative, rest)) :
    s = minus negative ++ rest := by
  unfold sign at h
  split at h <;> cases h <;> rfl

theorem sign_minus_append (negative : Bool) {s : List Char} (hs : ∀ c ∈ s.head?, c.isDigit = true) :
    sign (minus negative ++ s) = (negative, s) := by
  cases negative with
  | true => rfl
  | false =>
    show sign s = _
    unfold sign
    split
    · cases hs '-' rfl
    · rfl

theorem head?_isDigit {s : List Char} (hs : ∀ c ∈ s, c.isDigit = true) :
    ∀ c ∈ s.head?, c.isDigit = true :=
  fun c hc => hs c (List.mem_of_mem_head? hc)

/-- Digits behind a minus sign or none are an integer, if its value has 64 bits. -/
theorem integer?_of_digits {s : String} {cs : List Char} (hcs : ∀ c ∈ cs, c.isDigit = true)
    (hne : cs ≠ []) {negative : Bool} (hs : s.toList = minus negative ++ cs) :
    integer? s = int64? (signed negative (Nat.ofDigitChars 10 cs 0)) := by
  obtain ⟨d, ds, hdigits, hvalue⟩ := digits_eq_cons hcs hne
  rw [integer?, hs, sign_minus_append negative (head?_isDigit hcs)]
  simp only [hdigits, hvalue]
  rfl

/-- An integer is read from what is written for it. -/
theorem integer?_signedDecimal (i : Int64) :
    integer? (String.ofList (signedDecimal i.toInt)) = some i := by
  have htext := (String.toList_ofList).trans (signedDecimal_eq i.toInt)
  rw [integer?_of_digits (fun c => isDigit_of_mem_decimal) (decimal_ne_nil _) htext,
    ofDigitChars_decimal, signed_natAbs, int64?_toInt]

end Literal

namespace Calendar

/-! ### As many digits as there are -/

theorem moreDigits_append {cs rest : List Char} (hcs : ∀ c ∈ cs, c.isDigit = true)
    {limit : Nat} (hle : cs.length ≤ limit) (hend : cs.length = limit ∨ EndsNumber rest)
    (value : Nat) : moreDigits value limit (cs ++ rest) = (Nat.ofDigitChars 10 cs value, rest) := by
  induction cs generalizing value limit with
  | nil =>
    rcases hend with rfl | hend
    · rfl
    · cases rest with
      | nil => cases limit <;> rfl
      | cons c rest =>
        have hc : digit? c = none := digit?_of_isDigit_eq_false (hend c rfl)
        cases limit with
        | zero => rfl
        | succ limit =>
          simp only [List.nil_append, moreDigits, hc]
          rfl
  | cons c cs ih =>
    obtain ⟨hc, hcs⟩ := List.forall_mem_cons.mp hcs
    obtain ⟨limit, rfl⟩ : ∃ l, limit = l + 1 := ⟨limit - 1, by simp at hle; omega⟩
    have hlength : cs.length ≤ limit := by simpa using hle
    have hend : cs.length = limit ∨ EndsNumber rest := by simpa using hend
    simp only [List.cons_append, moreDigits, digit?_of_isDigit hc]
    rw [ih hcs hlength hend, Nat.ofDigitChars_cons, Nat.mul_comm]

/-- A number in front of what ends it is read in full. -/
theorem number?_append {cs rest : List Char} (hcs : ∀ c ∈ cs, c.isDigit = true) (hne : cs ≠ [])
    {limit : Nat} (hle : cs.length ≤ limit + 1)
    (hend : cs.length = limit + 1 ∨ EndsNumber rest) :
    number? limit (cs ++ rest) = some (Nat.ofDigitChars 10 cs 0, rest) := by
  obtain ⟨c, cs, rfl⟩ := List.exists_cons_of_ne_nil hne
  obtain ⟨hc, hcs⟩ := List.forall_mem_cons.mp hcs
  have hlength : cs.length ≤ limit := by simpa using hle
  have hend : cs.length = limit ∨ EndsNumber rest := by simpa using hend
  rw [List.cons_append, number?, digit?_of_isDigit hc, Option.map_some,
    moreDigits_append hcs hlength hend, Nat.ofDigitChars_cons, Nat.mul_zero, Nat.zero_add]

theorem number?_padded {width n : Nat} (hn : n < 10 ^ (width + 1)) (rest : List Char) :
    number? width (padded (width + 1) n ++ rest) = some (n, rest) := by
  have hlength := length_padded (Nat.succ_pos width) hn
  rw [number?_append (fun c => isDigit_of_mem_padded) (padded_ne_nil _ n) hlength.le
    (Or.inl hlength), ofDigitChars_padded]

theorem trimStart_padded (width n : Nat) (rest : List Char) :
    trimStart (padded width n ++ rest) = padded width n ++ rest := by
  obtain ⟨c, cs, hcs⟩ := List.exists_cons_of_ne_nil (padded_ne_nil width n)
  have hmem : c ∈ padded width n := hcs ▸ List.mem_cons_self
  have hc : c.isDigit = true := isDigit_of_mem_padded hmem
  rw [hcs, List.cons_append, trimStart_of_not_blank (isBlank_of_isDigit hc)]

/-! ### Two digits -/

theorem twoDigits?_padded {n : Nat} (hn : n < 100) (rest : List Char) :
    twoDigits? (padded 2 n ++ rest) = some (n, rest) := by
  rw [twoDigits?, trimStart_padded, number?_padded hn]

theorem pair?_padded {n : Nat} (hn : n < 100) (rest : List Char) :
    pair? (padded 2 n ++ rest) = some (n, rest) := by
  have hlength : (padded 2 n).length = 2 := length_padded (by decide) hn
  obtain ⟨a, b, hab⟩ := List.length_eq_two.mp hlength
  have hvalue := ofDigitChars_padded 2 n
  have hdigit : ∀ c ∈ padded 2 n, c.isDigit = true := fun c => isDigit_of_mem_padded
  rw [hab] at hvalue hdigit
  have ha := digit?_of_isDigit (hdigit a (by simp))
  have hb := digit?_of_isDigit (hdigit b (by simp))
  simp only [hab, List.cons_append, List.nil_append, pair?, ha, hb]
  rw [Nat.ofDigitChars_cons, Nat.ofDigitChars_cons, Nat.ofDigitChars_nil] at hvalue
  rw [← hvalue]
  simp [Nat.mul_comm]

/-! ### Fractions of a second -/

/-- The digits of a fraction count by their place, those that are left out as zeros. -/
theorem nanoDigits_append {cs rest : List Char} (hcs : ∀ c ∈ cs, c.isDigit = true)
    {places : Nat} (hle : cs.length ≤ places) (hrest : EndsNumber rest) :
    nanoDigits places (cs ++ rest) =
      (Nat.ofDigitChars 10 cs 0 * 10 ^ (places - cs.length), rest) := by
  induction cs generalizing places with
  | nil =>
    cases rest with
    | nil => simp [nanoDigits]
    | cons c rest =>
      have hc : digit? c = none := digit?_of_isDigit_eq_false (hrest c rfl)
      cases places <;> simp [nanoDigits, hc]
  | cons c cs ih =>
    obtain ⟨hc, hcs⟩ := List.forall_mem_cons.mp hcs
    obtain ⟨places, rfl⟩ : ∃ p, places = p + 1 := ⟨places - 1, by simp at hle; omega⟩
    have hlength : cs.length ≤ places := by simpa using hle
    -- the place of the first digit is that of the last one and of those between them
    have hplace : 10 ^ places = 10 ^ cs.length * 10 ^ (places - cs.length) := by
      rw [← pow_add, Nat.add_sub_cancel' hlength]
    have hlater : places + 1 - (c :: cs).length = places - cs.length := by simp
    have hvalue : Nat.ofDigitChars 10 (c :: cs) 0 =
        10 ^ cs.length * (c.toNat - '0'.toNat) + Nat.ofDigitChars 10 cs 0 := by
      rw [Nat.ofDigitChars_cons, Nat.mul_zero, Nat.zero_add]
      exact Nat.ofDigitChars_eq_ofDigitChars_zero
    simp only [List.cons_append, nanoDigits, digit?_of_isDigit hc, ih hcs hlength]
    rw [hvalue, hlater, Nat.add_mul, Nat.mul_right_comm, ← hplace, Nat.mul_comm (10 ^ places)]
    rfl

end Calendar

end RecordQuery
