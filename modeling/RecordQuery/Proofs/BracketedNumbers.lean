import RecordQuery.Proofs.DocumentNotation
import RecordQuery.Proofs.ListLiterals

/-!
# Lists of numbers in brackets

A list of numbers may be written with or without brackets.  Without them its pieces are read as they
stand; in brackets it is an array, whose numbers are made of the pieces and written again before they
are read.

For integers that comes to the same unless one of them is `-0`, which a document has as a
floating-point number (`Json.Numeral.meaning?_of_integer?`).  For floating-point numbers it comes to the
same exactly if each one survives: if the number that the document has is the nearest one and is
written without an exponent (`Json.Survives`).  All integers do (`Json.survives_of_integer?`).
-/

namespace RecordQuery

open Text

/-! ### Integers in documents -/

namespace Json

theorem le_foldl_digits (n : ℕ) (ds : List ℕ) : n ≤ ds.foldl (fun n d => n * 10 + d) n := by
  induction ds generalizing n with
  | nil => exact le_rfl
  | cons d ds ih =>
    have hle := ih (n * 10 + d)
    rw [List.foldl_cons]
    omega

/-- Digits that fit into the significand are all taken. -/
theorem takeDigits_eq {n : ℕ} {ds : List ℕ}
    (h : ds.foldl (fun n d => n * 10 + d) n ≤ maxSignificand) :
    takeDigits n ds = (ds.foldl (fun n d => n * 10 + d) n, []) := by
  induction ds generalizing n with
  | nil => rfl
  | cons d ds ih =>
    rw [List.foldl_cons] at h ⊢
    have hle := le_foldl_digits (n * 10 + d) ds
    rw [takeDigits, if_pos (hle.trans h), ih h]

namespace Numeral

/-- The numeral of digits alone. -/
theorem meaning?_digits {negative : Bool} {ds : List ℕ} (h : ofDigits ds ≤ 2 ^ 63) :
    (Numeral.mk negative ds [] none).meaning? =
      some (if negative then
        if ofDigits ds = 0 then .float (Binary64.zero true) else .integer (-ofDigits ds)
      else .integer (ofDigits ds)) := by
  have htaken : takeDigits 0 ds = (ofDigits ds, []) := by
    apply takeDigits_eq
    have hmax : maxSignificand = 2 ^ 64 - 1 := rfl
    rw [← ofDigits]
    omega
  have hbound : ¬ twoPow 63 < ofDigits ds := by rw [twoPow_eq]; omega
  cases negative with
  | false => simp [meaning?, htaken]
  | true =>
    by_cases hzero : ofDigits ds = 0
    · simp only [meaning?, htaken, hzero]
      rfl
    · simp [meaning?, htaken, hzero, hbound]

end Numeral

namespace Syntax

theorem numeral?_eq_magnitude? (s : List Char) :
    numeral? s = magnitude? (Literal.sign s).1 (Literal.sign s).2 := by
  by_cases h : ∃ rest, s = '-' :: rest
  · obtain ⟨rest, rfl⟩ := h
    rfl
  · have hsign : Literal.sign s = (false, s) := by
      unfold Literal.sign
      split
      · exact absurd ⟨_, rfl⟩ h
      · rfl
    rw [hsign]
    unfold numeral?
    split
    · exact absurd ⟨_, rfl⟩ h
    · rfl

/-- A numeral of digits alone has no leading zero. -/
theorem eq_of_magnitude?_digits {negative : Bool} {s : List Char} {ds : List ℕ} {n : Numeral}
    (hdigits : digits s = (ds, [])) (h : magnitude? negative s = some (n, [])) :
    n = ⟨negative, ds, [], none⟩ ∧ ∀ others, ds = 0 :: others → others = [] := by
  simp only [magnitude?, wholeDigits?, hdigits, Option.bind_eq_bind] at h
  rcases ds with _ | ⟨_ | d, _ | ⟨e, ds⟩⟩
  · cases h
  · cases h
    exact ⟨rfl, by simp⟩
  · cases h
  · cases h
    exact ⟨rfl, by simp⟩
  · cases h
    exact ⟨rfl, by simp⟩

end Syntax

/-- A literal that is an integer and a number of a document is written with digits alone; the only one
that is a negative zero is `-0`. -/
theorem exists_digits_of_integer? {s : String} {i : Int64} {n : Numeral}
    (hi : Literal.integer? s = some i) (hn : Syntax.numeral? s.toList = some (n, [])) :
    ∃ negative ds, n = ⟨negative, ds, [], none⟩ ∧
      i.toInt = (if negative then -(ofDigits ds : ℤ) else ofDigits ds) ∧
      (s = "-0" ↔ negative = true ∧ ofDigits ds = 0) ∧
      Literal.float? s = some (Binary64.ofDecimal negative (ofDigits ds) 0) := by
  rw [Literal.integer?] at hi
  rw [Syntax.numeral?_eq_magnitude?] at hn
  cases hsign : Literal.sign s.toList with
  | mk negative rest =>
    rw [hsign] at hi hn
    simp only at hi hn
    split at hi
    · rename_i d ds hdigits
      obtain ⟨rfl, hleading⟩ := Syntax.eq_of_magnitude?_digits hdigits hn
      have hfloat : Literal.float? s =
          some (Binary64.ofDecimal negative (ofDigits (d :: ds)) 0) := by
        rw [Literal.float?, hsign]
        simp only [hdigits]
      refine ⟨negative, d :: ds, rfl, toInt_of_int64? hi, ⟨?_, ?_⟩, hfloat⟩
      · rintro rfl
        cases hsign
        cases hdigits
        exact ⟨rfl, rfl⟩
      · rintro ⟨rfl, hzero⟩
        have hle : d ≤ ofDigits (d :: ds) := by
          have := le_foldl_digits (0 * 10 + d) ds
          rw [ofDigits, List.foldl_cons]
          omega
        obtain rfl : d = 0 := by omega
        obtain rfl := hleading ds rfl
        -- the only digit is a zero
        obtain ⟨cs, hrest, hcs, hvalues, -⟩ := eq_append_of_digits hdigits
        obtain ⟨c, rfl, hc⟩ := List.map_eq_singleton_iff.mp hvalues.symm
        have hrange := toNat_of_isDigit (hcs c List.mem_cons_self)
        have hzeroChar : '0'.toNat = 48 := rfl
        obtain rfl : c = '0' := Char.toNat_inj.mp (by omega)
        have htext := Literal.eq_append_of_sign hsign
        rw [hrest] at htext
        exact String.toList_inj.mp htext
    · cases hi

/-- **The number that a document has for an integer is that integer**, except for `-0`. -/
theorem Numeral.meaning?_of_integer? {s : String} {i : Int64} {n : Numeral}
    (hi : Literal.integer? s = some i) (hn : Syntax.numeral? s.toList = some (n, [])) :
    n.meaning? = some (if s = "-0" then .float (Binary64.zero true) else .integer i.toInt) := by
  obtain ⟨negative, ds, rfl, hvalue, hzero, -⟩ := exists_digits_of_integer? hi hn
  have hbound : ofDigits ds ≤ 2 ^ 63 := by
    have hlow := i.le_toInt
    have hhigh := i.toInt_lt
    split at hvalue <;> omega
  rw [Numeral.meaning?_digits hbound, hvalue]
  cases negative <;> simp [hzero]

/-- The text is a number of a document. -/
def IsNumber (s : String) : Prop := ∃ n, Syntax.numeral? s.toList = some (n, [])

theorem IsNumber.ne_null {s : String} (h : IsNumber s) : s ≠ "null" := by
  rintro rfl
  obtain ⟨n, hn⟩ := h
  cases hn

/-- The number that a document has for the text is the one nearest to it, and is written without an
exponent. -/
def Survives (s : String) : Prop :=
  ∃ n m, Syntax.numeral? s.toList = some (n, []) ∧ Numeral.meaning? n = some m ∧
    Literal.float? s = some m.toBinary64 ∧ 'e' ∉ m.render

/-- Every integer survives as a floating-point number, `-0` included. -/
theorem survives_of_integer? {s : String} {i : Int64} (hi : Literal.integer? s = some i)
    (hnumber : IsNumber s) : Survives s := by
  obtain ⟨n, hn⟩ := hnumber
  have hmeaning := Numeral.meaning?_of_integer? hi hn
  obtain ⟨negative, ds, -, hvalue, hzero, hfloat⟩ := exists_digits_of_integer? hi hn
  refine ⟨n, _, hn, hmeaning, ?_⟩
  rw [hfloat]
  split
  · -- the negative zero of the document is what the literal means
    rename_i hs
    obtain ⟨rfl, hds⟩ := hzero.mp hs
    rw [hds]
    exact ⟨rfl, by decide⟩
  · rename_i hs
    refine ⟨?_, Literal.not_mem_of_float? (Literal.float?_signedDecimal _)⟩
    have hsign : decide (i.toInt < 0) = negative := by
      cases negative with
      | false => simp [hvalue]
      | true =>
        have hne : ofDigits ds ≠ 0 := fun hds => hs (hzero.mpr ⟨rfl, hds⟩)
        simp [hvalue]
        omega
    have habs : i.toInt.natAbs = ofDigits ds := by
      rw [hvalue]
      split <;> simp
    rw [Binary64.ofDecimal_zero, Number.toBinary64, Binary64.ofInt, hsign, habs]

end Json

/-! ### Lists side by side -/

theorem forall₂_exists_iff {α β γ : Type} {R : α → β → Prop} {S : β → γ → Prop} {as : List α}
    {cs : List γ} : List.Forall₂ (fun a c => ∃ b, R a b ∧ S b c) as cs ↔
      ∃ bs, List.Forall₂ R as bs ∧ List.Forall₂ S bs cs := by
  constructor
  · intro h
    induction h with
    | nil => exact ⟨[], .nil, .nil⟩
    | cons hb _ ih =>
      obtain ⟨b, hR, hS⟩ := hb
      obtain ⟨bs, hRs, hSs⟩ := ih
      exact ⟨b :: bs, .cons hR hRs, .cons hS hSs⟩
  · rintro ⟨bs, hR, hS⟩
    induction hR generalizing cs with
    | nil =>
      cases hS
      exact .nil
    | cons hR _ ih =>
      cases hS with
      | cons hS hSs => exact .cons ⟨_, hR, hS⟩ (ih hSs)

theorem forall₂_congr_of_mem {α β : Type} {R S : α → β → Prop} {as : List α} {bs : List β}
    (h : ∀ a ∈ as, ∀ b, R a b ↔ S a b) : List.Forall₂ R as bs ↔ List.Forall₂ S as bs := by
  induction as generalizing bs with
  | nil => rw [List.forall₂_nil_left_iff, List.forall₂_nil_left_iff]
  | cons a as ih =>
    obtain ⟨ha, has⟩ := List.forall_mem_cons.mp h
    simp only [List.forall₂_cons_left_iff, ha, ih has]

theorem forall₂_iff_forall {α β : Type} {R S : α → β → Prop} {P : α → Prop} {as : List α} {bs : List β}
    (h : List.Forall₂ R as bs) (hiff : ∀ a b, R a b → (S a b ↔ P a)) :
    List.Forall₂ S as bs ↔ ∀ a ∈ as, P a := by
  induction h with
  | nil => exact iff_of_true .nil nofun
  | cons hab _ ih => rw [List.forall₂_cons, hiff _ _ hab, ih, List.forall_mem_cons]

theorem forall_mem_of_forall₂ {α β : Type} {R : α → β → Prop} {P : α → Prop} {as : List α}
    {bs : List β} (h : List.Forall₂ R as bs) (hP : ∀ a b, R a b → P a) : ∀ a ∈ as, P a :=
  (forall₂_iff_forall h fun a b hab => iff_of_true hab (hP a b hab)).mp h

namespace Coercion

variable {c : Coercion} {zone : Offset} {literals : List String} {values : List Value}

/-! ### Lists with and without brackets -/

/-- The literals as an array. -/
def bracketed (literals : List String) : String := "[" ++ join "," literals ++ "]"

theorem bracketed_eq (literals : List String) : bracketed literals =
    String.ofList ('[' :: [','].intercalate (literals.map String.toList) ++ [']']) := by
  apply String.toList_inj.mp
  simp [bracketed, toList_join]

/-- The number that a document has for the literal is read as the value when it is written again. -/
def ReadsRewritten (target : Option FieldType) (zone : Offset) (s : String) (v : Value) : Prop :=
  ∃ m, (∃ n, Json.Syntax.numeral? s.toList = some (n, []) ∧ n.meaning? = some m) ∧
    convert target (String.ofList m.render) zone = .ok v

theorem isNumeric_of_convert {target : Option FieldType}
    (htarget : target = some .integer ∨ target = some .float) {raw : String} {v : Value}
    (h : convert target raw zone = .ok v) : ∀ d ∈ raw.toList, Literal.IsNumeric d := by
  rcases htarget with rfl | rfl
  · obtain ⟨i, hi, -⟩ := convert_integer_eq_ok.mp h
    exact Literal.isNumeric_of_integer? hi
  · obtain ⟨x, hx, -⟩ := convert_float_eq_ok.mp h
    exact Literal.isNumeric_of_float? hx

/-- Nothing but the characters of numbers stands in a number: neither a comma nor a bracket. -/
theorem not_mem_of_convert {target : Option FieldType}
    (htarget : target = some .integer ∨ target = some .float) {raw : String} {v : Value}
    (h : convert target raw zone = .ok v) {d : Char} (hd : ¬ Literal.IsNumeric d) :
    d ∉ raw.toList :=
  fun hmem => hd (isNumeric_of_convert htarget h d hmem)

/-- Cut at its commas, an array is no list of numbers: the first piece has the bracket. -/
theorem mapM_convertPiece_bracketed_ne_ok
    (htarget : c.target = some .integer ∨ c.target = some .float) (literals : List String) :
    (splitOn ',' (bracketed literals)).mapM (convertPiece c.target zone) ≠ .ok values := by
  intro h
  obtain ⟨first, others, hpieces⟩ := List.exists_cons_of_ne_nil
    (isCut_splitOn ',' (join "," literals ++ "]")).ne_nil
  have hbracket : ',' ∉ "[".toList := by decide
  have hfirst := splitOn_append_of_not_mem hbracket hpieces
  rw [bracketed, String.append_assoc, hfirst, mapM_eq_ok_iff] at h
  obtain ⟨v, _, hv, -, -⟩ := List.forall₂_cons_left_iff.mp h
  have hkeeps : keepsBlanks c.target = false := by
    rcases htarget with htarget | htarget <;> rw [htarget] <;> rfl
  rw [convertPiece, hkeeps, if_neg Bool.false_ne_true] at hv
  have hmem : '[' ∈ (trim ("[" ++ first)).toList := mem_trim (by decide) (by simp)
  exact not_mem_of_convert htarget hv (by decide) hmem

theorem iterable_bracketed (htarget : c.target = some .integer ∨ c.target = some .float)
    (hnumbers : ∀ s ∈ literals, Json.IsNumber s) :
    c.iterable (bracketed literals) zone = .ok values ↔
      List.Forall₂ (ReadsRewritten c.target zone) literals values := by
  have hboolean : c.target ≠ some .boolean := by
    rcases htarget with h | h <;> simp [h]
  have : Nonempty Json.Numeral := ⟨⟨false, [], [], none⟩⟩
  choose! numeral hnumeral using hnumbers
  have hreads : List.Forall₂ Json.Syntax.ReadsAs (literals.map String.toList)
      (literals.map fun s => .number (numeral s)) := by
    rw [List.forall₂_map_left_iff, List.forall₂_map_right_iff, List.forall₂_same]
    exact fun s hs => Json.Syntax.readsAs_numeral (hnumeral s hs)
  -- first all numbers are made, and then all of them are read
  have hrewritten : List.Forall₂ (ReadsRewritten c.target zone) literals values ↔
      ∃ items, Json.Syntax.itemMeanings? (Json.maxDepth - 1)
          (literals.map fun s => .number (numeral s)) = some items ∧
        items.mapM (convertItem c.target zone) = .ok values := by
    simp only [Json.Syntax.itemMeanings?_eq_some_iff, mapM_eq_ok_iff, List.forall₂_map_left_iff]
    rw [← forall₂_exists_iff]
    apply forall₂_congr_of_mem
    intro s hs v
    simp only [ReadsRewritten, hnumeral s hs, Json.Syntax.meaning?, Option.map_eq_some_iff]
    constructor
    · rintro ⟨m, ⟨n, hn, hm⟩, hv⟩
      cases hn
      exact ⟨.number m, ⟨m, hm, rfl⟩, hv⟩
    · rintro ⟨_, ⟨m, hm, rfl⟩, hv⟩
      exact ⟨m, ⟨_, rfl, hm⟩, hv⟩
  rw [hrewritten, iterable, if_neg hboolean, bracketed_eq, jsonItems?_array hreads, ← bracketed_eq]
  cases Json.Syntax.itemMeanings? (Json.maxDepth - 1)
      (literals.map fun s => .number (numeral s)) with
  | none =>
    -- a number is beyond all bounds, so the text is no array
    simp only [reduceCtorEq, false_and, exists_false, iff_false]
    exact mapM_convertPiece_bracketed_ne_ok htarget literals
  | some items => simp

/-- Without brackets a list of numbers has the values of its numbers. -/
theorem iterable_join_numbers (hne : literals ≠ [])
    (htarget : c.target = some .integer ∨ c.target = some .float)
    (hliterals : List.Forall₂ (fun s v => Json.IsNumber s ∧ c.scalar s zone = .ok v) literals values) :
    c.iterable (join "," literals) zone = .ok values := by
  have hboolean : c.target ≠ some .boolean := by
    rcases htarget with h | h <;> simp [h]
  have hnotNull : ∀ s ∈ literals, s ≠ "null" :=
    forall_mem_of_forall₂ hliterals fun s v hs => hs.1.ne_null
  have hnot {d : Char} (hd : ¬ Literal.IsNumeric d) : ∀ s ∈ literals, d ∉ s.toList := by
    refine forall_mem_of_forall₂ hliterals fun s v hs => ?_
    obtain ⟨hnumber, hv⟩ := hs
    rw [scalar, if_neg hnumber.ne_null] at hv
    exact not_mem_of_convert htarget hv hd
  have hplain : jsonItems? (join "," literals) = none := by
    rw [jsonItems?, if_neg]
    intro hbracketed
    have hhead : (join "," literals).toList.head? = some '[' := by
      simp only [isBracketed, Bool.and_eq_true, decide_eq_true_eq] at hbracketed
      exact hbracketed.1
    obtain ⟨s, hs, hmem⟩ := (mem_toList_join (by decide)).mp (List.mem_of_mem_head? hhead)
    exact hnot (by decide) s hs hmem
  exact iterable_join hne (fun s hs => ⟨hnot (by decide) s hs, hnotNull s hs⟩) hboolean hplain
    (hliterals.imp fun s v hs => hs.2)

/-! ### Literals in brackets -/

theorem readsRewritten_integer_iff {s : String} {i : Int64} (hi : Literal.integer? s = some i)
    (hnumber : Json.IsNumber s) :
    ReadsRewritten (some .integer) zone s (.int i) ↔ s ≠ "-0" := by
  obtain ⟨n, hn⟩ := hnumber
  have hmeaning := Json.Numeral.meaning?_of_integer? hi hn
  constructor
  · rintro ⟨m, ⟨n', hn', hm⟩, hv⟩ rfl
    rw [hn] at hn'
    cases hn'
    rw [hmeaning] at hm
    cases hm
    obtain ⟨j, hj, -⟩ := convert_integer_eq_ok.mp hv
    have hnone : Literal.integer? (String.ofList
        (Json.Number.float (Binary64.zero true)).render) = none := by decide
    cases hnone.symm.trans hj
  · intro hne
    rw [if_neg hne] at hmeaning
    exact ⟨_, ⟨n, hn, hmeaning⟩,
      convert_integer_eq_ok.mpr ⟨i, Literal.integer?_signedDecimal i, rfl⟩⟩

theorem readsRewritten_float_iff {s : String} {x : Binary64} (hx : Literal.float? s = some x) :
    ReadsRewritten (some .float) zone s (.float x) ↔ Json.Survives s := by
  constructor
  · rintro ⟨m, ⟨n, hn, hm⟩, hv⟩
    obtain ⟨y, hy, hxy⟩ := convert_float_eq_ok.mp hv
    cases hxy
    rw [Literal.float?_render (Json.Numeral.valid_of_meaning? hm)] at hy
    split at hy
    · cases hy
    · rename_i hexponent
      exact ⟨n, m, hn, hm, hx.trans hy.symm, hexponent⟩
  · rintro ⟨n, m, hn, hm, hnearest, hexponent⟩
    have hread := Literal.float?_render (Json.Numeral.valid_of_meaning? hm)
    rw [if_neg hexponent, ← hnearest, hx] at hread
    exact ⟨m, ⟨n, hn, hm⟩, convert_float_eq_ok.mpr ⟨x, hread, rfl⟩⟩

/-- **Brackets around a list of numbers** make no difference exactly if every number survives being
made a number of a document: if no integer is `-0`, and if every floating-point number is read there
as the nearest one and written without an exponent.  Without the brackets the list has the values of
its numbers in any case. -/
theorem iterable_bracketed_iff (hne : literals ≠ [])
    (htarget : c.target = some .integer ∨ c.target = some .float)
    (hliterals : List.Forall₂ (fun s v => Json.IsNumber s ∧ c.scalar s zone = .ok v) literals values) :
    c.iterable (join "," literals) zone = .ok values ∧
      (c.target = some .integer →
        (c.iterable ("[" ++ join "," literals ++ "]") zone = .ok values ↔ "-0" ∉ literals)) ∧
      (c.target = some .float →
        (c.iterable ("[" ++ join "," literals ++ "]") zone = .ok values ↔
          ∀ s ∈ literals, Json.Survives s)) := by
  have hconvert : List.Forall₂ (fun s v => Json.IsNumber s ∧ convert c.target s zone = .ok v)
      literals values := by
    refine hliterals.imp ?_
    rintro s v ⟨hnumber, hv⟩
    rw [scalar, if_neg hnumber.ne_null] at hv
    exact ⟨hnumber, hv⟩
  have hnumbers : ∀ s ∈ literals, Json.IsNumber s :=
    forall_mem_of_forall₂ hconvert fun s v hs => hs.1
  have hiff := @iterable_bracketed c zone literals values htarget hnumbers
  refine ⟨iterable_join_numbers hne htarget hliterals, fun hinteger => ?_, fun hfloat => ?_⟩
  · rw [← bracketed, hiff, hinteger, forall₂_iff_forall hconvert (P := fun s => s ≠ "-0")]
    · exact ⟨fun h hmem => h _ hmem rfl, fun h s hs heq => h (heq ▸ hs)⟩
    · rintro s v ⟨hnumber, hv⟩
      rw [hinteger] at hv
      obtain ⟨i, hi, rfl⟩ := convert_integer_eq_ok.mp hv
      exact readsRewritten_integer_iff hi hnumber
  · rw [← bracketed, hiff, hfloat]
    apply forall₂_iff_forall hconvert
    rintro s v ⟨-, hv⟩
    rw [hfloat] at hv
    obtain ⟨x, hx, rfl⟩ := convert_float_eq_ok.mp hv
    exact readsRewritten_float_iff hx

/-- A negative zero among integers, and a small number among floating-point numbers. -/
theorem iterable_bracketed_negative_zero :
    let ints : Coercion := ⟨some .integer, none⟩
    let floats : Coercion := ⟨some .float, none⟩
    let half : Binary64 := ⟨0x3fe0000000000000⟩
    let millionth : Binary64 := ⟨0x3eb0c6f7a0b5ed8d⟩
    ints.iterable "12,-0" .utc = .ok [.int 12, .int 0] ∧
      ints.iterable "[12,-0]" .utc ≠ .ok [.int 12, .int 0] ∧
      floats.iterable "0.5,0.000001" .utc = .ok [.float half, .float millionth] ∧
      floats.iterable "[0.5,0.000001]" .utc ≠ .ok [.float half, .float millionth] := by
  intro ints floats half millionth
  have hnumber {s : String} (h : (Json.Syntax.numeral? s.toList).map Prod.snd = some []) :
      Json.IsNumber s := by
    obtain ⟨⟨n, _⟩, hn, rfl⟩ := Option.map_eq_some_iff.mp h
    exact ⟨n, hn⟩
  have hint {s : String} {i : Int64} (hne : s ≠ "null") (hi : Literal.integer? s = some i) :
      ints.scalar s .utc = .ok (.int i) := by
    rw [scalar, if_neg hne]
    exact convert_integer_eq_ok.mpr ⟨i, hi, rfl⟩
  have hfloat {s : String} {x : Binary64} (hne : s ≠ "null") (hx : Literal.float? s = some x) :
      floats.scalar s .utc = .ok (.float x) := by
    rw [scalar, if_neg hne]
    exact convert_float_eq_ok.mpr ⟨x, hx, rfl⟩
  have hints := @iterable_bracketed_iff ints .utc ["12", "-0"] [.int 12, .int 0] (by decide)
    (Or.inl rfl)
    (.cons ⟨hnumber (by decide), hint (by decide) (by decide)⟩
      (.cons ⟨hnumber (by decide), hint (by decide) (by decide)⟩ .nil))
  have hfloats := @iterable_bracketed_iff floats .utc ["0.5", "0.000001"]
    [.float half, .float millionth] (by decide) (Or.inr rfl)
    (.cons ⟨hnumber (by decide), hfloat (by decide) (by decide +kernel)⟩
      (.cons ⟨hnumber (by decide), hfloat (by decide) (by decide +kernel)⟩ .nil))
  have hlost : ¬ Json.Survives "0.000001" := by
    rintro ⟨n, m, hn, hm, -, hexponent⟩
    have hwritten : ((Json.Syntax.numeral? "0.000001".toList).bind (·.1.meaning?)).map
        (·.render.contains 'e') = some true := by decide +kernel
    rw [hn, Option.bind_some, hm, Option.map_some, Option.some_inj] at hwritten
    exact hexponent (List.contains_iff_mem.mp hwritten)
  refine ⟨hints.1, fun h => ?_, hfloats.1, fun h => ?_⟩
  · exact (hints.2.1 rfl).mp h (by decide)
  · exact hlost ((hfloats.2.2 rfl).mp h _ (by decide))

end Coercion

end RecordQuery
