import RecordQuery.Json.Meaning
import RecordQuery.Proofs.Digits

/-!
# Reading arrays of documents

A text is an item of an array (`Json.Syntax.ReadsAs`) if a value is read from it in front of a comma
or of the end of the array.  So are `null`, strings as they are written (`readsAs_renderString`) and
numbers (`readsAs_numeral`).  Items with commas between them and brackets around them are read as the
array of their values (`Json.Syntax.read?_array`); the budget of steps is no limit there.

Every character of a string comes back (`Json.unitChars?_map_unitOf`), whether it is written as itself,
behind a backslash or with hexadecimal digits.
-/

namespace RecordQuery.Json

/-! ### Strings -/

namespace Syntax

/-- The piece of a string that a character is written as: control characters without a letter of
their own are written as code units. -/
def unitOf (c : Char) : StringUnit :=
  if c.toNat < 32 ∧ c ∉ ['\x08', '\x0c', '\n', '\r', '\t'] then .code c.toNat else .char c

theorem hexUnit?_hexDigit {n : Nat} (hn : n < 32) :
    hexUnit? '0' '0' (hexDigit (n / 16)) (hexDigit (n % 16)) = some n := by
  decide +revert

theorem stringUnits?_escaped {e c : Char} (he : escape? e = some c) (hu : e ≠ 'u')
    (hunit : unitOf c = .char c) (rest : List Char) :
    stringUnits? ('\\' :: e :: rest) =
      (stringUnits? rest).map fun (units, rest) => (unitOf c :: units, rest) := by
  rw [stringUnits?, he, hunit, Option.map_eq_bind]
  · rfl
  · intro a b c d rest' hcode
    exact absurd hcode hu

theorem stringUnits?_plain {c : Char} (hquote : c ≠ '"') (hslash : c ≠ '\\') (hc : 32 ≤ c.toNat)
    (rest : List Char) :
    stringUnits? (c :: rest) =
      (stringUnits? rest).map fun (units, rest) => (.char c :: units, rest) := by
  rw [stringUnits?, Option.map_eq_bind]
  · simp only [guard, hc, if_true]
    rfl
  · exact hquote
  · intro a b c d rest' hc
    exact absurd hc hslash
  · intro e rest' hc
    exact absurd hc hslash

/-- A character in a string is read as the piece that it is written as. -/
theorem stringUnits?_renderChar (c : Char) (rest : List Char) :
    stringUnits? (renderChar c ++ rest) =
      (stringUnits? rest).map fun (units, rest) => (unitOf c :: units, rest) := by
  unfold renderChar
  split_ifs with hquote hslash hb hf hn hr ht hcontrol
  · subst hquote
    exact stringUnits?_escaped rfl (by decide) (by decide) rest
  · subst hslash
    exact stringUnits?_escaped rfl (by decide) (by decide) rest
  · subst hb
    exact stringUnits?_escaped rfl (by decide) (by decide) rest
  · subst hf
    exact stringUnits?_escaped rfl (by decide) (by decide) rest
  · subst hn
    exact stringUnits?_escaped rfl (by decide) (by decide) rest
  · subst hr
    exact stringUnits?_escaped rfl (by decide) (by decide) rest
  · subst ht
    exact stringUnits?_escaped rfl (by decide) (by decide) rest
  · have hunit : unitOf c = .code c.toNat := by simp [unitOf, *]
    simp [stringUnits?, hexUnit?_hexDigit hcontrol, hunit, Option.map_eq_bind]
  · have hunit : unitOf c = .char c := by simp [unitOf, *]
    rw [hunit]
    exact stringUnits?_plain hquote hslash (Nat.le_of_not_lt hcontrol) rest

theorem stringUnits?_flatMap (cs rest : List Char) :
    stringUnits? (cs.flatMap renderChar ++ '"' :: rest) = some (cs.map unitOf, rest) := by
  induction cs with
  | nil => rfl
  | cons c cs ih =>
    rw [List.flatMap_cons, List.append_assoc, stringUnits?_renderChar, ih]
    rfl

end Syntax

/-- A code unit that is no surrogate is a character. -/
theorem unitChars?_code {n : Nat} (hlow : isLowSurrogate n = false)
    (hhigh : isHighSurrogate n = false) (rest : List StringUnit) :
    unitChars? (.code n :: rest) = (unitChars? rest).map (Char.ofNat n :: ·) := by
  rcases rest with _ | ⟨_ | _, rest⟩ <;> simp [unitChars?, hlow, hhigh]

/-- What is written for characters means these characters. -/
theorem unitChars?_map_unitOf (cs : List Char) : unitChars? (cs.map Syntax.unitOf) = some cs := by
  induction cs with
  | nil => rfl
  | cons c cs ih =>
    rw [List.map_cons, Syntax.unitOf]
    split
    · rename_i hcontrol
      have hhigh : isHighSurrogate c.toNat = false := by simp [isHighSurrogate]; omega
      have hlow : isLowSurrogate c.toNat = false := by simp [isLowSurrogate]; omega
      rw [unitChars?_code hlow hhigh, ih, Char.ofNat_toNat]
      rfl
    · simp [unitChars?, ih]

/-! ### Items of arrays -/

namespace Syntax

theorem skipBlanks_cons {c : Char} (h : c ∉ [' ', '\n', '\t', '\r']) (rest : List Char) :
    skipBlanks (c :: rest) = c :: rest := by
  simp only [List.mem_cons, List.not_mem_nil, or_false] at h
  rw [skipBlanks, if_neg h]

/-- What follows an item of an array: a comma, or the end of the array. -/
def EndsItem (rest : List Char) : Prop := ∃ c more, rest = c :: more ∧ (c = ',' ∨ c = ']')

/-- The text is an item of an array, and the value is read from it. -/
structure ReadsAs (text : List Char) (value : Syntax) : Prop where
  /-- It begins neither with a blank nor as the end of an array. -/
  starts : ∃ c more, text = c :: more ∧ c ∉ [' ', '\n', '\t', '\r', ']']
  reads : ∀ fuel rest, EndsItem rest → value? (fuel + 1) (text ++ rest) = some (value, rest)

theorem readsAs_null : ReadsAs ['n', 'u', 'l', 'l'] null :=
  ⟨⟨'n', _, rfl, by decide⟩, fun _ _ _ => rfl⟩

theorem readsAs_renderString (s : String) :
    ReadsAs (renderString s) (string (s.toList.map unitOf)) := by
  refine ⟨⟨'"', _, rfl, by decide⟩, fun fuel rest _ => ?_⟩
  have hunits := stringUnits?_flatMap s.toList rest
  have htext : renderString s ++ rest = '"' :: (s.toList.flatMap renderChar ++ '"' :: rest) := by
    simp [renderString]
  rw [htext, value?, skipBlanks_cons (by decide)]
  simp only [hunits, Option.map_some]

/-! ### Numerals -/

section

open Text

variable {s t rest : List Char}

theorem EndsItem.endsNumber (h : EndsItem rest) : EndsNumber rest := by
  obtain ⟨c, more, rfl, rfl | rfl⟩ := h
  · exact endsNumber_cons (by decide) more
  · exact endsNumber_cons (by decide) more

theorem digits_before (hrest : EndsNumber rest) {ds : List Nat} (h : digits s = (ds, t)) :
    digits (s ++ rest) = (ds, t ++ rest) := by
  obtain ⟨cs, rfl, hcs, rfl, ht⟩ := eq_append_of_digits h
  rw [List.append_assoc, digits_append hcs (ht.append hrest)]

theorem wholeDigits?_before (hrest : EndsNumber rest) {ds : List Nat}
    (h : wholeDigits? s = some (ds, t)) : wholeDigits? (s ++ rest) = some (ds, t ++ rest) := by
  unfold wholeDigits? at h ⊢
  cases hdigits : digits s with
  | mk found more =>
    rw [hdigits] at h
    rw [digits_before hrest hdigits]
    rcases found with _ | ⟨_ | d, _ | ⟨e, found⟩⟩ <;> cases h <;> rfl

theorem fraction?_of_head? (h : ∀ c ∈ s.head?, c ≠ '.') : fraction? s = some ([], s) := by
  unfold fraction?
  split
  · exact absurd rfl (h '.' rfl)
  · rfl

theorem fraction?_before (hrest : EndsItem rest) {ds : List Nat}
    (h : fraction? s = some (ds, t)) : fraction? (s ++ rest) = some (ds, t ++ rest) := by
  unfold fraction? at h
  split at h
  · rename_i u
    cases hdigits : digits u with
    | mk found more =>
      rw [hdigits] at h
      rw [List.cons_append, fraction?, digits_before hrest.endsNumber hdigits]
      rcases found with _ | ⟨d, found⟩
      · cases h
      · cases h
        rfl
  · -- no point, and none comes with what ends the item
    rename_i hpoint
    cases h
    apply fraction?_of_head?
    rintro c hc rfl
    cases s with
    | nil =>
      obtain ⟨d, more, rfl, rfl | rfl⟩ := hrest
      · cases hc
      · cases hc
    | cons d s =>
      cases hc
      exact hpoint s rfl

theorem exponentDigits?_before (hrest : EndsNumber rest) {negative : Bool}
    {e : Option (Bool × List Nat)} (h : exponentDigits? negative s = some (e, t)) :
    exponentDigits? negative (s ++ rest) = some (e, t ++ rest) := by
  unfold exponentDigits? at h ⊢
  cases hdigits : digits s with
  | mk found more =>
    rw [hdigits] at h
    rw [digits_before hrest hdigits]
    rcases found with _ | ⟨d, found⟩
    · cases h
    · cases h
      rfl

theorem exponent?_before (hrest : EndsItem rest) {e : Option (Bool × List Nat)}
    (h : exponent? s = some (e, t)) : exponent? (s ++ rest) = some (e, t ++ rest) := by
  cases s with
  | nil =>
    cases h
    obtain ⟨d, more, rfl, rfl | rfl⟩ := hrest <;> rfl
  | cons c s =>
    unfold exponent? at h ⊢
    simp only [List.cons_append] at h ⊢
    split at h
    · rename_i hletter
      rw [if_pos hletter]
      cases s with
      | nil => cases h
      | cons d s =>
        rw [List.cons_append]
        split at h
        · rename_i hsign
          obtain ⟨rfl, rfl⟩ := List.cons.inj hsign
          exact exponentDigits?_before hrest.endsNumber h
        · rename_i hsign
          obtain ⟨rfl, rfl⟩ := List.cons.inj hsign
          exact exponentDigits?_before hrest.endsNumber h
        · -- without a sign there is a digit, which stays in front
          rename_i hminus hplus
          split
          · rename_i hsign
            obtain ⟨rfl, rfl⟩ := List.cons.inj hsign
            exact absurd rfl (hminus s)
          · rename_i hsign
            obtain ⟨rfl, rfl⟩ := List.cons.inj hsign
            exact absurd rfl (hplus s)
          · exact exponentDigits?_before hrest.endsNumber h
    · rename_i hletter
      rw [if_neg hletter]
      cases h
      rfl

theorem magnitude?_before (hrest : EndsItem rest) {negative : Bool} {n : Numeral}
    (h : magnitude? negative s = some (n, t)) :
    magnitude? negative (s ++ rest) = some (n, t ++ rest) := by
  simp only [magnitude?, Option.bind_eq_bind, Option.bind_eq_some_iff] at h ⊢
  obtain ⟨⟨whole, u⟩, hwhole, ⟨fraction, v⟩, hfraction, ⟨exponent, w⟩, hexponent, h⟩ := h
  cases h
  exact ⟨_, wholeDigits?_before hrest.endsNumber hwhole, _, fraction?_before hrest hfraction, _,
    exponent?_before hrest hexponent, rfl⟩

/-- A number is read in front of what ends an item. -/
theorem numeral?_before (hrest : EndsItem rest) {n : Numeral} (h : numeral? s = some (n, t)) :
    numeral? (s ++ rest) = some (n, t ++ rest) := by
  cases s with
  | nil => cases h
  | cons c s =>
    unfold numeral? at h ⊢
    rw [List.cons_append]
    split at h
    · rename_i hsign
      obtain ⟨rfl, rfl⟩ := List.cons.inj hsign
      exact magnitude?_before hrest h
    · rename_i hminus
      split
      · rename_i hsign
        obtain ⟨rfl, -⟩ := List.cons.inj hsign
        exact absurd rfl (hminus s)
      · exact magnitude?_before hrest h

/-- A number begins with a minus sign or a digit. -/
theorem exists_cons_of_numeral? {n : Numeral} (h : numeral? s = some (n, t)) :
    ∃ c more, s = c :: more ∧ (c = '-' ∨ c.isDigit = true) := by
  cases s with
  | nil => cases h
  | cons c s =>
    refine ⟨c, s, rfl, ?_⟩
    unfold numeral? at h
    split at h
    · rename_i hsign
      exact Or.inl (List.cons.inj hsign).1
    · cases hc : c.isDigit with
      | true => exact Or.inr rfl
      | false =>
        have hnone : digits (c :: s) = ([], c :: s) := by
          simp [digits, digit?_of_isDigit_eq_false hc]
        simp [magnitude?, wholeDigits?, hnone] at h

theorem readsAs_numeral {n : Numeral} (h : numeral? s = some (n, [])) : ReadsAs s (number n) := by
  obtain ⟨c, more, rfl, hc⟩ := exists_cons_of_numeral? h
  have hstarts : c ∉ [' ', '\n', '\t', '\r', ']'] := by
    rintro hmem
    fin_cases hmem <;> revert hc <;> decide
  refine ⟨⟨c, more, rfl, hstarts⟩, fun fuel rest hrest => ?_⟩
  have hread := numeral?_before hrest h
  have hblank : c ∉ [' ', '\n', '\t', '\r'] := fun hmem => hstarts (by simp at hmem ⊢; tauto)
  -- no other value begins like that
  have hother {d : Char} {u v : List Char} (hd : ¬ (d = '-' ∨ d.isDigit = true))
      (heq : c :: u = d :: v) : False := hd ((List.cons.inj heq).1 ▸ hc)
  rw [List.cons_append] at hread ⊢
  rw [value?, skipBlanks_cons hblank]
  split
  iterate 6
    · rename_i heq
      exact (hother (by decide) heq).elim
  · rw [hread]
    rfl

end

/-! ### Arrays -/

theorem ReadsAs.skipBlanks {text : List Char} {value : Syntax} (h : ReadsAs text value)
    (rest : List Char) : Syntax.skipBlanks (text ++ rest) = text ++ rest := by
  obtain ⟨c, more, rfl, hc⟩ := h.starts
  exact skipBlanks_cons (fun hmem => hc (by simp at hmem ⊢; tauto)) _

/-- Items with commas between them are read one by one, up to the end of the array. -/
theorem items?_intercalate {texts : List (List Char)} {values : List Syntax}
    (h : List.Forall₂ ReadsAs texts values) (hne : texts ≠ []) {fuel : Nat}
    (hfuel : texts.length < fuel) (rest : List Char) :
    items? fuel ([','].intercalate texts ++ ']' :: rest) = some (values, rest) := by
  induction h generalizing fuel with
  | nil => exact absurd rfl hne
  | @cons text value texts values htext htexts ih =>
    obtain ⟨fuel, rfl⟩ : ∃ f, fuel = f + 2 := ⟨fuel - 2, by simp at hfuel; omega⟩
    have hread := htext.reads fuel
    cases htexts with
    | nil =>
      have hlast := hread (']' :: rest) ⟨']', rest, rfl, Or.inr rfl⟩
      simp [List.intercalate_singleton, items?, hlast, Syntax.skipBlanks]
    | @cons next value' texts values' hnext htexts =>
      have hlength : (next :: texts).length < fuel + 1 := by simpa using hfuel
      have hothers := ih (List.cons_ne_nil _ _) hlength
      have hfirst := hread (',' :: ([','].intercalate (next :: texts) ++ ']' :: rest))
        ⟨',', _, rfl, Or.inl rfl⟩
      have hbegin : [','].intercalate (text :: next :: texts) ++ ']' :: rest =
          text ++ ',' :: ([','].intercalate (next :: texts) ++ ']' :: rest) := by
        simp [List.intercalate_cons_cons]
      have hcomma (more : List Char) : Syntax.skipBlanks (',' :: more) = ',' :: more :=
        skipBlanks_cons (by decide) more
      rw [hbegin, items?, hfirst]
      simp only [Option.bind_eq_bind, Option.bind_some, hcomma, hothers]
      rfl

theorem ReadsAs.length_pos {text : List Char} {value : Syntax} (h : ReadsAs text value) :
    0 < text.length := by
  obtain ⟨c, more, rfl, -⟩ := h.starts
  exact Nat.succ_pos _

theorem length_le_intercalate {texts : List (List Char)} {values : List Syntax}
    (h : List.Forall₂ ReadsAs texts values) :
    texts.length ≤ ([','].intercalate texts).length := by
  induction h with
  | nil => exact Nat.zero_le _
  | @cons text value texts values htext htexts ih =>
    have hpos := htext.length_pos
    cases htexts with
    | nil =>
      rw [List.intercalate_singleton]
      exact hpos
    | cons hnext htexts =>
      rw [List.intercalate_cons_cons]
      simp only [List.length_append, List.length_cons, List.length_nil] at ih ⊢
      omega

theorem value?_array {texts : List (List Char)} {values : List Syntax}
    (h : List.Forall₂ ReadsAs texts values) {fuel : Nat} (hfuel : texts.length < fuel) :
    value? (fuel + 1) ('[' :: [','].intercalate texts ++ [']']) = some (array values, []) := by
  have hopening (more : List Char) : Syntax.skipBlanks ('[' :: more) = '[' :: more :=
    skipBlanks_cons (by decide) more
  cases h with
  | nil => rfl
  | @cons text value texts values htext htexts =>
    have hitems := items?_intercalate (.cons htext htexts) (List.cons_ne_nil _ _) hfuel []
    have hstart : ∃ c more, [','].intercalate (text :: texts) ++ [']'] = c :: more ∧
        c ∉ [' ', '\n', '\t', '\r', ']'] := by
      obtain ⟨c, more, rfl, hc⟩ := htext.starts
      cases texts with
      | nil => exact ⟨c, _, by rw [List.intercalate_singleton, List.cons_append], hc⟩
      | cons => exact ⟨c, _, by rw [List.intercalate_cons_cons]; rfl, hc⟩
    obtain ⟨c, more, hmore, hc⟩ := hstart
    have hskip : Syntax.skipBlanks (c :: more) = c :: more :=
      skipBlanks_cons (fun hmem => hc (by simp at hmem ⊢; tauto)) more
    rw [hmore] at hitems
    rw [List.cons_append, hmore, value?, hopening]
    simp only [hskip]
    split
    · rename_i hend
      obtain ⟨rfl, -⟩ := List.cons.inj hend
      exact absurd (by decide) hc
    · rw [hitems]
      rfl

/-- **Items in brackets with commas between them are read as the array of their values.** -/
theorem read?_array {texts : List (List Char)} {values : List Syntax}
    (h : List.Forall₂ ReadsAs texts values) :
    read? (String.ofList ('[' :: [','].intercalate texts ++ [']'])) = some (array values) := by
  have hfuel : texts.length < 2 * ('[' :: [','].intercalate texts ++ [']']).length + 1 := by
    have hlength := length_le_intercalate h
    simp only [List.length_append, List.length_cons]
    omega
  simp only [read?, String.toList_ofList, value?_array h hfuel]
  rfl

theorem itemMeanings?_eq_some_iff {depth : Nat} {values : List Syntax} {items : List Json} :
    itemMeanings? depth values = some items ↔
      List.Forall₂ (fun value item => meaning? depth value = some item) values items := by
  induction values generalizing items with
  | nil => simp [itemMeanings?, eq_comm]
  | cons value values ih =>
    rw [itemMeanings?]
    simp only [Option.bind_eq_bind, Option.bind_eq_some_iff, ih, List.forall₂_cons_left_iff]
    constructor
    · rintro ⟨first, hfirst, others, hothers, hitems⟩
      cases hitems
      exact ⟨first, others, hfirst, hothers, rfl⟩
    · rintro ⟨first, others, hfirst, hothers, rfl⟩
      exact ⟨first, hfirst, others, hothers, rfl⟩

end Syntax

/-- An array means the list of what its items mean. -/
theorem parse?_array {texts : List (List Char)} {values : List Syntax}
    (h : List.Forall₂ Syntax.ReadsAs texts values) :
    parse? (String.ofList ('[' :: [','].intercalate texts ++ [']'])) =
      (Syntax.itemMeanings? (maxDepth - 1) values).map array := by
  rw [parse?, Syntax.read?_array h]
  rfl

theorem renderChars_array (items : List Json) :
    (array items).renderChars = '[' :: [','].intercalate (items.map renderChars) ++ [']'] := by
  have hitems : ∀ item items, renderChars item ++ renderItems items =
      [','].intercalate ((item :: items).map renderChars) ++ [']'] := by
    intro item items
    induction items generalizing item with
    | nil => simp [renderItems, List.intercalate_singleton]
    | cons next items ih =>
      rw [renderItems, List.cons_append, ih]
      simp [List.intercalate_cons_cons]
  cases items with
  | nil => rfl
  | cons item items =>
    rw [renderChars, List.cons_append, List.cons_append, hitems]

end RecordQuery.Json
