import RecordQuery.Proofs.DocumentReading
import RecordQuery.Text.Blank

/-!
# Where documents begin and end

A reader takes what it reads off the front of a text: what it leaves is the end of the text, and
some readers leave it right behind a certain mark (`Json.Syntax.StopsBehind`).  That is shown for
the scanners one by one, and for the three nested readers together, by induction on their budget
(`Json.Syntax.stopsBehind_readers`).

Blanks aside, the text of an array therefore has a bracket at either end, however it is spelled
(`Json.brackets_of_parse?`).
-/

namespace RecordQuery.Json

namespace Syntax

/-! ### Scanners -/

/-- What the reader leaves of a text is the end of it, and stands right behind `mark`. -/
def StopsBehind {α : Type} (mark : List Char) (read : List Char → Option (α × List Char)) : Prop :=
  ∀ ⦃s : List Char⦄ ⦃a : α⦄ ⦃rest : List Char⦄, read s = some (a, rest) → mark ++ rest <:+ s

theorem StopsBehind.suffix {α : Type} {mark : List Char}
    {read : List Char → Option (α × List Char)} (h : StopsBehind mark read) {s rest : List Char}
    {a : α} (hread : read s = some (a, rest)) : rest <:+ s :=
  (List.suffix_append mark rest).trans (h hread)

theorem skipBlanks_suffix (s : List Char) : skipBlanks s <:+ s := by
  fun_induction skipBlanks s with
  | case1 => exact List.suffix_rfl
  | case2 c rest _ ih => exact ih.trans (List.suffix_cons c rest)
  | case3 c rest _ => exact List.suffix_rfl

/-- What stands at the end behind blanks and a few characters stands at the end. -/
theorem suffix_of_skipBlanks {s t u : List Char} (front : List Char)
    (hs : skipBlanks s = front ++ t) (h : u <:+ t) : u <:+ s :=
  (h.trans ⟨front, hs.symm⟩).trans (skipBlanks_suffix s)

theorem stopsBehind_stringUnits? : StopsBehind ['"'] stringUnits? := by
  intro s
  show ∀ ⦃units rest⦄, stringUnits? s = some (units, rest) → '"' :: rest <:+ s
  fun_induction stringUnits? s with
  | case1 => nofun
  | case2 rest =>
    intro units left h
    cases h
    exact List.suffix_rfl
  | case3 a b c d rest ih =>
    intro units left h
    simp only [Option.bind_eq_bind, Option.bind_eq_some_iff] at h
    obtain ⟨code, -, ⟨units, left⟩, hrest, h⟩ := h
    cases h
    exact (ih hrest).trans ⟨['\\', 'u', a, b, c, d], rfl⟩
  | case4 e rest _ ih =>
    intro units left h
    simp only [Option.bind_eq_bind, Option.bind_eq_some_iff] at h
    obtain ⟨c, -, ⟨units, left⟩, hrest, h⟩ := h
    cases h
    exact (ih hrest).trans ⟨['\\', e], rfl⟩
  | case5 c rest _ _ _ ih =>
    intro units left h
    simp only [Option.bind_eq_bind, Option.bind_eq_some_iff] at h
    obtain ⟨-, -, ⟨units, left⟩, hrest, h⟩ := h
    cases h
    exact (ih hrest).trans (List.suffix_cons c rest)

theorem digits_suffix {s rest : List Char} {ds : List Nat} (h : Text.digits s = (ds, rest)) :
    rest <:+ s := by
  obtain ⟨cs, rfl, -⟩ := Text.eq_append_of_digits h
  exact List.suffix_append cs rest

theorem stopsBehind_wholeDigits? : StopsBehind [] wholeDigits? := by
  intro s ds rest h
  unfold wholeDigits? at h
  split at h
  · cases h
  · cases h
  · exact digits_suffix (Option.some.inj h)

theorem stopsBehind_fraction? : StopsBehind [] fraction? := by
  intro s ds rest h
  unfold fraction? at h
  split at h
  · split at h
    · cases h
    · exact (digits_suffix (Option.some.inj h)).trans (List.suffix_cons '.' _)
  · cases h
    exact List.suffix_rfl

theorem stopsBehind_exponentDigits? (negative : Bool) :
    StopsBehind [] (exponentDigits? negative) := by
  intro s e rest h
  unfold exponentDigits? at h
  split at h
  · cases h
  · rename_i hdigits
    cases h
    exact digits_suffix hdigits

theorem stopsBehind_exponent? : StopsBehind [] exponent? := by
  intro s e rest h
  unfold exponent? at h
  split at h
  · cases h
    exact List.suffix_rfl
  · rename_i c s
    split at h
    · -- the letter, and a sign if there is one
      refine List.IsSuffix.trans ?_ (List.suffix_cons c s)
      split at h
      · exact (stopsBehind_exponentDigits? true h).trans (List.suffix_cons '-' _)
      · exact (stopsBehind_exponentDigits? false h).trans (List.suffix_cons '+' _)
      · exact stopsBehind_exponentDigits? false h
    · cases h
      exact List.suffix_rfl

theorem stopsBehind_magnitude? (negative : Bool) : StopsBehind [] (magnitude? negative) := by
  intro s n rest h
  simp only [magnitude?, Option.bind_eq_bind, Option.bind_eq_some_iff] at h
  obtain ⟨⟨whole, t⟩, hwhole, ⟨fraction, u⟩, hfraction, ⟨exponent, v⟩, hexponent, h⟩ := h
  cases h
  calc v <:+ u := stopsBehind_exponent? hexponent
    _ <:+ t := stopsBehind_fraction? hfraction
    _ <:+ s := stopsBehind_wholeDigits? hwhole

theorem stopsBehind_numeral? : StopsBehind [] numeral? := by
  intro s n rest h
  unfold numeral? at h
  split at h
  · exact (stopsBehind_magnitude? true h).trans (List.suffix_cons '-' _)
  · exact stopsBehind_magnitude? false h

/-! ### Nested readers -/

/-- Between the blanks in front and what is left of a text, an array is in brackets. -/
structure IsValueOf (s : List Char) (value : Syntax) (rest : List Char) : Prop where
  suffix : rest <:+ s
  brackets : ∀ items, value = array items → ∃ inside, skipBlanks s = '[' :: inside ∧
    ']' :: rest <:+ inside

variable {fuel : Nat}

theorem isValueOf_value? (hitems : StopsBehind [']'] (items? fuel))
    (hmembers : StopsBehind ['\x7d'] (members? fuel)) {s : List Char} {value : Syntax}
    {rest : List Char} (h : value? (fuel + 1) s = some (value, rest)) :
    IsValueOf s value rest := by
  unfold value? at h
  split at h
  · rename_i hs
    cases h
    exact ⟨suffix_of_skipBlanks ['n', 'u', 'l', 'l'] hs List.suffix_rfl, by rintro _ ⟨⟩⟩
  · rename_i hs
    cases h
    exact ⟨suffix_of_skipBlanks ['t', 'r', 'u', 'e'] hs List.suffix_rfl, by rintro _ ⟨⟩⟩
  · rename_i hs
    cases h
    exact ⟨suffix_of_skipBlanks ['f', 'a', 'l', 's', 'e'] hs List.suffix_rfl, by rintro _ ⟨⟩⟩
  · -- a string
    rename_i hs
    obtain ⟨⟨units, left⟩, hunits, h⟩ := Option.map_eq_some_iff.mp h
    cases h
    exact ⟨suffix_of_skipBlanks ['"'] hs (stopsBehind_stringUnits?.suffix hunits), by rintro _ ⟨⟩⟩
  · -- an array, with items or without
    rename_i inside hs
    have hend : ']' :: rest <:+ inside := by
      split at h
      · rename_i hclosing
        cases h
        exact suffix_of_skipBlanks [] hclosing List.suffix_rfl
      · obtain ⟨⟨items, left⟩, hread, h⟩ := Option.map_eq_some_iff.mp h
        cases h
        exact (hitems hread).trans (skipBlanks_suffix inside)
    exact ⟨suffix_of_skipBlanks ['['] hs ((List.suffix_cons ']' rest).trans hend),
      fun _ _ => ⟨inside, hs, hend⟩⟩
  · -- an object, with members or without
    rename_i inside hs
    split at h
    · rename_i hclosing
      cases h
      exact ⟨suffix_of_skipBlanks ['\x7b'] hs
        (suffix_of_skipBlanks ['\x7d'] hclosing List.suffix_rfl), by rintro _ ⟨⟩⟩
    · obtain ⟨⟨members, left⟩, hread, h⟩ := Option.map_eq_some_iff.mp h
      cases h
      exact ⟨suffix_of_skipBlanks ['\x7b'] hs
        ((hmembers.suffix hread).trans (skipBlanks_suffix inside)), by rintro _ ⟨⟩⟩
  · obtain ⟨⟨n, left⟩, hread, h⟩ := Option.map_eq_some_iff.mp h
    cases h
    exact ⟨(stopsBehind_numeral?.suffix hread).trans (skipBlanks_suffix s), by rintro _ ⟨⟩⟩

theorem stopsBehind_items? (hvalue : StopsBehind [] (value? fuel))
    (hitems : StopsBehind [']'] (items? fuel)) : StopsBehind [']'] (items? (fuel + 1)) := by
  intro s items rest h
  show ']' :: rest <:+ s
  rw [items?] at h
  obtain ⟨⟨item, behind⟩, hitem, h⟩ := Option.bind_eq_some_iff.mp h
  refine List.IsSuffix.trans ?_ (hvalue hitem)
  dsimp only at h
  split at h
  · rename_i hcomma
    obtain ⟨⟨others, left⟩, hothers, h⟩ := Option.bind_eq_some_iff.mp h
    cases h
    exact suffix_of_skipBlanks [','] hcomma (hitems hothers)
  · rename_i hclosing
    cases h
    exact suffix_of_skipBlanks [] hclosing List.suffix_rfl
  · cases h

theorem stopsBehind_members? (hvalue : StopsBehind [] (value? fuel))
    (hmembers : StopsBehind ['\x7d'] (members? fuel)) :
    StopsBehind ['\x7d'] (members? (fuel + 1)) := by
  intro s members rest h
  show '\x7d' :: rest <:+ s
  rw [members?] at h
  split at h
  · rename_i hkey
    obtain ⟨⟨key, behind⟩, hunits, h⟩ := Option.bind_eq_some_iff.mp h
    refine suffix_of_skipBlanks ['"'] hkey
      (List.IsSuffix.trans ?_ (stopsBehind_stringUnits?.suffix hunits))
    dsimp only at h
    split at h
    · rename_i hcolon
      obtain ⟨⟨value, behind'⟩, hread, h⟩ := Option.bind_eq_some_iff.mp h
      refine suffix_of_skipBlanks [':'] hcolon (List.IsSuffix.trans ?_ (hvalue hread))
      dsimp only at h
      split at h
      · rename_i hcomma
        obtain ⟨⟨others, left⟩, hothers, h⟩ := Option.bind_eq_some_iff.mp h
        cases h
        exact suffix_of_skipBlanks [','] hcomma (hmembers hothers)
      · rename_i hclosing
        cases h
        exact suffix_of_skipBlanks [] hclosing List.suffix_rfl
      · cases h
    · cases h
  · cases h

/-- Every reader leaves the end of the text, whatever its budget. -/
theorem stopsBehind_readers (fuel : Nat) : StopsBehind [] (value? fuel) ∧
    StopsBehind [']'] (items? fuel) ∧ StopsBehind ['\x7d'] (members? fuel) := by
  induction fuel with
  | zero => exact ⟨nofun, nofun, nofun⟩
  | succ fuel ih =>
    obtain ⟨hvalue, hitems, hmembers⟩ := ih
    exact ⟨fun _ _ _ h => (isValueOf_value? hitems hmembers h).suffix,
      stopsBehind_items? hvalue hitems, stopsBehind_members? hvalue hmembers⟩

theorem brackets_of_value? {s rest : List Char} {items : List Syntax}
    (h : value? fuel s = some (array items, rest)) :
    ∃ inside, skipBlanks s = '[' :: inside ∧ ']' :: rest <:+ inside := by
  cases fuel with
  | zero => cases h
  | succ fuel =>
    obtain ⟨-, hitems, hmembers⟩ := stopsBehind_readers fuel
    exact (isValueOf_value? hitems hmembers h).brackets items rfl

/-! ### Arrays -/

theorem skipBlanks_of_head? {s : List Char} (h : ∀ c ∈ s.head?, Text.isBlank c = false) :
    skipBlanks s = s := by
  cases s with
  | nil => rfl
  | cons c s =>
    refine skipBlanks_cons (fun hc => ?_) s
    have hblank : Text.isBlank c = true := by
      fin_cases hc <;> decide
    rw [h c rfl] at hblank
    cases hblank

theorem isBlank_of_skipBlanks {s : List Char} (h : skipBlanks s = []) :
    ∀ c ∈ s, Text.isBlank c = true := by
  fun_induction skipBlanks s with
  | case1 => nofun
  | case2 c rest hc ih =>
    refine List.forall_mem_cons.mpr ⟨?_, ih h⟩
    rcases hc with rfl | rfl | rfl | rfl <;> decide
  | case3 c rest _ => cases h

/-- An array with no blanks around it has brackets at its ends. -/
theorem brackets_of_read? {text : String} {items : List Syntax}
    (h : read? text = some (array items))
    (hfirst : ∀ c ∈ text.toList.head?, Text.isBlank c = false)
    (hlast : ∀ c ∈ text.toList.getLast?, Text.isBlank c = false) :
    text.toList.head? = some '[' ∧ text.toList.getLast? = some ']' := by
  rw [read?] at h
  split at h
  · rename_i value rest hvalue
    split at h
    · rename_i hblanks
      cases h
      obtain ⟨inside, hopening, hclosing⟩ := brackets_of_value? hvalue
      rw [skipBlanks_of_head? hfirst] at hopening
      obtain ⟨more, hmore⟩ := hclosing
      have hend : text.toList.getLast? = (']' :: rest).getLast? := by
        rw [hopening, ← hmore, ← List.cons_append]
        exact List.getLast?_append_of_ne_nil _ (List.cons_ne_nil _ _)
      -- what is left would be blanks, and the last character is none
      have hrest : rest = [] := by
        by_contra hne
        obtain ⟨c, hc⟩ := Option.ne_none_iff_exists'.mp (mt List.getLast?_eq_none_iff.mp hne)
        have hlast := hlast c (by simp [hend, List.getLast?_cons, hc])
        rw [isBlank_of_skipBlanks hblanks c (List.mem_of_getLast? hc)] at hlast
        cases hlast
      refine ⟨by rw [hopening]; rfl, ?_⟩
      rw [hend, hrest]
      rfl
    · cases h
  · cases h

theorem exists_eq_array {depth : Nat} {value : Syntax} {items : List Json}
    (h : meaning? depth value = some (.array items)) : ∃ values, value = array values := by
  cases value with
  | array values => exact ⟨values, rfl⟩
  | object members => cases depth <;> simp [meaning?] at h
  | _ => simp [meaning?] at h

end Syntax

/-- **An array has brackets at its ends**, however it is spelled, with no blanks around it. -/
theorem brackets_of_parse? {text : String} {items : List Json}
    (h : parse? text = some (array items))
    (hfirst : ∀ c ∈ text.toList.head?, Text.isBlank c = false)
    (hlast : ∀ c ∈ text.toList.getLast?, Text.isBlank c = false) :
    text.toList.head? = some '[' ∧ text.toList.getLast? = some ']' := by
  obtain ⟨said, hread, hmeaning⟩ := Option.bind_eq_some_iff.mp h
  obtain ⟨values, rfl⟩ := Syntax.exists_eq_array hmeaning
  exact Syntax.brackets_of_read? hread hfirst hlast

end RecordQuery.Json
