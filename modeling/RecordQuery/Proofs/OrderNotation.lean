import RecordQuery.Ordering
import RecordQuery.Proofs.DocumentEnds
import RecordQuery.Proofs.ListLiterals
import RecordQuery.Proofs.Trimming

/-!
# How orderings are written

An ordering is written as a JSON array of names or as names with commas between them.  Both are read
as the names one by one (`OrderTerm.parseAll_of_isArrayOf`, `OrderTerm.parseAll_join`).  An array is
told apart by the brackets at its ends, which it has however it is spelled.  A text with commas is
trimmed as a whole before it is cut, and its pieces once more, so that the names are the same but
for blanks.

A term is written as the text that it is read from without the blanks around it
(`OrderTerm.parse_eq_ok_iff`): one hyphen is taken off at most, and inner blanks are kept.  So it is
read back (`OrderTerm.parse_display`).
-/

namespace RecordQuery

namespace OrderTerm

/-! ### Terms -/

variable {s : String} {term : OrderTerm}

@[simp]
theorem parse_trim (s : String) : parse (Text.trim s) = parse s := by
  rw [parse, parse, Text.trim_trim]

theorem display_of_descending (h : term.descending = true) :
    term.display.toList = '-' :: term.field.toList := by
  rw [display, if_pos h, String.toList_append]
  rfl

theorem display_of_ascending (h : term.descending = false) : term.display = term.field := by
  rw [display, if_neg (Bool.eq_false_iff.mp h)]

theorem parse_of_hyphen {c : Char} {cs : List Char} (h : (Text.trim s).toList = '-' :: c :: cs) :
    parse s = .ok ⟨String.ofList (c :: cs), true⟩ := by
  simp only [parse, h]

theorem parse_of_no_hyphen {c : Char} {cs : List Char} (h : (Text.trim s).toList = c :: cs)
    (hc : c ≠ '-') : parse s = .ok ⟨Text.trim s, false⟩ := by
  unfold parse
  dsimp only
  rw [h]
  split
  · rename_i hcs
    cases hcs
  · rename_i hcs
    exact absurd (List.cons.inj hcs).1 hc
  · rename_i hcs
    exact absurd (List.cons.inj hcs).1 hc
  · rfl

/-- **A term is read from its own text with blanks around it**, and from no other.  Its field has a
character; a hyphen in front of it stands behind another one. -/
theorem parse_eq_ok_iff : parse s = .ok term ↔ term.display = Text.trim s ∧ term.field ≠ "" ∧
    (term.descending = false → term.field.toList.head? ≠ some '-') := by
  constructor
  · intro h
    unfold parse at h
    dsimp only at h
    split at h
    · cases h
    · cases h
    · rename_i field hlone htext
      cases h
      refine ⟨String.toList_inj.mp ?_, ?_, nofun⟩
      · rw [display_of_descending rfl, String.toList_ofList, htext]
      · -- the hyphen is not alone
        intro hfield
        exact hlone (by simpa using hfield)
    · rename_i hne hlone hhyphen
      cases h
      refine ⟨display_of_ascending rfl, ?_, fun _ => ?_⟩
      · exact fun hfield => hne (String.toList_eq_nil_iff.mpr hfield)
      · intro hhead
        obtain ⟨field, hfield⟩ := List.head?_eq_some_iff.mp hhead
        exact hhyphen field hfield
  · rintro ⟨hdisplay, hne, hhyphen⟩
    obtain ⟨c, cs, hfield⟩ := List.exists_cons_of_ne_nil (mt String.toList_eq_nil_iff.mp hne)
    cases hd : term.descending with
    | true =>
      have htext : (Text.trim s).toList = '-' :: c :: cs := by
        rw [← hdisplay, display_of_descending hd, hfield]
      rw [parse_of_hyphen htext, ← hfield, String.ofList_toList, ← hd]
    | false =>
      have htext : (Text.trim s).toList = c :: cs := by
        rw [← hdisplay, display_of_ascending hd, hfield]
      have hc : c ≠ '-' := by
        rintro rfl
        exact hhyphen hd (by rw [hfield]; rfl)
      rw [parse_of_no_hyphen htext hc, ← hdisplay, display_of_ascending hd, ← hd]

theorem parse_eq_error_iff {e : String} :
    parse s = .error e ↔ e = Text.trim s ∧ (Text.isBlankText s = true ∨ Text.trim s = "-") := by
  rw [Text.isBlankText_iff]
  constructor
  · intro h
    unfold parse at h
    dsimp only at h
    split at h
    · rename_i htext
      cases h
      exact ⟨rfl, Or.inl (String.toList_eq_nil_iff.mp htext)⟩
    · rename_i htext
      cases h
      exact ⟨rfl, Or.inr (String.toList_inj.mp htext)⟩
    · cases h
    · cases h
  · rintro ⟨rfl, hnone | hlone⟩
    · rw [parse, hnone]
      rfl
    · rw [parse, hlone]
      rfl

/-- A term is written as the text that it is read from, and read from what is written. -/
theorem parse_display (h : parse s = .ok term) : parse term.display = .ok term := by
  rw [(parse_eq_ok_iff.mp h).1, parse_trim, h]

/-! ### Names -/

theorem parseEach_map_trim (names : List String) :
    parseEach (names.map Text.trim) = parseEach names := by
  rw [parseEach, parseEach, List.filter_map, List.mapM_map]
  simp only [Function.comp_def, parse_trim, Text.isBlankText_trim]

theorem parseEach_eq_ok_iff {names : List String} {terms : List OrderTerm} :
    parseEach names = .ok terms ↔ List.Forall₂ (fun name term => parse name = .ok term)
      (names.filter fun name => !Text.isBlankText name) terms :=
  mapM_eq_ok_iff

theorem exists_parseEach_eq_ok_iff {names : List String} :
    (∃ terms, parseEach names = .ok terms) ↔
      ∀ name ∈ names, Text.isBlankText name = false → Text.trim name ≠ "-" := by
  rw [exists_eq_ok_iff, parseEach, exists_mapM_eq_error_iff]
  -- a blank name would be refused as well, but is passed over
  simp only [List.mem_filter, parse_eq_error_iff, not_exists, not_and, not_or, Bool.not_eq_true']
  constructor
  · intro h name hname hblank
    exact (h name ⟨hname, hblank⟩ _ rfl).2
  · rintro h name ⟨hname, hblank⟩ e -
    exact ⟨by simp [hblank], h name hname hblank⟩

/-- Names are refused for a hyphen alone. -/
theorem parseEach_failsOnly (names : List String) : FailsOnly (· = "-") (parseEach names) := by
  refine FailsOnly.mapM fun name hname e he => ?_
  obtain ⟨rfl, hblank | hlone⟩ := parse_eq_error_iff.mp he
  · have hnot := (List.mem_filter.mp hname).2
    rw [hblank] at hnot
    cases hnot
  · exact hlone

/-! ### Orderings -/

/-- The text is a JSON array of the names, spelled in any way and with blanks around it. -/
def IsArrayOf (names : List String) (raw : String) : Prop :=
  Json.parse? (Text.trim raw) = some (.array (names.map .string))

theorem isArrayOf_render (names : List String) :
    IsArrayOf names (Json.array (names.map .string)).render := by
  have hitems := Coercion.jsonItems?_render (names.map some)
  rw [Coercion.jsonItems?_eq_some_iff, List.map_map] at hitems
  obtain ⟨hbracketed, hparse⟩ := hitems
  obtain ⟨hfirst, hlast⟩ := Coercion.isBracketed_iff.mp hbracketed
  -- a bracket is no blank, so that nothing is cut off
  have htrim : Text.trim (Json.array (names.map .string)).render =
      (Json.array (names.map .string)).render := by
    apply Text.trim_of_ends
    · intro c hc
      obtain rfl := Option.some.inj (hfirst.symm.trans hc)
      decide
    · intro c hc
      obtain rfl := Option.some.inj (hlast.symm.trans hc)
      decide
  rw [IsArrayOf, htrim]
  exact hparse

/-- Names in a JSON array are read one by one, however the array is spelled. -/
theorem parseAll_of_isArrayOf {raw : String} {names : List String} (h : IsArrayOf names raw) :
    parseAll raw = parseEach names := by
  have hends := Text.isTrim_trim raw
  have hbrackets := Json.brackets_of_parse? h hends.first hends.last
  have hnames : jsonNames? (Text.trim raw) = some names := by
    rw [jsonNames?, h]
    simp only [List.mapM_map, Function.comp_def]
    exact List.mapM_pure.trans (congrArg some (List.map_id names))
  rw [parseAll]
  simp only [hbrackets, hnames]
  rfl

/-- Names with commas between them are read one by one, if they are not taken for an array. -/
theorem parseAll_join {names : List String} (hcommas : ∀ name ∈ names, ',' ∉ name.toList)
    (hplain : ¬ ((Text.trim (Text.join "," names)).toList.head? = some '[' ∧
      (Text.trim (Text.join "," names)).toList.getLast? = some ']')) :
    parseAll (Text.join "," names) = parseEach names := by
  have hpieces : parseAll (Text.join "," names) =
      parseEach (Text.splitOn ',' (Text.trim (Text.join "," names))) := by
    rw [parseAll]
    exact if_neg (by simpa using hplain)
  rw [hpieces, ← parseEach_map_trim, Text.map_trim_splitOn_trim (by decide), parseEach_map_trim]
  by_cases hne : names = []
  · -- nothing to join is the empty text, which is one blank piece
    subst hne
    rfl
  · exact congrArg parseEach (Text.splitOn_join hne hcommas)

/-- **The two notations of orderings agree, and terms are written as they are read.**  A JSON array
of names is an ordering exactly if none of them is a hyphen alone, blanks aside, and then its terms
are those of the names that are not blank.  The names with commas between them are read alike, with
the same failure, unless a name has a comma or the whole looks like an array. -/
theorem parseAll_notations (names : List String) :
    IsArrayOf names (Json.array (names.map .string)).render ∧
      (∀ raw, IsArrayOf names raw →
        ((∃ terms, parseAll raw = .ok terms) ↔
          ∀ name ∈ names, Text.isBlankText name = false → Text.trim name ≠ "-") ∧
        (∀ terms, parseAll raw = .ok terms ↔
          List.Forall₂ (fun name term => parse name = .ok term)
            (names.filter fun name => !Text.isBlankText name) terms) ∧
        (∀ e, parseAll raw = .error e → e = "-") ∧
        ((∀ name ∈ names, ',' ∉ name.toList) →
          ¬ ((Text.trim (Text.join "," names)).toList.head? = some '[' ∧
            (Text.trim (Text.join "," names)).toList.getLast? = some ']') →
          parseAll (Text.join "," names) = parseAll raw)) ∧
      ∀ s term, parse s = .ok term → parse term.display = .ok term := by
  refine ⟨isArrayOf_render names, fun raw hraw => ?_, fun s term => parse_display⟩
  rw [parseAll_of_isArrayOf hraw]
  exact ⟨exists_parseEach_eq_ok_iff, fun terms => parseEach_eq_ok_iff, parseEach_failsOnly names,
    parseAll_join⟩

/-- Blanks around the array, around names and inside them, a blank name, and repeated hyphens. -/
theorem parseAll_notations_blanks :
    let names := [" - x", "--a", " ", "b\tc "]
    let raw := " [\" - x\", \"--a\", \" \", \"b\\tc \"]\n"
    let terms : List OrderTerm := [⟨" x", true⟩, ⟨"-a", true⟩, ⟨"b\tc", false⟩]
    IsArrayOf names raw ∧ parseAll raw = .ok terms ∧ parseAll " - x,--a, ,b\tc " = .ok terms ∧
      parse "--a" = .ok ⟨"-a", true⟩ ∧ parse (display ⟨"-a", true⟩) = .ok ⟨"-a", true⟩ := by
  intro names raw terms
  have hraw : IsArrayOf names raw := by
    show Json.parse? (Text.trim " [\" - x\", \"--a\", \" \", \"b\\tc \"]\n") = _
    cbv
  obtain ⟨-, hnotations, hdisplay⟩ := parseAll_notations names
  obtain ⟨-, hterms, -, hjoined⟩ := hnotations raw hraw
  have hnamed : names.filter (fun name => !Text.isBlankText name) = [" - x", "--a", "b\tc "] := by
    decide
  have hall : parseAll raw = .ok terms := by
    rw [hterms, hnamed]
    exact .cons (by cbv) (.cons (by cbv) (.cons (by cbv) .nil))
  have hjoin : parseAll " - x,--a, ,b\tc " = parseAll raw :=
    hjoined (by decide) (by decide)
  have hparse : parse "--a" = .ok ⟨"-a", true⟩ := by cbv
  exact ⟨hraw, hall, hjoin.trans hall, hparse, hdisplay "--a" _ hparse⟩

end OrderTerm

end RecordQuery
