import RecordQuery.Proofs.DocumentReading
import RecordQuery.Proofs.Failure
import RecordQuery.Proofs.Pieces
import RecordQuery.Proofs.TrimmedLiterals
import RecordQuery.Resolver

/-!
# Lists of values

A raw text is read as a list in one of two ways.  If it is the text of a JSON array, its items are the
values; a list of texts and absent values that is written in JSON is always read so, and comes back
(`Coercion.iterable_render`).  Any other text is cut at its commas.  Its pieces are then read without
the blanks around them, which changes no value (`Coercion.convertPiece_of_scalar`), so that the list
has the values that its pieces have by themselves (`Coercion.iterable_join`).
-/

namespace RecordQuery

namespace Coercion

variable {c : Coercion} {zone : Offset}

/-! ### Arrays -/

theorem isBracketed_iff {raw : String} : isBracketed raw = true ↔
    raw.toList.head? = some '[' ∧ raw.toList.getLast? = some ']' := by
  rw [isBracketed, Bool.and_eq_true, decide_eq_true_eq, decide_eq_true_eq]

theorem jsonItems?_eq_some_iff {raw : String} {items : List Json} :
    jsonItems? raw = some items ↔
      isBracketed raw = true ∧ Json.parse? raw = some (.array items) := by
  unfold jsonItems?
  split
  · rename_i hbracketed
    rw [iff_true_intro hbracketed, true_and]
    cases Json.parse? raw with
    | none => simp
    | some document => cases document <;> simp
  · rename_i hbracketed
    simp [hbracketed]

/-- Items in brackets with commas between them are the items of an array, if all of them mean
something. -/
theorem jsonItems?_array {texts : List (List Char)} {values : List Json.Syntax}
    (h : List.Forall₂ Json.Syntax.ReadsAs texts values) :
    jsonItems? (String.ofList ('[' :: [','].intercalate texts ++ [']'])) =
      Json.Syntax.itemMeanings? (Json.maxDepth - 1) values := by
  have hbracketed :
      isBracketed (String.ofList ('[' :: [','].intercalate texts ++ [']'])) = true := by
    rw [isBracketed, String.toList_ofList, List.getLast?_concat]
    rfl
  rw [jsonItems?, if_pos hbracketed, Json.parse?_array h]
  cases Json.Syntax.itemMeanings? (Json.maxDepth - 1) values <;> rfl

/-- The document that a text or an absent value is sent as. -/
def documentOf (item : Option String) : Json := item.elim .null .string

/-- The value that a text or an absent value is. -/
def valueOf (item : Option String) : Value := item.elim .null .text

/-- What is said by the text of such a document. -/
def syntaxOf (item : Option String) : Json.Syntax :=
  item.elim .null fun s => .string (s.toList.map Json.Syntax.unitOf)

theorem readsAs_documentOf (item : Option String) :
    Json.Syntax.ReadsAs (documentOf item).renderChars (syntaxOf item) := by
  cases item with
  | none => exact Json.Syntax.readsAs_null
  | some s => exact Json.Syntax.readsAs_renderString s

theorem meaning?_syntaxOf (depth : Nat) (item : Option String) :
    (syntaxOf item).meaning? depth = some (documentOf item) := by
  cases item with
  | none => rfl
  | some s =>
    have hchars := Json.unitChars?_map_unitOf s.toList
    simp [syntaxOf, documentOf, Json.Syntax.meaning?, Json.unitText?, hchars]

theorem jsonItems?_render (items : List (Option String)) :
    jsonItems? (Json.array (items.map documentOf)).render = some (items.map documentOf) := by
  have hreads : List.Forall₂ Json.Syntax.ReadsAs ((items.map documentOf).map Json.renderChars)
      (items.map syntaxOf) := by
    rw [List.map_map, List.forall₂_map_left_iff, List.forall₂_map_right_iff, List.forall₂_same]
    exact fun item _ => readsAs_documentOf item
  rw [Json.render, Json.renderChars_array, jsonItems?_array hreads,
    Json.Syntax.itemMeanings?_eq_some_iff, List.forall₂_map_left_iff, List.forall₂_map_right_iff,
    List.forall₂_same]
  exact fun item _ => meaning?_syntaxOf _ item

/-- **Any list of texts can be sent as a JSON array**, whatever characters they have: where texts are
asked for, they and the absent values between them come back, and are not cut at commas. -/
theorem iterable_render (htarget : c.target = some .text ∨ c.target = none)
    (items : List (Option String)) (zone : Offset) :
    jsonItems? (Json.array (items.map documentOf)).render = some (items.map documentOf) ∧
      c.iterable (Json.array (items.map documentOf)).render zone = .ok (items.map valueOf) := by
  have hitems := jsonItems?_render items
  refine ⟨hitems, ?_⟩
  have hboolean : c.target ≠ some .boolean := by
    rcases htarget with h | h <;> simp [h]
  rw [iterable, if_neg hboolean, hitems]
  simp only
  rw [mapM_eq_ok_iff, List.forall₂_map_left_iff, List.forall₂_map_right_iff, List.forall₂_same]
  rintro (_ | s) -
  · rfl
  · rcases htarget with h | h <;> simp [h, documentOf, valueOf, convertItem, convert]

/-- Commas, a bracket with a line break behind it, and a control character. -/
theorem iterable_render_separators :
    let c : Coercion := ⟨some .text, none⟩
    let raw := "[\"a,b\",null,\"]\\n\\u0001\\\"\"]"
    let items := [some "a,b", none, some "]\n\x01\""]
    c.target = some .text ∧ (Json.array (items.map documentOf)).render = raw ∧
      c.iterable raw .utc = .ok [.text "a,b", .null, .text "]\n\x01\""] := by
  intro c raw items
  have hraw : (Json.array (items.map documentOf)).render = raw := by decide
  have hvalues := (iterable_render (c := c) (Or.inl rfl) items .utc).2
  rw [hraw] at hvalues
  exact ⟨rfl, hraw, hvalues⟩

/-! ### Pieces -/

section

variable {raw : String} {v : Value}

theorem convert_integer_eq_ok :
    convert (some .integer) raw zone = .ok v ↔ ∃ i, Literal.integer? raw = some i ∧ .int i = v := by
  rw [convert, map_eq_ok, Literal.integer]
  cases Literal.integer? raw <;> simp

theorem convert_float_eq_ok :
    convert (some .float) raw zone = .ok v ↔ ∃ x, Literal.float? raw = some x ∧ .float x = v := by
  rw [convert, map_eq_ok, Literal.float]
  cases Literal.float? raw <;> simp

theorem convert_dateTime_eq_ok : convert (some .dateTime) raw zone = .ok v ↔
    ∃ t, DateTime.read? raw zone = some t ∧ .dateTime t = v := by
  simp only [convert, map_eq_ok, DateTime.dateTime_eq_ok_iff]

/-- A value that can be read is the same without the blanks around it, unless these count. -/
theorem convert_trim {target : Option FieldType} (hkeeps : keepsBlanks target = false)
    (hboolean : target ≠ some .boolean) (h : convert target raw zone = .ok v) :
    convert target (Text.trim raw) zone = .ok v := by
  cases target with
  | none => cases hkeeps
  | some type =>
    cases type with
    | text => cases hkeeps
    | boolean => exact absurd rfl hboolean
    | integer =>
      obtain ⟨i, hi, rfl⟩ := convert_integer_eq_ok.mp h
      rwa [Literal.trim_of_integer? hi]
    | float =>
      obtain ⟨x, hx, rfl⟩ := convert_float_eq_ok.mp h
      rwa [Literal.trim_of_float? hx]
    | dateTime =>
      obtain ⟨t, ht, rfl⟩ := convert_dateTime_eq_ok.mp h
      exact convert_dateTime_eq_ok.mpr ⟨t, DateTime.read?_trim ht, rfl⟩

theorem convertPiece_of_scalar (hnull : raw ≠ "null")
    (hboolean : c.target ≠ some .boolean) (h : c.scalar raw zone = .ok v) :
    convertPiece c.target zone raw = .ok v := by
  rw [scalar, if_neg hnull] at h
  rw [convertPiece]
  split
  · exact h
  · rename_i hkeeps
    exact convert_trim (Bool.eq_false_iff.mpr hkeeps) hboolean h

end

/-- A list with commas has the values of its pieces. -/
theorem iterable_join {items : List String} {values : List Value} (hne : items ≠ [])
    (hitems : ∀ item ∈ items, ',' ∉ item.toList ∧ item ≠ "null")
    (hboolean : c.target ≠ some .boolean) (hplain : jsonItems? (Text.join "," items) = none)
    (h : List.Forall₂ (fun item v => c.scalar item zone = .ok v) items values) :
    c.iterable (Text.join "," items) zone = .ok values := by
  -- cutting at commas undoes the joining, as no item has one
  have hpieces : Text.splitOn ',' (Text.join "," items) = items :=
    Text.splitOn_join hne fun item hmem => (hitems item hmem).1
  rw [iterable, if_neg hboolean, hplain]
  simp only
  rw [hpieces, mapM_eq_ok_iff]
  refine ((List.forall₂_and_left _ _).mpr ⟨fun item hmem => (hitems item hmem).2, h⟩).imp ?_
  rintro item v ⟨hnull, hscalar⟩
  exact convertPiece_of_scalar hnull hboolean hscalar

end Coercion

/-! ### Lists of clauses -/

/-- **A list with commas has the values of its pieces**, as each has it by itself.  So a clause with
`in` and a single value comes to the list of what the clause without it comes to. -/
theorem Resolver.list_of_pieces {c : Coercion} {zone : Offset} {items : List String}
    {values : List Value} (hne : items ≠ [])
    (hitems : ∀ item ∈ items, ',' ∉ item.toList ∧ item ≠ "null")
    (hboolean : c.target ≠ some .boolean)
    (hplain : Coercion.jsonItems? (Text.join "," items) = none)
    (h : List.Forall₂ (fun item v => c.scalar item zone = .ok v) items values) :
    c.iterable (Text.join "," items) zone = .ok values ∧
      ∀ (s : Resolver) (r : Registry) (m : Model) (key keyIn item : String)
        (reference : Option Value) (type : Option FieldType),
        s.zone = zone → c = ⟨type, reference⟩ → items = [item] →
        r.walk m (Lookup.split key).path = .ok type → (Lookup.split key).operator = .exact →
        Lookup.split keyIn = ⟨(Lookup.split key).path, .oneOf⟩ →
        ∃ v, values = [v] ∧
          s.resolve r m key item reference = .ok (some ((Lookup.split key).qualified, v)) ∧
          s.resolve r m keyIn item reference =
            .ok (some ((Lookup.split keyIn).qualified, .list [v])) := by
  have hvalues := Coercion.iterable_join hne hitems hboolean hplain h
  refine ⟨hvalues, ?_⟩
  rintro s r m key keyIn item reference type rfl rfl rfl hwalk hexact hin
  -- a single item has a single value
  obtain ⟨v, _, hv, hnil, rfl⟩ := List.forall₂_cons_left_iff.mp h
  cases hnil
  have hwalkIn : r.walk m (Lookup.split keyIn).path = .ok type := by rw [hin, hwalk]
  have hcoerce : coerce (Lookup.split key).operator ⟨type, reference⟩ item s.zone = .ok v := by
    rw [hexact]
    exact mapError_eq_ok.mpr hv
  have hcoerceIn : coerce (Lookup.split keyIn).operator ⟨type, reference⟩ item s.zone =
      .ok (.list [v]) := by
    rw [hin]
    exact bind_eq_ok.mpr ⟨[v], mapError_eq_ok.mpr hvalues, rfl⟩
  refine ⟨v, rfl, ?_, ?_⟩
  · simp only [resolve, hwalk, hcoerce]
    rfl
  · simp only [resolve, hwalkIn, hcoerceIn]
    rfl

/-- Instants with blanks around them, the offset of the second without minutes, and a key that ends
with the token of `in`. -/
theorem Resolver.list_of_pieces_blanks :
    let m : Model := ⟨"t.T", "id", [.plain "at" (some .dateTime)]⟩
    let c : Coercion := ⟨some .dateTime, none⟩
    let items := [" 2018-12-07T06:24:24Z", "2018-12-07 06:24:24 +08 "]
    ∃ t u, DateTime.read? " 2018-12-07T06:24:24Z" .utc = some t ∧
      DateTime.read? "2018-12-07 06:24:24 +08 " .utc = some u ∧
      c.iterable (Text.join "," items) .utc = .ok [.dateTime t, .dateTime u] ∧
      (default : Resolver).resolve (.ofList [m]) m "at" "2018-12-07 06:24:24 +08 " none =
        .ok (some ("at__exact", .dateTime u)) ∧
      (default : Resolver).resolve (.ofList [m]) m "at__in" "2018-12-07 06:24:24 +08 " none =
        .ok (some ("at__in", .list [.dateTime u])) := by
  intro m c items
  have hfirst : (DateTime.read? " 2018-12-07T06:24:24Z" .utc).isSome := by decide
  have hsecond : (DateTime.read? "2018-12-07 06:24:24 +08 " .utc).isSome := by decide
  obtain ⟨t, ht⟩ := Option.isSome_iff_exists.mp hfirst
  obtain ⟨u, hu⟩ := Option.isSome_iff_exists.mp hsecond
  have hscalar {raw : String} {v : DateTime} (hne : raw ≠ "null")
      (hv : DateTime.read? raw .utc = some v) : c.scalar raw .utc = .ok (.dateTime v) := by
    rw [Coercion.scalar, if_neg hne]
    simp [c, Coercion.target, Coercion.convert, Literal.dateTime, hv, Except.map]
  have hu' := hscalar (by decide) hu
  have hboth := @Resolver.list_of_pieces c .utc items _ (by decide) (by decide)
    (by decide) (by decide) (.cons (hscalar (by decide) ht) (.cons hu' .nil))
  have hone := @Resolver.list_of_pieces c .utc ["2018-12-07 06:24:24 +08 "] _ (by decide) (by decide)
    (by decide) (by decide) (.cons hu' .nil)
  obtain ⟨v, hvalues, hv, hin⟩ := hone.2 default (.ofList [m]) m "at" "at__in" _ none (some .dateTime)
    rfl rfl rfl (by decide) (by decide) (by decide)
  cases hvalues
  exact ⟨t, u, ht, hu, hboth.1, hv, hin⟩

end RecordQuery
