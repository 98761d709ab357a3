import RecordQuery.Proofs.ExpressionGrammar
import RecordQuery.QueryFilter

/-!
# Writing and joining filter expressions

`Clauses.parse` and `Clauses.render` are inverse to each other on the clauses that an expression
can have.  These are the `Renderable` ones: neither separator stands in a key, no equals sign in a
value, and between the commas of a value no piece is empty but for the first.  Clauses are
renderable exactly if they are read back from what is written for them, and exactly if they are read
from any text at all (`parse_render_iff`).

Expressions that are joined by a comma have the pieces of the one and then those of the other.  If
each can be read, then the second begins with a piece that opens a clause, and what is read is what
the first spells out, extended by what the second does (`parse_append`).  So it does not matter
whether a filter is given several expressions one after the other or all at once (`add_joined`).
-/

namespace RecordQuery.Clauses

open Text

/-! ### The pieces of joined texts -/

theorem pieces_append (first second : String) :
    pieces (first ++ "," ++ second) = pieces first ++ pieces second := by
  have hcut : splitOn ',' (first ++ "," ++ second) = splitOn ',' first ++ splitOn ',' second :=
    splitOn_append ',' first second
  rw [pieces, hcut, List.filter_append]
  rfl

theorem pieces_join (raws : List String) : pieces (join "," raws) = raws.flatMap pieces := by
  induction raws with
  | nil => rfl
  | cons raw raws ih =>
    by_cases hraws : raws = []
    · subst hraws
      exact (List.append_nil _).symm
    · rw [join_cons _ _ hraws, pieces_append, ih, List.flatMap_cons]

/-- A piece has no comma and is not empty. -/
theorem of_mem_pieces {raw piece : String} (h : piece ∈ pieces raw) :
    ',' ∉ piece.toList ∧ piece ≠ "" := by
  obtain ⟨hcut, hne⟩ := List.mem_filter.mp h
  exact ⟨not_mem_of_mem_splitOn hcut, of_decide_eq_true hne⟩

/-! ### Clauses that can be written -/

/-- A clause that an expression can have. -/
structure Writable (key value : String) : Prop where
  key_comma : ',' ∉ key.toList
  key_sign : '=' ∉ key.toList
  value_sign : '=' ∉ value.toList
  /-- Only the first piece of the value may be empty. -/
  filled : "" ∉ (splitOn ',' value).tail

/-- Clauses that an expression can have. -/
def Renderable (clauses : Clauses) : Prop :=
  ∀ key value, (key, value) ∈ clauses.entries → Writable key value

/-- What is written for a clause spells it out. -/
theorem Writable.spells {key value : String} (h : Writable key value) {ps : List String}
    {clauses : List (String × String)} (hps : Spells ps clauses) :
    Spells (pieces (key ++ "=" ++ value) ++ ps) ((key, value) :: clauses) := by
  obtain ⟨first, others, hcut⟩ := List.exists_cons_of_ne_nil (isCut_splitOn ',' value).ne_nil
  have hfilled := h.filled
  rw [hcut, List.tail_cons] at hfilled
  have hpieces : pieces (key ++ "=" ++ value) = (key ++ "=" ++ first) :: others := by
    have hsign : ',' ∉ (key ++ "=").toList := by simp [h.key_comma]
    have hopening : key ++ "=" ++ first ≠ "" := by simp
    rw [pieces, splitOn_append_of_not_mem hsign hcut, List.filter_cons_of_pos (by simp [hopening]),
      List.filter_eq_self.mpr]
    intro piece hpiece
    exact decide_eq_true fun hempty => hfilled (hempty ▸ hpiece)
  have hvalue : join "," (first :: others) = value := hcut ▸ join_splitOn ',' value
  -- an equals sign in a piece of the value would be one in the value
  have hsigns : ∀ piece ∈ first :: others, '=' ∉ piece.toList := by
    intro piece hpiece hmem
    apply h.value_sign
    rw [← hvalue, mem_toList_join (by decide)]
    exact ⟨piece, hpiece, hmem⟩
  obtain ⟨hfirst, hothers⟩ := List.forall_mem_cons.mp hsigns
  have hclause := Spells.clause h.key_sign hfirst hothers hps
  rwa [hvalue, ← List.cons_append, ← hpieces] at hclause

theorem spells_render {clauses : Clauses} (h : Renderable clauses) :
    Spells (pieces (render clauses)) clauses.entries := by
  rw [render, pieces_join, List.flatMap_map]
  have hentries : ∀ key value, (key, value) ∈ clauses.entries → Writable key value := h
  revert hentries
  induction clauses.entries with
  | nil => exact fun _ => .nil
  | cons e entries ih =>
    intro hentries
    rw [List.flatMap_cons]
    exact (hentries e.1 e.2 List.mem_cons_self).spells
      (ih fun key value hmem => hentries key value (List.mem_cons_of_mem e hmem))

theorem parse_render {clauses : Clauses} (h : Renderable clauses) :
    parse (render clauses) = .ok clauses :=
  parse_eq_ok_iff.mpr ⟨clauses.entries, spells_render h, (OrderedMap.ofList_entries clauses).symm⟩

/-! ### Clauses that are read -/

theorem writable_of_spells {ps : List String} {clauses : List (String × String)}
    (h : Spells ps clauses) (hps : ∀ piece ∈ ps, ',' ∉ piece.toList ∧ piece ≠ "") :
    ∀ key value, (key, value) ∈ clauses → Writable key value := by
  induction h with
  | nil => simp
  | @clause key value continuations rest clauses hkey hvalue hcontinuations hrest ih =>
    obtain ⟨⟨hopening, -⟩, hothers⟩ := List.forall_mem_cons.mp hps
    obtain ⟨hlater, hrest'⟩ := List.forall_mem_append.mp hothers
    simp only [String.toList_append, List.mem_append, not_or] at hopening
    rintro k v (_ | ⟨_, hmem⟩)
    · have hcut : splitOn ',' (join "," (value :: continuations)) = value :: continuations :=
        splitOn_join (List.cons_ne_nil _ _)
          (List.forall_mem_cons.mpr ⟨hopening.2, fun piece hpiece => (hlater piece hpiece).1⟩)
      refine ⟨hopening.1.1, hkey, fun hmem => ?_, ?_⟩
      · obtain ⟨piece, hpiece, hsign⟩ := (mem_toList_join (by decide)).mp hmem
        rcases List.mem_cons.mp hpiece with rfl | hpiece
        · exact hvalue hsign
        · exact hcontinuations piece hpiece hsign
      · rw [hcut, List.tail_cons]
        exact fun hempty => (hlater "" hempty).2 rfl
    · exact ih hrest' k v hmem

theorem renderable_of_parse {raw : String} {clauses : Clauses} (h : parse raw = .ok clauses) :
    Renderable clauses := by
  obtain ⟨written, hwritten, rfl⟩ := parse_eq_ok_iff.mp h
  intro key value hmem
  exact writable_of_spells hwritten (fun piece => of_mem_pieces) key value
    (OrderedMap.mem_of_mem_ofList hmem)

/-- **Writing and reading are inverse.**  Clauses can be written if and only if they are read back
from what is written for them, and if and only if they are read from some text. -/
theorem parse_render_iff (clauses : Clauses) :
    (parse (render clauses) = .ok clauses ↔ Renderable clauses) ∧
      ((∃ raw, parse raw = .ok clauses) ↔ Renderable clauses) :=
  ⟨⟨renderable_of_parse, parse_render⟩,
    ⟨fun ⟨_, hraw⟩ => renderable_of_parse hraw, fun h => ⟨render clauses, parse_render h⟩⟩⟩

example :
    parse (render (.ofList [("", ",1"), ("k", "")])) = .ok (.ofList [("", ",1"), ("k", "")]) :=
  rfl

/-! ### Joined expressions -/

theorem Spells.append {first second : List String} {clauses others : List (String × String)}
    (hfirst : Spells first clauses) (hsecond : Spells second others) :
    Spells (first ++ second) (clauses ++ others) := by
  induction hfirst with
  | nil => exact hsecond
  | clause hkey hvalue hcontinuations _ ih =>
    rw [List.cons_append, List.append_assoc, List.cons_append]
    exact .clause hkey hvalue hcontinuations ih

theorem parse_append {first second : String} {clauses others : Clauses}
    (hfirst : parse first = .ok clauses) (hsecond : parse second = .ok others) :
    parse (first ++ "," ++ second) = .ok (clauses.extend others) := by
  obtain ⟨written, hwritten, rfl⟩ := parse_eq_ok_iff.mp hfirst
  obtain ⟨written', hwritten', rfl⟩ := parse_eq_ok_iff.mp hsecond
  refine parse_eq_ok_iff.mpr ⟨written ++ written', ?_, (OrderedMap.ofList_append _ _).symm⟩
  rw [pieces_append]
  exact hwritten.append hwritten'

/-- Any number of expressions can be read at once. -/
theorem parse_join {raws : List String} {flags : List Clauses}
    (h : List.Forall₂ (fun raw clauses => parse raw = .ok clauses) raws flags) :
    parse (join "," raws) = .ok (flags.foldl OrderedMap.extend .empty) := by
  induction h with
  | nil => rfl
  | @cons raw clauses raws flags hraw hraws ih =>
    -- the first expression is extended by what the others come to among themselves
    rw [List.foldl_cons, OrderedMap.empty_extend]
    by_cases hnil : raws = []
    · subst hnil
      cases hraws
      exact hraw
    · rw [join_cons _ _ hnil, parse_append hraw ih, OrderedMap.extend_foldl_extend]

end RecordQuery.Clauses

namespace RecordQuery.QueryFilter

theorem foldl_addFilter (f : QueryFilter) (flags : List Clauses) :
    flags.foldl addFilter f = { f with
      filterClauses := flags.foldl OrderedMap.extend f.filterClauses } := by
  induction flags generalizing f with
  | nil => rfl
  | cons clauses flags ih => exact ih _

theorem foldl_addExclude (f : QueryFilter) (flags : List Clauses) :
    flags.foldl addExclude f = { f with
      excludeClauses := flags.foldl OrderedMap.extend f.excludeClauses } := by
  induction flags generalizing f with
  | nil => rfl
  | cons clauses flags ih => exact ih _

/-- **Several expressions are one.**  What two expressions say, joined by a comma, is what the first
says, extended by what the second does.  A filter that is given expressions one after the other is
the filter that is given all of them at once. -/
theorem add_joined :
    (∀ first second clauses others, Clauses.parse first = .ok clauses →
      Clauses.parse second = .ok others →
      Clauses.parse (first ++ "," ++ second) = .ok (clauses.extend others)) ∧
    ∀ raws flags, List.Forall₂ (fun raw clauses => Clauses.parse raw = .ok clauses) raws flags →
      ∃ joined, Clauses.parse (Text.join "," raws) = .ok joined ∧
        (∀ s, (flags.foldl addFilter (new s)).filterClauses = joined ∧
          (flags.foldl addExclude (new s)).excludeClauses = joined) ∧
        ∀ f, flags.foldl addFilter f = f.addFilter joined ∧
          flags.foldl addExclude f = f.addExclude joined := by
  refine ⟨fun _ _ _ _ => Clauses.parse_append, fun raws flags h => ?_⟩
  refine ⟨_, Clauses.parse_join h, fun s => ?_, fun f => ?_⟩
  · rw [foldl_addFilter, foldl_addExclude]
    exact ⟨rfl, rfl⟩
  · rw [foldl_addFilter, foldl_addExclude, addFilter, addExclude,
      OrderedMap.extend_foldl_extend, OrderedMap.extend_foldl_extend]
    exact ⟨rfl, rfl⟩

/-- Commas at the seam, and a key of the first expression that the second has again. -/
theorem add_joined_seam :
    let first : Clauses := .ofList [("k", "1,2"), ("n", "")]
    let second : Clauses := .ofList [("j", ",3"), ("k", "4,5")]
    let joined : Clauses := .ofList [("k", "4,5"), ("n", ""), ("j", ",3")]
    Clauses.parse "k=1,2,n=," = .ok first ∧ Clauses.parse ",j=,3,k=4,,5" = .ok second ∧
      Clauses.parse "" = .ok .empty ∧
      Clauses.parse ("k=1,2,n=," ++ "," ++ ",j=,3,k=4,,5") = .ok (first.extend second) ∧
      Clauses.parse (Text.join "," ["k=1,2,n=,", "", ",j=,3,k=4,,5"]) = .ok joined ∧
      (([first, .empty, second].foldl addFilter default).filterClauses) = joined := by
  intro first second joined
  have hfirst : Clauses.parse "k=1,2,n=," = .ok first := rfl
  have hsecond : Clauses.parse ",j=,3,k=4,,5" = .ok second := rfl
  have hempty : Clauses.parse "" = .ok .empty := rfl
  obtain ⟨htwo, hmany⟩ := add_joined
  obtain ⟨read, hread, hnew, -⟩ := hmany _ _ (.cons hfirst (.cons hempty (.cons hsecond .nil)))
  have hjoined : Clauses.parse (Text.join "," ["k=1,2,n=,", "", ",j=,3,k=4,,5"]) = .ok joined :=
    rfl
  rw [hjoined] at hread
  obtain rfl := Except.ok.inj hread
  exact ⟨hfirst, hsecond, hempty, htwo _ _ _ _ hfirst hsecond, hjoined, (hnew default).1⟩

end RecordQuery.QueryFilter
