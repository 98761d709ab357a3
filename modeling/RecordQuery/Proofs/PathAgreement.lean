import RecordQuery.Proofs.RowOrder

/-!
# Paths that the models know and paths that the rows know

A path is followed twice: `Registry.walk` follows it through the models, before any row is looked
at, and `Database.valueAt` through the rows.  The two agree (`valueAt_agrees_with_walk`): what can be
walked can be read in every row, and what cannot be read cannot be walked, for the same segment of
the same model.

Sorting asks the first before it does the second.  So it fails exactly if the path of some term
cannot be walked, at the first such term, and where it does not fail no row is sorted by a value
that it does not have (`orderBy_eq_error_iff`, `valueAt_eq_sortKey`).
-/

namespace RecordQuery

namespace RowSet

/-- The path of some term cannot be walked, and `missing` is why the first of these cannot. -/
def FirstMissing (r : Registry) (m : Model) (terms : List OrderTerm)
    (missing : Registry.MissingField) : Prop :=
  ∃ earlier term later, terms = earlier ++ term :: later ∧
    (∀ t ∈ earlier, ∃ type, r.walk m t.path = .ok type) ∧ r.walk m term.path = .error missing

variable {r : Registry} {m : Model} {terms : List OrderTerm}

theorem checkTerms_eq_error_iff {e : StoreError} :
    checkTerms r m terms = .error e ↔
      ∃ missing, e = .noField missing ∧ FirstMissing r m terms missing := by
  induction terms with
  | nil => simp [checkTerms, FirstMissing]
  | cons term terms ih =>
    have hfirst : ∀ missing, FirstMissing r m (term :: terms) missing ↔
        r.walk m term.path = .error missing ∨
          (∃ type, r.walk m term.path = .ok type) ∧ FirstMissing r m terms missing :=
      fun missing => exists_first_cons_iff
    simp only [checkTerms, hfirst]
    cases r.walk m term.path with
    | error missing => simp [eq_comm]
    | ok type => simp [ih]

/-- Sorting fails at the first term whose path cannot be walked, and nowhere else. -/
theorem orderBy_eq_error_iff {s : RowSet} {e : StoreError} :
    s.orderBy terms = .error e ↔
      ∃ missing, e = .noField missing ∧ FirstMissing s.db.registry s.model terms missing := by
  rw [← checkTerms_eq_error_iff, orderBy, bind_eq_error]
  constructor
  · rintro (h | ⟨_, -, h⟩)
    · exact h
    · cases h
  · exact Or.inl

/-- A path that can be walked is sorted by the value that stands at its end. -/
theorem valueAt_eq_sortKey {db : Database} {path : List String} {type : Option FieldType}
    (hwalk : db.registry.walk m path = .ok type) (row : Row) :
    db.valueAt m row path = .ok (sortKey db m path row) := by
  obtain ⟨v, hv⟩ := Database.valueAt_ok_of_walk hwalk row
  rw [sortKey_of_ok hv, hv]

end RowSet

namespace Database

/-- **Walking a path and reading it agree.**  A path that can be walked has a value in every row;
one that has none in some row cannot be walked, for want of the same segment of the same model; and
sorting fails exactly where a path cannot be walked, and sorts by nothing but such values. -/
theorem valueAt_agrees_with_walk (db : Database) (m : Model) :
    (∀ path type, db.registry.walk m path = .ok type →
      ∀ row, ∃ v, db.valueAt m row path = .ok v) ∧
    (∀ row path e, db.valueAt m row path = .error e →
      ∃ missing, e = .noField missing ∧ db.registry.walk m path = .error missing) ∧
    ∀ rows terms,
      (∀ e, (RowSet.mk db m rows).orderBy terms = .error e ↔
        ∃ missing, e = .noField missing ∧ RowSet.FirstMissing db.registry m terms missing) ∧
      ((∃ e, (RowSet.mk db m rows).orderBy terms = .error e) ↔
        ∃ term ∈ terms, ∃ missing, db.registry.walk m term.path = .error missing) ∧
      ∀ sorted, (RowSet.mk db m rows).orderBy terms = .ok sorted → ∀ term ∈ terms, ∀ row,
        db.valueAt m row term.path = .ok (RowSet.sortKey db m term.path row) := by
  refine ⟨fun path type hwalk => valueAt_ok_of_walk hwalk,
    fun row path => valueAt_failsOnly db m row path,
    fun rows terms => ⟨fun e => RowSet.orderBy_eq_error_iff, ?_, ?_⟩⟩
  · constructor
    · rintro ⟨e, he⟩
      obtain ⟨missing, -, earlier, term, later, rfl, -, hterm⟩ := RowSet.orderBy_eq_error_iff.mp he
      exact ⟨term, by simp, missing, hterm⟩
    · rintro ⟨term, hmem, missing, hterm⟩
      cases hsorted : (RowSet.mk db m rows).orderBy terms with
      | error e => exact ⟨e, rfl⟩
      | ok sorted =>
        obtain ⟨hwalk, -⟩ := RowSet.orderBy_eq_ok hsorted
        obtain ⟨type, htype⟩ := hwalk term hmem
        rw [hterm] at htype
        cases htype
  · intro sorted hsorted term hmem row
    obtain ⟨hwalk, -⟩ := RowSet.orderBy_eq_ok hsorted
    obtain ⟨type, htype⟩ := hwalk term hmem
    exact RowSet.valueAt_eq_sortKey htype row

end Database

end RecordQuery
