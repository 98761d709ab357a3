import RecordQuery.Proofs.Narrowing
import RecordQuery.Proofs.Resolution
import RecordQuery.Proofs.RowOrder

/-!
# When a query fails

Queries are set up from the models alone and then asked of the rows.  A store never refuses the
right-hand side of a lookup that was set up, whatever the rows hold; and if no name of the registry
ends with an underscore, so that every qualified key is read back as it was written, it answers
every lookup.  Without an ordering a query then fails only while it is set up
(`apply_never_rejects`).
-/

namespace RecordQuery

theorem Database.all_eq_ok_iff {db : Database} {label : String} {s : RowSet} :
    db.all label = .ok s ↔
      ∃ m, db.registry.model? label = some m ∧ s = ⟨db, m, db.rows m⟩ := by
  unfold Database.all
  cases db.registry.model? label with
  | none => simp
  | some m => simp [eq_comm]

namespace QueryFilter

/-! ### Setting up -/

/-- Setting up the query to exclude by, or else the one to filter by, fails with `e`. -/
def SetupFails (f : QueryFilter) (r : Registry) (m : Model) (e : QueryError) : Prop :=
  f.setupQuery r m f.excludeClauses = .error e ∨
    (∃ excluding, f.setupQuery r m f.excludeClauses = .ok excluding) ∧
      f.setupQuery r m f.filterClauses = .error e

/-- If the queries cannot be set up no row matters. -/
theorem apply_of_setupFails {f : QueryFilter} {s : RowSet} {e : QueryError}
    (h : f.SetupFails s.db.registry s.model e) (order : Option String) (limit : Option ℕ) :
    f.apply s order limit = .error e := by
  rw [apply]
  rcases h with h | ⟨⟨excluding, hexcluding⟩, h⟩
  · rw [h]
    rfl
  · rw [hexcluding, h]
    rfl

theorem SetupFails.isResolving {f : QueryFilter} {r : Registry} {m : Model} {e : QueryError}
    (h : f.SetupFails r m e) : e.isResolving := by
  rcases h with h | ⟨-, h⟩
  · exact f.setupQuery_failsOnly r m f.excludeClauses e h
  · exact f.setupQuery_failsOnly r m f.filterClauses e h

/-! ### Asking -/

/-- A lookup that was set up fails only where its path, read back, cannot be walked. -/
theorem satisfies_failsOnly_of_resolved {db : Database} {m : Model} {key : String}
    {lookup : String × Value} (h : Resolved db.registry m key lookup) (row : Row) :
    FailsOnly (fun e => ∃ missing, e = .noField missing ∧
        db.registry.walk m (Lookup.split lookup.1).path = .error missing)
      (RowSet.satisfies db m row lookup.1 lookup.2) :=
  RowSet.satisfies_failsOnly h.operand_accepted (Database.valueAt_failsOnly db m row _)

/-- What applying a filter fails with: nothing but what setting up, asking for a lookup that was set
up, and ordering fail with. -/
theorem apply_failsOnly {f : QueryFilter} {s : RowSet} {order : Option String} {limit : Option ℕ}
    {P : StoreError → Prop} {Q : QueryError → Prop}
    (hsetup : ∀ e, f.SetupFails s.db.registry s.model e → Q e)
    (hask : ∀ key lookup, Resolved s.db.registry s.model key lookup → ∀ row,
      FailsOnly P (RowSet.satisfies s.db s.model row lookup.1 lookup.2))
    (horder : ∀ rows, FailsOnly Q (applyOrder { s with rows } order))
    (hstore : ∀ e, P e → Q (.store e)) : FailsOnly Q (f.apply s order limit) := by
  have hstored : ∀ x : Except StoreError RowSet, FailsOnly P x →
      FailsOnly Q (x.mapError QueryError.store) :=
    fun x hx => FailsOnly.mapError (hx.mono hstore)
  rw [apply]
  refine FailsOnly.bind (fun e he => hsetup e (Or.inl he)) fun excluding hexcluding => ?_
  refine FailsOnly.bind (fun e he => hsetup e (Or.inr ⟨⟨excluding, hexcluding⟩, he⟩))
    fun filtering hfiltering => ?_
  refine FailsOnly.bind (hstored _ (RowSet.exclude_failsOnly fun lookup hmem row => ?_))
    fun kept hkept => ?_
  · obtain ⟨key, hkey⟩ := resolved_of_setupQuery hexcluding hmem
    exact hask key lookup hkey row
  -- excluding leaves the database and the model as they are
  rw [mapError_eq_ok] at hkept
  rw [RowSet.exclude_eq_ok hkept]
  refine FailsOnly.bind (hstored _ (RowSet.filter_failsOnly fun lookup hmem row => ?_))
    fun matching hmatching => ?_
  · obtain ⟨key, hkey⟩ := resolved_of_setupQuery hfiltering hmem
    exact hask key lookup hkey row
  rw [mapError_eq_ok] at hmatching
  rw [RowSet.filter_eq_ok hmatching]
  exact FailsOnly.bind (horder _) fun sorted _ => failsOnly_ok Q _

theorem applyOrder_failsOnly (s : RowSet) (order : Option String) :
    FailsOnly (fun e => ∀ cause, e ≠ .store (.badOperand cause)) (applyOrder s order) := by
  cases order with
  | none => exact failsOnly_ok _ s
  | some raw =>
    rw [applyOrder]
    refine FailsOnly.bind (FailsOnly.mapError fun text _ => nofun) fun terms _ => ?_
    split
    · exact failsOnly_ok _ s
    · refine FailsOnly.mapError ((RowSet.orderBy_failsOnly s terms).mono ?_)
      rintro _ ⟨missing, rfl⟩ cause h
      cases h

/-- **A store never rejects a query that was set up.**  It refuses no right-hand side; and if no
name ends with an underscore, a query without an ordering fails only while it is set up, that is in
the same way whatever the tables and the rows are. -/
theorem apply_never_rejects {db : Database} {label : String} {s : RowSet}
    (hall : db.all label = .ok s) (f : QueryFilter) :
    (∀ order limit cause, f.apply s order limit ≠ .error (.store (.badOperand cause))) ∧
      (db.registry.NamesClosed → ∀ limit e, f.apply s none limit = .error e →
        e.isResolving ∧ f.SetupFails db.registry s.model e ∧
          ∀ tables rows, f.apply ⟨⟨db.registry, tables⟩, s.model, rows⟩ none limit = .error e) := by
  obtain ⟨m, hm, rfl⟩ := Database.all_eq_ok_iff.mp hall
  constructor
  · intro order limit cause h
    refine apply_failsOnly (P := fun e => ∃ missing, e = .noField missing)
      (Q := fun e => ∀ cause, e ≠ .store (.badOperand cause)) ?_ ?_ ?_ ?_ _ h cause rfl
    · rintro e hsetup cause rfl
      cases hsetup.isResolving
    · intro key lookup hkey row
      exact (satisfies_failsOnly_of_resolved hkey row).mono fun e ⟨missing, he, _⟩ => ⟨missing, he⟩
    · exact fun rows => applyOrder_failsOnly _ order
    · rintro _ ⟨missing, rfl⟩ cause h
      cases h
  · intro hclosed limit e h
    have hmodel : m ∈ db.registry.toList := Registry.mem_toList_of_model? hm
    have hsetup : f.SetupFails db.registry m e := by
      refine apply_failsOnly (P := fun _ => False) (fun e he => he) ?_ ?_ ?_ _ h
      · intro key lookup hkey row
        refine (satisfies_failsOnly_of_resolved hkey row).mono ?_
        rintro e ⟨missing, -, hwalk⟩
        obtain ⟨type, htype⟩ := hkey.path_walks hmodel hclosed
        rw [htype] at hwalk
        cases hwalk
      · exact fun rows => failsOnly_ok _ _
      · exact fun e he => he.elim
    refine ⟨hsetup.isResolving, hsetup, fun tables rows => ?_⟩
    exact apply_of_setupFails (s := ⟨⟨db.registry, tables⟩, m, rows⟩) hsetup none limit

/-- A strict filter by a field that is not there. -/
theorem apply_never_rejects_unknown :
    let m : Model := ⟨"t.T", "id", [.plain "n" (some .integer)]⟩
    let db : Database := .new (.ofList [m])
    let f : QueryFilter := (new ⟨true, .utc, true⟩).addFilter (.ofList [("x__gt", "1")])
    (∀ order limit cause, f.apply ⟨db, m, []⟩ order limit ≠ .error (.store (.badOperand cause))) ∧
      f.apply ⟨db, m, []⟩ none none = .error (.unknownField ⟨"x", "t.T"⟩) ∧
      f.SetupFails db.registry m (.unknownField ⟨"x", "t.T"⟩) := by
  intro m db f
  have hmodel : db.registry.model? "t.T" = some m := by decide
  have hmodels : db.registry.toList = [m] := by decide
  have hsplit : Lookup.split "x__gt" = ⟨["x"], .gt⟩ := by decide
  have hclosed : db.registry.NamesClosed := by
    rw [Registry.NamesClosed, hmodels]
    simp [m, FieldDef.plain]
  have hall : db.all "t.T" = .ok ⟨db, m, []⟩ := Database.all_eq_ok_iff.mpr ⟨m, hmodel, rfl⟩
  have hresolve : f.resolver.resolve db.registry m "x__gt" "1" none =
      .error (.unknownField ⟨"x", "t.T"⟩) := by
    rw [Resolver.resolve, hsplit]
    rfl
  have happly : f.apply ⟨db, m, []⟩ none none = .error (.unknownField ⟨"x", "t.T"⟩) := by
    apply apply_of_setupFails
    refine Or.inr ⟨⟨.empty, rfl⟩, ?_⟩
    show (resolveAll f.resolver db.registry m [("x__gt", "1")]).map _ = _
    rw [resolveAll, hresolve]
    rfl
  obtain ⟨hoperand, hfails⟩ := apply_never_rejects hall f
  exact ⟨hoperand, happly, (hfails hclosed none _ happly).2.1⟩

end QueryFilter

end RecordQuery
