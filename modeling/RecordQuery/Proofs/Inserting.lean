import Mathlib.Data.List.Induction
import RecordQuery.Proofs.Registered
import RecordQuery.RowSet

/-!
# Inserting rows

A run of insertions (`Database.insertEach`) may name models in any letter case, and models that are not
registered; such an insertion fails and changes nothing.  What the database holds at the end is what
was inserted, no row lost, doubled or moved (`Database.insertEach_keeps`): the rows of a model are the
rows inserted under its label, whatever the case, in their order, and the row with a primary key is
the first of them that has it.

One insertion adds a row to the table of its own model and leaves the others as they are
(`Database.rows_insert`).  That needs tables and models to stand under the same keys: a model may have
been registered again under another way of writing its label, and its rows stay with it.
-/

namespace RecordQuery.Database

open Registry

variable {db next : Database} {r : Registry} {label : String} {row : Row}

/-! ### One insertion -/

theorem insert_eq_ok (h : db.insert label row = .ok next) :
    ∃ m, db.registry.model? label = some m ∧
      next = { db with tables :=
        db.tables.insert (Text.lowerCase m.label) (db.rows m ++ [row]) } := by
  rw [insert] at h
  split at h
  · cases h
  · rename_i m hm
    exact ⟨m, hm, (Except.ok.inj h).symm⟩

/-- An insertion fails exactly if no model has the label, and says which label that is. -/
theorem insert_eq_error_iff {e : StoreError} :
    db.insert label row = .error e ↔ db.registry.model? label = none ∧ e = .noModel label := by
  rw [insert]
  split
  · rename_i hnone
    rw [Except.error.injEq]
    exact ⟨fun h => ⟨hnone, h.symm⟩, fun h => h.2.symm⟩
  · rename_i m hm
    simp [hm]

/-- A row is added to the table of its own model, and the other tables stay as they are. -/
theorem rows_insert (hkeyed : db.registry.Keyed) (h : db.insert label row = .ok next) (m : Model) :
    next.rows m =
      db.rows m ++ if Text.lowerCase label = Text.lowerCase m.label then [row] else [] := by
  obtain ⟨m', hm', rfl⟩ := insert_eq_ok h
  -- the label that is given and the model's own may differ in case
  have hlabel := (hkeyed.model?_eq_some_iff.mp hm').2
  rw [rows, ← hlabel]
  split
  · rename_i heq
    rw [heq, SortedMap.get?_insert_self, rows, heq]
    rfl
  · rename_i hne
    rw [SortedMap.get?_insert_of_ne _ fun heq => hne heq.symm, List.append_nil, rows]

theorem rows_new (r : Registry) (m : Model) : (new r).rows m = [] := rfl

/-! ### The tables -/

/-- The tables are those of models of the registry, and no table stands twice. -/
structure TablesRegistered (db : Database) : Prop where
  sorted : db.tables.Sorted
  registered : ∀ table ∈ db.tables.toList,
    ∃ m ∈ db.registry.toList, table.1 = Text.lowerCase m.label

theorem TablesRegistered.insert (h : db.TablesRegistered) (hinsert : db.insert label row = .ok next) :
    next.TablesRegistered := by
  obtain ⟨m, hm, rfl⟩ := insert_eq_ok hinsert
  refine ⟨h.sorted.insert _ _, fun table htable => ?_⟩
  rcases SortedMap.mem_insertEntry htable with rfl | htable
  · exact ⟨m, Registry.mem_toList_of_model? hm, rfl⟩
  · exact h.registered table htable

theorem tablesRegistered_new (r : Registry) : (new r).TablesRegistered := by
  refine ⟨SortedMap.sorted_empty, fun table htable => ?_⟩
  cases htable

/-- What is listed under a table are the rows of its model. -/
theorem TablesRegistered.exists_eq (h : db.TablesRegistered) {table : String × List Row}
    (htable : table ∈ db.tables.toList) :
    ∃ m ∈ db.registry.toList, table = (Text.lowerCase m.label, db.rows m) := by
  obtain ⟨key, rows⟩ := table
  obtain ⟨m, hm, rfl⟩ := h.registered _ htable
  have hrows : db.rows m = rows := by
    rw [Database.rows, h.sorted.get?_eq_some_iff.mpr htable, Option.getD_some]
  exact ⟨m, hm, by rw [hrows]⟩

/-! ### Runs -/

/-- Carries out insertions one after the other.  Gives those that succeed and the database that they
lead to; one that fails changes nothing. -/
def insertEach (db : Database) : List (String × Row) → List (String × Row) × Database
  | [] => ([], db)
  | (label, row) :: rest =>
    match db.insert label row with
    | .ok next => let (inserted, last) := insertEach next rest; ((label, row) :: inserted, last)
    | .error _ => insertEach db rest

/-- The rows that insertions put under a label, in their order. -/
def rowsUnder (inserted : List (String × Row)) (label : String) : List Row :=
  (inserted.filter fun p => Text.lowerCase p.1 = Text.lowerCase label).map Prod.snd

theorem insertEach_append (db : Database) (earlier later : List (String × Row)) :
    db.insertEach (earlier ++ later) =
      ((db.insertEach earlier).1 ++ ((db.insertEach earlier).2.insertEach later).1,
        ((db.insertEach earlier).2.insertEach later).2) := by
  induction earlier generalizing db with
  | nil => rfl
  | cons call earlier ih =>
    obtain ⟨label, row⟩ := call
    rw [List.cons_append, insertEach, insertEach]
    split
    · rw [ih]
      rfl
    · exact ih db

theorem insertEach_concat_of_ok {calls : List (String × Row)}
    (h : (db.insertEach calls).2.insert label row = .ok next) :
    db.insertEach (calls ++ [(label, row)]) =
      ((db.insertEach calls).1 ++ [(label, row)], next) := by
  rw [insertEach_append]
  simp only [insertEach, h]

theorem insertEach_concat_of_error {calls : List (String × Row)} {e : StoreError}
    (h : (db.insertEach calls).2.insert label row = .error e) :
    db.insertEach (calls ++ [(label, row)]) = db.insertEach calls := by
  rw [insertEach_append]
  simp only [insertEach, h, List.append_nil]

/-- The database is over the registry, and each model has the rows inserted under its label. -/
structure Holds (r : Registry) (inserted : List (String × Row)) (db : Database) : Prop where
  registry : db.registry = r
  rows : ∀ m, db.rows m = rowsUnder inserted m.label

theorem holds_new (r : Registry) : Holds r [] (new r) := ⟨rfl, rows_new r⟩

/-- What an insertion adds is held behind what was there. -/
theorem Holds.insert {inserted : List (String × Row)} (hkeyed : r.Keyed) (h : Holds r inserted db)
    (hinsert : db.insert label row = .ok next) : Holds r (inserted ++ [(label, row)]) next := by
  constructor
  · obtain ⟨m, -, rfl⟩ := insert_eq_ok hinsert
    exact h.registry
  · intro m
    have hkeyed : db.registry.Keyed := h.registry ▸ hkeyed
    rw [rows_insert hkeyed hinsert, h.rows, rowsUnder, rowsUnder, List.filter_append,
      List.map_append]
    by_cases hlabel : Text.lowerCase label = Text.lowerCase m.label <;> simp [hlabel]

theorem holds_insertEach (hkeyed : r.Keyed) (calls : List (String × Row)) :
    Holds r ((new r).insertEach calls).1 ((new r).insertEach calls).2 := by
  induction calls using List.reverseRecOn with
  | nil => exact holds_new r
  | append_singleton calls call ih =>
    obtain ⟨label, row⟩ := call
    cases hinsert : ((new r).insertEach calls).2.insert label row with
    | ok next =>
      rw [insertEach_concat_of_ok hinsert]
      exact ih.insert hkeyed hinsert
    | error e =>
      rw [insertEach_concat_of_error hinsert]
      exact ih

/-- **A run of insertions neither loses, doubles nor mixes rows.**  At every point of a run over
registered models, an insertion fails exactly if no model was registered under its label, whatever
the case, and then changes nothing; otherwise its row is inserted behind those before it.  All rows
under a label that was registered are those inserted under it, and the row with a primary key is the
first of them that has it. -/
theorem insertEach_keeps (models : List Model) (calls : List (String × Row)) :
    let run := (new (ofList models)).insertEach
    let inserted := (run calls).1
    let db := (run calls).2
    (∀ label row,
      ((∃ e, db.insert label row = .error e) ↔
        ∀ m ∈ models, Text.lowerCase m.label ≠ Text.lowerCase label) ∧
      (∀ e, db.insert label row = .error e → run (calls ++ [(label, row)]) = (inserted, db)) ∧
      ∀ next, db.insert label row = .ok next →
        run (calls ++ [(label, row)]) = (inserted ++ [(label, row)], next)) ∧
    ∀ label, (∃ m ∈ models, Text.lowerCase m.label = Text.lowerCase label) →
      (∃ s, db.all label = .ok s ∧ s.db = db ∧
        Text.lowerCase s.model.label = Text.lowerCase label ∧ s.rows = rowsUnder inserted label) ∧
      ∀ m : Model, Text.lowerCase m.label = Text.lowerCase label → ∀ pk,
        db.get? m pk = (rowsUnder inserted label).find? (·.pk.equals pk) := by
  intro run inserted db
  have hkeyed := keyed_ofList models
  have hholds : Holds (ofList models) inserted db := holds_insertEach hkeyed calls
  have hrows : ∀ m : Model, ∀ label, Text.lowerCase m.label = Text.lowerCase label →
      db.rows m = rowsUnder inserted label := by
    intro m label hlabel
    rw [hholds.rows, rowsUnder, rowsUnder, hlabel]
  refine ⟨fun label row => ⟨?_, ?_, fun next => insertEach_concat_of_ok⟩, ?_⟩
  · simp only [insert_eq_error_iff, exists_and_left, exists_eq, and_true, hholds.registry,
      model?_ofList_eq_none_iff]
  · intro e he
    exact insertEach_concat_of_error he
  · rintro label ⟨m, hm, hlabel⟩
    have hfound : (ofList models).model? label ≠ none := by
      rw [Ne, model?_ofList_eq_none_iff]
      exact fun hnone => hnone m hm hlabel
    obtain ⟨found, hfound⟩ := Option.ne_none_iff_exists'.mp hfound
    have hfoundLabel := (hkeyed.model?_eq_some_iff.mp hfound).2
    refine ⟨⟨⟨db, found, db.rows found⟩, ?_, rfl, hfoundLabel, hrows found label hfoundLabel⟩, ?_⟩
    · rw [all, hholds.registry, hfound]
    · intro m' hm' pk
      rw [get?, hrows m' label hm']

/-- A model is registered again under another way of writing its label, and rows go to it under
both. -/
theorem insertEach_keeps_two_spellings :
    let models : List Model := [⟨"t.A", "id", []⟩, ⟨"T.a", "id", []⟩]
    let calls : List (String × Row) :=
      [("t.a", .new (.int 1)), ("t.B", .new (.int 2)), ("T.A", .new (.int 3))]
    let run := (new (ofList models)).insertEach calls
    run.1.map Prod.fst = ["t.a", "T.A"] ∧
      (∃ m ∈ models, Text.lowerCase m.label = Text.lowerCase "t.A") ∧
      ∃ s, run.2.all "t.A" = .ok s ∧ s.rows.map (·.pk.display) = ["1", "3"] := by
  intro models calls run
  have hregistered : ∃ m ∈ models, Text.lowerCase m.label = Text.lowerCase "t.A" := by decide
  obtain ⟨⟨s, hs, -, -, hrows⟩, -⟩ := (insertEach_keeps models calls).2 "t.A" hregistered
  refine ⟨by decide, hregistered, s, hs, ?_⟩
  rw [hrows]
  decide

end RecordQuery.Database
