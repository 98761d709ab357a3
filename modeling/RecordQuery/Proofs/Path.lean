import RecordQuery.Proofs.Failure
import RecordQuery.Store

/-!
# Paths through models and through rows

`Registry.walk` follows a path from model to model and `Database.valueAt` from row to row.  Where
the second fails, it fails because a segment names no field, and the first then fails at the same
segment of the same model (`valueAt_failsOnly`).  So a path that can be walked has a value in every
row, whatever the rows hold (`valueAt_ok_of_walk`).

The models that a path goes through are models of the registry, which is how a property of all names
of a registry carries over to the names in a path (`exists_fieldDef_of_walk`).
-/

namespace RecordQuery

/-! ### Models of a registry -/

theorem SortedMap.mem_values_of_get? {α : Type} {m : SortedMap α} {key : String} {value : α}
    (h : m.get? key = some value) : value ∈ m.values := by
  obtain ⟨before, after, hentries, -⟩ := List.lookup_eq_some_iff.mp h
  rw [SortedMap.values, hentries]
  simp

/-- Some field of a model answers to the name of each. -/
theorem Model.exists_fieldDef?_name {m : Model} {d : FieldDef} (hd : d ∈ m.fields) :
    ∃ first, m.fieldDef? d.name = some first := by
  rw [← Option.isSome_iff_exists, fieldDef?, List.find?_isSome]
  exact ⟨d, hd, by simp [FieldDef.answersTo]⟩

namespace Registry

theorem mem_toList_of_model? {r : Registry} {label : String} {m : Model}
    (h : r.model? label = some m) : m ∈ r.toList :=
  SortedMap.mem_values_of_get? h

theorem mem_toList_of_related? {r : Registry} {d : FieldDef} {m : Model}
    (h : r.related? d = some m) : m ∈ r.toList := by
  obtain ⟨target, -, htarget⟩ := Option.bind_eq_some_iff.mp h
  exact mem_toList_of_model? htarget

/-! ### Walking -/

theorem walk_nil (r : Registry) (m : Model) : r.walk m [] = .error ⟨"", m.label⟩ := rfl

theorem walk_cons_of_none {r : Registry} {m : Model} {head : String} (rest : List String)
    (h : m.fieldDef? head = none) : r.walk m (head :: rest) = .error ⟨head, m.label⟩ := by
  rw [walk, field?, h]
  rfl

/-- The walk behind the first segment of a longer path. -/
theorem walk_cons_cons {r : Registry} {m : Model} {head : String} {d : FieldDef} (next : String)
    (more : List String) (h : m.fieldDef? head = some d) :
    r.walk m (head :: next :: more) =
      match r.related? d with
      | some related => r.walk related (next :: more)
      | none => .error ⟨next, m.label⟩ := by
  rw [walk, field?, h, Option.map_some]
  cases r.related? d <;> rfl

/-- The last segment of a path that can be walked is a name of a field of a model of the
registry. -/
theorem exists_fieldDef_of_walk {r : Registry} {m : Model} {path : List String}
    {type : Option FieldType} (hm : m ∈ r.toList) (h : r.walk m path = .ok type) :
    ∃ name, path.getLast? = some name ∧
      ∃ m' ∈ r.toList, ∃ d ∈ m'.fields, d.name = name ∨ d.attname = name := by
  induction path generalizing m with
  | nil => simp [walk_nil] at h
  | cons head rest ih =>
    cases hd : m.fieldDef? head with
    | none => simp [walk_cons_of_none rest hd] at h
    | some d =>
      cases rest with
      | nil =>
        refine ⟨head, rfl, m, hm, d, List.mem_of_find?_eq_some hd, ?_⟩
        simpa [FieldDef.answersTo] using List.find?_some hd
      | cons next more =>
        rw [walk_cons_cons next more hd] at h
        cases hrel : r.related? d with
        | none => simp [hrel] at h
        | some related =>
          rw [hrel] at h
          rw [List.getLast?_cons_cons]
          exact ih (mem_toList_of_related? hrel) h

end Registry

/-! ### Reading -/

namespace Database

theorem valueAt_cons_of_none {db : Database} {m : Model} {head : String} (row : Row)
    (rest : List String) (h : m.fieldDef? head = none) :
    db.valueAt m row (head :: rest) = .error (.noField ⟨head, m.label⟩) := by
  rw [valueAt.eq_def]
  dsimp only
  rw [h]

theorem valueAt_singleton {db : Database} {m : Model} {head : String} {d : FieldDef} (row : Row)
    (h : m.fieldDef? head = some d) : db.valueAt m row [head] = .ok (stored m row d) := by
  rw [valueAt.eq_def]
  dsimp only
  rw [h]

/-- Reading behind the first segment of a longer path. -/
theorem valueAt_cons_cons {db : Database} {m : Model} {head : String} {d : FieldDef} (row : Row)
    (next : String) (more : List String) (h : m.fieldDef? head = some d) :
    db.valueAt m row (head :: next :: more) =
      match db.registry.related? d with
      | some related =>
        db.throughRelation related (fun row => db.valueAt related row (next :: more))
          (stored m row d)
      | none => .error (.noField ⟨next, m.label⟩) := by
  rw [valueAt.eq_def]
  dsimp only
  rw [h]
  cases hrel : db.registry.related? d <;> simp only [hrel]

/-- Following keys fails only as reading the rows behind them does. -/
theorem throughRelation_failsOnly {P : StoreError → Prop} {db : Database} {m : Model}
    {read : Row → Except StoreError Value} (h : ∀ row, FailsOnly P (read row)) (v : Value) :
    FailsOnly P (db.throughRelation m read v) := by
  have hfollow : ∀ pk, FailsOnly P (db.follow m read pk) := by
    intro pk
    unfold follow
    split
    · exact h _
    · exact failsOnly_ok P _
  unfold throughRelation
  split
  · exact failsOnly_ok P _
  · exact (FailsOnly.mapM fun pk _ => hfollow pk).map _
  · exact hfollow _

/-- **Reading a path fails only where walking it does**: at the same segment of the same model. -/
theorem valueAt_failsOnly (db : Database) (m : Model) (row : Row) (path : List String) :
    FailsOnly (fun e => ∃ missing, e = .noField missing ∧ db.registry.walk m path = .error missing)
      (db.valueAt m row path) := by
  -- for every model and row at once, since a relation leads to others
  induction path generalizing m row with
  | nil =>
    rintro e ⟨⟩
    exact ⟨_, rfl, rfl⟩
  | cons head rest ih =>
    cases hd : m.fieldDef? head with
    | none =>
      rw [valueAt_cons_of_none row rest hd]
      rintro e ⟨⟩
      exact ⟨_, rfl, Registry.walk_cons_of_none rest hd⟩
    | some d =>
      cases rest with
      | nil =>
        rw [valueAt_singleton row hd]
        exact failsOnly_ok _ _
      | cons next more =>
        rw [valueAt_cons_cons row next more hd, Registry.walk_cons_cons next more hd]
        cases hrel : db.registry.related? d with
        | none =>
          rintro e ⟨⟩
          exact ⟨_, rfl, rfl⟩
        | some related => exact throughRelation_failsOnly (fun row' => ih related row') _

/-- A path that can be walked has a value in every row. -/
theorem valueAt_ok_of_walk {db : Database} {m : Model} {path : List String}
    {type : Option FieldType} (h : db.registry.walk m path = .ok type) (row : Row) :
    ∃ v, db.valueAt m row path = .ok v := by
  refine FailsOnly.exists_ok fun e he => ?_
  obtain ⟨missing, -, hwalk⟩ := valueAt_failsOnly db m row path e he
  simp [h] at hwalk

end Database

end RecordQuery
