import RecordQuery.Proofs.Narrowing
import RecordQuery.Proofs.Path

/-!
# Which queries are rejected

Narrowing asks the lookups of a query of one row after the other, and a lookup is noticed to be
unanswerable only where a row comes to it.  A row comes to a lookup if it matches all lookups in
front of it, and reading the lookup's path then comes to the missing segment if the stored keys lead
to a row of the model that the segment is looked for in (`Database.Arrives`); a relation without
keys, and a key without a row, end the reading before that.

So a query with a path that cannot be walked is rejected exactly if some row of the set comes to it
(`RowSet.rejects_iff_comesToUnanswerable`), and an empty set rejects nothing.  A query is accepted
whatever the rows are if all its paths can be walked and all its operators take their right-hand
sides.
-/

namespace RecordQuery

namespace Database

/-! ### Arriving at a missing segment -/

/-- The keys that a stored value of a relation holds. -/
def storedKeys : Value → List Value
  | .null => []
  | .list pks => pks
  | pk => [pk]

/-- Reading a path from a row of a model arrives at a segment that is missing. -/
inductive Arrives (db : Database) : Model → Row → List String → Prop
  /-- No segment is left. -/
  | ended {m : Model} {row : Row} : Arrives db m row []
  /-- The next segment names no field. -/
  | unnamed {m : Model} {row : Row} {head : String} {rest : List String}
      (hhead : m.fieldDef? head = none) : Arrives db m row (head :: rest)
  /-- The next segment names a field that leads nowhere, and is not the last. -/
  | unrelated {m : Model} {row : Row} {head next : String} {more : List String} {d : FieldDef}
      (hhead : m.fieldDef? head = some d) (hrelated : db.registry.related? d = none) :
      Arrives db m row (head :: next :: more)
  /-- A stored key leads to a row from which reading arrives. -/
  | through {m related : Model} {row row' : Row} {head next : String} {more : List String}
      {d : FieldDef} {pk : Value} (hhead : m.fieldDef? head = some d)
      (hrelated : db.registry.related? d = some related) (hpk : pk ∈ storedKeys (stored m row d))
      (hrow : db.get? related pk = some row') (h : Arrives db related row' (next :: more)) :
      Arrives db m row (head :: next :: more)

variable {db : Database} {m : Model}

/-- Following stored keys fails exactly if reading some row behind them does. -/
theorem exists_throughRelation_eq_error_iff {read : Row → Except StoreError Value} {v : Value} :
    (∃ e, db.throughRelation m read v = .error e) ↔
      ∃ pk ∈ storedKeys v, ∃ row, db.get? m pk = some row ∧ ∃ e, read row = .error e := by
  have hfollow : ∀ pk, (∃ e, db.follow m read pk = .error e) ↔
      ∃ row, db.get? m pk = some row ∧ ∃ e, read row = .error e := by
    intro pk
    rw [follow]
    cases db.get? m pk with
    | none => simp
    | some row => simp
  cases v with
  | null => simp [throughRelation, storedKeys]
  | list pks =>
    simp only [throughRelation, storedKeys, map_eq_error, exists_mapM_eq_error_iff, hfollow]
  | bool _ | int _ | float _ | text _ | dateTime _ =>
    simp only [throughRelation, storedKeys, List.mem_singleton, exists_eq_left, hfollow]

/-- **Reading a path fails exactly if it arrives at a missing segment.** -/
theorem exists_valueAt_eq_error_iff {row : Row} {path : List String} :
    (∃ e, db.valueAt m row path = .error e) ↔ db.Arrives m row path := by
  induction path generalizing m row with
  | nil => exact ⟨fun _ => .ended, fun _ => ⟨_, rfl⟩⟩
  | cons head rest ih =>
    cases hd : m.fieldDef? head with
    | none => exact ⟨fun _ => .unnamed hd, fun _ => ⟨_, valueAt_cons_of_none row rest hd⟩⟩
    | some d =>
      cases rest with
      | nil =>
        rw [valueAt_singleton row hd]
        constructor
        · rintro ⟨e, he⟩
          cases he
        · rintro (_ | hnone)
          rw [hd] at hnone
          cases hnone
      | cons next more =>
        rw [valueAt_cons_cons row next more hd]
        cases hrel : db.registry.related? d with
        | none => exact ⟨fun _ => .unrelated hd hrel, fun _ => ⟨_, rfl⟩⟩
        | some related =>
          rw [exists_throughRelation_eq_error_iff]
          constructor
          · rintro ⟨pk, hpk, row', hrow, hread⟩
            exact .through hd hrel hpk hrow (ih.mp hread)
          · rintro (_ | hnone | ⟨hhead, hrelated⟩ | ⟨hhead, hrelated, hpk, hrow, h⟩)
            · rw [hd] at hnone
              cases hnone
            · rw [hd] at hhead
              cases hhead
              rw [hrel] at hrelated
              cases hrelated
            · rw [hd] at hhead
              cases hhead
              rw [hrel] at hrelated
              cases hrelated
              exact ⟨_, hpk, _, hrow, ih.mpr h⟩

theorem valueAt_eq_error_iff {row : Row} {path : List String} {e : StoreError} :
    db.valueAt m row path = .error e ↔ db.Arrives m row path ∧
      ∃ missing, e = .noField missing ∧ db.registry.walk m path = .error missing := by
  constructor
  · intro h
    exact ⟨exists_valueAt_eq_error_iff.mp ⟨e, h⟩, valueAt_failsOnly db m row path e h⟩
  · rintro ⟨harrives, missing, rfl, hwalk⟩
    obtain ⟨e, he⟩ := exists_valueAt_eq_error_iff.mpr harrives
    obtain ⟨missing', rfl, hwalk'⟩ := valueAt_failsOnly db m row path e he
    rw [hwalk] at hwalk'
    cases hwalk'
    exact he

end Database

namespace RowSet

/-! ### Coming to an unanswerable lookup -/

/-- A lookup cannot be answered for a row, because of `e`: its operator does not take its right-hand
side, or else reading its path arrives at a missing segment. -/
def Unanswerable (db : Database) (m : Model) (row : Row) (lookup : String × Value)
    (e : StoreError) : Prop :=
  (∃ cause, Condition.ofOperator (Lookup.split lookup.1).operator lookup.2 = .error cause ∧
      e = .badOperand cause) ∨
    (∃ condition, Condition.ofOperator (Lookup.split lookup.1).operator lookup.2 = .ok condition) ∧
      db.Arrives m row (Lookup.split lookup.1).path ∧
      ∃ missing, db.registry.walk m (Lookup.split lookup.1).path = .error missing ∧
        e = .noField missing

/-- Some row matches the lookups in front of one that cannot be answered for it, because of `e`. -/
def ComesToUnanswerable (s : RowSet) (query : ResolvedQuery) (e : StoreError) : Prop :=
  ∃ row ∈ s.rows, ∃ earlier lookup later, query.toList = earlier ++ lookup :: later ∧
    matchesAll s.db s.model earlier row ∧ Unanswerable s.db s.model row lookup e

variable {db : Database} {m : Model}

theorem satisfies_eq_error_iff {row : Row} {key : String} {rhs : Value} {e : StoreError} :
    satisfies db m row key rhs = .error e ↔ Unanswerable db m row (key, rhs) e := by
  rw [satisfies, bind_eq_error]
  simp only [mapError_eq_error, mapError_eq_ok]
  constructor
  · rintro (⟨cause, hcause, rfl⟩ | ⟨condition, hcondition, h⟩)
    · exact Or.inl ⟨cause, hcause, rfl⟩
    · -- evaluating the condition does not fail, so reading the path does
      have hread : db.valueAt m row (Lookup.split key).path = .error e := by
        refine (bind_eq_error.mp h).resolve_right ?_
        rintro ⟨value, -, h⟩
        cases h
      obtain ⟨harrives, missing, rfl, hwalk⟩ := Database.valueAt_eq_error_iff.mp hread
      exact Or.inr ⟨⟨condition, hcondition⟩, harrives, missing, hwalk, rfl⟩
  · rintro (⟨cause, hcause, rfl⟩ | ⟨⟨condition, hcondition⟩, harrives, missing, hwalk, rfl⟩)
    · exact Or.inl ⟨cause, hcause, rfl⟩
    · have hread := Database.valueAt_eq_error_iff.mpr ⟨harrives, missing, rfl, hwalk⟩
      exact Or.inr ⟨condition, hcondition, bind_eq_error.mpr (Or.inl hread)⟩

/-- Asking the lookups of a row fails at the first one that it matches all others in front of and
that cannot be answered. -/
theorem satisfiesAll_eq_error_iff {row : Row} {lookups : List (String × Value)} {e : StoreError} :
    satisfiesAll db m row lookups = .error e ↔
      ∃ earlier lookup later, lookups = earlier ++ lookup :: later ∧
        matchesAll db m earlier row ∧ Unanswerable db m row lookup e := by
  simp only [matchesAll, List.all_eq_true]
  induction lookups with
  | nil => simp [satisfiesAll]
  | cons first rest ih =>
    obtain ⟨key, rhs⟩ := first
    rw [exists_first_cons_iff, satisfiesAll, bind_eq_error, satisfies_eq_error_iff, ← ih]
    refine or_congr_right ?_
    constructor
    · rintro ⟨answer, hanswer, h⟩
      -- a row that fails the lookup does not come to the others
      cases answer with
      | false => cases h
      | true => exact ⟨satisfies_eq_ok hanswer, h⟩
    · rintro ⟨hfirst, h⟩
      exact ⟨true, satisfies_of_matchesLookup hfirst, h⟩

/-- Keeping some of the rows fails as testing all of them does. -/
theorem retain_eq_error_iff {test : Row → Except StoreError Bool} {wanted : Bool}
    {rows : List Row} {e : StoreError} :
    retain test wanted rows = .error e ↔ rows.mapM test = .error e := by
  induction rows with
  | nil => simp [retain, pure, Except.pure]
  | cons row rest ih =>
    rw [retain, List.mapM_cons, bind_eq_error, bind_eq_error]
    refine or_congr_right (exists_congr fun answer => and_congr_right fun _ => ?_)
    rw [bind_eq_error, bind_eq_error, ih]
    refine or_congr_right ?_
    simp [pure, Except.pure]

/-! ### Rejecting -/

variable {s : RowSet} {query : ResolvedQuery}

theorem comesToUnanswerable_of_retain {wanted : Bool} {e : StoreError}
    (h : retain (fun row => satisfiesAll s.db s.model row query.toList) wanted s.rows = .error e) :
    s.ComesToUnanswerable query e := by
  obtain ⟨row, hrow, htest⟩ := exists_mem_of_mapM_eq_error (retain_eq_error_iff.mp h)
  exact ⟨row, hrow, satisfiesAll_eq_error_iff.mp htest⟩

theorem exists_retain_eq_error_iff {wanted : Bool} :
    (∃ e, retain (fun row => satisfiesAll s.db s.model row query.toList) wanted s.rows = .error e) ↔
      ∃ e, s.ComesToUnanswerable query e := by
  constructor
  · rintro ⟨e, he⟩
    exact ⟨e, comesToUnanswerable_of_retain he⟩
  · rintro ⟨e, row, hrow, hlookup⟩
    have htest := satisfiesAll_eq_error_iff.mpr hlookup
    obtain ⟨e', he'⟩ : ∃ e',
        s.rows.mapM (fun row => satisfiesAll s.db s.model row query.toList) = .error e' :=
      exists_mapM_eq_error_iff.mpr ⟨row, hrow, e, htest⟩
    exact ⟨e', retain_eq_error_iff.mpr he'⟩

theorem filter_eq_error_iff {e : StoreError} :
    s.filter query = .error e ↔
      retain (fun row => satisfiesAll s.db s.model row query.toList) true s.rows = .error e := by
  rw [filter, bind_eq_error]
  refine ⟨fun h => h.resolve_right ?_, Or.inl⟩
  rintro ⟨rows, -, h⟩
  cases h

/-- Excluding by no lookup does not fail, and no row comes to an unanswerable one. -/
theorem exclude_eq_error_iff {e : StoreError} :
    s.exclude query = .error e ↔
      retain (fun row => satisfiesAll s.db s.model row query.toList) false s.rows = .error e := by
  rw [exclude]
  split
  · rename_i hempty
    have hnil : query.toList = [] := List.isEmpty_iff.mp hempty
    constructor
    · intro h
      cases h
    · intro h
      obtain ⟨row, -, earlier, lookup, later, happend, -⟩ := comesToUnanswerable_of_retain h
      rw [hnil] at happend
      simp at happend
  · rw [bind_eq_error]
    refine ⟨fun h => h.resolve_right ?_, Or.inl⟩
    rintro ⟨rows, -, h⟩
    cases h

theorem not_comesToUnanswerable
    (h : ∀ lookup ∈ query.toList,
      (∃ condition,
        Condition.ofOperator (Lookup.split lookup.1).operator lookup.2 = .ok condition) ∧
      ∃ type, s.db.registry.walk s.model (Lookup.split lookup.1).path = .ok type)
    (e : StoreError) : ¬ s.ComesToUnanswerable query e := by
  rintro ⟨row, -, earlier, lookup, later, happend, -, hlookup⟩
  obtain ⟨⟨condition, hcondition⟩, type, htype⟩ := h lookup (by simp [happend])
  rcases hlookup with ⟨cause, hcause, -⟩ | ⟨-, -, missing, hmissing, -⟩
  · rw [hcondition] at hcause
    cases hcause
  · rw [htype] at hmissing
    cases hmissing

/-- **A query is rejected exactly if some row comes to a lookup that cannot be answered for it**,
both in filtering and in excluding, and then because of such a lookup.  If every path can be walked
and every operator takes its right-hand side, no rows whatever reject the query. -/
theorem rejects_iff_comesToUnanswerable (s : RowSet) (query : ResolvedQuery) :
    ((∃ e, s.filter query = .error e) ↔ ∃ e, s.ComesToUnanswerable query e) ∧
    ((∃ e, s.exclude query = .error e) ↔ ∃ e, s.ComesToUnanswerable query e) ∧
    (∀ e, s.filter query = .error e ∨ s.exclude query = .error e →
      s.ComesToUnanswerable query e) ∧
    ((∀ lookup ∈ query.toList,
        (∃ condition,
          Condition.ofOperator (Lookup.split lookup.1).operator lookup.2 = .ok condition) ∧
        ∃ type, s.db.registry.walk s.model (Lookup.split lookup.1).path = .ok type) →
      ∀ tables rows e, let t : RowSet := ⟨⟨s.db.registry, tables⟩, s.model, rows⟩
        t.filter query ≠ .error e ∧ t.exclude query ≠ .error e) := by
  refine ⟨?_, ?_, ?_, ?_⟩
  · simp only [filter_eq_error_iff, exists_retain_eq_error_iff]
  · simp only [exclude_eq_error_iff, exists_retain_eq_error_iff]
  · rintro e (h | h)
    · exact comesToUnanswerable_of_retain (filter_eq_error_iff.mp h)
    · exact comesToUnanswerable_of_retain (exclude_eq_error_iff.mp h)
  · intro hanswerable tables rows e t
    have ht : ¬ t.ComesToUnanswerable query e := not_comesToUnanswerable (s := t) hanswerable e
    refine ⟨fun h => ht ?_, fun h => ht ?_⟩
    · exact comesToUnanswerable_of_retain (filter_eq_error_iff.mp h)
    · exact comesToUnanswerable_of_retain (exclude_eq_error_iff.mp h)

/-- A path that cannot be walked is not noticed where there are no rows. -/
example (m : Model) : ∃ t,
    filter ⟨.new .empty, m, []⟩ (.ofList [("x__exact", .int 1)]) = .ok t :=
  ⟨_, rfl⟩

end RowSet

end RecordQuery
