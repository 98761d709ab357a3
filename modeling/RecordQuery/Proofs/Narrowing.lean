import RecordQuery.Proofs.Failure
import RecordQuery.RowSet

/-!
# What narrowing keeps

A row matches a lookup if the value at the end of the lookup's path satisfies its condition.
`RowSet.filter` and `RowSet.exclude` ask the lookups of a query in order, up to the first that a row
fails, and give up at the first that cannot be answered.  Where they do not give up, the order plays
no part: filtering keeps the rows that match every lookup (`filter_eq_ok`), and excluding those that
do not, or all rows if there is no lookup (`exclude_eq_ok`).

Where they do give up, they do so for an error of some lookup (`filter_failsOnly`,
`exclude_failsOnly`).
-/

namespace RecordQuery.RowSet

variable {db : Database} {m : Model}

/-- Whether a row matches a lookup: the lookup has a condition, its path has a value, and the value
satisfies the condition. -/
def matchesLookup (db : Database) (m : Model) (row : Row) (lookup : String × Value) : Bool :=
  match Condition.ofOperator (Lookup.split lookup.1).operator lookup.2,
      db.valueAt m row (Lookup.split lookup.1).path with
  | .ok condition, .ok value => condition.evaluate value
  | _, _ => false

/-- Whether a row matches every lookup. -/
def matchesAll (db : Database) (m : Model) (lookups : List (String × Value)) (row : Row) : Bool :=
  lookups.all (matchesLookup db m row)

theorem matchesLookup_iff {row : Row} {key : String} {rhs : Value} :
    matchesLookup db m row (key, rhs) = true ↔
      ∃ condition value, Condition.ofOperator (Lookup.split key).operator rhs = .ok condition ∧
        db.valueAt m row (Lookup.split key).path = .ok value ∧ condition.evaluate value = true := by
  rw [matchesLookup]
  cases Condition.ofOperator (Lookup.split key).operator rhs with
  | error e => simp
  | ok condition =>
    cases db.valueAt m row (Lookup.split key).path with
    | error e => simp
    | ok value => simp

/-! ### Answers -/

theorem satisfies_eq_ok {row : Row} {key : String} {rhs : Value} {answer : Bool}
    (h : satisfies db m row key rhs = .ok answer) : matchesLookup db m row (key, rhs) = answer := by
  rw [satisfies] at h
  obtain ⟨condition, hcondition, h⟩ := bind_eq_ok.mp h
  obtain ⟨value, hvalue, h⟩ := bind_eq_ok.mp h
  rw [mapError_eq_ok] at hcondition
  rw [matchesLookup, hcondition, hvalue]
  exact Except.ok.inj h

/-- A lookup that a row matches is answered. -/
theorem satisfies_of_matchesLookup {row : Row} {key : String} {rhs : Value}
    (h : matchesLookup db m row (key, rhs) = true) : satisfies db m row key rhs = .ok true := by
  obtain ⟨condition, value, hcondition, hvalue, hevaluate⟩ := matchesLookup_iff.mp h
  rw [satisfies, bind_eq_ok]
  refine ⟨condition, mapError_eq_ok.mpr hcondition, ?_⟩
  rw [hvalue, ← hevaluate]
  rfl

theorem satisfiesAll_eq_ok {row : Row} {lookups : List (String × Value)} {answer : Bool}
    (h : satisfiesAll db m row lookups = .ok answer) : matchesAll db m lookups row = answer := by
  induction lookups with
  | nil => exact Except.ok.inj h
  | cons lookup rest ih =>
    obtain ⟨key, rhs⟩ := lookup
    rw [satisfiesAll] at h
    obtain ⟨first, hfirst, h⟩ := bind_eq_ok.mp h
    rw [matchesAll, List.all_cons, satisfies_eq_ok hfirst]
    cases first with
    | false => exact Except.ok.inj h
    | true => exact ih h

theorem retain_eq_ok {test : Row → Except StoreError Bool} {wanted : Bool} {rows kept : List Row}
    {holds : Row → Bool} (htest : ∀ row answer, test row = .ok answer → holds row = answer)
    (h : retain test wanted rows = .ok kept) :
    kept = rows.filter fun row => holds row = wanted := by
  induction rows generalizing kept with
  | nil => exact (Except.ok.inj h).symm
  | cons row rest ih =>
    rw [retain] at h
    obtain ⟨answer, hanswer, h⟩ := bind_eq_ok.mp h
    obtain ⟨others, hothers, h⟩ := bind_eq_ok.mp h
    rw [List.filter_cons, htest row answer hanswer, ← ih hothers, ← Except.ok.inj h]
    simp only [decide_eq_true_eq]

/-- **Filtering keeps the rows that match every lookup**, in order. -/
theorem filter_eq_ok {s t : RowSet} {query : ResolvedQuery} (h : s.filter query = .ok t) :
    t = { s with rows := s.rows.filter (matchesAll s.db s.model query.toList) } := by
  rw [filter] at h
  obtain ⟨kept, hkept, h⟩ := bind_eq_ok.mp h
  rw [← Except.ok.inj h, retain_eq_ok (fun row answer => satisfiesAll_eq_ok) hkept]
  simp

/-- **Excluding keeps the rows that fail some lookup**, in order; without lookups it keeps all. -/
theorem exclude_eq_ok {s t : RowSet} {query : ResolvedQuery} (h : s.exclude query = .ok t) :
    t = { s with rows := s.rows.filter fun row =>
      query.isEmpty || !matchesAll s.db s.model query.toList row } := by
  rw [exclude] at h
  split at h
  · rename_i hempty
    rw [← Except.ok.inj h, List.filter_eq_self.mpr fun row _ => by rw [hempty, Bool.true_or]]
  · rename_i hempty
    obtain ⟨kept, hkept, h⟩ := bind_eq_ok.mp h
    rw [← Except.ok.inj h, retain_eq_ok (fun row answer => satisfiesAll_eq_ok) hkept]
    simp [hempty]

/-! ### Failures -/

variable {P : StoreError → Prop}

/-- A lookup whose operator takes its right-hand side fails only where reading the value does. -/
theorem satisfies_failsOnly {row : Row} {key : String} {rhs : Value}
    (hoperand : ∃ condition, Condition.ofOperator (Lookup.split key).operator rhs = .ok condition)
    (hvalue : FailsOnly P (db.valueAt m row (Lookup.split key).path)) :
    FailsOnly P (satisfies db m row key rhs) := by
  obtain ⟨condition, hcondition⟩ := hoperand
  rw [satisfies]
  refine FailsOnly.bind ?_ fun _ _ => FailsOnly.bind hvalue fun value _ => ?_
  · rw [hcondition]
    exact failsOnly_ok P condition
  · exact failsOnly_ok P _

theorem satisfiesAll_failsOnly {row : Row} {lookups : List (String × Value)}
    (h : ∀ lookup ∈ lookups, FailsOnly P (satisfies db m row lookup.1 lookup.2)) :
    FailsOnly P (satisfiesAll db m row lookups) := by
  induction lookups with
  | nil => exact failsOnly_ok P true
  | cons lookup rest ih =>
    obtain ⟨hfirst, hrest⟩ := List.forall_mem_cons.mp h
    rw [satisfiesAll]
    refine FailsOnly.bind hfirst fun answer _ => ?_
    cases answer with
    | false => exact failsOnly_ok P false
    | true => exact ih hrest

theorem retain_failsOnly {test : Row → Except StoreError Bool} {wanted : Bool} {rows : List Row}
    (h : ∀ row, FailsOnly P (test row)) : FailsOnly P (retain test wanted rows) := by
  induction rows with
  | nil => exact failsOnly_ok P []
  | cons row rest ih =>
    rw [retain]
    refine FailsOnly.bind (h row) fun answer _ => FailsOnly.bind ih fun kept _ => ?_
    exact failsOnly_ok P _

theorem filter_failsOnly {s : RowSet} {query : ResolvedQuery}
    (h : ∀ lookup ∈ query.toList, ∀ row,
      FailsOnly P (satisfies s.db s.model row lookup.1 lookup.2)) :
    FailsOnly P (s.filter query) := by
  rw [filter]
  refine FailsOnly.bind (retain_failsOnly fun row => satisfiesAll_failsOnly fun lookup hmem => ?_)
    fun rows _ => failsOnly_ok P _
  exact h lookup hmem row

theorem exclude_failsOnly {s : RowSet} {query : ResolvedQuery}
    (h : ∀ lookup ∈ query.toList, ∀ row,
      FailsOnly P (satisfies s.db s.model row lookup.1 lookup.2)) :
    FailsOnly P (s.exclude query) := by
  rw [exclude]
  split
  · exact failsOnly_ok P s
  · refine FailsOnly.bind (retain_failsOnly fun row => satisfiesAll_failsOnly fun lookup hmem => ?_)
      fun rows _ => failsOnly_ok P _
    exact h lookup hmem row

end RecordQuery.RowSet
