import Mathlib
import RecordQuery.Proofs.QueryFailure

/-!
# What a query answers

`QueryFilter.apply` works in four stages.  Together they answer with the rows of the table that
match every lookup to filter by and fail some lookup to exclude by, sorted by the terms of the
ordering, of which the limit keeps the first (`apply_meaning`).  The stages that have nothing to do
are no exceptions: no lookup to exclude by drops no row, no ordering leaves the rows as they are
inserted, and no limit keeps them all.
-/

namespace RecordQuery.QueryFilter

open RowSet

/-- Whether the queries keep a row: it matches every lookup to filter by, and it fails some lookup
to exclude by, if there are any. -/
def keeps (db : Database) (m : Model) (excluding filtering : ResolvedQuery) (row : Row) : Bool :=
  filtering.toList.all (matchesLookup db m row) &&
    (excluding.isEmpty || excluding.toList.any fun lookup => !matchesLookup db m row lookup)

/-- The terms of an ordering; without an ordering there are none. -/
def orderTerms : Option String → Except String (List OrderTerm)
  | none => .ok []
  | some raw => OrderTerm.parseAll raw

/-- `sorted` is `rows` after sorting.  Wherever comparing by the terms is a total preorder among the
rows, the terms order them. -/
structure SortedBy (db : Database) (m : Model) (terms : List OrderTerm) (rows sorted : List Row) :
    Prop where
  eq_stableSort : sorted = stableSort (compareByTerms db m terms) rows
  perm : sorted.Perm rows
  orderedBy : TotalPreorderOn (compareByTerms db m terms) (· ∈ rows) →
    OrderedBy db m terms rows sorted

/-! ### The stages -/

/-- Excluding and then filtering. -/
theorem filter_exclude_eq_ok {s kept matching : RowSet} {excluding filtering : ResolvedQuery}
    (hexclude : s.exclude excluding = .ok kept) (hfilter : kept.filter filtering = .ok matching) :
    matching = { s with rows := s.rows.filter (keeps s.db s.model excluding filtering) } := by
  rw [filter_eq_ok hfilter, exclude_eq_ok hexclude, List.filter_filter]
  congr 2
  funext row
  rw [keeps, matchesAll, matchesAll, List.not_all_eq_any_not]

theorem stableSort_nil_terms (db : Database) (m : Model) (rows : List Row) :
    stableSort (compareByTerms db m []) rows = rows :=
  stableSort_eq_self (List.pairwise_of_forall fun _ _ => nofun)

/-- Sorting, if there is something to sort by. -/
theorem applyOrder_eq_ok {s t : RowSet} {order : Option String} (h : applyOrder s order = .ok t) :
    ∃ terms sorted, orderTerms order = .ok terms ∧ t = { s with rows := sorted } ∧
      SortedBy s.db s.model terms s.rows sorted := by
  have hsorted : ∀ terms : List OrderTerm,
      (∀ term ∈ terms, ∃ type, s.db.registry.walk s.model term.path = .ok type) →
      SortedBy s.db s.model terms s.rows
        (stableSort (compareByTerms s.db s.model terms) s.rows) :=
    fun terms hwalk => ⟨rfl, stableSort_perm _ _, orderedBy_stableSort hwalk⟩
  have hnone : SortedBy s.db s.model [] s.rows s.rows := by
    have hnil := hsorted [] (by simp)
    rwa [stableSort_nil_terms] at hnil
  cases order with
  | none =>
    cases h
    exact ⟨[], s.rows, rfl, rfl, hnone⟩
  | some raw =>
    rw [applyOrder] at h
    obtain ⟨terms, hterms, h⟩ := bind_eq_ok.mp h
    rw [mapError_eq_ok] at hterms
    split at h
    · rename_i hempty
      cases h
      rw [List.isEmpty_iff.mp hempty] at hterms
      exact ⟨[], s.rows, hterms, rfl, hnone⟩
    · rw [mapError_eq_ok] at h
      obtain ⟨hwalk, rfl⟩ := orderBy_eq_ok h
      exact ⟨terms, _, hterms, rfl, hsorted terms hwalk⟩

/-- Cutting, if there is a limit above zero. -/
theorem rows_applyLimit (s : RowSet) (limit : Option ℕ) :
    (limit = none ∨ limit = some 0 → (applyLimit s limit).rows = s.rows) ∧
      ∀ n, 0 < n → limit = some n → (applyLimit s limit).rows = s.rows.take n := by
  constructor
  · rintro (rfl | rfl) <;> rfl
  · rintro (_ | n) hn rfl
    · cases hn
    · rfl

theorem applyLimit_eq (s : RowSet) (limit : Option ℕ) :
    applyLimit s limit = ⟨s.db, s.model, (applyLimit s limit).rows⟩ := by
  rcases limit with _ | _ | n <;> rfl

/-! ### All stages -/

/-- **What a query answers.**  The rows of the table that the queries keep, in the order in which
they were inserted, are sorted by the terms and cut.  A failure to set up the query to exclude by is
the answer, and otherwise one to set up the query to filter by. -/
theorem apply_meaning {db : Database} {label : String} {s : RowSet} (hall : db.all label = .ok s)
    (f : QueryFilter) (order : Option String) (limit : Option ℕ) :
    (∀ t, f.apply s order limit = .ok t → ∃ excluding filtering terms sorted,
      f.setupQuery db.registry s.model f.excludeClauses = .ok excluding ∧
      f.setupQuery db.registry s.model f.filterClauses = .ok filtering ∧
      orderTerms order = .ok terms ∧
      SortedBy db s.model terms ((db.rows s.model).filter (keeps db s.model excluding filtering))
        sorted ∧
      t = ⟨db, s.model, t.rows⟩ ∧ (limit = none ∨ limit = some 0 → t.rows = sorted) ∧
      ∀ n, 0 < n → limit = some n → t.rows = sorted.take n) ∧
    ∀ e, f.SetupFails db.registry s.model e → f.apply s order limit = .error e := by
  obtain ⟨m, -, rfl⟩ := Database.all_eq_ok_iff.mp hall
  refine ⟨fun t h => ?_, fun e he => apply_of_setupFails he order limit⟩
  rw [apply] at h
  obtain ⟨excluding, hexcluding, h⟩ := bind_eq_ok.mp h
  obtain ⟨filtering, hfiltering, h⟩ := bind_eq_ok.mp h
  obtain ⟨kept, hkept, h⟩ := bind_eq_ok.mp h
  obtain ⟨matching, hmatching, h⟩ := bind_eq_ok.mp h
  obtain ⟨ordered, hordered, h⟩ := bind_eq_ok.mp h
  rw [mapError_eq_ok] at hkept hmatching
  obtain ⟨terms, sorted, hterms, rfl, hsorted⟩ := applyOrder_eq_ok hordered
  obtain rfl := filter_exclude_eq_ok hkept hmatching
  cases h
  obtain ⟨huncut, hcut⟩ := rows_applyLimit ⟨db, m, sorted⟩ limit
  exact ⟨excluding, filtering, terms, sorted, hexcluding, hfiltering, hterms, hsorted,
    applyLimit_eq _ limit, huncut, hcut⟩

/-- Of three rows one is excluded, and of the two that remain the larger comes first. -/
theorem apply_meaning_three_rows :
    let m : Model := ⟨"t.T", "id", [.plain "n" (some .integer)]⟩
    let row : Int64 → Row := fun n => (Row.new (.int n)).set "n" (.int n)
    let db : Database := ⟨.ofList [m], SortedMap.empty.insert "t.t" [row 1, row 2, row 3]⟩
    let f : QueryFilter := ((new default).addFilter (.ofList [("n__lt", "9")])).addExclude
      (.ofList [("n", "2")])
    ∃ excluding filtering sorted,
      f.setupQuery db.registry m f.excludeClauses = .ok excluding ∧
      f.setupQuery db.registry m f.filterClauses = .ok filtering ∧
      SortedBy db m [⟨"n", true⟩] ([row 1, row 2, row 3].filter (keeps db m excluding filtering))
        sorted ∧ [row 3] = sorted.take 1 := by
  intro m row db f
  have hall : db.all "t.T" = .ok ⟨db, m, [row 1, row 2, row 3]⟩ := by cbv
  have hparse : OrderTerm.parseAll "-n" = .ok [⟨"n", true⟩] := by decide
  have happly : f.apply ⟨db, m, [row 1, row 2, row 3]⟩ (some "-n") (some 1) =
      .ok ⟨db, m, [row 3]⟩ := by
    rw [apply]
    simp only [applyOrder, hparse]
    cbv
  have hrows : db.rows m = [row 1, row 2, row 3] := by cbv
  obtain ⟨hmeaning, -⟩ := apply_meaning hall f (some "-n") (some 1)
  obtain ⟨excluding, filtering, terms, sorted, hexcluding, hfiltering, hterms, hsorted, -, -,
    hcut⟩ := hmeaning _ happly
  rw [orderTerms, hparse] at hterms
  cases hterms
  rw [hrows] at hsorted
  exact ⟨excluding, filtering, sorted, hexcluding, hfiltering, hsorted, hcut 1 Nat.one_pos rfl⟩

end RecordQuery.QueryFilter
