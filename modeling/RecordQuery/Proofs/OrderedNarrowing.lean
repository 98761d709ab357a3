import RecordQuery.Proofs.NarrowingLaws
import RecordQuery.Proofs.RowOrder

/-!
# Narrowing before and after ordering

Filtering and excluding ask each row by itself and keep some of the rows in order
(`RowSet.filter_eq_ok_iff`, `RowSet.exclude_eq_ok_iff`), and ordering by terms whose paths can be
walked only rearranges them (`RowSet.orderBy_of_walk`).  So narrowing succeeds before ordering
exactly if it does after it, and as the order is stable, the rows come out the same
(`RowSet.orderBy_commutes`).

Where narrowing fails, ordering may change which row it fails at first.
-/

namespace RecordQuery.RowSet

open Value

variable {s t : RowSet} {terms : List OrderTerm}

/-- **Excluding drops the rows that match every lookup, if all rows answer**, and fails otherwise;
without lookups it drops none. -/
theorem exclude_eq_ok_iff {query : ResolvedQuery} :
    s.exclude query = .ok t ↔ (∀ row ∈ s.rows, Answers s.db s.model query.toList row) ∧
      t = { s with rows := s.rows.filter fun row =>
        query.isEmpty || !matchesAll s.db s.model query.toList row } := by
  constructor
  · intro h
    refine ⟨?_, exclude_eq_ok h⟩
    cases hfilter : s.filter query with
    | ok u => exact (filter_eq_ok_iff.mp hfilter).1
    | error e =>
      -- both test every row, so neither fails alone
      rw [filter_eq_error_iff_exclude.mp hfilter] at h
      cases h
  · rintro ⟨hanswers, rfl⟩
    have hfilter := filter_eq_ok_iff.mpr ⟨hanswers, rfl⟩
    cases hexclude : s.exclude query with
    | ok u => rw [exclude_eq_ok hexclude]
    | error e =>
      rw [filter_eq_error_iff_exclude.mpr hexclude] at hfilter
      cases hfilter

/-- Ordering by terms whose paths can be walked sorts the rows. -/
theorem orderBy_of_walk {db : Database} {m : Model}
    (hwalk : ∀ t ∈ terms, ∃ type, db.registry.walk m t.path = .ok type) (rows : List Row) :
    orderBy ⟨db, m, rows⟩ terms = .ok ⟨db, m, stableSort (compareByTerms db m terms) rows⟩ := by
  rw [orderBy, (checkTerms_eq_ok_iff _ _ _).mpr hwalk]
  rfl

/-- Whatever asks each row by itself, and keeps some of them in order, can be done before ordering
as well as after it. -/
theorem orderBy_narrow_comm {narrow : RowSet → Except StoreError RowSet} (answers : Row → Prop)
    (keeps : Row → Bool)
    (hnarrow : ∀ (rows : List Row) (t : RowSet), narrow { s with rows := rows } = .ok t ↔
      (∀ row ∈ rows, answers row) ∧ t = { s with rows := rows.filter keeps })
    (hwalk : ∀ t ∈ terms, ∃ type, s.db.registry.walk s.model t.path = .ok type)
    (hcmp : TotalPreorderOn (compareByTerms s.db s.model terms) (· ∈ s.rows)) (t : RowSet) :
    (s.orderBy terms >>= narrow) = .ok t ↔ (narrow s >>= fun u => u.orderBy terms) = .ok t := by
  rw [bind_eq_ok, bind_eq_ok]
  constructor
  · rintro ⟨sorted, horder, ht⟩
    rw [orderBy_of_walk hwalk] at horder
    obtain rfl := Except.ok.inj horder
    obtain ⟨hanswers, rfl⟩ := (hnarrow _ _).mp ht
    have hrows : ∀ row ∈ s.rows, answers row :=
      fun row hrow => hanswers row ((stableSort_perm _ _).mem_iff.mpr hrow)
    refine ⟨_, (hnarrow _ _).mpr ⟨hrows, rfl⟩, ?_⟩
    rw [orderBy_of_walk hwalk, filter_stableSort hcmp]
  · rintro ⟨kept, hkept, ht⟩
    obtain ⟨hanswers, rfl⟩ := (hnarrow s.rows _).mp hkept
    rw [orderBy_of_walk hwalk] at ht
    obtain rfl := Except.ok.inj ht
    refine ⟨_, orderBy_of_walk hwalk _, (hnarrow _ _).mpr ⟨fun row hrow => ?_, ?_⟩⟩
    · exact hanswers row ((stableSort_perm _ _).mem_iff.mp hrow)
    · rw [filter_stableSort hcmp]

/-- **Ordering and narrowing commute**, if the terms' paths can be walked and the numbers at the end
of each agree: in either order they succeed for the same rows, and then keep the same rows in the
same order. -/
theorem orderBy_commutes
    (hwalk : ∀ t ∈ terms, ∃ type, s.db.registry.walk s.model t.path = .ok type)
    (hagree : ∀ t ∈ terms, NumbersAgree (keyLeaves s.db s.model s.rows t.path))
    (query : ResolvedQuery) :
    (∀ t, (s.orderBy terms >>= fun u => u.filter query) = .ok t ↔
      (s.filter query >>= fun u => u.orderBy terms) = .ok t) ∧
    ∀ t, (s.orderBy terms >>= fun u => u.exclude query) = .ok t ↔
      (s.exclude query >>= fun u => u.orderBy terms) = .ok t := by
  have hcmp := totalPreorderOn_compareByTerms hwalk hagree
  constructor
  · exact orderBy_narrow_comm (Answers s.db s.model query.toList)
      (matchesAll s.db s.model query.toList) (fun _ _ => filter_eq_ok_iff) hwalk hcmp
  · exact orderBy_narrow_comm (Answers s.db s.model query.toList)
      (fun row => query.isEmpty || !matchesAll s.db s.model query.toList row)
      (fun _ _ => exclude_eq_ok_iff) hwalk hcmp

/-- Rows that tie stay in order whether the one between them is dropped before they are sorted or
after it, and a row without a value goes behind them. -/
theorem orderBy_commutes_ties :
    let m : Model := ⟨"t.T", "id", [.plain "id" (some .integer), .plain "n" (some .integer)]⟩
    let row : Int64 → Int64 → Row := fun id n => (Row.new (.int id)).set "n" (.int n)
    let s : RowSet := ⟨.new (.ofList [m]), m, [.new (.int 1), row 2 7, row 3 9, row 4 7]⟩
    let query : ResolvedQuery := .ofList [("id", .int 3)]
    (s.orderBy [⟨"n", true⟩] >>= fun u => u.exclude query) =
        .ok { s with rows := [row 2 7, row 4 7, .new (.int 1)] } ∧
      (s.exclude query >>= fun u => u.orderBy [⟨"n", true⟩]) =
        .ok { s with rows := [row 2 7, row 4 7, .new (.int 1)] } := by
  intro m row s query
  have hpath : OrderTerm.path ⟨"n", true⟩ = ["n"] := by decide
  have hkeys : keyLeaves s.db s.model s.rows ["n"] = [.null, .int 7, .int 9, .int 7] := by rfl
  have hwalk : ∀ t ∈ [(⟨"n", true⟩ : OrderTerm)],
      ∃ type, s.db.registry.walk s.model t.path = .ok type := by
    rw [List.forall_mem_singleton, hpath]
    exact ⟨some .integer, rfl⟩
  have hagree : ∀ t ∈ [(⟨"n", true⟩ : OrderTerm)],
      NumbersAgree (keyLeaves s.db s.model s.rows t.path) := by
    rw [List.forall_mem_singleton, hpath, hkeys]
    exact ⟨by simp, by simp⟩
  have horder : (s.orderBy [⟨"n", true⟩] >>= fun u => u.exclude query) =
      .ok { s with rows := [row 2 7, row 4 7, .new (.int 1)] } := by
    cbv
  exact ⟨horder, ((orderBy_commutes hwalk hagree query).2 _).mp horder⟩

end RecordQuery.RowSet
