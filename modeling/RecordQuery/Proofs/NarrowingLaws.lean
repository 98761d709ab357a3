import Mathlib
import RecordQuery.Proofs.Rejection

/-!
# Laws of narrowing

A row answers a query if asking its lookups, one after the other, ends without a failure
(`RowSet.Answers`); the lookups behind the first that the row fails need no answer.  A set of rows
can be narrowed by a query exactly if each of its rows answers it (`RowSet.filter_eq_ok_iff`).

* Filtering and excluding are complements: they fail together, and otherwise each row goes to one of
  the two (`RowSet.filter_exclude_complementary`).
* Filtering by one query and then by another is filtering by the lookups of both
  (`RowSet.filter_composes`).  The rows that the first one drops are not asked for the second, and
  in a merged query they do not come to its lookups, so both ways fail for the same rows, though not
  always because of the same one.
-/

namespace RecordQuery

/-- Each element of a list goes to one of two lists, and both keep the order of the list. -/
inductive Interleaved {α : Type} : List α → List α → List α → Prop
  | nil : Interleaved [] [] []
  | left {a : α} {left right list : List α} (h : Interleaved left right list) :
      Interleaved (a :: left) right (a :: list)
  | right {a : α} {left right list : List α} (h : Interleaved left right list) :
      Interleaved left (a :: right) (a :: list)

theorem interleaved_filter {α : Type} (p : α → Bool) (list : List α) :
    Interleaved (list.filter p) (list.filter fun a => !p a) list := by
  induction list with
  | nil => exact .nil
  | cons a list ih =>
    cases hp : p a with
    | true =>
      rw [List.filter_cons_of_pos hp, List.filter_cons_of_neg (by simp [hp])]
      exact .left ih
    | false =>
      rw [List.filter_cons_of_neg (by simp [hp]), List.filter_cons_of_pos (by simp [hp])]
      exact .right ih

namespace RowSet

variable {db : Database} {m : Model}

/-! ### Answering -/

/-- Asking the lookups of a row, in order and up to the first that it fails, does not fail. -/
def Answers (db : Database) (m : Model) (lookups : List (String × Value)) (row : Row) : Prop :=
  ∃ answer, satisfiesAll db m row lookups = .ok answer

theorem satisfiesAll_of_answers {lookups : List (String × Value)} {row : Row}
    (h : Answers db m lookups row) :
    satisfiesAll db m row lookups = .ok (matchesAll db m lookups row) := by
  obtain ⟨answer, hanswer⟩ := h
  rw [satisfiesAll_eq_ok hanswer, hanswer]

theorem answers_cons_iff {lookup : String × Value} {rest : List (String × Value)} {row : Row} :
    Answers db m (lookup :: rest) row ↔
      (∃ answer, satisfies db m row lookup.1 lookup.2 = .ok answer) ∧
        (matchesLookup db m row lookup = true → Answers db m rest row) := by
  obtain ⟨key, rhs⟩ := lookup
  constructor
  · rintro ⟨answer, h⟩
    rw [satisfiesAll] at h
    obtain ⟨first, hfirst, h⟩ := bind_eq_ok.mp h
    refine ⟨⟨first, hfirst⟩, fun hmatches => ?_⟩
    obtain rfl : first = true := (satisfies_eq_ok hfirst).symm.trans hmatches
    exact ⟨answer, h⟩
  · rintro ⟨⟨first, hfirst⟩, hrest⟩
    cases first with
    | false => exact ⟨false, bind_eq_ok.mpr ⟨false, hfirst, rfl⟩⟩
    | true =>
      obtain ⟨answer, h⟩ := hrest (satisfies_eq_ok hfirst)
      exact ⟨answer, bind_eq_ok.mpr ⟨true, hfirst, h⟩⟩

/-- The lookups at the end are asked of the rows that match those in front. -/
theorem answers_append_iff {earlier later : List (String × Value)} {row : Row} :
    Answers db m (earlier ++ later) row ↔
      Answers db m earlier row ∧ (matchesAll db m earlier row = true → Answers db m later row) := by
  -- each lookup in front decides whether what follows it is asked at all
  induction earlier with
  | nil => simp [Answers, satisfiesAll, matchesAll]
  | cons lookup rest ih =>
    have hmatches : matchesAll db m (lookup :: rest) row =
        (matchesLookup db m row lookup && matchesAll db m rest row) := List.all_cons
    rw [List.cons_append, answers_cons_iff, answers_cons_iff, ih, hmatches, Bool.and_eq_true]
    simp only [imp_and, and_imp, and_assoc]

theorem matchesAll_append (earlier later : List (String × Value)) :
    matchesAll db m (earlier ++ later) =
      fun row => matchesAll db m earlier row && matchesAll db m later row :=
  funext fun _ => List.all_append

/-- Some of the rows can be kept exactly if all of them can be tested. -/
theorem exists_retain_eq_ok_iff {test : Row → Except StoreError Bool} {wanted : Bool}
    {rows : List Row} :
    (∃ kept, retain test wanted rows = .ok kept) ↔
      ∀ row ∈ rows, ∃ answer, test row = .ok answer := by
  simp only [exists_eq_ok_iff, retain_eq_error_iff, exists_mapM_eq_error_iff, not_exists, not_and]

/-- **Filtering keeps the rows that match every lookup, if all rows answer**, and fails
otherwise. -/
theorem filter_eq_ok_iff {s t : RowSet} {query : ResolvedQuery} :
    s.filter query = .ok t ↔ (∀ row ∈ s.rows, Answers s.db s.model query.toList row) ∧
      t = { s with rows := s.rows.filter (matchesAll s.db s.model query.toList) } := by
  constructor
  · intro h
    refine ⟨?_, filter_eq_ok h⟩
    rw [filter] at h
    obtain ⟨kept, hkept, -⟩ := bind_eq_ok.mp h
    exact exists_retain_eq_ok_iff.mp ⟨kept, hkept⟩
  · rintro ⟨hanswers, rfl⟩
    obtain ⟨kept, hkept⟩ := exists_retain_eq_ok_iff.mpr hanswers
    have hfilter : s.filter query = .ok { s with rows := kept } :=
      bind_eq_ok.mpr ⟨kept, hkept, rfl⟩
    rw [hfilter, filter_eq_ok hfilter]

/-! ### Complements -/

theorem filter_eq_error_iff_exclude {s : RowSet} {query : ResolvedQuery} {e : StoreError} :
    s.filter query = .error e ↔ s.exclude query = .error e := by
  rw [filter_eq_error_iff, exclude_eq_error_iff, retain_eq_error_iff, retain_eq_error_iff]

/-- **Filtering and excluding are complements.**  Without lookups both leave the rows as they are.
Otherwise both fail, with one error, or each row goes to one of the two: to the first if asking it
answers that it matches, and to the second if that it does not. -/
theorem filter_exclude_complementary (s : RowSet) (query : ResolvedQuery) :
    (query.isEmpty = true → s.filter query = .ok s ∧ s.exclude query = .ok s) ∧
    (query.isEmpty = false →
      (∃ e, s.filter query = .error e ∧ s.exclude query = .error e) ∨
      ∃ matching others, s.filter query = .ok { s with rows := matching } ∧
        s.exclude query = .ok { s with rows := others } ∧ Interleaved matching others s.rows ∧
        (∀ row ∈ matching, satisfiesAll s.db s.model row query.toList = .ok true) ∧
        ∀ row ∈ others, satisfiesAll s.db s.model row query.toList = .ok false) := by
  constructor
  · intro hempty
    have hnil : query.toList = [] := List.isEmpty_iff.mp hempty
    have hall : s.rows.filter (matchesAll s.db s.model []) = s.rows :=
      List.filter_eq_self.mpr fun row _ => rfl
    refine ⟨filter_eq_ok_iff.mpr ?_, ?_⟩
    · rw [hnil, hall]
      exact ⟨fun row _ => ⟨true, rfl⟩, rfl⟩
    · rw [exclude, if_pos hempty]
      rfl
  · intro hlookups
    cases hfilter : s.filter query with
    | error e => exact Or.inl ⟨e, rfl, filter_eq_error_iff_exclude.mp hfilter⟩
    | ok matching =>
      right
      cases hexclude : s.exclude query with
      | error e =>
        -- both test every row, so neither fails alone
        rw [filter_eq_error_iff_exclude.mpr hexclude] at hfilter
        cases hfilter
      | ok others =>
        obtain ⟨hanswers, rfl⟩ := filter_eq_ok_iff.mp hfilter
        obtain rfl := exclude_eq_ok hexclude
        simp only [hlookups, Bool.false_or]
        refine ⟨_, _, rfl, rfl, interleaved_filter _ s.rows, fun row hrow => ?_, fun row hrow => ?_⟩
        · obtain ⟨hmem, hmatches⟩ := List.mem_filter.mp hrow
          rw [satisfiesAll_of_answers (hanswers row hmem), hmatches]
        · obtain ⟨hmem, hfails⟩ := List.mem_filter.mp hrow
          have hfails : matchesAll s.db s.model query.toList row = false := by simpa using hfails
          rw [satisfiesAll_of_answers (hanswers row hmem), hfails]

/-- Of two rows one is above the bound. -/
theorem filter_exclude_complementary_two_rows :
    let m : Model := ⟨"t.T", "id", [.plain "n" (some .integer)]⟩
    let row : Int64 → Row := fun n => (Row.new (.int n)).set "n" (.int n)
    let s : RowSet := ⟨.new (.ofList [m]), m, [row 1, row 2]⟩
    let query : ResolvedQuery := .ofList [("n__gt", .int 1)]
    query.isEmpty = false ∧ s.filter query = .ok { s with rows := [row 2] } ∧
      s.exclude query = .ok { s with rows := [row 1] } ∧ Interleaved [row 2] [row 1] s.rows := by
  intro m row s query
  have hlookups : query.isEmpty = false := by decide
  have hfilter : s.filter query = .ok { s with rows := [row 2] } := by cbv
  have hexclude : s.exclude query = .ok { s with rows := [row 1] } := by cbv
  refine ⟨hlookups, hfilter, hexclude, ?_⟩
  rcases (filter_exclude_complementary s query).2 hlookups with
    ⟨e, he, -⟩ | ⟨matching, others, hmatching, hothers, hrows, -, -⟩
  · rw [hfilter] at he
    cases he
  · rw [hfilter] at hmatching
    rw [hexclude] at hothers
    cases hmatching
    cases hothers
    exact hrows

/-! ### Composition -/

/-- Filtering twice succeeds exactly if the rows answer the first query, and those that match it the
second. -/
theorem filter_filter_eq_ok_iff {s t : RowSet} {first second : ResolvedQuery} :
    (s.filter first >>= fun u => u.filter second) = .ok t ↔
      (∀ row ∈ s.rows, Answers s.db s.model first.toList row ∧
        (matchesAll s.db s.model first.toList row = true →
          Answers s.db s.model second.toList row)) ∧
      t = { s with rows := s.rows.filter (fun row =>
        matchesAll s.db s.model first.toList row &&
          matchesAll s.db s.model second.toList row) } := by
  simp only [bind_eq_ok, filter_eq_ok_iff]
  constructor
  · rintro ⟨u, ⟨hfirst, rfl⟩, hsecond, rfl⟩
    refine ⟨fun row hrow => ⟨hfirst row hrow, fun hmatches => ?_⟩, ?_⟩
    · exact hsecond row (List.mem_filter.mpr ⟨hrow, hmatches⟩)
    · simp only [List.filter_filter, Bool.and_comm]
  · rintro ⟨hanswers, rfl⟩
    refine ⟨_, ⟨fun row hrow => (hanswers row hrow).1, rfl⟩, fun row hrow => ?_, ?_⟩
    -- the rows that are asked for the second query are those that match the first
    · obtain ⟨hmem, hmatches⟩ := List.mem_filter.mp hrow
      exact (hanswers row hmem).2 hmatches
    · simp only [List.filter_filter, Bool.and_comm]

theorem toList_extend {first second : ResolvedQuery}
    (hdisjoint : ∀ key ∈ first.keys, key ∉ second.keys) :
    (first.extend second).toList = first.toList ++ second.toList :=
  OrderedMap.entries_insertMany second.nodup first fun _ hp hkey =>
    hdisjoint _ hkey (List.mem_map_of_mem hp)

/-- **Filters compose.**  If two queries have no key in common, filtering by both at once succeeds
exactly if filtering by one and then by the other does, and keeps the same rows.  In the other order
the rows are the same, where it succeeds; and filtering by a query again changes nothing. -/
theorem filter_composes (s : RowSet) (first second : ResolvedQuery) :
    ((∀ key ∈ first.keys, key ∉ second.keys) →
      (first.extend second).toList = first.toList ++ second.toList ∧
      ∀ t, s.filter (first.extend second) = .ok t ↔
        (s.filter first >>= fun u => u.filter second) = .ok t) ∧
    (∀ t t', (s.filter first >>= fun u => u.filter second) = .ok t →
      (s.filter second >>= fun u => u.filter first) = .ok t' → t = t') ∧
    ∀ t, s.filter first = .ok t → t.filter first = .ok t := by
  refine ⟨fun hdisjoint => ?_, fun t t' ht ht' => ?_, fun t ht => ?_⟩
  · have hlookups := toList_extend hdisjoint
    refine ⟨hlookups, fun t => ?_⟩
    rw [filter_eq_ok_iff, filter_filter_eq_ok_iff, hlookups]
    simp only [answers_append_iff, matchesAll_append]
  · rw [(filter_filter_eq_ok_iff.mp ht).2, (filter_filter_eq_ok_iff.mp ht').2]
    simp only [Bool.and_comm]
  · obtain ⟨hanswers, rfl⟩ := filter_eq_ok_iff.mp ht
    refine filter_eq_ok_iff.mpr ⟨fun row hrow => hanswers row (List.mem_filter.mp hrow).1, ?_⟩
    simp only [List.filter_filter, Bool.and_self]

/-- Of three rows the second lies between two bounds, whichever is asked first. -/
theorem filter_composes_between :
    let m : Model := ⟨"t.T", "id", [.plain "n" (some .integer)]⟩
    let row : Int64 → Row := fun n => (Row.new (.int n)).set "n" (.int n)
    let s : RowSet := ⟨.new (.ofList [m]), m, [row 1, row 2, row 3]⟩
    let above : ResolvedQuery := .ofList [("n__gt", .int 1)]
    let below : ResolvedQuery := .ofList [("n__lt", .int 3)]
    (∀ key ∈ above.keys, key ∉ below.keys) ∧
      (∃ t t', (s.filter above >>= fun u => u.filter below) = .ok t ∧
        (s.filter below >>= fun u => u.filter above) = .ok t' ∧ t = t' ∧ t.rows = [row 2] ∧
        s.filter (above.extend below) = .ok t) ∧
      ∃ t, s.filter above = .ok t ∧ t.rows = [row 2, row 3] ∧ t.filter above = .ok t := by
  intro m row s above below
  have hdisjoint : ∀ key ∈ above.keys, key ∉ below.keys := by decide
  have habove : s.filter above = .ok { s with rows := [row 2, row 3] } := by cbv
  have hbelow : (s.filter above >>= fun u => u.filter below) = .ok { s with rows := [row 2] } := by
    cbv
  have hswapped : (s.filter below >>= fun u => u.filter above) =
      .ok { s with rows := [row 2] } := by
    cbv
  obtain ⟨hmerged, hswap, hagain⟩ := filter_composes s above below
  exact ⟨hdisjoint, ⟨_, _, hbelow, hswapped, hswap _ _ hbelow hswapped, rfl,
    ((hmerged hdisjoint).2 _).mpr hbelow⟩, _, habove, rfl, hagain _ habove⟩

end RowSet

end RecordQuery
