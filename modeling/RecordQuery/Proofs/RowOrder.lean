import RecordQuery.Proofs.Path
import RecordQuery.Proofs.StableSort
import RecordQuery.Proofs.ValueOrder
import RecordQuery.RowSet

/-!
# Ordered rows

`RowSet.orderBy` compares rows by the values at the ends of the terms' paths.  `TiedBy` says that no
term tells two rows apart, and `PrecedesBy` that the first term which does puts the one row in front
of the other.

If all paths can be walked and the numbers at the end of each agree, ordering succeeds, is a
rearrangement, and puts one row in front of another exactly if it precedes it by the terms, or ties
with it and was in front of it before (`orderBy_sorts`).  Rows without a value come first by an
ascending term, and last by a descending one.
-/

namespace RecordQuery.RowSet

open Value

/-! ### What the terms say about two rows -/

/-- The values of two rows at the end of a path compare as `o`. -/
def KeysCompare (db : Database) (m : Model) (path : List String) (o : Ordering) (a b : Row) :
    Prop :=
  ∃ v w, db.valueAt m a path = .ok v ∧ db.valueAt m b path = .ok w ∧ v.sortCompare w = o

/-- Two rows have values that tie at the end of every term's path. -/
def TiedBy (db : Database) (m : Model) (terms : List OrderTerm) (a b : Row) : Prop :=
  ∀ t ∈ terms, KeysCompare db m t.path .eq a b

/-- Some term puts `a` in front of `b`, and those in front of the term leave them tied. -/
def PrecedesBy (db : Database) (m : Model) (terms : List OrderTerm) (a b : Row) : Prop :=
  ∃ earlier t later, terms = earlier ++ t :: later ∧ TiedBy db m earlier a b ∧
    KeysCompare db m t.path (if t.descending then .gt else .lt) a b

/-- What stands, at any depth, in the values of rows at the end of a path. -/
def keyLeaves (db : Database) (m : Model) (rows : List Row) (path : List String) : List Value :=
  rows.flatMap fun row =>
    match db.valueAt m row path with
    | .ok v => v.leaves
    | .error _ => []

/-- Rows without a value at the end of the term's path stand where the term puts them: in front of
the others if it ascends, and behind them if it descends. -/
def NullsPlaced (db : Database) (m : Model) (t : OrderTerm) (a b : Row) : Prop :=
  if t.descending then db.valueAt m a t.path = .ok .null → db.valueAt m b t.path = .ok .null
  else db.valueAt m b t.path = .ok .null → db.valueAt m a t.path = .ok .null

/-- `sorted` is `rows` in the order of the terms: nothing is lost or repeated, each row precedes
those behind it or ties with them and was in front of them, and rows without a value stand where the
terms put them. -/
structure OrderedBy (db : Database) (m : Model) (terms : List OrderTerm) (rows sorted : List Row) :
    Prop where
  perm : sorted.Perm rows
  /-- The rows are paired with the positions in which they were. -/
  ranked : ∃ ranked : List (Row × ℕ), ranked.Perm rows.zipIdx ∧ ranked.map Prod.fst = sorted ∧
    ranked.Pairwise fun a b =>
      PrecedesBy db m terms a.1 b.1 ∨ TiedBy db m terms a.1 b.1 ∧ a.2 < b.2
  nulls : ∀ earlier t later, terms = earlier ++ t :: later →
    sorted.Pairwise fun a b => TiedBy db m earlier a b → NullsPlaced db m t a b

/-! ### The comparison of two rows -/

variable {db : Database} {m : Model} {terms : List OrderTerm}

theorem sortKey_of_ok {path : List String} {row : Row} {v : Value}
    (h : db.valueAt m row path = .ok v) : sortKey db m path row = v := by
  rw [sortKey, h]

theorem keysCompare_iff {path : List String} {type : Option FieldType}
    (hwalk : db.registry.walk m path = .ok type) {o : Ordering} {a b : Row} :
    KeysCompare db m path o a b ↔ (sortKey db m path a).sortCompare (sortKey db m path b) = o := by
  obtain ⟨v, hv⟩ := Database.valueAt_ok_of_walk hwalk a
  obtain ⟨w, hw⟩ := Database.valueAt_ok_of_walk hwalk b
  rw [sortKey_of_ok hv, sortKey_of_ok hw, KeysCompare]
  constructor
  · rintro ⟨v', w', hv', hw', h⟩
    rw [hv] at hv'
    rw [hw] at hw'
    cases hv'
    cases hw'
    exact h
  · exact fun h => ⟨v, w, hv, hw, h⟩

theorem compareBy_eq_eq_iff {t : OrderTerm} {type : Option FieldType}
    (hwalk : db.registry.walk m t.path = .ok type) {a b : Row} :
    compareBy db m t a b = .eq ↔ KeysCompare db m t.path .eq a b := by
  rw [keysCompare_iff hwalk, compareBy, directed]
  split
  · exact Ordering.swap_eq_eq
  · rfl

theorem compareBy_eq_lt_iff {t : OrderTerm} {type : Option FieldType}
    (hwalk : db.registry.walk m t.path = .ok type) {a b : Row} :
    compareBy db m t a b = .lt ↔
      KeysCompare db m t.path (if t.descending then .gt else .lt) a b := by
  rw [keysCompare_iff hwalk, compareBy, directed]
  split
  · exact Ordering.swap_eq_lt
  · rfl

theorem compareByTerms_eq_eq_iff
    (hwalk : ∀ t ∈ terms, ∃ type, db.registry.walk m t.path = .ok type) {a b : Row} :
    compareByTerms db m terms a b = .eq ↔ TiedBy db m terms a b := by
  rw [compareByTerms, lexicographic_eq_eq_iff, List.forall_mem_map]
  refine forall₂_congr fun t ht => ?_
  obtain ⟨type, htype⟩ := hwalk t ht
  exact compareBy_eq_eq_iff htype

theorem compareByTerms_eq_lt_iff
    (hwalk : ∀ t ∈ terms, ∃ type, db.registry.walk m t.path = .ok type) {a b : Row} :
    compareByTerms db m terms a b = .lt ↔ PrecedesBy db m terms a b := by
  rw [compareByTerms, lexicographic_eq_lt_iff, PrecedesBy]
  constructor
  · -- the comparisons are those of the terms, and are split where the terms are
    rintro ⟨earlier', compare, later', hsplit, htied, hlt⟩
    obtain ⟨earlier, rest, rfl, rfl, hrest⟩ := List.map_eq_append_iff.mp hsplit
    obtain ⟨t, later, rfl, rfl, rfl⟩ := List.map_eq_cons_iff.mp hrest
    obtain ⟨type, htype⟩ := hwalk t (by simp)
    refine ⟨earlier, t, later, rfl, ?_, (compareBy_eq_lt_iff htype).mp hlt⟩
    rw [← compareByTerms_eq_eq_iff fun t' ht' => hwalk t' (by simp [ht']), compareByTerms,
      lexicographic_eq_eq_iff]
    exact htied
  · rintro ⟨earlier, t, later, rfl, htied, hlt⟩
    obtain ⟨type, htype⟩ := hwalk t (by simp)
    refine ⟨earlier.map (compareBy db m), compareBy db m t, later.map (compareBy db m), by simp, ?_,
      (compareBy_eq_lt_iff htype).mpr hlt⟩
    rw [← compareByTerms_eq_eq_iff fun t' ht' => hwalk t' (by simp [ht']), compareByTerms,
      lexicographic_eq_eq_iff] at htied
    exact htied

theorem leaves_sortKey_subset {rows : List Row} {path : List String} {type : Option FieldType}
    (hwalk : db.registry.walk m path = .ok type) {row : Row} (hrow : row ∈ rows) :
    (sortKey db m path row).leaves ⊆ keyLeaves db m rows path := by
  obtain ⟨v, hv⟩ := Database.valueAt_ok_of_walk hwalk row
  intro leaf hleaf
  rw [sortKey_of_ok hv] at hleaf
  refine List.mem_flatMap.mpr ⟨row, hrow, ?_⟩
  rw [hv]
  exact hleaf

/-- Rows are compared by a total preorder if the numbers at the end of each path agree. -/
theorem totalPreorderOn_compareByTerms {rows : List Row}
    (hwalk : ∀ t ∈ terms, ∃ type, db.registry.walk m t.path = .ok type)
    (hagree : ∀ t ∈ terms, NumbersAgree (keyLeaves db m rows t.path)) :
    TotalPreorderOn (compareByTerms db m terms) (· ∈ rows) := by
  apply TotalPreorderOn.lexicographic
  rw [List.forall_mem_map]
  intro t ht
  obtain ⟨type, htype⟩ := hwalk t ht
  have hkeys := totalPreorderOn_sortCompare (hagree t ht)
  exact (hkeys.comap fun row hrow => leaves_sortKey_subset htype hrow).directed t.descending

/-! ### Rows without a value -/

theorem eq_null_of_null_sortCompare {v : Value} (h : null.sortCompare v ≠ .lt) : v = .null := by
  cases v <;> simp [sortCompare] at h ⊢

theorem eq_null_of_sortCompare_null {v : Value} (h : v.sortCompare .null ≠ .gt) : v = .null := by
  cases v <;> simp [sortCompare] at h ⊢

theorem nullsPlaced_of_compareBy {t : OrderTerm} {type : Option FieldType}
    (hwalk : db.registry.walk m t.path = .ok type) {a b : Row} (h : compareBy db m t a b ≠ .gt) :
    NullsPlaced db m t a b := by
  obtain ⟨v, hv⟩ := Database.valueAt_ok_of_walk hwalk a
  obtain ⟨w, hw⟩ := Database.valueAt_ok_of_walk hwalk b
  rw [compareBy, directed, sortKey_of_ok hv, sortKey_of_ok hw] at h
  rw [NullsPlaced, hv, hw]
  split at h
  · rw [if_pos ‹_›]
    intro hnull
    cases hnull
    rw [eq_null_of_null_sortCompare fun hlt => h (Ordering.swap_eq_gt.mpr hlt)]
  · rw [if_neg ‹_›]
    intro hnull
    cases hnull
    rw [eq_null_of_sortCompare_null h]

/-- Where the terms in front tie, the next one decides where rows without a value stand. -/
theorem nullsPlaced_of_compareByTerms (earlier : List OrderTerm) {t : OrderTerm}
    (later : List OrderTerm) {type : Option FieldType}
    (hwalk : db.registry.walk m t.path = .ok type) {a b : Row}
    (htied : compareByTerms db m earlier a b = .eq)
    (h : compareByTerms db m (earlier ++ t :: later) a b ≠ .gt) : NullsPlaced db m t a b := by
  rw [compareByTerms, List.map_append, List.map_cons, lexicographic_append, ← compareByTerms, htied,
    Ordering.eq_then, lexicographic] at h
  refine nullsPlaced_of_compareBy hwalk fun hgt => h ?_
  rw [hgt]
  rfl

/-! ### Ordering -/

theorem checkTerms_eq_ok_iff (r : Registry) (m : Model) (terms : List OrderTerm) :
    checkTerms r m terms = .ok () ↔ ∀ t ∈ terms, ∃ type, r.walk m t.path = .ok type := by
  induction terms with
  | nil => simp [checkTerms]
  | cons t terms ih =>
    rw [checkTerms, List.forall_mem_cons]
    cases hwalk : r.walk m t.path with
    | error missing => simp
    | ok type => simp [ih]

/-- Ordering that succeeds has walked the path of every term. -/
theorem orderBy_eq_ok {s t : RowSet} {terms : List OrderTerm} (h : s.orderBy terms = .ok t) :
    (∀ term ∈ terms, ∃ type, s.db.registry.walk s.model term.path = .ok type) ∧
      t = { s with rows := stableSort (compareByTerms s.db s.model terms) s.rows } := by
  rw [orderBy] at h
  obtain ⟨_, hcheck, h⟩ := bind_eq_ok.mp h
  exact ⟨(checkTerms_eq_ok_iff _ _ _).mp hcheck, (Except.ok.inj h).symm⟩

/-- Ordering fails only at a term that names no field. -/
theorem orderBy_failsOnly (s : RowSet) (terms : List OrderTerm) :
    FailsOnly (fun e => ∃ missing, e = .noField missing) (s.orderBy terms) := by
  have hcheck : FailsOnly (fun e => ∃ missing, e = StoreError.noField missing)
      (checkTerms s.db.registry s.model terms) := by
    induction terms with
    | nil => exact failsOnly_ok _ _
    | cons t terms ih =>
      rw [checkTerms]
      split
      · rintro e ⟨⟩
        exact ⟨_, rfl⟩
      · exact ih
  rw [orderBy]
  exact FailsOnly.bind hcheck fun _ _ => failsOnly_ok _ _

/-- Sorting stably by the comparison of the terms is ordering by the terms. -/
theorem orderedBy_stableSort {rows : List Row}
    (hwalk : ∀ t ∈ terms, ∃ type, db.registry.walk m t.path = .ok type)
    (hcmp : TotalPreorderOn (compareByTerms db m terms) (· ∈ rows)) :
    OrderedBy db m terms rows (stableSort (compareByTerms db m terms) rows) := by
  have hstable := stablySorted_stableSort hcmp
  refine ⟨hstable.perm, ?_, ?_⟩
  · obtain ⟨ranked, hperm, hmap, hranked⟩ := hstable
    refine ⟨ranked, hperm, hmap, hranked.imp fun {a b} hab => ?_⟩
    rw [← compareByTerms_eq_eq_iff hwalk, ← compareByTerms_eq_lt_iff hwalk]
    exact hab
  · rintro earlier t later rfl
    obtain ⟨ranked, -, hmap, hranked⟩ := hstable
    rw [← hmap, List.pairwise_map]
    refine hranked.imp fun {a b} hab htied => ?_
    rw [← compareByTerms_eq_eq_iff fun t' ht' => hwalk t' (by simp [ht'])] at htied
    obtain ⟨type, htype⟩ := hwalk t (by simp)
    apply nullsPlaced_of_compareByTerms earlier later htype htied
    rcases hab with hlt | ⟨heq, -⟩
    · rw [hlt]
      decide
    · rw [heq]
      decide

/-- **Ordering sorts, keeps ties in order and loses no row**, if the terms' paths can be walked and
the numbers at the end of each agree. -/
theorem orderBy_sorts {s : RowSet} {terms : List OrderTerm}
    (hwalk : ∀ t ∈ terms, ∃ type, s.db.registry.walk s.model t.path = .ok type)
    (hagree : ∀ t ∈ terms, NumbersAgree (keyLeaves s.db s.model s.rows t.path)) :
    ∃ sorted, s.orderBy terms = .ok { s with rows := sorted } ∧
      OrderedBy s.db s.model terms s.rows sorted := by
  refine ⟨stableSort (compareByTerms s.db s.model terms) s.rows, ?_, ?_⟩
  · rw [orderBy, (checkTerms_eq_ok_iff _ _ _).mpr hwalk]
    rfl
  · exact orderedBy_stableSort hwalk (totalPreorderOn_compareByTerms hwalk hagree)

/-- By a descending term a row without a value goes behind one that has a value. -/
theorem orderBy_sorts_without_value :
    let m : Model := ⟨"t.T", "id", [.plain "n" (some .integer)]⟩
    let s : RowSet := ⟨.new (.ofList [m]), m, [.new (.int 1), (Row.new (.int 2)).set "n" (.int 7)]⟩
    ∃ sorted, s.orderBy [⟨"n", true⟩] = .ok { s with rows := sorted } ∧
      OrderedBy s.db s.model [⟨"n", true⟩] s.rows sorted := by
  intro m s
  have hpath : OrderTerm.path ⟨"n", true⟩ = ["n"] := by decide
  have hkeys : keyLeaves s.db s.model s.rows ["n"] = [.null, .int 7] := by rfl
  apply orderBy_sorts
  · rw [List.forall_mem_singleton, hpath]
    exact ⟨some .integer, rfl⟩
  · rw [List.forall_mem_singleton, hpath, hkeys]
    exact ⟨by simp, by simp⟩

end RecordQuery.RowSet
