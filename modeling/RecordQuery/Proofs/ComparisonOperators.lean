import RecordQuery.Proofs.AbsentValues

/-!
# The comparison operators

What a value answers to `gt`, `gte`, `lt`, `lte`, `exact`, `in` or `range` is a matter of how it
compares with the right-hand side.  A scalar on the right equals what compares with it as equal and
nothing else (`Condition.sameValue_of_scalar`), so `exact` is one more comparison, and a comparison
that accepts more than another one is a disjunction (`Condition.evaluate_compares_append`).  That
goes through lists of any depth, as a list answers yes if one of its items does.

The laws of the operators follow (`Condition.comparisons_algebra`).  Of lists only the disjunctions
hold: one item may be less than the right-hand side and another one greater, and the items may lie
on both sides of a range and none within.
-/

namespace RecordQuery

namespace Value

/-- There is a value, and it is no list. -/
def IsScalar (v : Value) : Prop := v ≠ null ∧ ∀ items, v ≠ list items

theorem IsScalar.isNull_eq_false {v : Value} (h : v.IsScalar) : v.isNull = false := by
  cases v with
  | null => exact absurd rfl h.1
  | _ => rfl

theorem atoms_of_unlisted {v : Value} (h : ∀ items, v ≠ list items) : v.atoms = [v] := by
  cases v with
  | list items => exact absurd rfl (h items)
  | _ => simp [atoms]

/-- What equals a scalar compares with it as equal. -/
theorem compare?_of_equals {v t : Value} (ht : t.IsScalar) (h : v.equals t = true) :
    v.compare? t = some .eq := by
  unfold equals at h
  split at h
  · exact absurd rfl ht.1
  · exact congrArg some (compare_eq_iff_eq.mpr (of_decide_eq_true h))
  · exact congrArg some (compare_eq_iff_eq.mpr (congrArg Int64.toInt (of_decide_eq_true h)))
  · exact of_decide_eq_true h
  · exact congrArg some (compare_eq_iff_eq.mpr (of_decide_eq_true h))
  · exact congrArg some (compare_eq_iff_eq.mpr (of_decide_eq_true h))
  · exact absurd rfl (ht.2 _)
  · cases h

end Value

namespace Condition

/-- What a value answers to an operator with a right-hand side, if the operator takes it. -/
def ask (op : Operator) (rhs v : Value) : Except OperandError Bool :=
  (ofOperator op rhs).map fun condition => condition.evaluate v

/-! ### Atoms -/

/-- A scalar equals what compares with it as equal and nothing else. -/
theorem sameValue_of_scalar {t : Value} (ht : t.IsScalar) (v : Value) :
    sameValue v t = (v.compare? t).any ([Ordering.eq].contains ·) := by
  unfold sameValue
  cases hequals : v.equals t with
  | true => simp [Value.compare?_of_equals ht hequals]
  | false => rcases v.compare? t with _ | _ | _ | _ <;> rfl

theorem answerAtom_compares (accepted : List Ordering) (t atom : Value) :
    (compares accepted t).answerAtom atom = (atom.compare? t).any (accepted.contains ·) := by
  unfold answerAtom
  split <;> rfl

theorem answerAtom_exact {t : Value} (ht : t.IsScalar) (atom : Value) :
    (exact t).answerAtom atom = (compares [.eq] t).answerAtom atom := by
  unfold answerAtom
  split
  · exact ht.isNull_eq_false
  · rfl
  · rfl
  · exact sameValue_of_scalar ht _

theorem answerAtom_oneOf_cons {t : Value} (ht : t.IsScalar) (targets : List Value) (atom : Value) :
    (oneOf (t :: targets)).answerAtom atom =
      ((exact t).answerAtom atom || (oneOf targets).answerAtom atom) := by
  unfold answerAtom
  split
  · show false = (t.isNull || false)
    rw [ht.isNull_eq_false, Bool.or_false]
  · rfl
  · rfl
  · rfl

theorem answerAtom_range (low high atom : Value) :
    (range low high).answerAtom atom =
      ((compares [.gt, .eq] low).answerAtom atom &&
        (compares [.lt, .eq] high).answerAtom atom) := by
  unfold answerAtom
  split <;> rfl

/-! ### Values -/

/-- What is a disjunction for atoms is one for the lists that they stand in. -/
theorem evaluate_or {c d e : Condition}
    (h : ∀ atom, c.answerAtom atom = (d.answerAtom atom || e.answerAtom atom)) (v : Value) :
    c.evaluate v = (d.evaluate v || e.evaluate v) := by
  rw [evaluate_eq_any_atoms, evaluate_eq_any_atoms, evaluate_eq_any_atoms]
  induction v.atoms with
  | nil => rfl
  | cons atom atoms ih =>
    rw [List.any_cons, List.any_cons, List.any_cons, ih, h]
    ac_rfl

/-- A value that is no list is asked itself. -/
theorem evaluate_of_unlisted {v : Value} (hv : ∀ items, v ≠ .list items) (c : Condition) :
    c.evaluate v = c.answerAtom v := by
  rw [evaluate_eq_any_atoms, Value.atoms_of_unlisted hv, List.any_cons, List.any_nil, Bool.or_false]

theorem evaluate_exact_of_scalar {t : Value} (ht : t.IsScalar) (v : Value) :
    (exact t).evaluate v = (compares [.eq] t).evaluate v := by
  rw [evaluate_eq_any_atoms, evaluate_eq_any_atoms]
  exact congrArg v.atoms.any (funext fun atom => answerAtom_exact ht atom)

theorem evaluate_compares_append (accepted others : List Ordering) (t v : Value) :
    (compares (accepted ++ others) t).evaluate v =
      ((compares accepted t).evaluate v || (compares others t).evaluate v) := by
  apply evaluate_or
  intro atom
  rw [answerAtom_compares, answerAtom_compares, answerAtom_compares]
  cases atom.compare? t with
  | none => rfl
  | some order => simp

theorem evaluate_oneOf {targets : List Value} (h : ∀ t ∈ targets, t.IsScalar) (v : Value) :
    (oneOf targets).evaluate v = targets.any fun t => (exact t).evaluate v := by
  induction targets with
  | nil =>
    have hatom : ∀ atom, (oneOf []).answerAtom atom = false := by
      intro atom
      unfold answerAtom
      split <;> rfl
    rw [evaluate_eq_any_atoms]
    show v.atoms.any (oneOf []).answerAtom = false
    simp [hatom]
  | cons t targets ih =>
    obtain ⟨ht, htargets⟩ := List.forall_mem_cons.mp h
    rw [List.any_cons, ← ih htargets]
    exact evaluate_or (answerAtom_oneOf_cons ht targets) v

theorem evaluate_range {v : Value} (hv : ∀ items, v ≠ .list items) (low high : Value) :
    (range low high).evaluate v =
      ((compares [.gt, .eq] low).evaluate v && (compares [.lt, .eq] high).evaluate v) := by
  rw [evaluate_of_unlisted hv, evaluate_of_unlisted hv, evaluate_of_unlisted hv, answerAtom_range]

/-- Of being less, equal and greater one holds if the values compare, and none otherwise. -/
theorem count_evaluate {t v : Value} (ht : t.IsScalar) (hv : ∀ items, v ≠ .list items) :
    [(compares [.lt] t).evaluate v, (exact t).evaluate v,
      (compares [.gt] t).evaluate v].count true = if (v.compare? t).isSome then 1 else 0 := by
  rw [evaluate_exact_of_scalar ht, evaluate_of_unlisted hv, evaluate_of_unlisted hv,
    evaluate_of_unlisted hv, answerAtom_compares, answerAtom_compares, answerAtom_compares]
  rcases v.compare? t with _ | _ | _ | _ <;> rfl

/-! ### Operators -/

theorem ask_of_ofOperator {op : Operator} {rhs : Value} {c : Condition}
    (h : ofOperator op rhs = .ok c) (v : Value) : ask op rhs v = .ok (c.evaluate v) := by
  rw [ask, h]
  rfl

/-- **The comparison operators form one algebra.**  To be at least a scalar is to be greater or
equal, to be at most a scalar is to be less or equal, and to be one of several scalars is to equal
one of them.  If the value is no list, exactly one of less, equal and greater holds where the values
compare, and none where they do not, and to lie in a range is to be at least the one bound and at
most the other. -/
theorem comparisons_algebra (v : Value) :
    (∀ t : Value, t.IsScalar → ∃ less equal greater : Bool,
      ask .lt t v = .ok less ∧ ask .exact t v = .ok equal ∧ ask .gt t v = .ok greater ∧
      ask .gte t v = .ok (greater || equal) ∧ ask .lte t v = .ok (less || equal) ∧
      ((∀ items, v ≠ .list items) →
        [less, equal, greater].count true = if (v.compare? t).isSome then 1 else 0)) ∧
    (∀ targets : List Value, (∀ t ∈ targets, t.IsScalar) → ∃ equal : Value → Bool,
      (∀ t ∈ targets, ask .exact t v = .ok (equal t)) ∧
      ask .oneOf (.list targets) v = .ok (targets.any equal)) ∧
    ((∀ items, v ≠ .list items) → ∀ low high : Value, ∃ above below : Bool,
      ask .gte low v = .ok above ∧ ask .lte high v = .ok below ∧
      ask .range (.list [low, high]) v = .ok (above && below)) := by
  refine ⟨fun t ht => ?_, fun targets htargets => ?_, fun hv low high => ?_⟩
  · refine ⟨(compares [.lt] t).evaluate v, (exact t).evaluate v, (compares [.gt] t).evaluate v,
      rfl, rfl, rfl, ?_, ?_, count_evaluate ht⟩
    · rw [evaluate_exact_of_scalar ht, ← evaluate_compares_append]
      exact ask_of_ofOperator rfl v
    · rw [evaluate_exact_of_scalar ht, ← evaluate_compares_append]
      exact ask_of_ofOperator rfl v
  · refine ⟨fun t => (exact t).evaluate v, fun t _ => rfl, ?_⟩
    rw [← evaluate_oneOf htargets]
    exact ask_of_ofOperator rfl v
  · refine ⟨(compares [.gt, .eq] low).evaluate v, (compares [.lt, .eq] high).evaluate v,
      rfl, rfl, ?_⟩
    rw [← evaluate_range hv]
    exact ask_of_ofOperator rfl v

/-- An integer equals `2 ^ 53` after it has been rounded, alone and in a list behind a NaN. -/
theorem comparisons_algebra_rounded :
    let t : Value := .float ⟨0x4340000000000000⟩
    let n : Value := .int 9007199254740993
    let v : Value := .list [.float ⟨0x7FF8000000000000⟩, .list [n]]
    t.IsScalar ∧ (∀ items, n ≠ .list items) ∧
      ask .gte t v = .ok true ∧ ask .oneOf (.list [.text "a", t]) v = .ok true ∧
      ask .range (.list [t, t]) n = .ok true ∧
      ∃ less greater : Bool, ask .lt t n = .ok less ∧ ask .gt t n = .ok greater ∧
        [less, true, greater].count true = 1 := by
  intro t n v
  have ht : t.IsScalar := ⟨by simp [t], by simp [t]⟩
  have htargets : ∀ t' ∈ [.text "a", t], t'.IsScalar := by simp [Value.IsScalar, t]
  have hn : ∀ items, n ≠ .list items := by simp [n]
  have hcompare : n.compare? t = some .eq := by
    show (Value.int 9007199254740993).compare? (.float ⟨0x4340000000000000⟩) = some .eq
    decide
  have hexactItem : ask .exact t n = .ok true := by
    rw [ask_of_ofOperator rfl, evaluate_exact_of_scalar ht, evaluate_of_unlisted hn,
      answerAtom_compares, hcompare]
    rfl
  have hexact : ask .exact t v = .ok true := by
    have hitem : (exact t).evaluate n = true := Except.ok.inj hexactItem
    refine congrArg Except.ok ?_
    show ((exact t).evaluate _ || ((exact t).evaluate n || false || false)) = true
    rw [hitem, Bool.true_or, Bool.true_or, Bool.or_true]
  obtain ⟨hlaws, honeOf, -⟩ := comparisons_algebra v
  obtain ⟨hlawsItem, -, hrange⟩ := comparisons_algebra n
  obtain ⟨less, equal, greater, hless, hequal, hgreater, hgte, hlte, hone⟩ := hlawsItem t ht
  obtain rfl : true = equal := Except.ok.inj (hexactItem.symm.trans hequal)
  rw [Bool.or_true] at hgte hlte
  refine ⟨ht, hn, ?_, ?_, ?_, less, greater, hless, hgreater, ?_⟩
  · obtain ⟨_, equal, greater', -, hequal, -, hgte', -⟩ := hlaws t ht
    obtain rfl : true = equal := Except.ok.inj (hexact.symm.trans hequal)
    rwa [Bool.or_true] at hgte'
  · obtain ⟨equal, hequal, hanswer⟩ := honeOf [.text "a", t] htargets
    have ht' : true = equal t := Except.ok.inj (hexact.symm.trans (hequal t (by simp)))
    rwa [List.any_cons, List.any_cons, ← ht', Bool.true_or, Bool.or_true] at hanswer
  · obtain ⟨above, below, habove, hbelow, hanswer⟩ := hrange hn t t
    obtain rfl : true = above := Except.ok.inj (hgte.symm.trans habove)
    obtain rfl : true = below := Except.ok.inj (hlte.symm.trans hbelow)
    exact hanswer
  · rw [hone hn, hcompare]
    rfl

end Condition

end RecordQuery
