import RecordQuery.Proofs.NarrowingLaws

/-!
# Asking for the absence of a value

A condition is asked of the atoms of a value, which are what remains of it when every list that has
items gives way to its items: scalars, the absence of a value, and empty lists.  A value satisfies a
condition exactly if one of its atoms does (`Condition.evaluate_eq_any_atoms`).

Equality with the absence of a value and `isNull` both ask whether there is no value.  They differ on
empty lists alone, which satisfy only the latter.  So they agree on a value unless an empty list is
among its atoms and the absence of a value is not (`Value.EmptyNotAbsent`), and as queries they keep
the same rows of a set unless some row has such a value at the end of the path
(`RowSet.absence_queries_agree_iff`).
-/

namespace RecordQuery

/-! ### Atoms -/

namespace Value

mutual

/-- What conditions are asked of in a value: scalars, the absence of a value, and empty lists. -/
def atoms : Value → List Value
  | list (item :: items) => atoms item ++ itemAtoms items
  | v => [v]

/-- What conditions are asked of in the items of a list. -/
def itemAtoms : List Value → List Value
  | [] => []
  | item :: items => atoms item ++ itemAtoms items

end

/-- An empty list occurs, at some depth, and no absent value beside it. -/
def EmptyNotAbsent (v : Value) : Prop := list [] ∈ v.atoms ∧ null ∉ v.atoms

end Value

namespace Condition

open Value (atoms itemAtoms)

/-- The answer for an atom; a list that has items is none. -/
def answerAtom (c : Condition) : Value → Bool
  | .null => c.onNull
  | .list [] => c.onEmpty
  | .list (_ :: _) => false
  | v => c.holds v

mutual

/-- **A value satisfies a condition exactly if one of its atoms does.** -/
theorem evaluate_eq_any_atoms (c : Condition) (v : Value) :
    c.evaluate v = v.atoms.any c.answerAtom := by
  match v with
  | .list (item :: items) =>
    rw [evaluate, atoms, List.any_append, evaluate_eq_any_atoms c item,
      evaluateAny_eq_any_atoms c items]
  | .list [] | .null | .bool _ | .int _ | .float _ | .text _ | .dateTime _ =>
    simp [evaluate, atoms, answerAtom]

theorem evaluateAny_eq_any_atoms (c : Condition) (items : List Value) :
    c.evaluateAny items = (itemAtoms items).any c.answerAtom := by
  match items with
  | [] => rfl
  | item :: items =>
    rw [evaluateAny, itemAtoms, List.any_append, evaluate_eq_any_atoms c item,
      evaluateAny_eq_any_atoms c items]

end

/-! ### Absence -/

/-- Equality with the absence of a value asks whether a value is absent somewhere. -/
theorem evaluate_exact_null (v : Value) : (exact .null).evaluate v = true ↔ .null ∈ v.atoms := by
  have hatom : ∀ atom, (exact .null).answerAtom atom = true ↔ atom = .null := by
    intro atom
    rcases atom with _ | _ | _ | _ | _ | _ | (_ | _) <;>
      simp [answerAtom, onNull, onEmpty, holds, sameValue, Value.compare?, Value.toBinary64?,
        Value.equals, Value.isNull]
  rw [evaluate_eq_any_atoms, List.any_eq_true]
  simp only [hatom, exists_eq_right]

/-- `isNull` asks whether a value is absent somewhere, or a list is empty. -/
theorem evaluate_isNull_true (v : Value) :
    (isNull true).evaluate v = true ↔ .null ∈ v.atoms ∨ .list [] ∈ v.atoms := by
  have hatom : ∀ atom, (isNull true).answerAtom atom = true ↔ atom = .null ∨ atom = .list [] := by
    intro atom
    rcases atom with _ | _ | _ | _ | _ | _ | (_ | _) <;>
      simp [answerAtom, onNull, onEmpty, holds]
  rw [evaluate_eq_any_atoms, List.any_eq_true]
  simp only [hatom, and_or_left, exists_or, exists_eq_right]

/-- Both ways of asking for the absence of a value agree, unless a list is empty and no value is
absent. -/
theorem evaluate_exact_null_eq_iff (v : Value) :
    (exact .null).evaluate v = (isNull true).evaluate v ↔ ¬ v.EmptyNotAbsent := by
  rw [Bool.eq_iff_iff, evaluate_exact_null, evaluate_isNull_true, Value.EmptyNotAbsent]
  tauto

end Condition

namespace RowSet

/-! ### Queries for absence -/

variable {db : Database} {m : Model}

/-- A lookup that has a condition, along a path that can be walked, is answered by what it comes to
at the end of the path. -/
theorem satisfies_of_valueAt {row : Row} {key : String} {rhs v : Value} {c : Condition}
    (hcondition : Condition.ofOperator (Lookup.split key).operator rhs = .ok c)
    (hvalue : db.valueAt m row (Lookup.split key).path = .ok v) :
    satisfies db m row key rhs = .ok (c.evaluate v) := by
  rw [satisfies, hcondition, hvalue]
  rfl

/-- A query of one lookup keeps the rows that satisfy its condition, if it has one and its path can be
walked. -/
theorem filter_singleton {s : RowSet} {key : String} {rhs : Value} {c : Condition}
    {type : Option FieldType}
    (hcondition : Condition.ofOperator (Lookup.split key).operator rhs = .ok c)
    (hwalk : s.db.registry.walk s.model (Lookup.split key).path = .ok type) :
    s.filter (.ofList [(key, rhs)]) = .ok { s with rows := s.rows.filter fun row =>
      (s.db.valueAt s.model row (Lookup.split key).path).toOption.any c.evaluate } := by
  have hlookups : (OrderedMap.ofList [(key, rhs)]).toList = [(key, rhs)] := rfl
  rw [filter_eq_ok_iff, hlookups]
  constructor
  · intro row _
    obtain ⟨v, hv⟩ := Database.valueAt_ok_of_walk hwalk row
    exact answers_cons_iff.mpr ⟨⟨_, satisfies_of_valueAt hcondition hv⟩, fun _ => ⟨true, rfl⟩⟩
  · have hmatches : matchesAll s.db s.model [(key, rhs)] = fun row =>
        (s.db.valueAt s.model row (Lookup.split key).path).toOption.any c.evaluate := by
      funext row
      obtain ⟨v, hv⟩ := Database.valueAt_ok_of_walk hwalk row
      simp [matchesAll, satisfies_eq_ok (satisfies_of_valueAt hcondition hv), hv, Except.toOption]
    rw [hmatches]

/-- Two tests keep the same elements of a list exactly if they agree on each of them. -/
theorem filter_eq_filter_iff {α : Type} {p q : α → Bool} {list : List α} :
    list.filter p = list.filter q ↔ ∀ a ∈ list, p a = q a := by
  constructor
  · intro h a ha
    have hmem : a ∈ list.filter p ↔ a ∈ list.filter q := by rw [h]
    simp only [List.mem_filter, ha, true_and] at hmem
    exact Bool.eq_iff_iff.mpr hmem
  · exact List.filter_congr

/-- **Both ways of asking for the absence of a value agree exactly where no list is empty without a
value being absent beside it**: on a value, and as queries, which then keep the same rows. -/
theorem absence_queries_agree_iff (s : RowSet) :
    (∀ v : Value, (Condition.exact .null).evaluate v = (Condition.isNull true).evaluate v ↔
      ¬ v.EmptyNotAbsent) ∧
    ∀ (key key' : String) (type : Option FieldType),
      (Lookup.split key).operator = .exact →
      Lookup.split key' = ⟨(Lookup.split key).path, .isnull⟩ →
      s.db.registry.walk s.model (Lookup.split key).path = .ok type →
      (s.filter (.ofList [(key, .null)]) = s.filter (.ofList [(key', .bool true)]) ↔
        ∀ row ∈ s.rows, ∀ v, s.db.valueAt s.model row (Lookup.split key).path = .ok v →
          ¬ v.EmptyNotAbsent) := by
  refine ⟨Condition.evaluate_exact_null_eq_iff, fun key key' type hexact hisnull hwalk => ?_⟩
  have hequal : Condition.ofOperator (Lookup.split key).operator .null =
      .ok (.exact .null) := by
    rw [hexact]
    rfl
  have habsent : Condition.ofOperator (Lookup.split key').operator (.bool true) =
      .ok (.isNull true) := by
    rw [hisnull]
    rfl
  have hwalk' : s.db.registry.walk s.model (Lookup.split key').path = .ok type := by
    rw [hisnull]
    exact hwalk
  rw [filter_singleton hequal hwalk, filter_singleton habsent hwalk', Except.ok.injEq,
    RowSet.mk.injEq, hisnull]
  simp only [true_and, filter_eq_filter_iff]
  refine forall₂_congr fun row _ => ?_
  obtain ⟨v, hv⟩ := Database.valueAt_ok_of_walk hwalk row
  simp [hv, Except.toOption, Condition.evaluate_exact_null_eq_iff]

/-- Someone with an empty list of friends has none by the one query, and is passed over by the
other. -/
theorem absence_queries_agree_iff_friends :
    let m : Model := ⟨"t.T", "id", [.plain "id" (some .integer), .related "friends" "t.T"]⟩
    let row : Row := (Row.new (.int 1)).set "friends" (.list [])
    let s : RowSet := ⟨.new (.ofList [m]), m, [row]⟩
    (Lookup.split "friends__exact").operator = .exact ∧
      Lookup.split "friends__isnull" = ⟨(Lookup.split "friends__exact").path, .isnull⟩ ∧
      s.db.registry.walk s.model (Lookup.split "friends__exact").path = .ok (some .integer) ∧
      s.filter (.ofList [("friends__exact", .null)]) ≠
        s.filter (.ofList [("friends__isnull", .bool true)]) := by
  intro m row s
  have hexact : Lookup.split "friends__exact" = ⟨["friends"], .exact⟩ := by decide
  have hisnull : Lookup.split "friends__isnull" = ⟨["friends"], .isnull⟩ := by decide
  have hwalk : s.db.registry.walk s.model ["friends"] = .ok (some .integer) := by cbv
  have hvalue : s.db.valueAt s.model row ["friends"] = .ok (.list []) := by cbv
  have hempty : (Value.list []).EmptyNotAbsent := by simp [Value.EmptyNotAbsent, Value.atoms]
  have hagree := (absence_queries_agree_iff s).2 "friends__exact" "friends__isnull" (some .integer)
  rw [hexact] at hagree ⊢
  refine ⟨rfl, hisnull, hwalk, fun hsame => ?_⟩
  exact (hagree rfl hisnull hwalk).mp hsame row List.mem_cons_self _ hvalue hempty

end RowSet

end RecordQuery
