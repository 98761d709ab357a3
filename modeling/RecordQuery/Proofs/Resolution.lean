import RecordQuery.Condition
import RecordQuery.Proofs.Failure
import RecordQuery.Proofs.MapWrites
import RecordQuery.Proofs.Path
import RecordQuery.Proofs.QualifiedKey
import RecordQuery.QueryFilter

/-!
# Resolved lookups

`Resolved` says what a clause becomes: a lookup under the qualified key, whose path can be walked
and whose value suits the operator.  Every lookup of a query that is set up from clauses is of this
form (`resolved_of_setupQuery`), and nothing but an unknown field, the number of values of a range
or a raw text keeps a query from being set up (`setupQuery_failsOnly`).

A store takes the qualified key apart again.  Its operator still suits the value
(`Resolved.operand_accepted`), and its path can still be walked if no name of the registry ends with
an underscore (`Resolved.path_walks`).
-/

namespace RecordQuery

/-! ### Values that suit an operator -/

/-- Every value suits `exact`. -/
theorem Condition.exists_ofOperator_exact (rhs : Value) :
    ∃ condition, ofOperator .exact rhs = .ok condition :=
  ⟨exact rhs, rfl⟩

/-- **A coerced value suits the operator** that it was coerced for. -/
theorem Resolver.exists_ofOperator_of_coerce {op : Operator} {c : Coercion} {raw : String}
    {zone : Offset} {v : Value} (h : coerce op c raw zone = .ok v) :
    ∃ condition, Condition.ofOperator op v = .ok condition := by
  rw [coerce] at h
  split at h
  · -- a truth value
    rename_i hop
    rw [mapError_eq_ok, map_eq_ok] at h
    obtain ⟨b, -, rfl⟩ := h
    rw [hop]
    exact ⟨.isNull b, rfl⟩
  · rename_i hnull
    split at h
    · -- a list
      rename_i hiter
      obtain ⟨items, -, h⟩ := bind_eq_ok.mp h
      split at h
      · cases h
      · rename_i hrange
        cases h
        cases op with
        | oneOf => exact ⟨.oneOf items, rfl⟩
        | range =>
          have hlength : items.length = 2 := by simpa using hrange
          obtain ⟨low, high, rfl⟩ := List.length_eq_two.mp hlength
          exact ⟨.range low high, rfl⟩
        | _ => simp [Operator.isIterable] at hiter
    · -- a single value, which all other operators take
      rename_i hiter
      cases op with
      | isnull => exact absurd rfl hnull
      | oneOf => exact absurd rfl hiter
      | range => exact absurd rfl hiter
      | _ => exact ⟨_, rfl⟩

/-! ### One clause -/

/-- What a clause becomes. -/
structure Resolved (r : Registry) (m : Model) (key : String) (lookup : String × Value) : Prop where
  /-- The operator is spelt out. -/
  qualified : lookup.1 = (Lookup.split key).qualified
  /-- The path can be walked. -/
  walks : ∃ type, r.walk m (Lookup.split key).path = .ok type
  /-- The value suits the operator. -/
  operand : ∃ condition,
    Condition.ofOperator (Lookup.split key).operator lookup.2 = .ok condition

/-- Whether an error is one that resolving a clause ends with. -/
def QueryError.isResolving : QueryError → Bool
  | unknownField _ | rangeArity _ | literal _ => true
  | _ => false

namespace Resolver

variable {s : Resolver} {r : Registry} {m : Model} {key raw : String} {reference : Option Value}

theorem resolved_of_resolve {lookup : String × Value}
    (h : s.resolve r m key raw reference = .ok (some lookup)) : Resolved r m key lookup := by
  rw [resolve] at h
  split at h
  · split at h <;> cases h
  · rename_i type hwalk
    obtain ⟨v, hv, h⟩ := bind_eq_ok.mp h
    cases h
    exact ⟨rfl, ⟨type, hwalk⟩, exists_ofOperator_of_coerce hv⟩

/-- Coercing fails with the number of values of a range or with a raw text. -/
theorem coerce_failsOnly (op : Operator) (c : Coercion) (raw : String) (zone : Offset) :
    FailsOnly (fun e => (∃ count, e = .rangeArity count) ∨ ∃ cause, e = .literal cause)
      (coerce op c raw zone) := by
  have hliteral : ∀ {α : Type} (x : Except LiteralError α),
      FailsOnly (fun e => (∃ count, e = .rangeArity count) ∨ ∃ cause, e = .literal cause)
        (x.mapError QueryError.literal) :=
    fun x => FailsOnly.mapError fun e _ => Or.inr ⟨e, rfl⟩
  rw [coerce]
  split
  · exact hliteral _
  · split
    · refine FailsOnly.bind (hliteral _) fun items _ => ?_
      split
      · rintro e ⟨⟩
        exact Or.inl ⟨_, rfl⟩
      · exact failsOnly_ok _ _
    · exact hliteral _

theorem resolve_failsOnly (s : Resolver) (r : Registry) (m : Model) (key raw : String)
    (reference : Option Value) :
    FailsOnly (fun e => e.isResolving) (s.resolve r m key raw reference) := by
  rw [resolve]
  split
  · split
    · rintro e ⟨⟩
      rfl
    · exact failsOnly_ok _ _
  · refine FailsOnly.bind ((coerce_failsOnly _ _ _ _).mono ?_) fun v _ => failsOnly_ok _ _
    rintro e (⟨count, rfl⟩ | ⟨cause, rfl⟩) <;> rfl

end Resolver

/-! ### All clauses -/

namespace QueryFilter

variable {r : Registry} {m : Model}

theorem resolved_of_resolveAll {s : Resolver} {clauses : List (String × String)}
    {lookups : List (String × Value)} (h : resolveAll s r m clauses = .ok lookups)
    {lookup : String × Value} (hmem : lookup ∈ lookups) : ∃ key, Resolved r m key lookup := by
  induction clauses generalizing lookups with
  | nil =>
    cases h
    cases hmem
  | cons clause rest ih =>
    obtain ⟨key, raw⟩ := clause
    rw [resolveAll] at h
    obtain ⟨resolved, hresolved, h⟩ := bind_eq_ok.mp h
    obtain ⟨others, hothers, h⟩ := bind_eq_ok.mp h
    cases h
    rcases List.mem_append.mp hmem with hmem | hmem
    · rw [Option.mem_toList] at hmem
      rw [hmem] at hresolved
      exact ⟨key, Resolver.resolved_of_resolve hresolved⟩
    · exact ih hothers hmem

/-- Every lookup of a query is what some clause becomes. -/
theorem resolved_of_setupQuery {f : QueryFilter} {clauses : Clauses} {query : ResolvedQuery}
    (h : f.setupQuery r m clauses = .ok query) {lookup : String × Value}
    (hmem : lookup ∈ query.toList) : ∃ key, Resolved r m key lookup := by
  rw [setupQuery, map_eq_ok] at h
  obtain ⟨lookups, hlookups, rfl⟩ := h
  exact resolved_of_resolveAll hlookups (OrderedMap.mem_of_mem_ofList hmem)

/-- Setting up a query fails as resolving one of its clauses does. -/
theorem setupQuery_failsOnly_of_resolve {P : QueryError → Prop} {f : QueryFilter}
    (h : ∀ key raw, FailsOnly P (f.resolver.resolve r m key raw none)) (clauses : Clauses) :
    FailsOnly P (f.setupQuery r m clauses) := by
  rw [setupQuery]
  apply FailsOnly.map
  induction clauses.toList with
  | nil => exact failsOnly_ok _ _
  | cons clause rest ih =>
    obtain ⟨key, raw⟩ := clause
    rw [resolveAll]
    refine FailsOnly.bind (h key raw) fun resolved _ => ?_
    exact FailsOnly.bind ih fun others _ => failsOnly_ok _ _

/-- A query is set up unless a clause cannot be resolved. -/
theorem setupQuery_failsOnly (f : QueryFilter) (r : Registry) (m : Model) (clauses : Clauses) :
    FailsOnly (fun e => e.isResolving) (f.setupQuery r m clauses) :=
  setupQuery_failsOnly_of_resolve (fun key raw => f.resolver.resolve_failsOnly r m key raw none) _

end QueryFilter

/-! ### Taking the qualified key apart -/

/-- No name of a field or of its column ends with an underscore. -/
def Registry.NamesClosed (r : Registry) : Prop :=
  ∀ m ∈ r.toList, ∀ d ∈ m.fields,
    d.name.toList.getLast? ≠ some '_' ∧ d.attname.toList.getLast? ≠ some '_'

namespace Resolved

variable {r : Registry} {m : Model} {key : String} {lookup : String × Value}

/-- The operator that is read back takes the value. -/
theorem operand_accepted (h : Resolved r m key lookup) :
    ∃ condition,
      Condition.ofOperator (Lookup.split lookup.1).operator lookup.2 = .ok condition := by
  rw [h.qualified]
  rcases Lookup.operator_split_qualified key with hop | hop
  · rw [hop]
    exact h.operand
  · rw [hop]
    exact Condition.exists_ofOperator_exact lookup.2

/-- The path that is read back can be walked if no name ends with an underscore. -/
theorem path_walks (h : Resolved r m key lookup) (hm : m ∈ r.toList) (hclosed : r.NamesClosed) :
    ∃ type, r.walk m (Lookup.split lookup.1).path = .ok type := by
  obtain ⟨type, htype⟩ := h.walks
  have hopen : ¬ Lookup.EndsOpen (Lookup.split key).path := by
    obtain ⟨name, hlast, m', hm', d, hd, hname⟩ := Registry.exists_fieldDef_of_walk hm htype
    rw [Lookup.EndsOpen, hlast, Option.bind_some]
    rcases hname with rfl | rfl
    · exact (hclosed m' hm' d hd).1
    · exact (hclosed m' hm' d hd).2
  rw [h.qualified, Lookup.split_qualified_split hopen]
  exact ⟨type, htype⟩

end Resolved

end RecordQuery
