import Mathlib
import RecordQuery.Proofs.Resolution

/-!
# Lenient and strict resolving

A lenient resolver skips the clauses whose path cannot be walked, and a strict one fails at them.
They do the same with all other clauses (`resolve_of_walk`).  So a query that is set up leniently is
the one that is set up strictly from the clauses that are known, with the same lookups in the same
order or the same error (`setupQuery_lenient`).

The registry may be any.  Nothing is asked of the keys that its models stand under, so that models
with one label can stand side by side, as those that declarations describe may.
-/

namespace RecordQuery

/-- Whether the path of a clause key can be walked. -/
def Registry.knows (r : Registry) (m : Model) (key : String) : Bool :=
  (r.walk m (Lookup.split key).path).isOk

theorem Registry.knows_eq_true_iff {r : Registry} {m : Model} {key : String} :
    r.knows m key = true ↔ ∃ type, r.walk m (Lookup.split key).path = .ok type := by
  unfold knows
  cases r.walk m (Lookup.split key).path <;> simp [Except.isOk, Except.toBool]

theorem Registry.knows_eq_false_iff {r : Registry} {m : Model} {key : String} :
    r.knows m key = false ↔ ∃ missing, r.walk m (Lookup.split key).path = .error missing := by
  unfold knows
  cases r.walk m (Lookup.split key).path <;> simp [Except.isOk, Except.toBool]

/-- The entries whose key is to be kept. -/
def OrderedMap.restrict {α : Type} (m : OrderedMap α) (keep : String → Bool) : OrderedMap α :=
  ⟨m.entries.filter fun e => keep e.1, (List.filter_sublist.map Prod.fst).nodup m.nodup⟩

theorem OrderedMap.restrict_eq_self {α : Type} {m : OrderedMap α} {keep : String → Bool}
    (h : ∀ key ∈ m.keys, keep key = true) : m.restrict keep = m :=
  eq_of_entries_eq (List.filter_eq_self.mpr fun _ he => h _ (List.mem_map_of_mem he))

/-! ### One clause -/

namespace Resolver

variable {s t : Resolver} {r : Registry} {m : Model} {key : String}

/-- Resolvers of the same zone agree on a clause whose path can be walked. -/
theorem resolve_of_walk {type : Option FieldType}
    (h : r.walk m (Lookup.split key).path = .ok type) (hzone : s.zone = t.zone) (raw : String)
    (reference : Option Value) :
    s.resolve r m key raw reference = t.resolve r m key raw reference := by
  rw [resolve, resolve, h, hzone]

theorem resolve_of_strict {missing : Registry.MissingField}
    (h : r.walk m (Lookup.split key).path = .error missing) (hs : s.strict = true) (raw : String)
    (reference : Option Value) :
    s.resolve r m key raw reference = .error (.unknownField missing) := by
  rw [resolve, h]
  exact if_pos hs

theorem resolve_of_lenient {missing : Registry.MissingField}
    (h : r.walk m (Lookup.split key).path = .error missing) (hs : s.strict = false) (raw : String)
    (reference : Option Value) : s.resolve r m key raw reference = .ok none := by
  rw [resolve, h]
  exact if_neg (by simp [hs])

/-- A lenient resolver does not fail for a field that is missing. -/
theorem resolve_failsOnly_of_lenient (hs : s.strict = false) (r : Registry) (m : Model)
    (key raw : String) (reference : Option Value) :
    FailsOnly (fun e => ∀ missing, e ≠ .unknownField missing)
      (s.resolve r m key raw reference) := by
  cases hwalk : r.walk m (Lookup.split key).path with
  | error missing =>
    rw [resolve_of_lenient hwalk hs]
    exact failsOnly_ok _ _
  | ok type =>
    rw [resolve, hwalk]
    refine FailsOnly.bind ((coerce_failsOnly _ _ _ _).mono ?_) fun v _ => failsOnly_ok _ _
    rintro e (⟨count, rfl⟩ | ⟨cause, rfl⟩) missing h <;> cases h

end Resolver

/-! ### All clauses -/

namespace QueryFilter

variable {s t : Resolver} {r : Registry} {m : Model}

/-- Resolving leniently is resolving strictly what is known. -/
theorem resolveAll_lenient (hs : s.strict = false) (hzone : s.zone = t.zone)
    (clauses : List (String × String)) :
    resolveAll s r m clauses =
      resolveAll t r m (clauses.filter fun clause => r.knows m clause.1) := by
  induction clauses with
  | nil => rfl
  | cons clause rest ih =>
    obtain ⟨key, raw⟩ := clause
    cases hknows : r.knows m key with
    | true =>
      obtain ⟨type, hwalk⟩ := Registry.knows_eq_true_iff.mp hknows
      rw [List.filter_cons, if_pos hknows, resolveAll, resolveAll, ih,
        Resolver.resolve_of_walk hwalk hzone]
    | false =>
      obtain ⟨missing, hwalk⟩ := Registry.knows_eq_false_iff.mp hknows
      rw [List.filter_cons, if_neg (by simp [hknows]), resolveAll,
        Resolver.resolve_of_lenient hwalk hs, ih]
      -- nothing is put in front of what the other clauses resolve to
      cases resolveAll t r m (rest.filter fun clause => r.knows m clause.1) <;> rfl

theorem knows_of_resolveAll_strict (ht : t.strict = true) {clauses : List (String × String)}
    {lookups : List (String × Value)} (h : resolveAll t r m clauses = .ok lookups) :
    ∀ clause ∈ clauses, r.knows m clause.1 = true := by
  induction clauses generalizing lookups with
  | nil => simp
  | cons clause rest ih =>
    obtain ⟨key, raw⟩ := clause
    rw [resolveAll] at h
    obtain ⟨resolved, hresolved, h⟩ := bind_eq_ok.mp h
    obtain ⟨others, hothers, -⟩ := bind_eq_ok.mp h
    refine List.forall_mem_cons.mpr ⟨?_, ih hothers⟩
    refine (Bool.eq_false_or_eq_true _).resolve_right fun hunknown => ?_
    obtain ⟨missing, hwalk⟩ := Registry.knows_eq_false_iff.mp hunknown
    rw [Resolver.resolve_of_strict hwalk ht] at hresolved
    cases hresolved

variable {lenient strict : QueryFilter}

theorem knows_of_setupQuery_strict (hstrict : strict.resolver.strict = true) {clauses : Clauses}
    {query : ResolvedQuery} (h : strict.setupQuery r m clauses = .ok query) :
    ∀ key ∈ clauses.keys, r.knows m key = true := by
  rw [setupQuery, map_eq_ok] at h
  obtain ⟨lookups, hlookups, -⟩ := h
  intro key hkey
  obtain ⟨clause, hclause, rfl⟩ := List.mem_map.mp hkey
  exact knows_of_resolveAll_strict hstrict hlookups clause hclause

theorem setupQuery_eq_restrict (hlenient : lenient.resolver.strict = false)
    (hzone : lenient.resolver.zone = strict.resolver.zone) (clauses : Clauses) :
    lenient.setupQuery r m clauses = strict.setupQuery r m (clauses.restrict (r.knows m)) := by
  rw [setupQuery, setupQuery, resolveAll_lenient hlenient hzone]
  rfl

/-- **Lenient resolving is strict resolving of what is known.**  Hence a query that can be set up
strictly is set up leniently just as well, no lenient query fails for a field that is missing, and
every strict query does fail if the path of some clause cannot be walked. -/
theorem setupQuery_lenient (hlenient : lenient.resolver.strict = false)
    (hstrict : strict.resolver.strict = true)
    (hzone : lenient.resolver.zone = strict.resolver.zone) (r : Registry) (m : Model)
    (clauses : Clauses) :
    lenient.setupQuery r m clauses = strict.setupQuery r m (clauses.restrict (r.knows m)) ∧
      (∀ query, strict.setupQuery r m clauses = .ok query →
        lenient.setupQuery r m clauses = .ok query) ∧
      (∀ missing, lenient.setupQuery r m clauses ≠ .error (.unknownField missing)) ∧
      ∀ key ∈ clauses.keys, r.knows m key = false →
        ∃ e, strict.setupQuery r m clauses = .error e := by
  have hrestrict := setupQuery_eq_restrict (r := r) (m := m) hlenient hzone clauses
  refine ⟨hrestrict, fun query hquery => ?_, fun missing => ?_, fun key hkey hunknown => ?_⟩
  · -- what is set up strictly is known, so nothing is left out
    rw [hrestrict, OrderedMap.restrict_eq_self (knows_of_setupQuery_strict hstrict hquery), hquery]
  · have hfails : FailsOnly (fun e => ∀ missing, e ≠ .unknownField missing)
        (lenient.setupQuery r m clauses) :=
      setupQuery_failsOnly_of_resolve
        (fun key raw => Resolver.resolve_failsOnly_of_lenient hlenient r m key raw none) clauses
    exact fun h => hfails _ h missing rfl
  · cases hquery : strict.setupQuery r m clauses with
    | error e => exact ⟨e, rfl⟩
    | ok query =>
      have hknown := knows_of_setupQuery_strict hstrict hquery key hkey
      rw [hunknown] at hknown
      cases hknown

/-- A field that is missing, between two clauses that come to the same lookup. -/
theorem setupQuery_lenient_shoe_size :
    let m : Model := ⟨"t.T", "id", [.plain "name" (some .text), .plain "age" (some .integer)]⟩
    let r : Registry := .ofList [m]
    let lenient : QueryFilter := new ⟨false, .utc, true⟩
    let strict : QueryFilter := new ⟨true, .utc, false⟩
    let clauses : Clauses := .ofList
      [("name", "rob"), ("shoe_size", "9"), ("age__in", "30,41"), ("name__exact", "bob")]
    let known : Clauses := .ofList [("name", "rob"), ("age__in", "30,41"), ("name__exact", "bob")]
    let query : ResolvedQuery := .ofList
      [("name__exact", .text "bob"), ("age__in", .list [.int 30, .int 41])]
    lenient.resolver.strict = false ∧ strict.resolver.strict = true ∧
      lenient.resolver.zone = strict.resolver.zone ∧ clauses.restrict (r.knows m) = known ∧
      strict.setupQuery r m known = .ok query ∧ lenient.setupQuery r m known = .ok query ∧
      lenient.setupQuery r m clauses = .ok query ∧
      "shoe_size" ∈ clauses.keys ∧ r.knows m "shoe_size" = false ∧
      ∃ e, strict.setupQuery r m clauses = .error e := by
  intro m r lenient strict clauses known query
  have hrestrict : clauses.restrict (r.knows m) = known := rfl
  have hquery : strict.setupQuery r m known = .ok query := by cbv
  have hkey : "shoe_size" ∈ clauses.keys := by decide
  have hunknown : r.knows m "shoe_size" = false := rfl
  obtain ⟨hlenient, -, -, hfails⟩ := @setupQuery_lenient lenient strict rfl rfl rfl r m clauses
  obtain ⟨-, hknown, -, -⟩ := @setupQuery_lenient lenient strict rfl rfl rfl r m known
  refine ⟨rfl, rfl, rfl, hrestrict, hquery, hknown query hquery, ?_, hkey, hunknown,
    hfails _ hkey hunknown⟩
  rw [hlenient, hrestrict, hquery]

end QueryFilter

end RecordQuery
