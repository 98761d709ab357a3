import RecordQuery.Resolver
import RecordQuery.RowSet

/-!
# Filters

A `QueryFilter` collects clauses, those that rows have to satisfy and those by which rows are
excluded, from filter expressions and from the parameters of a request.  A later clause with the same
key replaces an earlier one of its group.

`QueryFilter.apply` resolves both groups against the model of a set of rows and then excludes,
filters, sorts and cuts.  `QueryFilter.notices` tells which clauses were skipped on the way.
-/

namespace RecordQuery

/-- Clauses to filter and to exclude by, and how they are resolved. -/
structure QueryFilter where
  resolver : Resolver
  /-- What rows have to satisfy. -/
  filterClauses : Clauses
  /-- What rows must not satisfy as a whole. -/
  excludeClauses : Clauses

namespace QueryFilter

/-- The filter without clauses. -/
def new (resolver : Resolver) : QueryFilter := ⟨resolver, .empty, .empty⟩

instance : Inhabited QueryFilter := ⟨new default⟩

/-! ### Collecting clauses -/

/-- Adds clauses that rows have to satisfy. -/
def addFilter (f : QueryFilter) (clauses : Clauses) : QueryFilter :=
  { f with filterClauses := f.filterClauses.extend clauses }

/-- Adds clauses to exclude by. -/
def addExclude (f : QueryFilter) (clauses : Clauses) : QueryFilter :=
  { f with excludeClauses := f.excludeClauses.extend clauses }

/-- What the keys of parameters to exclude by begin with. -/
def excludeMark : String := "exclude__"

/-- What follows the mark of a parameter to exclude by. -/
def excluded? (key : String) : Option String :=
  (Text.stripStart? excludeMark.toList key.toList).map String.ofList

/-- Adds one parameter, to the group that its key says. -/
def addParam (f : QueryFilter) (key value : String) : QueryFilter :=
  match excluded? key with
  | some rest => { f with excludeClauses := f.excludeClauses.insert rest value }
  | none => { f with filterClauses := f.filterClauses.insert key value }

/-- Adds parameters, each to the group that its key says. -/
def addParams (f : QueryFilter) (params : List (String × String)) : QueryFilter :=
  params.foldl (fun f p => f.addParam p.1 p.2) f

/-- Adds the parameters of a request, except those without a value and those whose key is
ignored. -/
def addQueryParams (f : QueryFilter) (params : List (String × String)) (ignored : List String) :
    QueryFilter :=
  f.addParams (params.filter fun p => p.2 ≠ "" && !ignored.contains p.1)

/-! ### Applying -/

/-- The lookups that clauses resolve to, in order; the first error ends it. -/
def resolveAll (s : Resolver) (r : Registry) (m : Model) :
    List (String × String) → Except QueryError (List (String × Value))
  | [] => .ok []
  | (key, raw) :: rest => do
    let resolved ← s.resolve r m key raw none
    let others ← resolveAll s r m rest
    return resolved.toList ++ others

/-- The query that clauses resolve to. -/
def setupQuery (f : QueryFilter) (r : Registry) (m : Model) (clauses : Clauses) :
    Except QueryError ResolvedQuery :=
  (resolveAll f.resolver r m clauses.toList).map OrderedMap.ofList

/-- The notices of the clauses that are skipped, in order. -/
def notices (f : QueryFilter) (r : Registry) (m : Model) (clauses : Clauses) : List Notice :=
  clauses.keys.filterMap (f.resolver.notice? r m)

/-- Sorts by an ordering, if there is one with terms. -/
def applyOrder (s : RowSet) : Option String → Except QueryError RowSet
  | none => .ok s
  | some raw => do
    let terms ← (OrderTerm.parseAll raw).mapError QueryError.ordering
    if terms.isEmpty then return s else (s.orderBy terms).mapError .store

/-- Cuts to a number of rows; zero does not cut. -/
def applyLimit (s : RowSet) : Option Nat → RowSet
  | none | some 0 => s
  | some n => s.limit n

/-- Excludes, filters, sorts and cuts. -/
def apply (f : QueryFilter) (s : RowSet) (order : Option String) (limit : Option Nat) :
    Except QueryError RowSet := do
  let excluding ← f.setupQuery s.db.registry s.model f.excludeClauses
  let filtering ← f.setupQuery s.db.registry s.model f.filterClauses
  let kept ← (s.exclude excluding).mapError QueryError.store
  let matching ← (kept.filter filtering).mapError QueryError.store
  let sorted ← applyOrder matching order
  return applyLimit sorted limit

end QueryFilter

end RecordQuery
