import RecordQuery.OrderedMap
import RecordQuery.Ordering
import RecordQuery.Store

/-!
# Sets of rows

A `RowSet` is a list of rows of one model, taken from a database.  It starts as all rows of the model
(`Database.all`) and is narrowed, sorted and cut:

* `RowSet.filter` keeps the rows that satisfy every lookup of a query, `RowSet.exclude` drops them;
  the empty query drops nothing either way;
* `RowSet.orderBy` sorts, the first term mattering most, and leaves rows that tie in their order;
* `RowSet.limit` keeps the first rows.

A query is a map from lookup keys to values.  Its lookups are asked in order and up to the first that
a row fails, so a key that cannot be answered is noticed when a row reaches it.
-/

namespace RecordQuery

/-- Lookup keys with their right-hand sides. -/
abbrev ResolvedQuery := OrderedMap Value

/-- Rows of a model of a database. -/
structure RowSet where
  db : Database
  model : Model
  rows : List Row

/-- All rows of the model under a label. -/
def Database.all (db : Database) (label : String) : Except StoreError RowSet :=
  match db.registry.model? label with
  | none => .error (.noModel label)
  | some m => .ok ⟨db, m, db.rows m⟩

namespace RowSet

/-! ### Narrowing -/

/-- Whether a row satisfies one lookup. -/
def satisfies (db : Database) (m : Model) (row : Row) (key : String) (rhs : Value) :
    Except StoreError Bool := do
  let lookup := Lookup.split key
  let condition ← (Condition.ofOperator lookup.operator rhs).mapError .badOperand
  let value ← db.valueAt m row lookup.path
  return condition.evaluate value

/-- Whether a row satisfies every lookup; the first that it fails decides. -/
def satisfiesAll (db : Database) (m : Model) (row : Row) :
    List (String × Value) → Except StoreError Bool
  | [] => .ok true
  | (key, rhs) :: rest => do
    if ← satisfies db m row key rhs then satisfiesAll db m row rest else return false

/-- The rows for which `test` answers `wanted`, in order. -/
def retain (test : Row → Except StoreError Bool) (wanted : Bool) :
    List Row → Except StoreError (List Row)
  | [] => .ok []
  | row :: rest => do
    let answer ← test row
    let kept ← retain test wanted rest
    return if answer = wanted then row :: kept else kept

/-- Keeps the rows that satisfy every lookup. -/
def filter (s : RowSet) (query : ResolvedQuery) : Except StoreError RowSet := do
  let rows ← retain (fun row => satisfiesAll s.db s.model row query.toList) true s.rows
  return { s with rows }

/-- Drops the rows that satisfy every lookup; without lookups none is dropped. -/
def exclude (s : RowSet) (query : ResolvedQuery) : Except StoreError RowSet := do
  if query.isEmpty then return s
  let rows ← retain (fun row => satisfiesAll s.db s.model row query.toList) false s.rows
  return { s with rows }

/-! ### Sorting and cutting -/

/-- The value that a row is sorted by. -/
def sortKey (db : Database) (m : Model) (path : List String) (row : Row) : Value :=
  match db.valueAt m row path with
  | .ok value => value
  | .error _ => .null

/-- The comparison of two rows by one term. -/
def compareBy (db : Database) (m : Model) (term : OrderTerm) : Row → Row → Ordering :=
  directed term.descending fun a b =>
    (sortKey db m term.path a).sortCompare (sortKey db m term.path b)

/-- The comparison of two rows by the terms, one after the other. -/
def compareByTerms (db : Database) (m : Model) (terms : List OrderTerm) : Row → Row → Ordering :=
  lexicographic (terms.map (compareBy db m))

/-- Checks that the path of every term can be walked. -/
def checkTerms (r : Registry) (m : Model) : List OrderTerm → Except StoreError Unit
  | [] => .ok ()
  | term :: rest =>
    match r.walk m term.path with
    | .error missing => .error (.noField missing)
    | .ok _ => checkTerms r m rest

/-- Sorts by the terms, the first mattering most. -/
def orderBy (s : RowSet) (terms : List OrderTerm) : Except StoreError RowSet := do
  checkTerms s.db.registry s.model terms
  return { s with rows := stableSort (compareByTerms s.db s.model terms) s.rows }

/-- Keeps the first `n` rows. -/
def limit (s : RowSet) (n : Nat) : RowSet := { s with rows := s.rows.take n }

/-- The number of rows. -/
def count (s : RowSet) : Nat := s.rows.length

end RowSet

end RecordQuery
