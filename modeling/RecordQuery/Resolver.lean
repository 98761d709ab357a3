import RecordQuery.OrderedMap
import RecordQuery.QueryError

/-!
# Resolving clauses

A clause is a key and a raw text.  `Resolver.resolve` makes a lookup of it that a store can answer:
it splits the key, walks its path through the models to find the type of the field at the end, and
coerces the raw text to that type, as the operator wants it: a truth value for `isnull`, a list for
`in` and `range`, a single value for the others.  The result has the key with its operator spelt
out.

A clause whose path cannot be walked is an error for a strict resolver.  For a lenient one it is
skipped, which `Resolver.notice?` reports.
-/

namespace RecordQuery

/-- How clauses are resolved. -/
structure Resolver where
  /-- Whether a clause that names an unknown field is an error. -/
  strict : Bool
  /-- The offset of dates and times that name none. -/
  zone : Offset
  /-- Whether skipped clauses are warned of. -/
  warnSkipped : Bool

/-- A lenient resolver in UTC that warns of skipped clauses. -/
instance : Inhabited Resolver := ⟨⟨false, Offset.utc, true⟩⟩

/-- How much a notice matters. -/
inductive NoticeLevel where
  | warning
  | debug
  deriving DecidableEq

/-- A message about a clause that was skipped. -/
structure Notice where
  level : NoticeLevel
  text : String
  deriving DecidableEq

namespace Resolver

/-- The value of a clause, as its operator wants it. -/
def coerce (op : Operator) (c : Coercion) (raw : String) (zone : Offset) : Except QueryError Value :=
  if op = .isnull then ((Literal.boolean raw).map .bool).mapError .literal
  else if op.isIterable then do
    let items ← (c.iterable raw zone).mapError QueryError.literal
    if op = .range ∧ items.length ≠ 2 then .error (.rangeArity items.length)
    else return .list items
  else (c.scalar raw zone).mapError .literal

/-- Resolves a clause against a model.  Nothing comes of a clause that is skipped.  Where the field
has no type, that of the reference value is taken. -/
def resolve (s : Resolver) (r : Registry) (m : Model) (key raw : String)
    (reference : Option Value) : Except QueryError (Option (String × Value)) :=
  let lookup := Lookup.split key
  match r.walk m lookup.path with
  | .error missing => if s.strict then .error (.unknownField missing) else .ok none
  | .ok type => do
    let value ← coerce lookup.operator ⟨type, reference⟩ raw s.zone
    return some (lookup.qualified, value)

/-- The notice of a clause that is skipped. -/
def notice? (s : Resolver) (r : Registry) (m : Model) (key : String) : Option Notice :=
  match r.walk m (Lookup.split key).path with
  | .ok _ => none
  | .error missing =>
    if s.strict then none
    else some ⟨if s.warnSkipped then .warning else .debug,
      "Skipping clause '" ++ key ++ "': " ++ (QueryError.unknownField missing).message⟩

end Resolver

end RecordQuery
