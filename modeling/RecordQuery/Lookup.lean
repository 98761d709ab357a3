import RecordQuery.Text.Split

/-!
# Lookups

A clause key names a path of fields and, as a last segment, how the value found there is compared:
`user__username__icontains` follows `user` to `username` and asks whether it contains a text,
whatever the case.  The segments stand between double underscores.

`Lookup.split` takes a key apart.  The last segment is the operator if it names one and is not
alone; an empty last segment is dropped; else the operator is `exact`.  `Lookup.qualified` writes
a lookup with its operator always spelt out, which is the form the store is asked in.
-/

namespace RecordQuery

/-- How the value at the end of a path is compared with the right-hand side. -/
inductive Operator where
  | exact
  | iexact
  | isnull
  | contains
  | icontains
  | gt
  | gte
  | lt
  | lte
  | oneOf
  | range
  deriving DecidableEq

namespace Operator

/-- Every operator, in the order in which they are listed. -/
def all : List Operator :=
  [exact, iexact, isnull, contains, icontains, gt, gte, lt, lte, oneOf, range]

/-- The segment that names the operator. -/
def token : Operator → String
  | exact => "exact"
  | iexact => "iexact"
  | isnull => "isnull"
  | contains => "contains"
  | icontains => "icontains"
  | gt => "gt"
  | gte => "gte"
  | lt => "lt"
  | lte => "lte"
  | oneOf => "in"
  | range => "range"

/-- The operator that a segment names, if any; the case matters. -/
def ofToken? (s : String) : Option Operator := all.find? fun op => op.token = s

/-- The operator of a key that names none. -/
instance : Inhabited Operator := ⟨exact⟩

/-- Whether the right-hand side is a list of values. -/
def isIterable : Operator → Bool
  | oneOf | range => true
  | _ => false

/-- A token names its operator and no other. -/
theorem ofToken?_token (op : Operator) : ofToken? op.token = some op := by
  cases op <;> decide

end Operator

/-- A clause key, taken apart. -/
structure Lookup where
  /-- The fields to follow. -/
  path : List String
  /-- How the value found is compared. -/
  operator : Operator
  deriving DecidableEq

namespace Lookup

/-- The segments in front of the last one, and the last one. -/
def unsnoc? : List String → Option (List String × String)
  | [] => none
  | [last] => some ([], last)
  | s :: rest => (unsnoc? rest).map fun (front, last) => (s :: front, last)

/-- Reads segments: the last of several is the operator if it names one, and is dropped if it is
empty. -/
def ofSegments (segments : List String) : Lookup :=
  match unsnoc? segments with
  | none | some ([], _) => ⟨segments, default⟩
  | some (front, last) =>
    if last = "" then ⟨front, default⟩
    else match Operator.ofToken? last with
      | some op => ⟨front, op⟩
      | none => ⟨segments, default⟩

/-- Takes a clause key apart. -/
def split (key : String) : Lookup := ofSegments (Text.segments key)

/-- The key with its operator spelt out. -/
def qualified (l : Lookup) : String :=
  Text.join "__" l.path ++ "__" ++ l.operator.token

end Lookup

end RecordQuery
