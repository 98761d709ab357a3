import RecordQuery.Binary64.Basic
import RecordQuery.Calendar.DateTime
import RecordQuery.FieldType

/-!
# Values

A `Value` is what a row stores in a field and what a query compares it with: nothing, a scalar of
one of the field types, or a list of values.

* `Value.compare?` orders values that can be compared: integers and floating-point numbers with each
  other by value, and otherwise values of one type.
* `Value.sortCompare` orders all values for sorting: nothing comes first, lists are compared item by
  item, what can be compared is, and the rest goes by kind.
* `Value.equals` is equality: floating-point numbers are equal by value and instants by their place
  in time.
-/

namespace RecordQuery

/-- A stored value, or the right-hand side of a lookup. -/
inductive Value where
  /-- No value. -/
  | null
  | bool (value : Bool)
  | int (value : Int64)
  | float (value : Binary64)
  | text (value : String)
  | dateTime (value : DateTime)
  | list (items : List Value)

namespace Value

instance : Inhabited Value := ⟨null⟩

/-- The type of a scalar. -/
def fieldType? : Value → Option FieldType
  | bool _ => some .boolean
  | int _ => some .integer
  | float _ => some .float
  | text _ => some .text
  | dateTime _ => some .dateTime
  | null | list _ => none

/-- Whether there is no value. -/
def isNull : Value → Bool
  | null => true
  | _ => false

/-! ### Comparing -/

/-- The number that a value is, rounded to `Binary64`. -/
def toBinary64? : Value → Option Binary64
  | int i => some (Binary64.ofInt i.toInt)
  | float x => some x
  | _ => none

/-- The order of two values that can be compared. -/
def compare? : Value → Value → Option Ordering
  | int a, int b => some (Ord.compare a.toInt b.toInt)
  | bool a, bool b => some (Ord.compare a b)
  | text a, text b => some (Ord.compare a b)
  | dateTime a, dateTime b => some (a.compare b)
  | a, b =>
    match a.toBinary64?, b.toBinary64? with
    | some x, some y => x.compare? y
    | _, _ => none

mutual

/-- Whether two values are equal. -/
def equals : Value → Value → Bool
  | null, null => true
  | bool a, bool b => a = b
  | int a, int b => a = b
  | float a, float b => a.equals b
  | text a, text b => a = b
  | dateTime a, dateTime b => a.orderKey = b.orderKey
  | list as, list bs => equalItems as bs
  | _, _ => false

/-- Whether two lists have equal items in the same order. -/
def equalItems : List Value → List Value → Bool
  | [], [] => true
  | a :: as, b :: bs => equals a b && equalItems as bs
  | _, _ => false

end

/-! ### Sorting -/

/-- The place of a value that cannot be compared with another one. -/
def rank : Value → Nat
  | null => 0
  | bool _ => 1
  | int _ | float _ => 2
  | text _ => 3
  | dateTime _ => 4
  | list _ => 5

/-- The order of two values that are not both lists. -/
def compareUnlisted (a b : Value) : Ordering :=
  (a.compare? b).getD (Ord.compare a.rank b.rank)

mutual

/-- The order in which values are sorted. -/
def sortCompare : Value → Value → Ordering
  | null, null => .eq
  | null, _ => .lt
  | _, null => .gt
  | list as, list bs => sortCompareItems as bs
  | a, b => compareUnlisted a b

/-- The order of two lists: that of the first items that differ, or else of the lengths. -/
def sortCompareItems : List Value → List Value → Ordering
  | [], [] => .eq
  | [], _ :: _ => .lt
  | _ :: _, [] => .gt
  | a :: as, b :: bs => (sortCompare a b).then (sortCompareItems as bs)

end

end Value

end RecordQuery
