import RecordQuery.Lookup
import RecordQuery.Text.LowerCase
import RecordQuery.Value.Display

/-!
# Conditions

A `Condition` is an operator with its right-hand side, ready to be asked of values.
`Condition.ofOperator` makes one, or refuses a right-hand side that the operator cannot take: only
`isnull`, `in` and `range` are particular.

`Condition.evaluate` asks a condition of any value.  A list satisfies it if one of its items does,
however deeply nested; `Condition.onNull` and `Condition.onEmpty` answer where there is no value and
where a list is empty, and `Condition.holds` where there is a scalar.
-/

namespace RecordQuery

/-- A right-hand side that an operator cannot take. -/
structure OperandError where
  operator : Operator
  operand : Value

/-- The wording of the error. -/
def OperandError.message (e : OperandError) : String :=
  "operator '" ++ e.operator.token ++ "' cannot take " ++ e.operand.display

/-- An operator with its right-hand side. -/
inductive Condition where
  /-- The value equals the target. -/
  | exact (target : Value)
  /-- The text of the value in lower case is the target. -/
  | iexact (target : String)
  /-- There is no value, or there is one if the target is false. -/
  | isNull (target : Bool)
  /-- The text of the value contains the target. -/
  | contains (target : String)
  /-- The text of the value in lower case contains the target. -/
  | icontains (target : String)
  /-- The value compares with the target in one of the accepted ways. -/
  | compares (accepted : List Ordering) (target : Value)
  /-- The value equals one of the targets. -/
  | oneOf (targets : List Value)
  /-- The value lies between two others, or equals one of them. -/
  | range (low high : Value)

namespace Condition

/-- Whether two values are equal: they compare as equal, or are so structurally. -/
def sameValue (a b : Value) : Bool := a.compare? b = some .eq || a.equals b

/-- The condition of an operator and a right-hand side. -/
def ofOperator (op : Operator) (rhs : Value) : Except OperandError Condition :=
  match op, rhs with
  | .exact, rhs => .ok (exact rhs)
  | .iexact, rhs => .ok (iexact (Text.lowerCase rhs.display))
  | .isnull, .bool target => .ok (isNull target)
  | .contains, rhs => .ok (contains rhs.display)
  | .icontains, rhs => .ok (icontains (Text.lowerCase rhs.display))
  | .gt, rhs => .ok (compares [.gt] rhs)
  | .gte, rhs => .ok (compares [.gt, .eq] rhs)
  | .lt, rhs => .ok (compares [.lt] rhs)
  | .lte, rhs => .ok (compares [.lt, .eq] rhs)
  | .oneOf, .list targets => .ok (oneOf targets)
  | .range, .list [low, high] => .ok (range low high)
  | op, rhs => .error ⟨op, rhs⟩

/-- The answer for a scalar. -/
def holds (c : Condition) (v : Value) : Bool :=
  match c with
  | exact target => sameValue v target
  | iexact target => Text.lowerCase v.display = target
  | isNull target => !target
  | contains target => Text.contains v.display target
  | icontains target => Text.contains (Text.lowerCase v.display) target
  | compares accepted target => (v.compare? target).any (accepted.contains ·)
  | oneOf targets => targets.any (sameValue v)
  | range low high =>
    (v.compare? low).any ([Ordering.gt, .eq].contains ·) &&
      (v.compare? high).any ([Ordering.lt, .eq].contains ·)

/-- The answer where there is no value. -/
def onNull : Condition → Bool
  | exact target => target.isNull
  | isNull target => target
  | _ => false

/-- The answer for an empty list. -/
def onEmpty : Condition → Bool
  | isNull target => target
  | _ => false

mutual

/-- The answer for any value. -/
def evaluate (c : Condition) : Value → Bool
  | .null => c.onNull
  | .list [] => c.onEmpty
  | .list (item :: items) => evaluate c item || evaluateAny c items
  | v => c.holds v

/-- Whether one of the values satisfies the condition. -/
def evaluateAny (c : Condition) : List Value → Bool
  | [] => false
  | item :: items => evaluate c item || evaluateAny c items

end

end Condition

end RecordQuery
