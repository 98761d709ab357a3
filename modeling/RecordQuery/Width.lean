/-!
# Powers and widths

The powers of two and ten, by `Nat.pow` itself, and the integers that fit into 64 bits.
-/

namespace RecordQuery

/-- Two to the power `n`. -/
def twoPow (n : Nat) : Nat := Nat.pow 2 n

/-- Ten to the power `n`. -/
def tenPow (n : Nat) : Nat := Nat.pow 10 n

/-- An integer as one of 64 bits, if it fits. -/
def int64? (i : Int) : Option Int64 :=
  if -9223372036854775808 ≤ i ∧ i ≤ 9223372036854775807 then some (Int64.ofInt i) else none

end RecordQuery
