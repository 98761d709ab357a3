import RecordQuery.Width

/-!
# Binary floating-point numbers of 64 bits

A `Binary64` is the 64 bits of a number of the IEEE 754 format `binary64`: a sign, an exponent
field of 11 bits and a fraction field of 52.  Nothing here rests on the processor: a finite number
is `significand * 2 ^ scale` (`significand`, `scale`), and comparing and rounding are done on whole
numbers.

* `Binary64.compare?` orders the numbers by value; the two zeros are equal, and a NaN is comparable
  with nothing.
* `Binary64.ofRatio` is the number nearest to a quotient of natural numbers, a tie going to the
  even significand, and the infinity where that is beyond the largest finite number.  Reading
  integers and decimals and multiplying and dividing are all this one rounding.
-/

namespace RecordQuery

/-- A number of the format `binary64`, by its bits. -/
structure Binary64 where
  /-- Sign, exponent field and fraction field, from the highest bit down. -/
  bits : UInt64
  deriving DecidableEq

namespace Binary64

/-! ### The fields -/

/-- Whether the sign bit is set. -/
def isNegative (x : Binary64) : Bool := twoPow 63 ≤ x.bits.toNat

/-- The bits without the sign; they grow with the absolute value. -/
def magnitude (x : Binary64) : Nat := x.bits.toNat % twoPow 63

/-- The exponent field. -/
def exponentField (x : Binary64) : Nat := x.magnitude / twoPow 52

/-- The fraction field. -/
def fractionField (x : Binary64) : Nat := x.magnitude % twoPow 52

/-- The magnitude of the infinities: every larger one is a NaN. -/
def infinityMagnitude : Nat := 2047 * twoPow 52

/-- Whether the bits stand for no number. -/
def isNaN (x : Binary64) : Bool := infinityMagnitude < x.magnitude

/-- Whether the bits stand for one of the infinities. -/
def isInfinite (x : Binary64) : Bool := x.magnitude = infinityMagnitude

/-- Whether the bits stand for one of the zeros. -/
def isZero (x : Binary64) : Bool := x.magnitude = 0

/-- The whole number that `2 ^ scale` is taken times; it has the leading bit of a normal number,
which the fields leave out. -/
def significand (x : Binary64) : Nat :=
  if x.exponentField = 0 then x.fractionField else twoPow 52 + x.fractionField

/-- The power of two that the significand counts. -/
def scale (x : Binary64) : Int := (max x.exponentField 1 : Nat) - 1075

/-- The number with this sign and these bits below it. -/
def ofMagnitude (negative : Bool) (magnitude : Nat) : Binary64 :=
  ⟨UInt64.ofNat (if negative then twoPow 63 + magnitude else magnitude)⟩

/-- The zero of this sign. -/
def zero (negative : Bool) : Binary64 := ofMagnitude negative 0

/-- The number with the other sign. -/
def neg (x : Binary64) : Binary64 := ofMagnitude (!x.isNegative) x.magnitude

/-! ### Order -/

/-- A whole number that grows with the value; the two zeros share theirs. -/
def orderKey (x : Binary64) : Int := if x.isNegative then -x.magnitude else x.magnitude

/-- The order of two numbers by value; none if one is a NaN. -/
def compare? (x y : Binary64) : Option Ordering :=
  if x.isNaN || y.isNaN then none else some (compare x.orderKey y.orderKey)

/-- Whether two numbers have the same value; a NaN has none. -/
def equals (x y : Binary64) : Bool := x.compare? y = some .eq

/-! ### Rounding -/

/-- The whole number nearest to `num / den`, the even one of two that are equally near. -/
def roundHalfEven (num den : Nat) : Nat :=
  let quotient := num / den
  let rest := num % den
  if den < 2 * rest ∨ (2 * rest = den ∧ quotient % 2 = 1) then quotient + 1 else quotient

/-- How often `2 ^ (-1074)`, the smallest positive number, is doubled to give the spacing of the
numbers around `num / den`. -/
def doublings (num den : Nat) : Nat :=
  -- `num / den` lies between `2 ^ (e - 1)` and `2 ^ (e + 1)` for the difference `e` of the lengths
  let e : Int := num.log2 - den.log2
  let below : Bool := if 0 ≤ e then num < den * twoPow e.toNat else num * twoPow (-e).toNat < den
  ((if below then e - 1 else e) - 52 + 1074).toNat

/-- The magnitude of the number nearest to `num / den`.  A rounding up to the next power of two
carries into the exponent field by itself. -/
def nearestMagnitude (num den : Nat) : Nat :=
  let d := doublings num den
  let steps :=
    if d ≤ 1074 then roundHalfEven (num * twoPow (1074 - d)) den
    else roundHalfEven num (den * twoPow (d - 1074))
  min (d * twoPow 52 + steps) infinityMagnitude

/-- The number nearest to `num / den`, with this sign; `den` is positive. -/
def ofRatio (negative : Bool) (num den : Nat) : Binary64 :=
  ofMagnitude negative (if num = 0 then 0 else nearestMagnitude num den)

/-- The number nearest to an integer. -/
def ofInt (i : Int) : Binary64 := ofRatio (i < 0) i.natAbs 1

/-- The number nearest to `digits * 10 ^ exponent`, with this sign. -/
def ofDecimal (negative : Bool) (digits : Nat) (exponent : Int) : Binary64 :=
  if 0 ≤ exponent then ofRatio negative (digits * tenPow exponent.toNat) 1
  else ofRatio negative digits (tenPow (-exponent).toNat)

/-- The numerator of the absolute value of a finite number. -/
def numerator (x : Binary64) : Nat := x.significand * twoPow x.scale.toNat

/-- The denominator of the absolute value of a finite number: a power of two. -/
def denominator (x : Binary64) : Nat := twoPow (-x.scale).toNat

/-- The product of two finite numbers, rounded. -/
def mul (x y : Binary64) : Binary64 :=
  ofRatio (x.isNegative != y.isNegative) (x.numerator * y.numerator) (x.denominator * y.denominator)

/-- The quotient of two finite numbers, rounded; the divisor is not zero. -/
def div (x y : Binary64) : Binary64 :=
  ofRatio (x.isNegative != y.isNegative) (x.numerator * y.denominator) (x.denominator * y.numerator)

example : ofInt 1 = ⟨0x3ff0000000000000⟩ := by decide +kernel
example : ofInt (-9007199254740993) = ⟨0xc340000000000000⟩ := by decide +kernel
example : ofDecimal false 1 (-1) = ⟨0x3fb999999999999a⟩ := by decide +kernel
example : ofDecimal false 5 (-324) = ⟨1⟩ := by decide +kernel
example : ofDecimal true 2 308 = ⟨0xfff0000000000000⟩ := by decide +kernel

end Binary64

end RecordQuery
