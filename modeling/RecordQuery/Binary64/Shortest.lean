import RecordQuery.Binary64.Basic

/-!
# The shortest decimal that reads back

Every real number between the two midpoints around a finite `Binary64` rounds to it, and so do the
midpoints themselves if its significand is even.  `Binary64.shortest` is the decimal
`digits * 10 ^ exponent` in that interval with the largest exponent, which is the one with the
fewest digits, and of several with that exponent the nearest to the number.  Where two are equally
near, the caller says which one is taken (`Tie`).

The search goes down one power of ten after the other, from one that is above the number, and
compares whole numbers only.
-/

namespace RecordQuery.Binary64

/-- Which of two decimals is taken when they are equally near. -/
inductive Tie where
  /-- The one farther from zero. -/
  | away
  /-- The one with an even last digit. -/
  | even
  deriving DecidableEq

/-- A positive decimal, `digits * 10 ^ exponent`. -/
structure Decimal where
  digits : Nat
  exponent : Int
  deriving DecidableEq

/-- An interval of positive real numbers around `4 * m`, in units of `2 ^ scale`. -/
structure Interval where
  /-- The lower end. -/
  low : Nat
  /-- The number that everything in the interval rounds to. -/
  middle : Nat
  /-- The upper end. -/
  high : Nat
  /-- The power of two that is counted. -/
  scale : Int
  /-- Whether the ends belong to it. -/
  closed : Bool

/-- The interval of the real numbers that round to a finite positive number.  Below a power of two
the numbers lie twice as close. -/
def roundingInterval (x : Binary64) : Interval :=
  let m := x.significand
  { low := if x.fractionField = 0 ∧ 1 < x.exponentField then 4 * m - 1 else 4 * m - 2
    middle := 4 * m
    high := 4 * m + 2
    scale := x.scale - 2
    closed := m % 2 = 0 }

/-- Whether a quotient is nearer to the whole number above it than to the one below, `rest` being
what is left over and `unit` the divisor. -/
def upperIsNearer (tie : Tie) (lower rest unit : Nat) : Bool :=
  unit < 2 * rest || (2 * rest == unit && (tie = .away || lower % 2 == 1))

/-- The decimals of one exponent that lie in the interval, tried at the two neighbours of its
middle: the nearer one, if it lies there. -/
def Interval.nearestAt (r : Interval) (tie : Tie) (exponent : Int) : Option Nat :=
  -- a decimal `c * 10 ^ exponent` is compared as `c * unit`, a number of the interval as `v * step`
  let unit := tenPow exponent.toNat * twoPow (-r.scale).toNat
  let step := twoPow r.scale.toNat * tenPow (-exponent).toNat
  let inside (c : Nat) : Bool :=
    if r.closed then r.low * step ≤ c * unit && c * unit ≤ r.high * step
    else r.low * step < c * unit && c * unit < r.high * step
  let lower := r.middle * step / unit
  let (near, far) :=
    if upperIsNearer tie lower (r.middle * step % unit) unit then (lower + 1, lower)
    else (lower, lower + 1)
  if inside near then some near else if inside far then some far else none

/-- The first exponent, going down from `exponent`, at which a decimal lies in the interval. -/
def Interval.search (r : Interval) (tie : Tie) (exponent : Int) : Nat → Decimal
  | 0 => ⟨0, exponent⟩
  | tries + 1 =>
    match r.nearestAt tie exponent with
    | some digits => ⟨digits, exponent⟩
    | none => r.search tie (exponent - 1) tries

/-- The shortest decimal that rounds to a finite positive number, the nearest of those.  At 17
digits there always is one, so the search ends within twenty steps of the number's own length. -/
def shortest (tie : Tie) (x : Binary64) : Decimal :=
  let r := x.roundingInterval
  -- `30103 / 100000` is a little above the logarithm of two
  let top := (r.middle.log2 + 1 + r.scale) * 30103 / 100000 + 1
  r.search tie top 24

example : shortest .even (ofDecimal false 1 (-1)) = ⟨1, -1⟩ := by decide +kernel
example : shortest .even ⟨1⟩ = ⟨5, -324⟩ := by decide +kernel
example : shortest .away (ofInt (twoPow 63)) = ⟨9223372036854775807 / 1000 + 1, 3⟩ := by decide +kernel

end RecordQuery.Binary64
