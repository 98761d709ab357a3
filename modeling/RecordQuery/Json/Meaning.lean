import RecordQuery.Json.Syntax
import RecordQuery.SortedMap

/-!
# What JSON texts mean

`Json.Syntax.meaning?` makes a `Json` of what a text says.  It fails on nesting that is too deep,
on strings with half a surrogate pair, and on numbers that are beyond the largest `Binary64`.  Of
several members with one key the last one counts.

Numbers are read with a significand of 64 bits (`Numeral.meaning?`): an integer that fits is kept
as it is; else as many digits as fit are kept, the power of ten makes up for the others, and the
result is the significand multiplied or divided by that power, each rounded to `Binary64`.
`Json.parse?` reads and interprets a whole document.
-/

namespace RecordQuery.Json

/-! ### Numbers -/

/-- The largest significand that is kept. -/
def maxSignificand : Nat := twoPow 64 - 1

/-- Takes digits into the significand as long as it fits; gives back the ones left over. -/
def takeDigits (significand : Nat) : List Nat → Nat × List Nat
  | [] => (significand, [])
  | d :: ds =>
    if significand * 10 + d ≤ maxSignificand then takeDigits (significand * 10 + d) ds
    else (significand, d :: ds)

/-- Divides by ten as often as `places` says, `10 ^ 308` at a time. -/
def divPowTen (x : Binary64) (places : Nat) : Binary64 :=
  if places ≤ 308 then x.div (Binary64.ofDecimal false 1 places)
  else if x.isZero then x
  else divPowTen (x.div (Binary64.ofDecimal false 1 308)) (places - 308)
termination_by places

/-- The number `significand * 10 ^ exponent`, in steps that round; none if it is beyond the largest
number. -/
def scalePowTen? (significand : Nat) (exponent : Int) : Option Binary64 :=
  let x := Binary64.ofInt significand
  if exponent < 0 then some (divPowTen x (-exponent).toNat)
  else if exponent ≤ 308 then
    let y := x.mul (Binary64.ofDecimal false 1 exponent)
    if y.isInfinite then none else some y
  else if x.isZero then some x
  else none

/-- The largest exponent that is counted. -/
def maxExponent : Nat := twoPow 31 - 1

/-- The floating-point number `significand * 10 ^ (places + exponent)`, without its sign. -/
def scaled? (significand : Nat) (places : Int) : Option (Bool × List Nat) → Option Binary64
  | none => scalePowTen? significand places
  | some (negative, ds) =>
    let exponent := Text.ofDigits ds
    if maxExponent < exponent then
      if significand ≠ 0 ∧ !negative then none else some (Binary64.zero false)
    else if negative then scalePowTen? significand (max (places - exponent) (-twoPow 31))
    else scalePowTen? significand (min (places + exponent) maxExponent)

/-- The number that a numeral means; none if it is beyond the largest `Binary64`. -/
def Numeral.meaning? (n : Numeral) : Option Number :=
  let signed (x : Binary64) : Number := .float (if n.negative then x.neg else x)
  let (significand, dropped) := takeDigits 0 n.whole
  if dropped = [] ∧ n.fraction = [] ∧ n.exponent = none then
    if n.negative then
      if significand = 0 ∨ twoPow 63 < significand then some (signed (Binary64.ofInt significand))
      else some (.integer (-significand))
    else some (.integer significand)
  else
    let (significand, unread) := takeDigits significand n.fraction
    let places : Int := dropped.length - (n.fraction.length - unread.length : Nat)
    (scaled? significand places n.exponent).map signed

/-! ### Strings -/

/-- Whether a code unit is the first half of a surrogate pair. -/
def isHighSurrogate (n : Nat) : Bool := 0xD800 ≤ n && n ≤ 0xDBFF

/-- Whether a code unit is the second half of a surrogate pair. -/
def isLowSurrogate (n : Nat) : Bool := 0xDC00 ≤ n && n ≤ 0xDFFF

/-- The characters that the pieces of a string stand for; none if a surrogate stands alone. -/
def unitChars? : List StringUnit → Option (List Char)
  | [] => some []
  | .char c :: rest => (unitChars? rest).map (c :: ·)
  | .code n :: rest =>
    if isLowSurrogate n then none
    else if isHighSurrogate n then
      match rest with
      | .code low :: rest =>
        if isLowSurrogate low then
          let c := Char.ofNat (0x10000 + (n - 0xD800) * 0x400 + (low - 0xDC00))
          (unitChars? rest).map (c :: ·)
        else none
      | _ => none
    else (unitChars? rest).map (Char.ofNat n :: ·)

/-- The text that the pieces of a string stand for; none if a surrogate stands alone. -/
def unitText? (units : List StringUnit) : Option String := (unitChars? units).map String.ofList

/-! ### Documents -/

namespace Syntax

mutual

/-- What a value means, if at most `depth` arrays and objects are nested in it. -/
def meaning? (depth : Nat) : Syntax → Option Json
  | null => some .null
  | bool b => some (.bool b)
  | number n => n.meaning?.map .number
  | string units => (unitText? units).map .string
  | array items =>
    match depth with
    | 0 => none
    | depth + 1 => (itemMeanings? depth items).map .array
  | object members =>
    match depth with
    | 0 => none
    | depth + 1 => (memberMeanings? depth members).map fun found =>
        .object (SortedMap.ofList found).entries

/-- What the items of an array mean. -/
def itemMeanings? (depth : Nat) : List Syntax → Option (List Json)
  | [] => some []
  | item :: items => do
    let first ← meaning? depth item
    return first :: (← itemMeanings? depth items)

/-- What the members of an object mean, in the order of the text. -/
def memberMeanings? (depth : Nat) :
    List (List StringUnit × Syntax) → Option (List (String × Json))
  | [] => some []
  | (key, value) :: members => do
    let name ← unitText? key
    let first ← meaning? depth value
    return (name, first) :: (← memberMeanings? depth members)

end

end Syntax

/-- How deeply arrays and objects may be nested in a document. -/
def maxDepth : Nat := 127

/-- Reads a document. -/
def parse? (text : String) : Option Json := do (← Syntax.read? text).meaning? maxDepth

end RecordQuery.Json
