import RecordQuery.Binary64.Shortest
import RecordQuery.Text.Digit

/-!
# Writing binary floating-point numbers

A `Style` says how the digits of a number are laid out: where the point goes, when an exponent is
written, and what stands for the special values.  Two styles are in use.  `Style.plain` never
writes an exponent and gives whole numbers no point; `Style.document` is that of JSON documents,
where a whole number has the digit `.0` and numbers that are very large or very small have an
exponent.
-/

namespace RecordQuery.Binary64

/-- How a number is laid out. -/
structure Style where
  /-- Which of two equally short and near decimals is written. -/
  tie : Tie
  /-- Whether a point position is written without an exponent: the point stands after that many
  digits from the first, or before it if the number is not positive. -/
  isPositional : Int → Bool
  /-- What follows a whole number that is written without an exponent. -/
  wholeMark : List Char

/-- Digits and a point, and no exponent whatever the size. -/
def Style.plain : Style := ⟨.away, fun _ => true, []⟩

/-- An exponent below `10 ^ (-5)` and from `10 ^ 16` on, and a point in all other numbers. -/
def Style.document : Style := ⟨.even, fun point => -5 < point && point ≤ 16, ['.', '0']⟩

/-- The digits of a number with the point after `point` of them, filled up with zeros. -/
def positional (wholeMark digits : List Char) (point : Int) : List Char :=
  if point ≤ 0 then '0' :: '.' :: List.replicate (-point).toNat '0' ++ digits
  else if digits.length ≤ point.toNat then
    digits ++ List.replicate (point.toNat - digits.length) '0' ++ wholeMark
  else digits.take point.toNat ++ '.' :: digits.drop point.toNat

/-- The digits with the point after the first one, and an exponent. -/
def scientific (digits : List Char) (point : Int) : List Char :=
  let mantissa := match digits with
    | [] => []
    | [d] => [d]
    | d :: more => d :: '.' :: more
  let exponent := point - 1
  let sign := if exponent < 0 then '-' else '+'
  mantissa ++ 'e' :: sign :: Text.decimal exponent.natAbs

/-- A finite positive number. -/
def writePositive (style : Style) (x : Binary64) : List Char :=
  let d := x.shortest style.tie
  let digits := Text.decimal d.digits
  let point := digits.length + d.exponent
  if style.isPositional point then positional style.wholeMark digits point
  else scientific digits point

/-- The text of a number in a style. -/
def write (style : Style) (x : Binary64) : List Char :=
  if x.isNaN then ['N', 'a', 'N']
  else
    let sign := if x.isNegative then ['-'] else []
    if x.isInfinite then sign ++ ['i', 'n', 'f']
    else if x.isZero then sign ++ '0' :: style.wholeMark
    else sign ++ writePositive style x

/-- The text of a number without an exponent: the fewest digits that read back as the number. -/
def display (x : Binary64) : String := String.ofList (write .plain x)

example : write .plain (ofDecimal false 1 21) = "1000000000000000000000".toList := by decide +kernel
example : write .plain (ofDecimal true 125 (-9)) = "-0.000000125".toList := by decide +kernel
example : write .document (ofInt 7) = "7.0".toList := by decide +kernel
example : write .document (ofDecimal false 1 16) = "1e+16".toList := by decide +kernel
example : write .document (ofDecimal false 25 (-8)) = "2.5e-7".toList := by decide +kernel
example : write .document (ofDecimal false 1 (-5)) = "0.00001".toList := by decide +kernel

end RecordQuery.Binary64
