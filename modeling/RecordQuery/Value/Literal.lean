import RecordQuery.Text.Digit
import RecordQuery.Value.Basic

/-!
# Literals

How the raw texts of a query are read as truth values and numbers.  An integer is an optional minus
sign and ASCII digits, with a value of 64 bits; a floating-point number may also have a point behind
its first digit, with or without digits after it.  Neither has a plus sign, an exponent or blanks.
-/

namespace RecordQuery.Literal

/-- Reads `true` or `false`, of which the first letter may be a capital. -/
def boolean? (s : String) : Option Bool :=
  if s = "true" ∨ s = "True" then some true
  else if s = "false" ∨ s = "False" then some false
  else none

/-- A minus sign, if there is one, and what follows it. -/
def sign : List Char → Bool × List Char
  | '-' :: rest => (true, rest)
  | rest => (false, rest)

/-- Reads an integer of 64 bits. -/
def integer? (s : String) : Option Int64 :=
  let (negative, rest) := sign s.toList
  match Text.digits rest with
  | (d :: ds, []) =>
    let n : Int := Text.ofDigits (d :: ds)
    int64? (if negative then -n else n)
  | _ => none

/-- Reads a floating-point number: the one nearest to the decimal. -/
def float? (s : String) : Option Binary64 :=
  let (negative, rest) := sign s.toList
  match Text.digits rest with
  | ([], _) => none
  | (whole, []) => some (Binary64.ofDecimal negative (Text.ofDigits whole) 0)
  | (whole, '.' :: rest) =>
    match Text.digits rest with
    | (fraction, []) =>
      some (Binary64.ofDecimal negative (Text.ofDigits (whole ++ fraction)) (-fraction.length))
    | _ => none
  | _ => none

end RecordQuery.Literal
