/-!
# Decimal digits

Reading decimal digits from the front of a text, and writing integers with them.  Only the ten ASCII
digits count: no format that is read here admits those of other scripts.
-/

namespace RecordQuery.Text

/-- The value of a decimal digit. -/
def digit? (c : Char) : Option Nat := if c.isDigit then some (c.toNat - 48) else none

/-- The digits that a text begins with, and what follows them. -/
def digits : List Char → List Nat × List Char
  | [] => ([], [])
  | c :: rest =>
    match digit? c with
    | some d => let (more, rest) := digits rest; (d :: more, rest)
    | none => ([], c :: rest)

/-- The number that digits stand for. -/
def ofDigits (ds : List Nat) : Nat := ds.foldl (fun n d => n * 10 + d) 0

/-- The digits of a number, without leading zeros. -/
def decimal (n : Nat) : List Char := Nat.toDigits 10 n

/-- The digits of an integer behind its minus sign, if it has one. -/
def signedDecimal (i : Int) : List Char :=
  if i < 0 then '-' :: decimal i.natAbs else decimal i.natAbs

end RecordQuery.Text
