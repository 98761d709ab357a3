import RecordQuery.Json.Basic

/-!
# The syntax of JSON texts

`Json.Syntax` is what a JSON text says before anything is made of it: numbers are still strings of
digits, escaped code units still stand one by one in strings, and the members of an object are in
the order of the text, repeated keys included.  A text may say things that mean nothing, such as
half a surrogate pair or a number beyond all bounds; whether that matters depends on whether the
value is used (see `RecordQuery.Json.Meaning`).

`Json.Syntax.read?` reads a text.  Its scanners are structural in the characters and give back what
they leave; the nesting of arrays and objects is followed with a budget of steps that the length of
the text pays for.
-/

namespace RecordQuery.Json

/-- A number as it is written. -/
structure Numeral where
  /-- Whether a minus sign precedes it. -/
  negative : Bool
  /-- The digits before the point. -/
  whole : List Nat
  /-- The digits after the point; none if there is no point. -/
  fraction : List Nat
  /-- The digits of the exponent, and whether a minus sign precedes them. -/
  exponent : Option (Bool × List Nat)
  deriving DecidableEq

/-- A piece of a string. -/
inductive StringUnit where
  /-- A character, written as itself or behind a backslash. -/
  | char (c : Char)
  /-- A code unit of 16 bits, written with hexadecimal digits. -/
  | code (value : Nat)
  deriving DecidableEq

/-- What a JSON text says. -/
inductive Syntax where
  | null
  | bool (value : Bool)
  | number (numeral : Numeral)
  | string (units : List StringUnit)
  | array (items : List Syntax)
  | object (members : List (List StringUnit × Syntax))

namespace Syntax

/-! ### Scanners -/

/-- The value of a hexadecimal digit. -/
def hexDigit? (c : Char) : Option Nat :=
  let n := c.toNat
  if 48 ≤ n ∧ n ≤ 57 then some (n - 48)
  else if 65 ≤ n ∧ n ≤ 70 then some (n - 55)
  else if 97 ≤ n ∧ n ≤ 102 then some (n - 87)
  else none

/-- The value of four hexadecimal digits. -/
def hexUnit? (a b c d : Char) : Option Nat := do
  return (((← hexDigit? a) * 16 + (← hexDigit? b)) * 16 + (← hexDigit? c)) * 16 + (← hexDigit? d)

/-- The text without the blanks it begins with. -/
def skipBlanks : List Char → List Char
  | [] => []
  | c :: rest =>
    if c = ' ' ∨ c = '\n' ∨ c = '\t' ∨ c = '\r' then skipBlanks rest else c :: rest

/-- The character that a letter behind a backslash stands for. -/
def escape? (c : Char) : Option Char :=
  if c = '"' ∨ c = '\\' ∨ c = '/' then some c
  else if c = 'b' then some '\x08'
  else if c = 'f' then some '\x0c'
  else if c = 'n' then some '\n'
  else if c = 'r' then some '\r'
  else if c = 't' then some '\t'
  else none

/-- The rest of a string whose opening quote has been read, and what follows the closing one. -/
def stringUnits? : List Char → Option (List StringUnit × List Char)
  | [] => none
  | '"' :: rest => some ([], rest)
  | '\\' :: 'u' :: a :: b :: c :: d :: rest => do
    let code ← hexUnit? a b c d
    let (units, rest) ← stringUnits? rest
    return (.code code :: units, rest)
  | '\\' :: e :: rest => do
    let c ← escape? e
    let (units, rest) ← stringUnits? rest
    return (.char c :: units, rest)
  | c :: rest => do
    guard (32 ≤ c.toNat)
    let (units, rest) ← stringUnits? rest
    return (.char c :: units, rest)

/-- The digits before the point: a zero alone, or digits without a leading zero. -/
def wholeDigits? (s : List Char) : Option (List Nat × List Char) :=
  match Text.digits s with
  | ([], _) => none
  | (0 :: _ :: _, _) => none
  | found => some found

/-- The point and the digits after it, if there is a point. -/
def fraction? : List Char → Option (List Nat × List Char)
  | '.' :: rest =>
    match Text.digits rest with
    | ([], _) => none
    | found => some found
  | rest => some ([], rest)

/-- The digits of an exponent with its sign. -/
def exponentDigits? (negative : Bool) (s : List Char) :
    Option (Option (Bool × List Nat) × List Char) :=
  match Text.digits s with
  | ([], _) => none
  | (found, rest) => some (some (negative, found), rest)

/-- The exponent, if there is one. -/
def exponent? : List Char → Option (Option (Bool × List Nat) × List Char)
  | [] => some (none, [])
  | c :: rest =>
    if c = 'e' ∨ c = 'E' then
      match rest with
      | '-' :: rest => exponentDigits? true rest
      | '+' :: rest => exponentDigits? false rest
      | rest => exponentDigits? false rest
    else some (none, c :: rest)

/-- A number without its sign. -/
def magnitude? (negative : Bool) (s : List Char) : Option (Numeral × List Char) := do
  let (whole, rest) ← wholeDigits? s
  let (fraction, rest) ← fraction? rest
  let (exponent, rest) ← exponent? rest
  return (⟨negative, whole, fraction, exponent⟩, rest)

/-- A number. -/
def numeral? : List Char → Option (Numeral × List Char)
  | '-' :: rest => magnitude? true rest
  | rest => magnitude? false rest

/-! ### Values -/

mutual

/-- A value, and what follows it. -/
def value? : Nat → List Char → Option (Syntax × List Char)
  | 0, _ => none
  | fuel + 1, s =>
    match skipBlanks s with
    | 'n' :: 'u' :: 'l' :: 'l' :: rest => some (null, rest)
    | 't' :: 'r' :: 'u' :: 'e' :: rest => some (bool true, rest)
    | 'f' :: 'a' :: 'l' :: 's' :: 'e' :: rest => some (bool false, rest)
    | '"' :: rest => (stringUnits? rest).map fun (units, rest) => (string units, rest)
    | '[' :: rest =>
      match skipBlanks rest with
      | ']' :: rest => some (array [], rest)
      | rest => (items? fuel rest).map fun (items, rest) => (array items, rest)
    | '\x7b' :: rest =>
      match skipBlanks rest with
      | '\x7d' :: rest => some (object [], rest)
      | rest => (members? fuel rest).map fun (members, rest) => (object members, rest)
    | rest => (numeral? rest).map fun (numeral, rest) => (number numeral, rest)

/-- The items of an array from one of them on, and what follows its end. -/
def items? : Nat → List Char → Option (List Syntax × List Char)
  | 0, _ => none
  | fuel + 1, s => do
    let (item, rest) ← value? fuel s
    match skipBlanks rest with
    | ',' :: rest =>
      let (items, rest) ← items? fuel rest
      return (item :: items, rest)
    | ']' :: rest => return ([item], rest)
    | _ => none

/-- The members of an object from one of them on, and what follows its end. -/
def members? : Nat → List Char → Option (List (List StringUnit × Syntax) × List Char)
  | 0, _ => none
  | fuel + 1, s => do
    match skipBlanks s with
    | '"' :: rest =>
      let (key, rest) ← stringUnits? rest
      match skipBlanks rest with
      | ':' :: rest =>
        let (value, rest) ← value? fuel rest
        match skipBlanks rest with
        | ',' :: rest =>
          let (members, rest) ← members? fuel rest
          return ((key, value) :: members, rest)
        | '\x7d' :: rest => return ([(key, value)], rest)
        | _ => none
      | _ => none
    | _ => none

end

/-- Reads a text that is one value with blanks around it.  Each step of the nested readers but
every other one reads a character, so twice the length of the text is more than enough. -/
def read? (text : String) : Option Syntax :=
  let s := text.toList
  match value? (2 * s.length + 2) s with
  | some (value, rest) => if skipBlanks rest = [] then some value else none
  | none => none

end Syntax

end RecordQuery.Json
