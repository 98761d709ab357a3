import RecordQuery.Binary64.Notation
import RecordQuery.Text.Digit

/-!
# JSON documents

A `Json` is what a JSON document means: strings are texts, a number is an integer of 64 bits, with
or without a sign, or a `Binary64`, and the members of an object are listed by key, each key once.
`Json.render` writes a document without blanks.  How documents are read is the subject of
`RecordQuery.Json.Syntax` and `RecordQuery.Json.Meaning`.
-/

namespace RecordQuery

/-- A number of a document. -/
inductive Json.Number where
  /-- An integer between `-2 ^ 63` and `2 ^ 64 - 1`. -/
  | integer (value : Int)
  /-- Any other number. -/
  | float (value : Binary64)
  deriving DecidableEq

/-- What a JSON document means. -/
inductive Json where
  | null
  | bool (value : Bool)
  | number (value : Json.Number)
  | string (value : String)
  | array (items : List Json)
  /-- The members, in the order of their keys. -/
  | object (members : List (String × Json))

namespace Json

/-! ### Numbers -/

/-- The number as a signed integer of 64 bits, if it is one. -/
def Number.toInt64? : Number → Option Int64
  | integer i => int64? i
  | float _ => none

/-- The floating-point number nearest to the number. -/
def Number.toBinary64 : Number → Binary64
  | integer i => Binary64.ofInt i
  | float x => x

/-- The text of a number. -/
def Number.render : Number → List Char
  | integer i => Text.signedDecimal i
  | float x => x.write .document

/-! ### Strings -/

/-- The digit of a value below 16, in lower case. -/
def hexDigit (n : Nat) : Char := if n < 10 then Char.ofNat (48 + n) else Char.ofNat (87 + n)

/-- A character inside a string: the two that would end or alter it, and the control characters,
are written with a backslash. -/
def renderChar (c : Char) : List Char :=
  if c = '"' then ['\\', '"']
  else if c = '\\' then ['\\', '\\']
  else if c = '\x08' then ['\\', 'b']
  else if c = '\x0c' then ['\\', 'f']
  else if c = '\n' then ['\\', 'n']
  else if c = '\r' then ['\\', 'r']
  else if c = '\t' then ['\\', 't']
  else if c.toNat < 32 then
    ['\\', 'u', '0', '0', hexDigit (c.toNat / 16), hexDigit (c.toNat % 16)]
  else [c]

/-- The text of a string, in quotes. -/
def renderString (s : String) : List Char :=
  '"' :: s.toList.flatMap renderChar ++ ['"']

/-! ### Documents -/

mutual

/-- The text of a document, without blanks. -/
def renderChars : Json → List Char
  | null => ['n', 'u', 'l', 'l']
  | bool true => ['t', 'r', 'u', 'e']
  | bool false => ['f', 'a', 'l', 's', 'e']
  | number n => n.render
  | string s => renderString s
  | array [] => ['[', ']']
  | array (item :: items) => '[' :: renderChars item ++ renderItems items
  | object [] => ['\x7b', '\x7d']
  | object ((key, value) :: members) =>
    '\x7b' :: renderString key ++ ':' :: renderChars value ++ renderMembers members

/-- The items of an array after the first one, and its end. -/
def renderItems : List Json → List Char
  | [] => [']']
  | item :: items => ',' :: renderChars item ++ renderItems items

/-- The members of an object after the first one, and its end. -/
def renderMembers : List (String × Json) → List Char
  | [] => ['\x7d']
  | (key, value) :: members =>
    ',' :: renderString key ++ ':' :: renderChars value ++ renderMembers members

end

/-- The text of a document, without blanks. -/
def render (j : Json) : String := String.ofList j.renderChars

end Json

end RecordQuery
