import RecordQuery.Registry
import RecordQuery.Text.Digit
import RecordQuery.Text.HiddenTable

/-!
# Describing fields

`Registry.Field.describe` shows all there is to know about a field in one line, with texts in
quotes and characters that cannot be seen spelt out (`Text.quote`).
-/

namespace RecordQuery

/-- A character inside quotes: what cannot be seen, and what would end or alter the quotation, is
written with a backslash. -/
def Text.quoteChar (c : Char) : List Char :=
  if c = '\x00' then ['\\', '0']
  else if c = '\t' then ['\\', 't']
  else if c = '\r' then ['\\', 'r']
  else if c = '\n' then ['\\', 'n']
  else if c = '"' ∨ c = '\\' then ['\\', c]
  else if Text.isHidden c then
    '\\' :: 'u' :: '\x7b' :: Nat.toDigits 16 c.toNat ++ ['\x7d']
  else [c]

/-- A text in quotes. -/
def Text.quote (s : String) : String :=
  String.ofList ('"' :: s.toList.flatMap Text.quoteChar ++ ['"'])

/-- The name of a type in the description of a field. -/
def FieldType.describe : FieldType → String
  | dateTime => "DateTime"
  | boolean => "Boolean"
  | integer => "Integer"
  | float => "Float"
  | text => "Text"

/-- What may be there, with its text, or that it is not. -/
def describeOption : Option String → String
  | none => "None"
  | some text => "Some(" ++ text ++ ")"

/-- A field in one line. -/
def Registry.Field.describe (f : Registry.Field) : String :=
  "Field \x7b name: " ++ Text.quote f.name ++ ", attname: " ++ Text.quote f.attname ++
    ", field_type: " ++ describeOption (f.type.map FieldType.describe) ++
    ", related: " ++ describeOption (f.related.map fun m => Text.quote m.label) ++ " \x7d"

end RecordQuery
