import RecordQuery.Calendar.Literal
import RecordQuery.Json.Meaning
import RecordQuery.Text.Split
import RecordQuery.Value.Literal

/-!
# Coercing raw texts to values

The right-hand side of a clause is a raw text.  What value it stands for depends on the type of the
field that the clause names, or, if that has none, on the type of a reference value; without either
it stays a text.

`Coercion.scalar` reads a single value; the text `null` is no value, whatever the type.
`Coercion.iterable` reads a list: a JSON array in brackets, or else values with commas between them,
around which blanks do not count unless the values are texts.
-/

namespace RecordQuery

/-- Why a raw text is no value of the type asked for. -/
inductive LiteralError where
  | boolean (raw : String)
  /-- A list of truth values was asked for. -/
  | booleanList (raw : String)
  | dateTime (raw : String)
  | number (raw : String)
  deriving DecidableEq

/-- The wording of the error. -/
def LiteralError.message : LiteralError → String
  | boolean raw => "'" ++ raw ++ "' is not a boolean, expected true or false"
  | booleanList raw => "boolean fields do not accept a list of values: '" ++ raw ++ "'"
  | dateTime raw => "invalid datetime string: '" ++ raw ++ "'"
  | number raw => "invalid number: '" ++ raw ++ "'"

namespace Literal

/-- Reads a truth value. -/
def boolean (raw : String) : Except LiteralError Bool :=
  (boolean? raw).elim (.error (.boolean raw)) .ok

/-- Reads an integer. -/
def integer (raw : String) : Except LiteralError Int64 :=
  (integer? raw).elim (.error (.number raw)) .ok

/-- Reads a floating-point number. -/
def float (raw : String) : Except LiteralError Binary64 :=
  (float? raw).elim (.error (.number raw)) .ok

/-- Reads a date or time, in `zone` if it has no offset of its own. -/
def dateTime (raw : String) (zone : Offset) : Except LiteralError DateTime :=
  (DateTime.read? raw zone).elim (.error (.dateTime raw)) .ok

end Literal

/-- Where the type of a value comes from. -/
structure Coercion where
  /-- The declared type of the field. -/
  fieldType : Option FieldType
  /-- A value whose type is taken if the field has none. -/
  reference : Option Value

namespace Coercion

/-- The type that raw texts are read as; without one they stay texts. -/
def target (c : Coercion) : Option FieldType :=
  match c.fieldType with
  | some t => some t
  | none => c.reference.bind Value.fieldType?

/-- Reads one value of a type. -/
def convert (target : Option FieldType) (raw : String) (zone : Offset) :
    Except LiteralError Value :=
  match target with
  | some .dateTime => (Literal.dateTime raw zone).map .dateTime
  | some .boolean => (Literal.boolean raw).map .bool
  | some .integer => (Literal.integer raw).map .int
  | some .float => (Literal.float raw).map .float
  | some .text | none => .ok (.text raw)

/-- Reads a single value. -/
def scalar (c : Coercion) (raw : String) (zone : Offset) : Except LiteralError Value :=
  if raw = "null" then .ok .null else convert c.target raw zone

/-- Whether a text begins with an opening bracket and ends with a closing one. -/
def isBracketed (raw : String) : Bool := raw.toList.head? = some '[' && raw.toList.getLast? = some ']'

/-- The items of a JSON array in brackets. -/
def jsonItems? (raw : String) : Option (List Json) :=
  if isBracketed raw then
    match Json.parse? raw with
    | some (.array items) => some items
    | _ => none
  else none

/-- Reads an item of a JSON array: strings are taken as they are, other values as they are written
in JSON. -/
def convertItem (target : Option FieldType) (zone : Offset) : Json → Except LiteralError Value
  | .null => .ok .null
  | .string s => convert target s zone
  | item => convert target item.render zone

/-- Whether blanks around the values of a list count. -/
def keepsBlanks (target : Option FieldType) : Bool := target = some .text || target = none

/-- Reads a value of a list that is written with commas. -/
def convertPiece (target : Option FieldType) (zone : Offset) (piece : String) :
    Except LiteralError Value :=
  convert target (if keepsBlanks target then piece else Text.trim piece) zone

/-- Reads a list of values. -/
def iterable (c : Coercion) (raw : String) (zone : Offset) : Except LiteralError (List Value) :=
  if c.target = some .boolean then .error (.booleanList raw)
  else match jsonItems? raw with
    | some items => items.mapM (convertItem c.target zone)
    | none => (Text.splitOn ',' raw).mapM (convertPiece c.target zone)

end Coercion

end RecordQuery
