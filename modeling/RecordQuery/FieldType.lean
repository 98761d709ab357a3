/-!
# Field types

The declared types of fields.  A field may also have none, and then takes values of every kind.
-/

namespace RecordQuery

/-- What the values of a field are. -/
inductive FieldType where
  | dateTime
  | boolean
  | integer
  | float
  | text
  deriving DecidableEq

namespace FieldType

/-- Every type. -/
def all : List FieldType := [dateTime, boolean, integer, float, text]

/-- The name of a type in the description of a model. -/
def name : FieldType → String
  | dateTime => "datetime"
  | boolean => "boolean"
  | integer => "integer"
  | float => "float"
  | text => "text"

/-- The type that a name stands for; the case matters. -/
def ofName? (s : String) : Option FieldType := all.find? fun t => t.name = s

/-- A name stands for its type and no other. -/
theorem ofName?_name (t : FieldType) : ofName? t.name = some t := by
  cases t <;> decide

end FieldType

end RecordQuery
