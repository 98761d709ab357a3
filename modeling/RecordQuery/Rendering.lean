import RecordQuery.Json.Basic
import RecordQuery.Store
import RecordQuery.Value.Display

/-!
# Rendering rows

A row is listed as its cells: the primary key first, then the other fields of the model in the order
of their declaration, each under its name (`Row.cells`).  `Row.display` names a row in short,
`Row.dict` shows its cells in braces, and `Row.toJson` makes a JSON object of them, with instants in
a given offset.
-/

namespace RecordQuery

/-- The cells of a row: the primary key, then the other fields. -/
def Row.cells (m : Model) (row : Row) : List (String × Value) :=
  (m.pk, row.pk) ::
    ((m.fields.filter fun d => d.name ≠ m.pk).map fun d => (d.name, row.get d.name))

/-- The short name of a row. -/
def Row.display (m : Model) (row : Row) : String :=
  m.objectName ++ " object (" ++ row.pk.display ++ ")"

/-! ### As JSON -/

namespace Value

mutual

/-- A value as JSON: instants are texts in the given offset, and a number that is not finite is
null. -/
def toJson (zone : Offset) : Value → Json
  | null => .null
  | bool b => .bool b
  | int i => .number (.integer i.toInt)
  | float x => if x.isNaN || x.isInfinite then .null else .number (.float x)
  | text s => .string s
  | dateTime t => .string (t.displayIn zone)
  | list items => .array (itemsToJson zone items)

/-- The items of a list as JSON. -/
def itemsToJson (zone : Offset) : List Value → List Json
  | [] => []
  | item :: items => toJson zone item :: itemsToJson zone items

end

/-! ### In braces -/

/-- A text in quotes, with a backslash before every quote in it. -/
def quoted (s : String) : String :=
  "'" ++ String.ofList (s.toList.flatMap fun c => if c = '\'' then ['\\', '\''] else [c]) ++ "'"

mutual

/-- The text of a value among the cells of a row: texts and instants are in quotes. -/
def cellText : Value → String
  | bool true => "True"
  | bool false => "False"
  | text s => quoted s
  | dateTime t => "'" ++ t.rfc3339 ++ "'"
  | list [] => "[]"
  | list (item :: items) => "[" ++ cellText item ++ cellItemsText items
  | v => v.display

/-- The items of a list after the first one, and its end. -/
def cellItemsText : List Value → String
  | [] => "]"
  | item :: items => ", " ++ cellText item ++ cellItemsText items

end

end Value

/-- The cells of a row in braces. -/
def Row.dict (m : Model) (row : Row) : String :=
  "\x7b" ++ Text.join ", " ((row.cells m).map fun (name, value) =>
    "'" ++ name ++ "': " ++ value.cellText) ++ "\x7d"

/-- The cells of a row as a JSON object; of several cells with one name the last one counts. -/
def Row.toJson (m : Model) (row : Row) (zone : Offset) : Json :=
  .object (SortedMap.ofList ((row.cells m).map fun (name, value) =>
    (name, value.toJson zone))).entries

end RecordQuery
