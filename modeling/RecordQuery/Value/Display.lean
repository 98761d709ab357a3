import RecordQuery.Binary64.Notation
import RecordQuery.Calendar.Notation
import RecordQuery.Value.Basic

/-!
# The text of a value

`Value.display` is the text that a value is shown as and that the operators on texts look into:
`None` for no value, the decimal digits of a number, an instant as `DateTime.rfc3339` writes it,
and the items of a list in brackets.
-/

namespace RecordQuery.Value

mutual

/-- The text of a value. -/
def display : Value → String
  | null => "None"
  | bool true => "true"
  | bool false => "false"
  | int i => String.ofList (Text.signedDecimal i.toInt)
  | float x => x.display
  | text s => s
  | dateTime t => t.rfc3339
  | list [] => "[]"
  | list (item :: items) => "[" ++ display item ++ displayItems items

/-- The items of a list after the first one, and its end. -/
def displayItems : List Value → String
  | [] => "]"
  | item :: items => ", " ++ display item ++ displayItems items

end

end RecordQuery.Value
