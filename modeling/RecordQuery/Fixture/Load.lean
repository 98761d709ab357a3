import RecordQuery.Coercion
import RecordQuery.Fixture.Document
import RecordQuery.Store

/-!
# Loading fixtures

`Fixture.load` makes a database of the text of a fixture.  It registers the models, checks that every
relation leads to one of them, converts the values of the objects to the types of their columns
(`convert`), and stores the objects in the order of the document.

A model without a field for its primary key gets one, an integer, in front.  The column of a relation
holds what the primary key it leads to holds (`storageType`).
-/

namespace RecordQuery.Fixture

/-- Why a value cannot be stored in a column. -/
inductive Mismatch where
  /-- The value is not of the type of the column. -/
  | mistyped (expected : FieldType)
  /-- The text is not a date or time. -/
  | badDate (cause : LiteralError)
  /-- An object stands where a value should. -/
  | nestedObject

/-- The wording of the mismatch. -/
def Mismatch.message : Mismatch → String
  | mistyped .dateTime => "expected a datetime string"
  | mistyped .boolean => "expected a boolean"
  | mistyped .integer => "expected an integer"
  | mistyped .float => "expected a number"
  | mistyped .text => "expected a string"
  | badDate cause => cause.message
  | nestedObject => "nested objects are not supported"

/-- A value that cannot be stored in a column, and why. -/
structure BadValue where
  model : String
  field : String
  value : Json
  reason : Mismatch

/-- Why a fixture cannot be loaded. -/
inductive Error where
  /-- The text is not a fixture document. -/
  | malformed
  /-- An object is of a model that is not described. -/
  | unknownModel (label : String)
  /-- A relation leads to a model that is not described. -/
  | unknownRelation (model field target : String)
  /-- An object has a value for a field that is not described. -/
  | unknownField (model field : String)
  /-- An object has a value that its field cannot hold. -/
  | badValue (cause : BadValue)

/-- The wording of the error; what exactly is wrong with the text of a document is left open. -/
def Error.message : Error → String
  | malformed => "malformed fixture: "
  | unknownModel label => "no such model '" ++ label ++ "'"
  | unknownRelation model field target =>
    "field '" ++ field ++ "' of " ++ model ++ " relates to unknown model '" ++ target ++ "'"
  | unknownField model field => "no field '" ++ field ++ "' on " ++ model
  | badValue b =>
    "bad value " ++ b.value.render ++ " for " ++ b.model ++ "." ++ b.field ++ ": " ++
      b.reason.message

/-! ### Models -/

/-- The field that an entry describes. -/
def FieldEntry.toDef (f : FieldEntry) : FieldDef :=
  let attname := match f.attname, f.relation with
    | some attname, _ => attname
    | none, some _ => FieldDef.relationColumn f.name
    | none, none => f.name
  ⟨f.name, attname, f.type, f.relation⟩

/-- The model that an entry describes. -/
def ModelEntry.toModel (e : ModelEntry) : Model :=
  let pk := e.pk.getD Model.defaultPk
  let fields := e.fields.map FieldEntry.toDef
  let implicit := if e.fields.any (·.name = pk) then [] else [FieldDef.plain pk (some .integer)]
  ⟨e.label, pk, implicit ++ fields⟩

/-- Checks that the relations among the fields of a model lead to models. -/
def checkFields (r : Registry) (m : Model) : List FieldDef → Except Error Unit
  | [] => .ok ()
  | d :: rest =>
    match d.relation with
    | none => checkFields r m rest
    | some target =>
      if (r.model? target).isSome then checkFields r m rest
      else .error (.unknownRelation m.label d.name target)

/-- Checks that the relations of the models lead to models. -/
def checkRelations (r : Registry) : List Model → Except Error Unit
  | [] => .ok ()
  | m :: rest => do
    checkFields r m m.fields
    checkRelations r rest

/-! ### Values -/

/-- The type that a column holds, following at most `fuel` relations from primary key to primary
key.  A primary key that is a relation to its own model holds what is declared. -/
def storageTypeWithin (r : Registry) : Nat → Model → String → Option FieldType
  | 0, _, _ => none
  | fuel + 1, m, name =>
    match m.fieldDef? name with
    | none => none
    | some d =>
      match d.relation with
      | none => d.type
      | some target =>
        match r.model? target with
        | none => none
        | some related =>
          if related.label = m.label ∧ related.pk = name then d.type
          else storageTypeWithin r fuel related related.pk

/-- The type that the column of a field holds.  Unless primary keys go round in a circle, the way to
it leads through each model at most once. -/
def storageType (r : Registry) (m : Model) (name : String) : Option FieldType :=
  storageTypeWithin r (r.models.size + 2) m name

mutual

/-- Converts a value for a column of a type. -/
def convert (type : Option FieldType) (zone : Offset) (model field : String) :
    Json → Except BadValue Value
  | .null => .ok .null
  | .array items => (convertItems type zone model field items).map .list
  | .object members =>
    .error ⟨model, field, .object members, match type with
      | some t => .mistyped t
      | none => .nestedObject⟩
  | .bool b =>
    match type with
    | some .boolean | none => .ok (.bool b)
    | some t => .error ⟨model, field, .bool b, .mistyped t⟩
  | .number n =>
    match type with
    | some .integer =>
      match n.toInt64? with
      | some i => .ok (.int i)
      | none => .error ⟨model, field, .number n, .mistyped .integer⟩
    | some .float => .ok (.float n.toBinary64)
    | none =>
      match n.toInt64? with
      | some i => .ok (.int i)
      | none => .ok (.float n.toBinary64)
    | some t => .error ⟨model, field, .number n, .mistyped t⟩
  | .string s =>
    match type with
    | some .dateTime =>
      match Literal.dateTime s zone with
      | .ok t => .ok (.dateTime t)
      | .error e => .error ⟨model, field, .string s, .badDate e⟩
    | some .text | none => .ok (.text s)
    | some t => .error ⟨model, field, .string s, .mistyped t⟩

/-- Converts the items of an array. -/
def convertItems (type : Option FieldType) (zone : Offset) (model field : String) :
    List Json → Except BadValue (List Value)
  | [] => .ok []
  | item :: items => do
    let first ← convert type zone model field item
    let others ← convertItems type zone model field items
    return first :: others

end

/-- Converts a value for the column of a field. -/
def convertField (r : Registry) (m : Model) (name : String) (zone : Offset) (value : Json) :
    Except Error Value :=
  (convert (storageType r m name) zone m.label name value).mapError .badValue

/-! ### Objects -/

/-- Stores the values of an object in a row, each under the name of the field that it answers to. -/
def fillRow (r : Registry) (m : Model) (zone : Offset) (row : Row) :
    List (String × Json) → Except Error Row
  | [] => .ok row
  | (name, value) :: rest =>
    match m.fieldDef? name with
    | none => .error (.unknownField m.label name)
    | some d => do
      let value ← convertField r m d.name zone value
      fillRow r m zone (row.set d.name value) rest

/-- The row that an object describes, and the label of its model. -/
def toRow (r : Registry) (zone : Offset) (o : ObjectEntry) : Except Error (String × Row) :=
  match r.model? o.model with
  | none => .error (.unknownModel o.model)
  | some m => do
    let pk ← convertField r m m.pk zone o.pk
    let row ← fillRow r m zone (Row.new pk) o.fields
    return (m.label, row)

/-- Stores rows one after the other. -/
def insertAll (db : Database) : List (String × Row) → Except Error Database
  | [] => .ok db
  | (label, row) :: rest =>
    match db.insert label row with
    | .ok db => insertAll db rest
    | .error _ => .error (.unknownModel label)

/-- The database that a document describes. -/
def Document.toDatabase (d : Document) (zone : Offset) : Except Error Database := do
  let registry := Registry.ofList (d.models.map ModelEntry.toModel)
  checkRelations registry registry.toList
  let rows ← d.objects.mapM (toRow registry zone)
  insertAll (Database.new registry) rows

/-- Loads the text of a fixture; dates and times that name no offset are in `zone`. -/
def load (text : String) (zone : Offset) : Except Error Database :=
  match Document.read? text with
  | some d => d.toDatabase zone
  | none => .error .malformed

end RecordQuery.Fixture
