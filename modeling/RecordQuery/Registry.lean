import RecordQuery.FieldType
import RecordQuery.SortedMap
import RecordQuery.Text.LowerCase
import RecordQuery.Text.Split

/-!
# Models and registries

A `Model` describes the fields of one kind of record.  A field is found under its name and under the
name of its column; a field that is a relation names another model by its label, and its column
holds primary keys of that model.  A `Registry` holds models under their labels, whose case does not
matter; a relation may name a model that is not there, and then leads nowhere.

`Registry.field?` describes a field as a query sees it: the type of a relation is that of the primary
key it leads to.  `Registry.walk` follows a path of fields from model to model and gives the type
found at its end, or says which segment is missing and where.
-/

namespace RecordQuery

/-! ### Models -/

/-- The description of a field. -/
structure FieldDef where
  /-- The name used in queries. -/
  name : String
  /-- The name of the column. -/
  attname : String
  /-- The declared type. -/
  type : Option FieldType
  /-- The label of the related model, if the field is a relation. -/
  relation : Option String
  deriving DecidableEq

namespace FieldDef

/-- A field that is not a relation; its column has its name. -/
def plain (name : String) (type : Option FieldType) : FieldDef := ⟨name, name, type, none⟩

/-- The column of a relation that names none. -/
def relationColumn (name : String) : String := name ++ "_id"

/-- A relation to the model labelled `target`. -/
def related (name target : String) : FieldDef := ⟨name, relationColumn name, none, some target⟩

/-- Whether a name is that of the field or of its column. -/
def answersTo (d : FieldDef) (name : String) : Bool := d.name = name || d.attname = name

end FieldDef

/-- The description of a kind of record. -/
structure Model where
  label : String
  /-- The name of the field that is the primary key. -/
  pk : String
  fields : List FieldDef
  deriving DecidableEq

namespace Model

/-- The name of the primary key where none is given. -/
def defaultPk : String := "id"

/-- The first field that answers to a name. -/
def fieldDef? (m : Model) (name : String) : Option FieldDef := m.fields.find? (·.answersTo name)

/-- The label without what precedes its last point. -/
def objectName (m : Model) : String := ((Text.splitOn '.' m.label).getLast?).getD m.label

end Model

/-! ### Registries -/

/-- Models under their labels. -/
structure Registry where
  /-- The models, under their labels in lower case. -/
  models : SortedMap Model

namespace Registry

/-- The registry without models. -/
def empty : Registry := ⟨.empty⟩

/-- Adds a model, in place of one with the same label but for the case. -/
def register (r : Registry) (m : Model) : Registry := ⟨r.models.insert (Text.lowerCase m.label) m⟩

/-- The registry of the models, added one after the other. -/
def ofList (models : List Model) : Registry := models.foldl register empty

/-- The model under a label. -/
def model? (r : Registry) (label : String) : Option Model := r.models.get? (Text.lowerCase label)

/-- The models, in the order of their labels in lower case. -/
def toList (r : Registry) : List Model := r.models.values

/-- The model that a relation leads to. -/
def related? (r : Registry) (d : FieldDef) : Option Model := d.relation.bind r.model?

/-! ### Fields as queries see them -/

/-- The type of a field, following at most `fuel` relations from primary key to primary key. -/
def fieldTypeWithin (r : Registry) : Nat → Model → String → Option FieldType
  | 0, _, _ => none
  | fuel + 1, m, name =>
    match m.fieldDef? name with
    | none => none
    | some d =>
      match r.related? d with
      | none => d.type
      | some related => fieldTypeWithin r fuel related related.pk

/-- The type of the primary key of a model.  Unless they go round in a circle, primary keys that are
relations lead through each model at most once. -/
def pkType (r : Registry) (m : Model) : Option FieldType :=
  r.fieldTypeWithin (r.models.size + 1) m m.pk

/-- A field as a query sees it. -/
structure Field where
  name : String
  attname : String
  /-- The declared type, or that of the primary key the relation leads to. -/
  type : Option FieldType
  /-- The model that the relation leads to. -/
  related : Option Model
  deriving DecidableEq

/-- Whether a name is that of the field or of its column. -/
def Field.answersTo (f : Field) (name : String) : Bool := f.name = name || f.attname = name

/-- The field of a model that answers to a name. -/
def field? (r : Registry) (m : Model) (name : String) : Option Field :=
  (m.fieldDef? name).map fun d =>
    match r.related? d with
    | some related => ⟨d.name, d.attname, r.pkType related, some related⟩
    | none => ⟨d.name, d.attname, d.type, none⟩

/-! ### Paths -/

/-- A segment of a path that names no field, and the model that it was looked for in. -/
structure MissingField where
  field : String
  model : String
  deriving DecidableEq

/-- Follows a path of fields and gives the type of the last one.  A field that is not the last has
to be a relation; if it is not, the segment after it is missing. -/
def walk (r : Registry) (m : Model) : List String → Except MissingField (Option FieldType)
  | [] => .error ⟨"", m.label⟩
  | head :: rest =>
    match r.field? m head with
    | none => .error ⟨head, m.label⟩
    | some f =>
      match rest, f.related with
      | [], _ => .ok f.type
      | next :: more, some related => walk r related (next :: more)
      | next :: _, none => .error ⟨next, m.label⟩

end Registry

end RecordQuery
