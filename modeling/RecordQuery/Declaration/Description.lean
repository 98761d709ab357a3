import RecordQuery.Declaration.Item
import RecordQuery.Declaration.Options
import RecordQuery.Registry

/-!
# Models described by declarations

`Description.ofItem` describes a model by the declaration of a struct and the options in its
attributes.  Each field that is not left out is found under its name (`ExposedField.names`), and a
relation also under that of its column; fields are asked in the order in which they are declared
(`Description.field?`).

A declaration can go wrong in more than one way.  Parameters come first, then the attributes of the
struct, then fields without names, then the attributes of the fields from the first to the last.
-/

namespace RecordQuery.Declaration

/-! ### Fields -/

/-- A field of a model, by its name and the text of its type. -/
inductive ExposedField where
  | typed (name type : String)
  | untyped (name : String)
  /-- The type is that of the related records. -/
  | relation (name type : String)
  deriving DecidableEq

namespace ExposedField

/-- The name of the field. -/
def name : ExposedField → String
  | typed name _ | untyped name | relation name _ => name

/-- The names that the field answers to. -/
def names : ExposedField → List String
  | typed name _ | untyped name => [name]
  | relation name _ => [name, FieldDef.relationColumn name]

/-- The field that options describe. -/
def ofOptions (o : Options) (name type : String) : ExposedField :=
  if o.relation then relation name type else if o.untyped then untyped name else typed name type

end ExposedField

namespace Member

/-- The text of the type, without blanks. -/
def typeText (m : Member) : String :=
  String.ofList ((Token.textAll m.type).filter (!Text.isBlank ·))

/-- The name under which the field is found. -/
def exposedName (m : Member) (o : Options) : String := o.name.getD m.name

/-- The field as it is found, unless it is left out. -/
def exposed? (m : Member) (o : Options) : Option ExposedField :=
  if o.excluded then none else some (.ofOptions o (m.exposedName o) m.typeText)

/-- The name under which the field is the primary key, if it is that. -/
def primaryKey? (m : Member) (o : Options) : Option String :=
  if o.excluded || !o.primaryKey then none else some (m.exposedName o)

/-- The field with its options. -/
def withOptions (m : Member) : Except DeclarationError (Member × Options) :=
  return (m, ← Options.ofAttributes m.attributes)

end Member

/-! ### Models -/

/-- A model as a declaration describes it. -/
structure Description where
  /-- The name of the struct. -/
  model : String
  /-- The name of the type that stands for the model's description. -/
  schema : String
  label : String
  /-- The name of the primary key. -/
  pk : String
  fields : List ExposedField
  deriving DecidableEq

namespace Description

/-- A name without the mark `r#`. -/
def plainName (name : String) : String :=
  match name.toList with
  | 'r' :: '#' :: rest => String.ofList rest
  | _ => name

/-- The name of the type that stands for the description of a struct. -/
def schemaName (name : String) : String := "__QuerysetMeta" ++ plainName name

/-- The model that a declaration describes. -/
def ofItem (item : Item) : Except DeclarationError Description := do
  if item.parametric then throw .parameters
  let options ← Options.ofAttributes item.attributes
  let some members := item.members | throw .unnamedFields
  let found ← members.mapM Member.withOptions
  return {
    model := item.name
    schema := schemaName item.name
    label := options.label.getD item.name
    pk := ((found.filterMap fun (m, o) => m.primaryKey? o).getLast?).getD Model.defaultPk
    fields := found.filterMap fun (m, o) => m.exposed? o }

/-- The first field that answers to a name. -/
def field? (d : Description) (name : String) : Option ExposedField :=
  d.fields.find? (·.names.contains name)

end Description

end RecordQuery.Declaration
