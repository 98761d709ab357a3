import RecordQuery.Condition
import RecordQuery.Registry

/-!
# Stored rows

A `Row` is a primary key and values by field name.  A relation stores the primary key of the row that
it leads to, or a list of them.  A `Database` holds the rows of every model of a registry, in the
order in which they were inserted.

`Database.valueAt` reads the value at the end of a path.  It follows relations through the stored
keys: a list of keys gives a list with one entry for each of them, and a key without a row reads as
no value.
-/

namespace RecordQuery

/-- Why the store cannot answer. -/
inductive StoreError where
  /-- No model has this label. -/
  | noModel (label : String)
  /-- A segment of a path names no field. -/
  | noField (missing : Registry.MissingField)
  /-- An operator cannot take its right-hand side. -/
  | badOperand (cause : OperandError)

/-- The wording of the error. -/
def StoreError.message : StoreError → String
  | noModel label => "no such model '" ++ label ++ "'"
  | noField missing => "cannot resolve '" ++ missing.field ++ "' on " ++ missing.model
  | badOperand cause => cause.message

/-- A record: its primary key and its values. -/
structure Row where
  pk : Value
  /-- The values by the name of their field. -/
  values : SortedMap Value

namespace Row

/-- The row with a primary key and nothing else. -/
def new (pk : Value) : Row := ⟨pk, .empty⟩

/-- Stores a value in a field. -/
def set (row : Row) (field : String) (value : Value) : Row :=
  { row with values := row.values.insert field value }

/-- The value stored in a field; where nothing is stored there is no value. -/
def get (row : Row) (field : String) : Value := (row.values.get? field).getD .null

end Row

/-- The rows of every model of a registry. -/
structure Database where
  registry : Registry
  /-- The rows of each model, under its label in lower case. -/
  tables : SortedMap (List Row)

namespace Database

/-- The database over a registry that holds no rows. -/
def new (registry : Registry) : Database := ⟨registry, .empty⟩

/-- The rows of a model, in the order in which they were inserted. -/
def rows (db : Database) (m : Model) : List Row :=
  (db.tables.get? (Text.lowerCase m.label)).getD []

/-- Adds a row to the model under a label. -/
def insert (db : Database) (label : String) (row : Row) : Except StoreError Database :=
  match db.registry.model? label with
  | none => .error (.noModel label)
  | some m =>
    .ok { db with tables := db.tables.insert (Text.lowerCase m.label) (db.rows m ++ [row]) }

/-- The first row of a model whose primary key equals `pk`. -/
def get? (db : Database) (m : Model) (pk : Value) : Option Row :=
  (db.rows m).find? (·.pk.equals pk)

/-- What a row stores for a field: its primary key, or the value under the field's name. -/
def stored (m : Model) (row : Row) (d : FieldDef) : Value :=
  if d.name = m.pk then row.pk else row.get d.name

/-- What `read` finds in the row with a primary key; without such a row there is no value. -/
def follow (db : Database) (m : Model) (read : Row → Except StoreError Value) (pk : Value) :
    Except StoreError Value :=
  match db.get? m pk with
  | some row => read row
  | none => .ok .null

/-- What `read` finds behind the stored value of a relation. -/
def throughRelation (db : Database) (m : Model) (read : Row → Except StoreError Value) :
    Value → Except StoreError Value
  | .null => .ok .null
  | .list pks => (pks.mapM (db.follow m read)).map .list
  | pk => db.follow m read pk

/-- The value at the end of a path that starts at a row of a model. -/
def valueAt (db : Database) (m : Model) (row : Row) : List String → Except StoreError Value
  | [] => .error (.noField ⟨"", m.label⟩)
  | head :: rest =>
    match m.fieldDef? head with
    | none => .error (.noField ⟨head, m.label⟩)
    | some d =>
      match rest with
      | [] => .ok (stored m row d)
      | next :: more =>
        match db.registry.related? d with
        | none => .error (.noField ⟨next, m.label⟩)
        | some related =>
          db.throughRelation related (fun row => valueAt db related row (next :: more))
            (stored m row d)

end Database

end RecordQuery
