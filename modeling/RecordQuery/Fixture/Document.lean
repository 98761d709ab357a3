import RecordQuery.FieldType
import RecordQuery.Json.Meaning

/-!
# Fixture documents

A fixture is a JSON document that describes models and the objects stored in them.
`Fixture.Document.read?` reads one.

Its records may be written as objects, whose unknown members are passed over and whose known members
must not be repeated, or as arrays of the values in the order in which they are listed here.  What is
passed over has to be JSON and need not mean anything.  In an object a member that may be null may
also be missing.  An array has to have all values up to the last one without a default.
-/

namespace RecordQuery.Fixture

/-- The description of a field. -/
structure FieldEntry where
  name : String
  type : Option FieldType
  relation : Option String
  attname : Option String

/-- The description of a model. -/
structure ModelEntry where
  label : String
  pk : Option String
  fields : List FieldEntry

/-- An object to be stored. -/
structure ObjectEntry where
  /-- The label of its model. -/
  model : String
  pk : Json
  /-- The values by field, in the order of the names. -/
  fields : List (String × Json)

/-- A fixture. -/
structure Document where
  models : List ModelEntry
  objects : List ObjectEntry

open Json (Syntax StringUnit unitText?)

/-! ### Records -/

/-- The value of the only member with this name; a repeated one is refused. -/
def member? (members : List (String × Syntax)) (name : String) : Option (Option Syntax) :=
  match members.filter fun m => m.1 = name with
  | [] => some none
  | [(_, value)] => some (some value)
  | _ => none

/-- The members of an object under their names. -/
def namedMembers? (members : List (List StringUnit × Syntax)) : Option (List (String × Syntax)) :=
  members.mapM fun (key, value) => (unitText? key).map fun name => (name, value)

/-- The values of a record, one for each name; an array has to have at least `required` of them. -/
def record? (names : List String) (required : Nat) : Syntax → Option (List (Option Syntax))
  | .array items =>
    if required ≤ items.length ∧ items.length ≤ names.length then
      some (items.map some ++ List.replicate (names.length - items.length) none)
    else none
  | .object members => do
    let members ← namedMembers? members
    names.mapM (member? members)
  | _ => none

/-! ### Values -/

/-- A text. -/
def text? : Syntax → Option String
  | .string units => unitText? units
  | _ => none

/-- A value that may be null or missing. -/
def optional? {α : Type} (read : Syntax → Option α) : Option Syntax → Option (Option α)
  | none | some .null => some none
  | some value => (read value).map some

/-- An array whose items are read one by one; a missing one has no items. -/
def list? {α : Type} (read : Syntax → Option α) : Option Syntax → Option (List α)
  | none => some []
  | some (.array items) => items.mapM read
  | some _ => none

/-- The name of a field type, or an object with the name as its only key and null as its value. -/
def fieldType? : Syntax → Option FieldType
  | .string units => (unitText? units).bind FieldType.ofName?
  | .object [(key, .null)] => (unitText? key).bind FieldType.ofName?
  | _ => none

/-- A document inside `depth` arrays and objects. -/
def nested? (depth : Nat) (value : Syntax) : Option Json := value.meaning? (Json.maxDepth - depth)

/-- The members of an object as documents; of several with one key the last one counts. -/
def documents? (depth : Nat) : Option Syntax → Option (List (String × Json))
  | none => some []
  | some (.object members) => do
    let members ← namedMembers? members
    let values ← members.mapM fun (name, value) => (nested? depth value).map fun j => (name, j)
    return (SortedMap.ofList values).entries
  | some _ => none

/-! ### Entries -/

/-- Reads the description of a field. -/
def FieldEntry.read? (s : Syntax) : Option FieldEntry := do
  match ← record? ["name", "type", "relation", "attname"] 4 s with
  | [some name, type, relation, attname] =>
    return ⟨← text? name, ← optional? fieldType? type, ← optional? text? relation,
      ← optional? text? attname⟩
  | _ => none

/-- Reads the description of a model. -/
def ModelEntry.read? (s : Syntax) : Option ModelEntry := do
  match ← record? ["label", "pk", "fields"] 2 s with
  | [some label, pk, fields] =>
    return ⟨← text? label, ← optional? text? pk, ← list? FieldEntry.read? fields⟩
  | _ => none

/-- Reads an object. -/
def ObjectEntry.read? (s : Syntax) : Option ObjectEntry := do
  match ← record? ["model", "pk", "fields"] 2 s with
  | [some model, some pk, fields] =>
    return ⟨← text? model, ← nested? 3 pk, ← documents? 4 fields⟩
  | _ => none

/-- Reads a fixture that has been read as JSON. -/
def Document.ofSyntax? (s : Syntax) : Option Document := do
  match ← record? ["models", "objects"] 0 s with
  | [models, objects] =>
    return ⟨← list? ModelEntry.read? models, ← list? ObjectEntry.read? objects⟩
  | _ => none

/-- Reads a fixture. -/
def Document.read? (text : String) : Option Document :=
  (Syntax.read? text).bind Document.ofSyntax?

end RecordQuery.Fixture
