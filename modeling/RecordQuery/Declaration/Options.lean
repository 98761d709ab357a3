import RecordQuery.Declaration.DeclarationError
import RecordQuery.Declaration.Token

/-!
# Options in attributes

What a declaration says about a model beyond its names and types stands in attributes, such as
`#[queryset(rename = "size", primary_key)]`.  An attribute holds options (`Setting`), separated by
commas, in any number and order; `settings` reads them from left to right and stops at the first one
that is wrong.

`Options.ofSettings` puts the options of one attribute together: of two texts for the same thing the
later one holds, and what is said once is said.  `Options.merge` does the same with two attributes,
and `Options.ofAttributes` with any number of them; attributes of other names say nothing.
-/

namespace RecordQuery.Declaration

open Token (Tree)

/-! ### Single options -/

/-- An option. -/
inductive Setting where
  /-- The name under which a field is found. -/
  | rename (name : String)
  /-- The label of a model. -/
  | label (text : String)
  /-- The field is left out. -/
  | exclude
  /-- The field leads to records of another model. -/
  | relation
  /-- The field has no type. -/
  | untyped
  /-- The field is the primary key. -/
  | primaryKey
  deriving DecidableEq

namespace Setting

/-- The options that consist of a name. -/
def flag? (word : String) : Option Setting :=
  if word = "exclude" then some exclude
  else if word = "relation" then some relation
  else if word = "untyped" then some untyped
  else if word = "primary_key" then some primaryKey
  else none

/-- The options that have a text behind their name. -/
def texted? (word : String) : Option (String → Setting) :=
  if word = "rename" then some rename else if word = "label" then some label else none

end Setting

/-- The words that are no names unless they have the mark `r#`. -/
def keywords : List String :=
  ["_", "abstract", "as", "async", "await", "become", "box", "break", "const", "continue", "crate",
    "do", "dyn", "else", "enum", "extern", "false", "final", "fn", "for", "if", "impl", "in", "let",
    "loop", "macro", "match", "mod", "move", "mut", "override", "priv", "pub", "ref", "return",
    "Self", "self", "static", "struct", "super", "trait", "true", "try", "type", "typeof", "unsafe",
    "unsized", "use", "virtual", "where", "while", "yield"]

/-- The text behind the name of an option, and what follows it. -/
def assignedText : List Tree → Except DeclarationError (String × List Tree)
  | .leaf (.mark '=' _) :: rest =>
    match rest with
    | [] => .error .endBeforeText
    | .leaf (.literal written) :: rest =>
      match Token.stringValue? written with
      | some text => .ok (text, rest)
      | none => .error .noText
    | _ => .error .noText
  | _ => .error .noEquals

/-- The option at the front of arguments, and what follows it. -/
def setting : List Tree → Except DeclarationError (Setting × List Tree)
  | .leaf (.name word) :: rest =>
    if keywords.contains word then .error .noName
    else
      match Setting.flag? word, Setting.texted? word with
      | some s, _ => .ok (s, rest)
      | none, some make => do
        let (text, rest) ← assignedText rest
        return (make text, rest)
      | none, none => .error .unsupportedOption
  | _ => .error .noName

/-- The arguments behind a comma, where there are any. -/
def afterComma : List Tree → Except DeclarationError (List Tree)
  | [] => .ok []
  | .leaf (.mark ',' _) :: rest => .ok rest
  | _ => .error .noComma

/-- What follows the text behind the name of an option is shorter than what begins with it. -/
theorem assignedText_length {items : List Tree} {text : String} {rest : List Tree}
    (h : assignedText items = .ok (text, rest)) : rest.length < items.length := by
  unfold assignedText at h
  split at h
  · split at h
    · cases h
    · split at h
      · cases h
        simp only [List.length_cons]
        omega
      · cases h
    · cases h
  · cases h

/-- What follows an option is shorter than what begins with it. -/
theorem setting_length {items : List Tree} {s : Setting} {rest : List Tree}
    (h : setting items = .ok (s, rest)) : rest.length < items.length := by
  unfold setting at h
  split at h
  · rename_i word more
    split at h
    · cases h
    · split at h
      · cases h
        simp
      · cases ht : assignedText more with
        | error e => simp [ht, bind, Except.bind] at h
        | ok found =>
          obtain ⟨text, after⟩ := found
          simp only [ht, bind, Except.bind, pure, Except.pure, Except.ok.injEq,
            Prod.mk.injEq] at h
          obtain ⟨_, rfl⟩ := h
          have := assignedText_length ht
          simp only [List.length_cons]
          omega
      · cases h
  · cases h

/-- What follows a comma is no longer than what begins with it. -/
theorem afterComma_length {items rest : List Tree} (h : afterComma items = .ok rest) :
    rest.length ≤ items.length := by
  unfold afterComma at h
  split at h
  · cases h
    simp
  · cases h
    simp
  · cases h

/-- The options that arguments consist of.  The last one may have a comma behind it. -/
def settings (items : List Tree) : Except DeclarationError (List Setting) :=
  if items.isEmpty then .ok []
  else
    match _ : setting items with
    | .error e => .error e
    | .ok (s, rest) =>
      match _ : afterComma rest with
      | .error e => .error e
      | .ok more => (s :: ·) <$> settings more
termination_by items.length
decreasing_by
  have := setting_length ‹_›
  have := afterComma_length ‹_›
  omega

/-! ### Options put together -/

/-- What the options of one or more attributes say. -/
structure Options where
  name : Option String
  label : Option String
  excluded : Bool
  relation : Bool
  untyped : Bool
  primaryKey : Bool
  deriving DecidableEq

namespace Options

/-- No options. -/
def empty : Options := ⟨none, none, false, false, false, false⟩

/-- What holds when one more option follows. -/
def set (o : Options) : Setting → Options
  | .rename name => { o with name := some name }
  | .label text => { o with label := some text }
  | .exclude => { o with excluded := true }
  | .relation => { o with relation := true }
  | .untyped => { o with untyped := true }
  | .primaryKey => { o with primaryKey := true }

/-- What the options of an attribute say. -/
def ofSettings (items : List Setting) : Options := items.foldl set empty

/-- What two attributes say, of which `later` comes second. -/
def merge (earlier later : Options) : Options where
  name := later.name.or earlier.name
  label := later.label.or earlier.label
  excluded := earlier.excluded || later.excluded
  relation := earlier.relation || later.relation
  untyped := earlier.untyped || later.untyped
  primaryKey := earlier.primaryKey || later.primaryKey

end Options

/-! ### Attributes -/

/-- What stands behind the name of an attribute, if it is one of those that hold options.  A name
with two colons behind it is the start of another one. -/
def optionTokens? : List Tree → Option (List Tree)
  | .leaf (.name "queryset") :: rest =>
    match rest with
    | .leaf (.mark ':' true) :: .leaf (.mark ':' _) :: _ => none
    | rest => some rest
  | _ => none

/-- The arguments of an attribute, from what stands behind its name. -/
def arguments : List Tree → Except DeclarationError (List Tree)
  | [] => .error .noArguments
  | .leaf (.mark '=' _) :: _ => .error .assignedAttribute
  | [.group _ items] => .ok items
  | .group _ _ :: _ => .error .trailingTokens
  | _ => .error .noBrackets

/-- What an attribute says, from what stands behind its name. -/
def Options.ofTokens (items : List Tree) : Except DeclarationError Options := do
  return Options.ofSettings (← settings (← arguments items))

/-- What attributes say together. -/
def Options.ofAttributes (attributes : List (List Tree)) : Except DeclarationError Options := do
  return (← (attributes.filterMap optionTokens?).mapM ofTokens).foldl merge empty

end RecordQuery.Declaration
