/-!
# What goes wrong with a declaration

A model can be described only by a struct with named fields and without parameters, and only if the
options in its attributes can be read (`DeclarationError`).
-/

namespace RecordQuery.Declaration

/-- What goes wrong when a model is described by a declaration. -/
inductive DeclarationError where
  /-- The type has parameters. -/
  | parameters
  /-- The type is not a struct with named fields. -/
  | unnamedFields
  /-- An attribute has nothing behind its name. -/
  | noArguments
  /-- An attribute has an equals sign behind its name. -/
  | assignedAttribute
  /-- An attribute has something else than brackets behind its name. -/
  | noBrackets
  /-- An attribute has more than its arguments in brackets. -/
  | trailingTokens
  /-- There is no option of this name. -/
  | unsupportedOption
  /-- Something else than a name stands where an option should begin. -/
  | noName
  /-- An option that takes a text has no equals sign behind its name. -/
  | noEquals
  /-- Something else than a text stands behind an equals sign. -/
  | noText
  /-- Nothing stands behind an equals sign. -/
  | endBeforeText
  /-- Two options have no comma between them. -/
  | noComma
  deriving DecidableEq

/-- The wording of the error. -/
def DeclarationError.message : DeclarationError → String
  | parameters => "Model can only be derived for structs without generic parameters."
  | unnamedFields => "Model can only be derived for structs with named fields."
  | noArguments => "expected attribute arguments in parentheses: #[queryset(...)]"
  | assignedAttribute => "expected parentheses: #[queryset(...)]"
  | noBrackets => "expected curly braces"
  | trailingTokens => "unexpected token in attribute arguments"
  | unsupportedOption => "unsupported queryset attribute"
  | noName => "expected identifier"
  | noEquals => "expected `=`"
  | noText => "expected string literal"
  | endBeforeText => "unexpected end of input, expected string literal"
  | noComma => "expected `,`"

end RecordQuery.Declaration
