import RecordQuery.Clauses
import RecordQuery.Coercion
import RecordQuery.Store

/-!
# Why a query fails

The causes for which reading, resolving or answering a query fails, and their wording.
-/

namespace RecordQuery

/-- Why a query fails. -/
inductive QueryError where
  /-- The text is not a filter expression. -/
  | malformedExpression (cause : ExpressionError)
  /-- A segment of a path names no field. -/
  | unknownField (missing : Registry.MissingField)
  /-- A range has other than two values. -/
  | rangeArity (count : Nat)
  /-- A raw text is no value of the type asked for. -/
  | literal (cause : LiteralError)
  /-- A term of an ordering names no field, or the ordering is malformed. -/
  | ordering (text : String)
  /-- The text is not a time zone. -/
  | timezone (text : String)
  /-- The store cannot answer. -/
  | store (cause : StoreError)

/-- The wording of the error. -/
def QueryError.message : QueryError → String
  | malformedExpression cause => "malformed expression: " ++ cause.message
  | unknownField missing => "no field '" ++ missing.field ++ "' on " ++ missing.model
  | rangeArity count =>
    "condition range requires exactly two values, got " ++ String.ofList (Text.decimal count)
  | literal cause => cause.message
  | ordering text => "cannot order by '" ++ text ++ "'"
  | timezone text => "invalid time zone '" ++ text ++ "'"
  | store cause => cause.message

end RecordQuery
