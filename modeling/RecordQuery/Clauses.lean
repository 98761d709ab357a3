import RecordQuery.OrderedMap
import RecordQuery.Text.Split

/-!
# Filter expressions

A filter expression is a line of clauses `key=value` with commas between them.  The comma also
separates the members of a value that is a list, so a piece without `=` belongs to the value of
the clause before it: `name=hello,id__in=1,2,3` has the clauses `name` and `id__in`, the second
with the value `1,2,3`.  Empty pieces are passed over.

`Clauses.parse` reads an expression and `Clauses.render` writes one.  A piece with more than one
`=` is refused, and so is a piece without `=` that no clause precedes.  Of several clauses with one
key the last value stays, at the place of the first.
-/

namespace RecordQuery

/-- The clauses of a filter expression: raw values under clause keys. -/
abbrev Clauses := OrderedMap String

/-- Why a text is not a filter expression. -/
inductive ExpressionError where
  /-- A piece without `=` that no clause precedes. -/
  | strayFragment (piece : String)
  /-- A piece with more than one `=`. -/
  | repeatedEquals (piece : String)
  deriving DecidableEq

/-- The wording of the error. -/
def ExpressionError.message : ExpressionError → String
  | strayFragment piece => "'" ++ piece ++ "' does not continue any clause"
  | repeatedEquals piece => "'" ++ piece ++ "' has more than one '='"

namespace Clauses

/-- One piece of an expression. -/
inductive Piece where
  /-- A piece with one `=` opens a clause. -/
  | opening (key value : String)
  /-- A piece without `=` continues the value of the clause before it. -/
  | continuation (fragment : String)
  deriving DecidableEq

/-- What a piece is, by its number of `=`. -/
def Piece.read (piece : String) : Except ExpressionError Piece :=
  match Text.splitOn '=' piece with
  | [fragment] => .ok (.continuation fragment)
  | [key, value] => .ok (.opening key value)
  | _ => .error (.repeatedEquals piece)

/-- Reads the pieces that remain, with the clause that is open. -/
def readFrom (key value : String) : List String → Except ExpressionError (List (String × String))
  | [] => .ok [(key, value)]
  | piece :: rest =>
    match Piece.read piece with
    | .error e => .error e
    | .ok (.continuation fragment) => readFrom key (value ++ "," ++ fragment) rest
    | .ok (.opening nextKey nextValue) =>
      (readFrom nextKey nextValue rest).map ((key, value) :: ·)

/-- Groups pieces into clauses: each opening with the continuations that follow it. -/
def readPieces : List String → Except ExpressionError (List (String × String))
  | [] => .ok []
  | piece :: rest =>
    match Piece.read piece with
    | .error e => .error e
    | .ok (.continuation fragment) => .error (.strayFragment fragment)
    | .ok (.opening key value) => readFrom key value rest

/-- The pieces of an expression that are not empty. -/
def pieces (raw : String) : List String := (Text.splitOn ',' raw).filter (· ≠ "")

/-- Reads a filter expression. -/
def parse (raw : String) : Except ExpressionError Clauses :=
  (readPieces (pieces raw)).map OrderedMap.ofList

/-- Writes clauses as an expression. -/
def render (clauses : Clauses) : String :=
  Text.join "," (clauses.entries.map fun (key, value) => key ++ "=" ++ value)

end Clauses

end RecordQuery
