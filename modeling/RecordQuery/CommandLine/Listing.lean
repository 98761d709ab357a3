import RecordQuery.CommandLine.Arguments
import RecordQuery.Fixture.Load
import RecordQuery.QueryFilter
import RecordQuery.Rendering

/-!
# Listing rows

What the program does with its arguments: it loads the fixture, filters the rows of the model, and
lists them line by line with their number (`listing`).  The outcome of a run is an exit code with the
texts for the two outputs (`run`): code 1 with a report of what went wrong, from the outermost cause
to the innermost, and code 2 for wrong arguments.
-/

namespace RecordQuery.CommandLine

/-- The outcome of a run. -/
structure Outcome where
  exitCode : Nat
  output : String
  errors : String
  deriving DecidableEq

/-! ### Reports -/

/-- The lines of a cause behind the first one, indented to stand below it. -/
def indented (indent : String) (cause : String) : String :=
  Text.join ("\n" ++ indent) (Text.splitOn '\n' cause)

/-- Several causes, each with its number. -/
def numberedCauses : Nat → List String → String
  | _, [] => ""
  | n, cause :: rest =>
    "\n    " ++ String.ofList (Text.decimal n) ++ ": " ++ indented "       " cause ++
      numberedCauses (n + 1) rest

/-- What went wrong, and by what causes. -/
def report (problem : String) : List String → String
  | [] => "Error: " ++ problem ++ "\n"
  | [cause] => "Error: " ++ problem ++ "\n\nCaused by:\n    " ++ indented "    " cause ++ "\n"
  | causes => "Error: " ++ problem ++ "\n\nCaused by:" ++ numberedCauses 0 causes ++ "\n"

/-- Why there is nothing to list. -/
inductive Failure where
  /-- The fixture cannot be read. -/
  | unreadable (path reason : String)
  /-- The fixture cannot be loaded. -/
  | unloadable (path : String) (cause : Fixture.Error)
  /-- The model is not there. -/
  | store (cause : StoreError)
  /-- The query fails. -/
  | query (cause : QueryError)

/-- The report of a failure.  The fault in a text that is no fixture is not described further. -/
def Failure.report : Failure → String
  | unreadable path reason =>
    CommandLine.report ("loading " ++ path) ["cannot read fixture: " ++ reason, reason]
  | unloadable path .malformed =>
    CommandLine.report ("loading " ++ path) [Fixture.Error.message .malformed, ""]
  | unloadable path cause => CommandLine.report ("loading " ++ path) [cause.message]
  | store cause => CommandLine.report cause.message []
  | query cause => CommandLine.report cause.message []

/-! ### Listings -/

/-- The line of a row. -/
def line (style : Style) (zone : Offset) (m : Model) (row : Row) : String :=
  match style with
  | .short => row.display m
  | .cells => row.dict m
  | .json => (row.toJson m zone).render

/-- The notice that rows were left out. -/
def notice (listed : Nat) : String :=
  "\nNOTICE: Only first " ++ String.ofList (Text.decimal listed) ++
    " objects were listed. \n        Use --all to display all objects."

/-- The lines of a listing: the rows, a rule, their number, and a notice if some were left out. -/
def lines (style : Style) (zone : Offset) (limit : Option Nat) (s : RowSet) : List String :=
  let shown := match limit with
    | some n => s.limit n
    | none => s
  let rest := match limit with
    | some n => if n < s.count then [notice n] else []
    | none => []
  shown.rows.map (line style zone s.model) ++ "---------------------" ::
    ("Count: " ++ String.ofList (Text.decimal s.count)) :: rest

/-- The rows that the arguments select, given the text of the fixture. -/
def select (a : Arguments) (path label text : String) : Except Failure RowSet := do
  let zone := a.zone.getD Offset.utc
  let db ← (Fixture.load text zone).mapError (.unloadable path)
  let all ← (db.all label).mapError .store
  let resolver : Resolver := ⟨a.isOn .strict, zone, true⟩
  let filter := a.filters.foldl QueryFilter.addFilter (QueryFilter.new resolver)
  let filter := a.excludes.foldl QueryFilter.addExclude filter
  (filter.apply all a.orderBy none).mapError .query

/-- The listing that the arguments ask for; `read` gives the text of a file or why it cannot be
read. -/
def listing (a : Arguments) (path label : String) (read : String → Except String String) :
    Except Failure (List String) := do
  let text ← (read path).mapError (.unreadable path)
  let selected ← select a path label text
  return lines a.style (a.zone.getD Offset.utc) a.listed? selected

/-- How the program is called. -/
def usage : String :=
  "Usage: queryset [OPTIONS] <FIXTURE> <MODEL>\n"

/-- The name and version of the program. -/
def version : String := "queryset 0.1.0\n"

/-- Lines with their ends. -/
def unlines (ls : List String) : String := ls.foldr (fun l rest => l ++ "\n" ++ rest) ""

/-- A run of the program with these arguments. -/
def run (args : List String) (read : String → Except String String) : Outcome :=
  match Arguments.read args with
  | .error .usage => ⟨2, "", usage⟩
  | .error .help => ⟨0, usage, ""⟩
  | .error .version => ⟨0, version, ""⟩
  | .ok a =>
    match a.operands with
    | [path, label] =>
      match listing a path label read with
      | .ok ls => ⟨0, unlines ls, ""⟩
      | .error failure => ⟨1, "", failure.report⟩
    | _ => ⟨2, "", usage⟩

end RecordQuery.CommandLine
