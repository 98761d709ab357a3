import RecordQuery.Calendar.Literal
import RecordQuery.Clauses

/-!
# Arguments of the command line

`Arguments.read` reads the arguments of the program.  Two stand for themselves, the fixture and the
label of a model.  Switches stand alone.  Settings have a value, either behind an equals sign or as
the next argument, and only some of them take one that begins with a hyphen from there.  Filters and
excludes may be given several times, everything else once.  Behind `--` every argument stands for
itself.

The arguments are read from left to right.  The first one that is wrong ends the reading, and so does
a request for help or for the version.
-/

namespace RecordQuery.CommandLine

/-- How the rows are listed. -/
inductive Style where
  /-- Each by its short name. -/
  | short
  /-- With their cells in braces. -/
  | cells
  /-- As JSON objects. -/
  | json
  deriving DecidableEq

/-- Options that stand alone. -/
inductive Switch where
  | strict
  | all
  | cells
  | json
  deriving DecidableEq

/-- Options that have a value. -/
inductive Setting where
  | filter
  | exclude
  | orderBy
  | limit
  | timezone
  deriving DecidableEq

namespace Switch

/-- Every switch. -/
def every : List Switch := [strict, all, cells, json]

/-- The name behind the two hyphens. -/
def name : Switch → String
  | strict => "strict"
  | all => "all"
  | cells => "v"
  | json => "vv"

end Switch

namespace Setting

/-- Every setting. -/
def every : List Setting := [filter, exclude, orderBy, limit, timezone]

/-- The name behind the two hyphens. -/
def name : Setting → String
  | filter => "filter"
  | exclude => "exclude"
  | orderBy => "order-by"
  | limit => "limit"
  | timezone => "timezone"

/-- Whether the value may be an argument that begins with a hyphen. -/
def takesHyphens : Setting → Bool
  | orderBy | timezone => true
  | filter | exclude | limit => false

end Setting

/-- What has been read of the arguments. -/
structure Arguments where
  /-- The arguments that stand for themselves: the path of the fixture and the label of the model. -/
  operands : List String
  switches : List Switch
  filters : List Clauses
  excludes : List Clauses
  orderBy : Option String
  limit : Option Nat
  zone : Option Offset

/-- Why the reading ends early. -/
inductive Stop where
  /-- An argument is wrong or missing. -/
  | usage
  /-- Help is asked for. -/
  | help
  /-- The version is asked for. -/
  | version
  deriving DecidableEq

namespace Arguments

/-- Nothing has been read. -/
def none : Arguments := ⟨[], [], [], [], .none, .none, .none⟩

/-- The largest limit. -/
def maxLimit : Nat := twoPow 64 - 1

/-- A limit: a number from one on, with or without a plus sign. -/
def limit? (value : String) : Option Nat :=
  let rest := match value.toList with
    | '+' :: rest => rest
    | rest => rest
  match Text.digits rest with
  | (d :: ds, []) =>
    let n := Text.ofDigits (d :: ds)
    if 1 ≤ n ∧ n ≤ maxLimit then some n else .none
  | _ => .none

/-- Turns a switch on; it must not be on yet. -/
def turnOn (a : Arguments) (s : Switch) : Except Stop Arguments :=
  if s ∈ a.switches then .error .usage else .ok { a with switches := s :: a.switches }

/-- Gives a setting its value. -/
def assign (a : Arguments) (s : Setting) (value : String) : Except Stop Arguments :=
  match s with
  | .filter =>
    match Clauses.parse value with
    | .ok clauses => .ok { a with filters := a.filters ++ [clauses] }
    | .error _ => .error .usage
  | .exclude =>
    match Clauses.parse value with
    | .ok clauses => .ok { a with excludes := a.excludes ++ [clauses] }
    | .error _ => .error .usage
  | .orderBy =>
    if a.orderBy.isSome then .error .usage else .ok { a with orderBy := some value }
  | .limit =>
    match a.limit, limit? value with
    | .none, some n => .ok { a with limit := some n }
    | _, _ => .error .usage
  | .timezone =>
    match a.zone, Offset.read? value with
    | .none, some zone => .ok { a with zone := some zone }
    | _, _ => .error .usage

/-- Takes an argument that stands for itself.  There are two, and the path is not empty. -/
def addOperand (a : Arguments) (value : String) : Except Stop Arguments :=
  match a.operands with
  | [] => if value = "" then .error .usage else .ok { a with operands := [value] }
  | [path] => .ok { a with operands := [path, value] }
  | _ => .error .usage

/-- Takes the arguments behind `--`. -/
def addOperands (a : Arguments) : List String → Except Stop Arguments
  | [] => .ok a
  | value :: rest => do addOperands (← a.addOperand value) rest

/-- How an argument looks. -/
inductive Shape where
  /-- It stands for itself or is the value of a setting. -/
  | plain
  /-- The mark behind which every argument stands for itself. -/
  | mark
  /-- An option with its name in full, and the value behind an equals sign. -/
  | long (name : String) (value : Option String)
  /-- Options of one letter, of which this is the first. -/
  | short (letter : Char)
  deriving DecidableEq

/-- The name of an option, and what is behind the equals sign. -/
def splitOption (s : List Char) : String × Option String :=
  match s.span (· ≠ '=') with
  | (name, []) => (String.ofList name, .none)
  | (name, _ :: value) => (String.ofList name, some (String.ofList value))

/-- How an argument looks. -/
def Shape.of (arg : String) : Shape :=
  match arg.toList with
  | ['-', '-'] => mark
  | '-' :: '-' :: rest => let (name, value) := splitOption rest; long name value
  | '-' :: letter :: _ => short letter
  | _ => plain

/-- Reads the arguments from one of them on. -/
def readFrom (a : Arguments) : List String → Except Stop Arguments
  | [] => .ok a
  | arg :: rest =>
    match Shape.of arg with
    | .plain => do readFrom (← a.addOperand arg) rest
    | .mark => a.addOperands rest
    | .short letter =>
      .error (if letter = 'h' then .help else if letter = 'V' then .version else .usage)
    | .long name (some value) =>
      match Setting.every.find? (·.name = name) with
      | some s => do readFrom (← a.assign s value) rest
      | .none => .error .usage
    | .long name .none =>
      if name = "help" then .error .help
      else if name = "version" then .error .version
      else match Switch.every.find? (·.name = name), Setting.every.find? (·.name = name) with
        | some s, _ => do readFrom (← a.turnOn s) rest
        | .none, some s =>
          match rest with
          | [] => .error .usage
          | value :: rest =>
            if s.takesHyphens || Shape.of value = .plain then do
              readFrom (← a.assign s value) rest
            else .error .usage
        | .none, .none => .error .usage

/-- Reads the arguments. -/
def read (args : List String) : Except Stop Arguments := readFrom none args

/-- Whether a switch is on. -/
def isOn (a : Arguments) (s : Switch) : Bool := s ∈ a.switches

/-- How the rows are listed: the cells win over JSON. -/
def style (a : Arguments) : Style :=
  if a.isOn .cells then .cells else if a.isOn .json then .json else .short

/-- How many rows are listed where no limit is given. -/
def defaultLimit : Nat := 20

/-- How many rows are listed at most. -/
def listed? (a : Arguments) : Option Nat :=
  if a.isOn .all then .none else some (a.limit.getD defaultLimit)

end Arguments

end RecordQuery.CommandLine
