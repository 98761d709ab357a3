import RecordQuery.CommandLine.Listing

/-!
# The program

Reads the file that the arguments name and prints what `CommandLine.run` makes of it.
-/

namespace RecordQuery.CommandLine

/-- Why a file cannot be read. -/
def readFailure : IO.Error → String
  | .noFileOrDirectory .. => "No such file or directory (os error 2)"
  | .inappropriateType .. => "Is a directory (os error 21)"
  | .permissionDenied .. => "Permission denied (os error 13)"
  | e => toString e

/-- The text of the file that the arguments name first, or why it cannot be read. -/
def readFixture (args : List String) : IO (Except String String) := do
  match Arguments.read args with
  | .ok ⟨path :: _, _, _, _, _, _, _⟩ =>
    try
      match String.fromUTF8? (← IO.FS.readBinFile path) with
      | some text => return .ok text
      | none => return .error "stream did not contain valid UTF-8"
    catch e => return .error (readFailure e)
  | _ => return .ok ""

end RecordQuery.CommandLine

/-- Runs the program. -/
def main (args : List String) : IO UInt32 := do
  let text ← RecordQuery.CommandLine.readFixture args
  let outcome := RecordQuery.CommandLine.run args fun _ => text
  IO.print outcome.output
  IO.eprint outcome.errors
  return outcome.exitCode.toUInt32
