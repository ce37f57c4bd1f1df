import TreeQuery.Command.Run

/-!
# The program

Reads the file that a query names, runs the command and prints what it leaves behind.
-/

open TreeQuery Command

/-- What the system says when a file cannot be read. -/
def readFailure : IO.Error → String
  | .noFileOrDirectory .. => "No such file or directory (os error 2)"
  | .permissionDenied .. => "Permission denied (os error 13)"
  | .inappropriateType .. => "Is a directory (os error 21)"
  | e => toString e

/-- The content of a file, or why it cannot be read. -/
def readText (path : Text) : IO (Except String Text) := do
  try
    return .ok (← IO.FS.readFile (String.ofList path)).toList
  catch e =>
    return .error (readFailure e)

/-- The content of the file that the arguments name, if they name one. -/
def readNamed (arguments : List Text) : IO (Except String Text) :=
  match Request.ofArguments arguments with
  | .ok (.query _ path) => readText path
  | _ => return .ok []

/-- Runs the command on the arguments of the process. -/
def main (arguments : List String) : IO UInt32 := do
  let arguments := arguments.map String.toList
  let content ← readNamed arguments
  let outcome := run "sieve" (fun _ => content) arguments
  IO.eprint outcome.errors
  IO.print outcome.output
  return outcome.code.toUInt32
