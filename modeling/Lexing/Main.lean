import Lexing.Command.Program

/-!
# The executable

Reads the file that the command line names, and prints the outcome of the run.
-/

namespace Lexing

/-- The error with a number of the system, which may come with a minus sign, and its
description. -/
def fileErrorOfCode (code : UInt32) (reason : String) : FileError :=
  match min code.toNat (-code).toNat with
  | 2 => .notFound
  | 20 => .notDirectory
  | 21 => .notMappable
  | 36 => .nameTooLong
  | number => .other reason.capitalize.toList number

/-- The reason why the system did not give the bytes of a file. -/
def fileErrorOf : IO.Error → FileError
  | .noFileOrDirectory _ code reason => fileErrorOfCode code reason
  | .inappropriateType _ code reason => fileErrorOfCode code reason
  | .invalidArgument _ code reason => fileErrorOfCode code reason
  | .permissionDenied _ code reason => fileErrorOfCode code reason
  | .resourceExhausted _ code reason => fileErrorOfCode code reason
  | .noSuchThing _ code reason => fileErrorOfCode code reason
  | .otherError code reason => fileErrorOfCode code reason
  | error => .other error.toString.toList 0

/-- Reads a file. -/
def readFile (path : Text) : IO (Except FileError (List UInt8)) := do
  try
    let bytes ← IO.FS.readBinFile (String.ofList path)
    return .ok bytes.toList
  catch error => return .error (fileErrorOf error)

/-- The outcome of a run with the given arguments. -/
def runArguments (arguments : List Text) : IO Outcome :=
  match Options.parse arguments with
  | .error refusal => return refusal.outcome
  | .ok options => return options.run (← readFile options.file)

end Lexing

/-- Prints the outcome and exits with its code. -/
def main (arguments : List String) : IO UInt32 := do
  let outcome ← Lexing.runArguments (arguments.map String.toList)
  IO.print (String.ofList outcome.output)
  IO.eprint (String.ofList outcome.errors)
  return outcome.exitCode.toUInt32
