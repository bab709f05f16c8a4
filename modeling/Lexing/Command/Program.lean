import Lexing.Command.Directory
import Lexing.Command.Options
import Lexing.Scanner.Stream

/-!
# The program

The program scans one file and prints its tokens, or their number. Nothing is printed
of a file that cannot be read or scanned; its first fault is reported instead.

## Main definitions

* `Outcome`: what a run leaves behind.
* `Options.render`: what is printed of a token stream.
* `Options.run`: a run on a file that was, or was not, read.
* `runProgram`: a run with the arguments of a command line.
-/

namespace Lexing

/-- What a run leaves behind. -/
structure Outcome where
  /-- The exit code. -/
  exitCode : Nat
  /-- The text on standard output. -/
  output : Text
  /-- The text on standard error. -/
  errors : Text
  deriving DecidableEq, Repr

/-- The lines of the help text. -/
def helpLines : List String :=
  ["Tokenizes MathLang programs.",
    "",
    "Usage: mathlang [OPTIONS] <FILE>",
    "",
    "Arguments:",
    "  <FILE>  The input file to tokenize",
    "",
    "Options:",
    "      --reserved <WORD>  Treats the given word as reserved, in addition to " ++
      "`note`, `print` and `let`",
    "      --count            Prints only the number of tokens",
    "  -h, --help             Print help"]

/-- The help text. -/
def helpText : Text :=
  helpLines.flatMap fun line => line.toList ++ ['\n']

namespace Options

/-- What is printed of a token stream: its tokens, or their number and a line feed. -/
def render (options : Options) (stream : TokenStream) : Text :=
  if options.count then Text.numeral stream.size ++ ['\n'] else stream.dump

/-- The outcome of a failure, whose report stands on standard error. -/
def failure (report : Text) : Outcome :=
  ⟨1, [], report ++ ['\n']⟩

/-- The report of a file that cannot be read, with the cause. -/
def fileReport (options : Options) (cause : Text) : Text :=
  Message.render ⟨.error, options.file ++ ':' :: ' ' :: cause⟩

/-- The run on a source. -/
def runOnSource (options : Options) (source : Source) : Outcome :=
  match TokenStream.ofSource source options.vocabulary Receiver.keeping [] with
  | (some stream, _) => ⟨0, options.render stream, []⟩
  | (none, errors) => ⟨1, [], errors.flatMap fun error => error.render ++ ['\n']⟩

/-- The run on the file, given its bytes or the reason why they cannot be had. -/
def run (options : Options) (file : Except FileError (List UInt8)) : Outcome :=
  match file with
  | .error error => failure (options.fileReport error.message)
  | .ok bytes =>
    match Source.load 0 options.file bytes with
    | .error error => failure (options.fileReport error.message.toList)
    | .ok source => options.runOnSource source

end Options

/-- The outcome of a command line that leads to no run. -/
def Refusal.outcome : Refusal → Outcome
  | .helpRequested => ⟨0, helpText, []⟩
  | refusal => ⟨refusal.exitCode, [], ("error: " : Text) ++ refusal.message ++ ['\n']⟩

/-- The run with the given arguments in a working directory. -/
def runProgram (directory : Directory) (arguments : List Text) : Outcome :=
  match Options.parse arguments with
  | .error refusal => refusal.outcome
  | .ok options => options.run (directory.read options.file)

end Lexing
