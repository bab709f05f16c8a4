import Lexing.Vocabulary

/-!
# The command line

The program is given one file and any number of options, in any order:

* `--reserved WORD` or `--reserved=WORD` reserves one more word, and may be repeated;
* `--count` asks for the number of tokens instead of the tokens, and may be given once;
* `--help`, or `-h` with whatever follows it, asks for the help text;
* `--` ends the options: all arguments behind it are operands.

An argument that begins with a dash, the dash alone apart, is an option, and so it is
no value of the option in front of it. Arguments are read from left to right. An
option that lacks its word, or an empty file name, is complained of when the next
option or operand that is known has been met, or at the end; so an argument in
between that is not known is complained of first.

## Main definitions

* `Argument`: the shapes of arguments.
* `Options`: what a complete command line asks for.
* `Refusal`: why a command line leads to no run.
* `Options.parse`: the options that the arguments spell.
-/

namespace Lexing

/-- The shape of a single argument. -/
inductive Argument where
  /-- Two dashes alone. -/
  | endOfOptions
  /-- Two dashes and a name, and a value behind an equals sign if there is one. -/
  | long (name : Text) (value : Option Text)
  /-- One dash and a letter. -/
  | short (letter : Char)
  /-- Anything else. -/
  | operand (text : Text)
  deriving DecidableEq, Repr

namespace Argument

/-- Whether the character does not end the name of an option. -/
def isNameCharacter (c : Char) : Bool :=
  c != '='

/-- The shape of an argument. -/
def ofText : Text → Argument
  | ['-', '-'] => .endOfOptions
  | '-' :: '-' :: body =>
    .long (body.takeWhile isNameCharacter) (body.dropWhile isNameCharacter).tail?
  | '-' :: letter :: _ => .short letter
  | text => .operand text

end Argument

/-- What a complete command line asks for. -/
structure Options where
  /-- The file to scan. -/
  file : Text
  /-- The additional reserved words, in the order given. -/
  reserved : List Text
  /-- Whether only the number of tokens is wanted. -/
  count : Bool
  deriving DecidableEq, Repr

/-- Why a command line leads to no run. -/
inductive Refusal where
  /-- The help text is asked for. -/
  | helpRequested
  /-- No file is given. -/
  | missingFile
  /-- The file name is empty, or `--reserved` has no word. -/
  | invalidValue
  /-- An option is not known, or there is a second file. -/
  | unknownArgument
  /-- `--count` is given twice. -/
  | repeatedFlag
  /-- An option that takes no value is given one. -/
  | unexpectedValue
  deriving DecidableEq, Repr

namespace Refusal

/-- The exit code: asking for help is no failure. -/
def exitCode : Refusal → Nat
  | .helpRequested => 0
  | _ => 2

/-- What is wrong with the command line. -/
def message : Refusal → Text
  | .helpRequested => "help is asked for"
  | .missingFile => "no file is given"
  | .invalidValue => "a value is missing"
  | .unknownArgument => "an argument is not known"
  | .repeatedFlag => "an option is given twice"
  | .unexpectedValue => "an option takes no value"

end Refusal

namespace Options

/-- The option that reserves a word. -/
def reservedName : Text := ['r', 'e', 's', 'e', 'r', 'v', 'e', 'd']

/-- The option that asks for the number of tokens. -/
def countName : Text := ['c', 'o', 'u', 'n', 't']

/-- The option that asks for the help text. -/
def helpName : Text := ['h', 'e', 'l', 'p']

/-- What is known after some of the arguments. -/
structure Progress where
  /-- The file, if one is given. -/
  file : Option Text
  /-- The reserved words. -/
  reserved : List Text
  /-- Whether `--count` is given. -/
  count : Bool
  /-- Whether the last option still lacks its word. -/
  awaitingWord : Bool
  /-- Whether the options have ended. -/
  operandsOnly : Bool
  deriving DecidableEq, Repr

namespace Progress

/-- Nothing is known before the first argument. -/
def start : Progress :=
  ⟨none, [], false, false, false⟩

/-- Complains of what is amiss so far. -/
def settle (progress : Progress) : Except Refusal Progress :=
  if progress.awaitingWord || progress.file == some [] then .error .invalidValue
  else .ok progress

/-- Takes an operand as the file. -/
def takeFile (progress : Progress) (text : Text) : Except Refusal Progress :=
  match progress.file with
  | some _ => .error .unknownArgument
  | none => progress.settle.map fun settled => { settled with file := some text }

/-- Takes an option with a long name. -/
def takeLong (progress : Progress) (name : Text) (value : Option Text) :
    Except Refusal Progress :=
  if name = reservedName then
    progress.settle.map fun settled =>
      match value with
      | some word => { settled with reserved := settled.reserved ++ [word] }
      | none => { settled with awaitingWord := true }
  else if name = countName then
    match value with
    | some _ => .error .unexpectedValue
    | none =>
      match progress.settle with
      | .error refusal => .error refusal
      | .ok settled =>
        if settled.count then .error .repeatedFlag else .ok { settled with count := true }
  else if name = helpName then
    match value with
    | some _ => .error .unexpectedValue
    | none =>
      match progress.settle with
      | .error refusal => .error refusal
      | .ok _ => .error .helpRequested
  else .error .unknownArgument

/-- Takes an option of one letter. -/
def takeShort (progress : Progress) (letter : Char) : Except Refusal Progress :=
  if letter = 'h' then
    match progress.settle with
    | .error refusal => .error refusal
    | .ok _ => .error .helpRequested
  else .error .unknownArgument

/-- Takes the next argument. -/
def take (progress : Progress) (text : Text) : Except Refusal Progress :=
  if progress.operandsOnly then progress.takeFile text
  else
    match Argument.ofText text with
    | .endOfOptions => .ok { progress with operandsOnly := true }
    | .long name value => progress.takeLong name value
    | .short letter => progress.takeShort letter
    | .operand text =>
      if progress.awaitingWord then
        .ok { progress with reserved := progress.reserved ++ [text], awaitingWord := false }
      else progress.takeFile text

/-- The options, if nothing is missing at the end. -/
def finish (progress : Progress) : Except Refusal Options :=
  match progress.settle with
  | .error refusal => .error refusal
  | .ok settled =>
    match settled.file with
    | some file => .ok ⟨file, settled.reserved, settled.count⟩
    | none => .error .missingFile

end Progress

/-- The options that the arguments spell, read from left to right. -/
def parse (arguments : List Text) : Except Refusal Options :=
  match arguments.foldlM Progress.take Progress.start with
  | .ok progress => progress.finish
  | .error refusal => .error refusal

/-- The vocabulary that the options describe. -/
def vocabulary (options : Options) : Vocabulary :=
  Vocabulary.reserving options.reserved

end Options

end Lexing
