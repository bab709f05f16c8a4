import Lexing.Text.Lines
import Lexing.Text.Quoted
import Lexing.Text.Utf8

/-!
# Sources

A source is the text of one program together with the path under which reports show
it. Two sources may hold the same text under the same path, so each one also has a
number that tells it from the others.

## Main definitions

* `Source`: a numbered text with its path.
* `Source.load`: the source that some bytes encode.
* `Source.line?`, `Source.lineRange?`: a line by its number.
* `Source.location?`, `Source.locate`: the line and column of an offset.
-/

namespace Lexing

/-- The text of a program. -/
structure Source where
  /-- Tells the source from others with the same path and text. -/
  number : Nat
  /-- The path that reports show. -/
  path : Text
  /-- The text itself. -/
  content : Text
  deriving DecidableEq, Repr

namespace Source

/-- The source whose text the bytes encode. -/
def load (number : Nat) (path : Text) (bytes : List UInt8) :
    Except Utf8.DecodingError Source :=
  (Utf8.decode bytes).map fun content => ⟨number, path, content⟩

/-- The number of bytes of the text. -/
def size (source : Source) : Nat :=
  source.content.byteLength

/-- The lines of the text, with their terminators. -/
def lines (source : Source) : List Text :=
  source.content.lines

/-- The number of lines. -/
def lineCount (source : Source) : Nat :=
  source.lines.length

/-- The item with the given number, counted from one. -/
def numbered? {α : Type} (items : List α) : Nat → Option α
  | 0 => none
  | n + 1 => items[n]?

/-- The line with number `n`, with its terminator. -/
def line? (source : Source) (n : Nat) : Option Text :=
  numbered? source.lines n

/-- The byte range of the line with number `n`. -/
def lineRange? (source : Source) (n : Nat) : Option ByteRange :=
  numbered? source.content.lineRanges n

/-- The location of the character at an offset; `none` if no character starts there. -/
def location? (source : Source) (offset : Nat) : Option Location :=
  source.content.location? offset

/-- The location just behind the last character. -/
def endLocation (source : Source) : Location :=
  let column := (source.line? source.lineCount).elim 0 (·.trimTerminators.length)
  ⟨source.lineCount, column + 1⟩

/-- The location of the character at an offset, or of the end where no character
starts. -/
def locate (source : Source) (offset : Nat) : Location :=
  (source.location? offset).getD source.endLocation

/-- A byte range as logs show it. -/
def rangeText (range : ByteRange) : String :=
  s!"{range.start}..{range.stop}"

/-- The source as logs show it: its path and the byte ranges of its lines. -/
def logText (source : Source) : String :=
  let ranges := ", ".intercalate (source.content.lineRanges.map rangeText)
  s!"SourceFile \x7b full_path: {Text.quote source.path}, lines: [{ranges}], .. \x7d"

end Source

end Lexing
