import Lexing.Report.Paint
import Lexing.Source.Span
import Lexing.Text.Numeral

/-!
# Excerpts of a source

An excerpt shows the lines that a span covers. It has a row with the place of the span,
an empty row, a row for each line with the characters of the span highlighted, and a
last row for the help. Line numbers stand to the right in a column as wide as the
greatest of them, and a gutter divides them from the text.

In the rows of the source, line terminators are left out and a tab takes four columns.
If the span stays on one line, the help follows a caret for each character of the span,
indented to where the span begins.

## Main definitions

* `Excerpt`: a span with an optional help.
* `Excerpt.rows`: its rows.
* `Excerpt.render`: the rows as they are printed.
-/

namespace Lexing

/-- The lines of a source around a span. -/
structure Excerpt where
  /-- The part of the source to show. -/
  span : Span
  /-- What to do about it. -/
  help : Option Text
  deriving DecidableEq, Repr

namespace Excerpt

/-- The given number of spaces. -/
def spaces (n : Nat) : Text :=
  List.replicate n ' '

/-- The text with spaces in front that make it as wide as asked for. -/
def alignRight (width : Nat) (text : Text) : Text :=
  spaces (width - text.length) ++ text

/-- A line number, a gutter mark or the arrow. -/
def marginPiece (text : Text) : Piece :=
  ⟨[.bold, .cyan], text⟩

/-- The mark that divides line numbers from text. -/
def gutterMark : Text := ['┃']

/-- The mark in front of the help for a span of more than one line. -/
def openGutterMark : Text := ['=']

/-- How many columns a tab takes. -/
def tabWidth : Nat := 4

/-- The place of the first character of the span. -/
def start (excerpt : Excerpt) : Location :=
  excerpt.span.source.locate excerpt.span.start

/-- The offset of the last character of the span, or of the span itself if it is
empty. -/
def lastOffset (excerpt : Excerpt) : Nat :=
  excerpt.span.start + Text.byteLength excerpt.span.text.dropLast

/-- The place of the last character of the span. -/
def last (excerpt : Excerpt) : Location :=
  excerpt.span.source.locate excerpt.lastOffset

/-- Whether all of the span is on one line. -/
def isSingleLine (excerpt : Excerpt) : Bool :=
  excerpt.start.line == excerpt.last.line

/-- The width of the column of line numbers. -/
def numberWidth (excerpt : Excerpt) : Nat :=
  Text.numeralWidth excerpt.last.line

/-- The row with the path and the place of the span. -/
def placeRow (excerpt : Excerpt) : Row :=
  [.plain (spaces excerpt.numberWidth), marginPiece ['-', '-', '>'],
    .plain (' ' :: excerpt.span.source.path ++ ':' :: Text.numeral excerpt.start.line ++
      ':' :: Text.numeral excerpt.start.column)]

/-- The left margin of a row without line number. -/
def margin (excerpt : Excerpt) (mark : Text) : Row :=
  [.plain (spaces excerpt.numberWidth ++ [' ']), marginPiece mark, .plain [' ']]

/-- How the character at an offset is shown: line terminators not at all, tabs as
spaces, and characters of the span highlighted. -/
def cell (span : Span) (offset : Nat) (c : Char) : Row :=
  if c = '\n' ∨ c = '\r' then []
  else if c = '\t' then [.plain (spaces tabWidth)]
  else if span.start ≤ offset ∧ offset < span.stop then [⟨[.underline, .bold, .red], [c]⟩]
  else [.plain [c]]

/-- The row of a line that starts at an offset, with its number in a column of the
given width. -/
def lineRow (span : Span) (width number offset : Nat) (line : Text) : Row :=
  [marginPiece (alignRight width (Text.numeral number)), .plain [' '], marginPiece gutterMark,
    .plain [' ']] ++
  (withOffsets Char.utf8Size offset line).flatMap fun (offset, c) => cell span offset c

/-- The lines of a source from one number to another, each with its number and the
offset where it starts. -/
def linesBetween (source : Source) (first last : Nat) : List ((Nat × Text) × Nat) :=
  ((withOffsets Text.byteLength 0 source.lines).zipIdx 1).filter fun (_, number) =>
    decide (first ≤ number) && decide (number ≤ last)

/-- The rows of the lines that the span covers. -/
def sourceRows (excerpt : Excerpt) : List Row :=
  let width := excerpt.numberWidth
  (linesBetween excerpt.span.source excerpt.start.line excerpt.last.line).map
    fun ((offset, line), number) => lineRow excerpt.span width number offset line

/-- The columns that a character in front of the span takes. -/
def indentOf (c : Char) : Nat :=
  if c = '\t' then tabWidth else 1

/-- How far the carets are indented. -/
def indent (excerpt : Excerpt) : Nat :=
  let line := (excerpt.span.source.line? excerpt.start.line).getD []
  ((line.take (excerpt.start.column - 1)).map indentOf).foldl (· + ·) 0

/-- How many carets mark the span. -/
def caretCount (excerpt : Excerpt) : Nat :=
  max 1 excerpt.span.text.length

/-- The carets under the span. -/
def carets (excerpt : Excerpt) : Row :=
  [.plain (spaces excerpt.indent), ⟨[.bold, .red], List.replicate excerpt.caretCount '^'⟩,
    .plain [' ']]

/-- The row below the source: carets and help, if there is a help. -/
def helpRow (excerpt : Excerpt) : Row :=
  let mark := if excerpt.isSingleLine then gutterMark else openGutterMark
  let advice := match excerpt.help with
    | none => []
    | some help =>
      (if excerpt.isSingleLine then excerpt.carets else []) ++
        [⟨[.bold], ['h', 'e', 'l', 'p']⟩, .plain (':' :: ' ' :: help)]
  excerpt.margin mark ++ advice

/-- All rows, from top to bottom. -/
def rows (excerpt : Excerpt) : List Row :=
  [excerpt.placeRow, excerpt.margin gutterMark] ++ excerpt.sourceRows ++ [excerpt.helpRow]

/-- The rows as they are printed, each with a line feed behind it. -/
def render (excerpt : Excerpt) : Text :=
  excerpt.rows.flatMap fun row => row.render ++ ['\n']

end Excerpt

end Lexing
