import Lexing.Text.Offset

/-!
# Painted text

A terminal shows a text bold, underlined or in a colour if an escape sequence stands in
front of it; one more sequence behind it ends that. A report is built from painted
pieces, and its escape sequences are written only at the end, so what a reader sees of
it is known without looking for them.

## Main definitions

* `Painter`: a way to show a text.
* `Piece`: a text with its painters.
* `Piece.render`: the text with its escape sequences.
* `Row`: the pieces of one line of a report.
-/

namespace Lexing

/-- A way in which a terminal shows a text. -/
inductive Painter where
  | bold
  | underline
  | red
  | green
  | yellow
  | cyan
  deriving DecidableEq, Repr

namespace Painter

/-- The number that selects the painter in an escape sequence. -/
def code : Painter → Text
  | .bold => ['1']
  | .underline => ['4']
  | .red => ['3', '1']
  | .green => ['3', '2']
  | .yellow => ['3', '3']
  | .cyan => ['3', '6']

/-- The escape sequence with the given number. -/
def sequence (code : Text) : Text :=
  '\x1b' :: '[' :: code ++ ['m']

/-- The text as the painter shows it. -/
def paint (painter : Painter) (text : Text) : Text :=
  sequence painter.code ++ text ++ sequence ['0']

end Painter

/-- A text with its painters, the outermost one first. -/
structure Piece where
  /-- The painters. -/
  painters : List Painter
  /-- What a reader sees. -/
  text : Text
  deriving DecidableEq, Repr

namespace Piece

/-- A text as it is. -/
def plain (text : Text) : Piece :=
  ⟨[], text⟩

/-- The text with the escape sequences of its painters. -/
def render (piece : Piece) : Text :=
  piece.painters.foldr Painter.paint piece.text

end Piece

/-- The pieces of one line, from left to right. -/
abbrev Row := List Piece

namespace Row

/-- The line with all escape sequences. -/
def render (row : Row) : Text :=
  row.flatMap Piece.render

/-- What a reader sees of the line. -/
def text (row : Row) : Text :=
  row.flatMap Piece.text

end Row

end Lexing
