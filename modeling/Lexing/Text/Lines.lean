import Lexing.Text.Offset
import Lexing.Text.Search

/-!
# Lines of a text

A line runs up to and including its terminator: a line feed, a carriage return
with the line feed after it, or a carriage return alone. What follows the last
terminator is a line too, so a text has one line more than it has terminators
and its lines put together give the text back (`Text.flatten_lines`).

## Main definitions

* `Text.lines`: the lines of a text, terminators included.
* `Text.lineRanges`: the byte range of each line.
* `Location` and `Text.location?`: the line and column of a byte offset.
* `Text.trimTerminators`: a line without its terminator.
-/

namespace Lexing

/-- The bytes from offset `start` up to, and without, offset `stop`. -/
structure ByteRange where
  /-- The offset of the first byte. -/
  start : Nat
  /-- The offset just behind the last byte. -/
  stop : Nat
  deriving DecidableEq, Repr

/-- A place in a text as a reader counts it. -/
structure Location where
  /-- The number of the line, from one. -/
  line : Nat
  /-- The number of the character in its line, from one. -/
  column : Nat
  deriving DecidableEq, Repr

namespace Text

/-- Puts a character in front of the lines that follow it. It is a line of its
own if it ends one; a carriage return in front of a line feed does not. -/
def prependToLines (c : Char) : List Text → List Text
  | [] => [[c]]
  | line :: rest =>
    if c = '\n' ∨ (c = '\r' ∧ line.head? ≠ some '\n') then [c] :: line :: rest
    else (c :: line) :: rest

/-- The lines of the text, each with its terminator; the last one has none. -/
def lines (text : Text) : List Text :=
  text.foldr prependToLines [[]]

@[simp] theorem lines_nil : lines [] = [[]] := rfl

@[simp] theorem lines_cons (c : Char) (rest : Text) :
    lines (c :: rest) = prependToLines c (lines rest) := rfl

/-- A character in front of the lines is a character in front of the text. -/
theorem flatten_prependToLines (c : Char) (ls : List Text) :
    (prependToLines c ls).flatten = c :: ls.flatten := by
  cases ls with
  | nil => rfl
  | cons line rest =>
    rw [prependToLines]
    split <;> simp

/-- The lines put together are the text. -/
theorem flatten_lines (text : Text) : (lines text).flatten = text := by
  induction text with
  | nil => rfl
  | cons c rest ih => rw [lines_cons, flatten_prependToLines, ih]

theorem lines_ne_nil (text : Text) : lines text ≠ [] := by
  cases text with
  | nil => simp
  | cons c rest =>
    rw [lines_cons]
    cases lines rest with
    | nil => simp [prependToLines]
    | cons line rest =>
      rw [prependToLines]
      split <;> simp

/-- The byte range of each line, in order. -/
def lineRanges (text : Text) : List ByteRange :=
  (withOffsets byteLength 0 text.lines).map fun (start, line) =>
    ⟨start, start + line.byteLength⟩

/-- Whether the character can end a line. -/
def isTerminator (c : Char) : Bool :=
  c == '\n' || c == '\r'

/-- The text without the terminators at its end. -/
def trimTerminators (text : Text) : Text :=
  (text.reverse.dropWhile isTerminator).reverse

/-- The location of the character that starts at offset `n`; `none` if none does. The
lines that end at or in front of the offset come first, so a binary search finds the line
of the character. -/
def location? (text : Text) (n : Nat) : Option Location :=
  if n < text.byteLength ∧ text.IsBoundary n then
    let index := partitionPoint (fun range => decide (range.stop ≤ n)) text.lineRanges
    text.lineRanges[index]?.map fun range =>
      ⟨index + 1, (text.slice range.start n).length + 1⟩
  else none

end Text

end Lexing
