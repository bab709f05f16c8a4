import Lexing.Proofs.Report.Unpainted

/-!
# Printed rows

A row is printed with the escape codes of its pieces. Here the codes are spelled out, each
of them with the text that it surrounds, and a line is printed by walking through it once:
at each character, the offset alone says whether the codes of the span are around it. The
pieces of a row and the list of offsets from which it was made do not occur. What is
printed of a line is cut into what is printed of its parts, so that a span has the codes on
each of its characters and the text around it has none.

## Main definitions

* `Text.inBold`, `Text.inRed`, `Text.inCyan`, `Text.inUnderlinedRed`: a text between codes.
* `Row.PrintsAs`: what is printed of a row.
* `Span.printedFrom`: what is printed of a part of a line.

## Main results

* `Excerpt.render_cells`: parts of a line are printed as their characters are.
* `Span.printedFrom_around`: a span in its line is printed with the codes around its
  characters.
-/

namespace Lexing

namespace Text

/-- The text as it is printed in bold. -/
def inBold (text : Text) : Text :=
  ['\x1b', '[', '1', 'm'] ++ text ++ ['\x1b', '[', '0', 'm']

/-- The text as it is printed in bold red. -/
def inRed (text : Text) : Text :=
  ['\x1b', '[', '1', 'm', '\x1b', '[', '3', '1', 'm'] ++ text ++
    ['\x1b', '[', '0', 'm', '\x1b', '[', '0', 'm']

/-- The text as it is printed in bold cyan. -/
def inCyan (text : Text) : Text :=
  ['\x1b', '[', '1', 'm', '\x1b', '[', '3', '6', 'm'] ++ text ++
    ['\x1b', '[', '0', 'm', '\x1b', '[', '0', 'm']

/-- The text as it is printed in bold red with a line below it. -/
def inUnderlinedRed (text : Text) : Text :=
  ['\x1b', '[', '4', 'm', '\x1b', '[', '1', 'm', '\x1b', '[', '3', '1', 'm'] ++ text ++
    ['\x1b', '[', '0', 'm', '\x1b', '[', '0', 'm', '\x1b', '[', '0', 'm']

end Text

/-- The row is printed as the text `printed`. -/
structure Row.PrintsAs (row : Row) (printed : Text) : Prop where
  /-- With all of its escape codes the row is this text. -/
  render_eq : row.render = printed
  /-- Without escape sequences it is what a reader sees, if no escape character is shown. -/
  unpainted_eq : '\x1b' ∉ row.text → printed.unpainted = row.text

namespace Excerpt

/-- What is printed in front of a line: its number, and the gutter between spaces. -/
def printedNumberMargin (width number : Nat) : Text :=
  Text.inCyan (alignRight width (Text.numeral number)) ++ ' ' :: Text.inCyan ['┃'] ++ [' ']

/-- What is printed in front of a row without number: the mark between spaces. -/
def printedMargin (width : Nat) (mark : Char) : Text :=
  spaces width ++ ' ' :: Text.inCyan [mark] ++ [' ']

/-- What is printed of a character of the span. -/
def printedInSpan (c : Char) : Text :=
  if c = '\n' ∨ c = '\r' then []
  else if c = '\t' then [' ', ' ', ' ', ' ']
  else Text.inUnderlinedRed [c]

end Excerpt

namespace Span

/-- What is printed of the character at an offset. -/
def printedAt (span : Span) (offset : Nat) (c : Char) : Text :=
  if span.start ≤ offset ∧ offset < span.stop then Excerpt.printedInSpan c else Excerpt.shown c

/-- What is printed of the part of a line that starts at an offset. -/
def printedFrom (span : Span) (offset : Nat) : Text → Text
  | [] => []
  | c :: part => span.printedAt offset c ++ printedFrom span (offset + c.utf8Size) part

variable {span : Span} {offset : Nat}

@[simp] theorem printedFrom_nil (span : Span) (offset : Nat) : span.printedFrom offset [] = [] :=
  rfl

@[simp] theorem printedFrom_cons (span : Span) (offset : Nat) (c : Char) (part : Text) :
    span.printedFrom offset (c :: part) =
      span.printedAt offset c ++ span.printedFrom (offset + c.utf8Size) part := rfl

theorem printedFrom_append (span : Span) (offset : Nat) (left right : Text) :
    span.printedFrom offset (left ++ right) =
      span.printedFrom offset left ++ span.printedFrom (offset + left.byteLength) right := by
  induction left generalizing offset with
  | nil => simp
  | cons c left ih => simp [ih, Nat.add_assoc]

/-- All characters of the span have the codes around them. -/
theorem printedFrom_of_inside {part : Text} (hstart : span.start ≤ offset)
    (hstop : offset + part.byteLength ≤ span.stop) :
    span.printedFrom offset part = part.flatMap Excerpt.printedInSpan := by
  induction part generalizing offset with
  | nil => rfl
  | cons c part ih =>
    have hpos := Char.utf8Size_pos c
    rw [Text.byteLength_cons] at hstop
    -- The next character begins where this one ends, which is no further than the span.
    rw [printedFrom_cons, printedAt, if_pos (by omega), ih (by omega) (by omega),
      List.flatMap_cons]

/-- Outside the span no character has codes around it. -/
theorem printedFrom_of_outside {part : Text}
    (h : span.stop ≤ offset ∨ offset + part.byteLength ≤ span.start) :
    span.printedFrom offset part = part.flatMap Excerpt.shown := by
  induction part generalizing offset with
  | nil => rfl
  | cons c part ih =>
    have hpos := Char.utf8Size_pos c
    rw [Text.byteLength_cons] at h
    rw [printedFrom_cons, printedAt, if_neg (by omega), ih (by omega), List.flatMap_cons]

theorem printedFrom_around {left inside right : Text}
    (hstart : offset + left.byteLength = span.start)
    (hstop : span.start + inside.byteLength = span.stop) :
    span.printedFrom offset (left ++ (inside ++ right)) =
      left.flatMap Excerpt.shown ++
        (inside.flatMap Excerpt.printedInSpan ++ right.flatMap Excerpt.shown) := by
  rw [printedFrom_append, printedFrom_append, hstart, hstop,
    printedFrom_of_outside (.inr (Nat.le_of_eq hstart)),
    printedFrom_of_inside (Nat.le_refl _) (Nat.le_of_eq hstop),
    printedFrom_of_outside (.inl (Nat.le_refl _))]

end Span

namespace Piece

@[simp] theorem render_plain (text : Text) : (plain text).render = text := rfl

@[simp] theorem render_bold (text : Text) :
    (⟨[.bold], text⟩ : Piece).render = text.inBold := by
  simp [render, Painter.paint, Painter.sequence, Painter.code, Text.inBold]

@[simp] theorem render_red (text : Text) :
    (⟨[.bold, .red], text⟩ : Piece).render = text.inRed := by
  simp [render, Painter.paint, Painter.sequence, Painter.code, Text.inRed]

@[simp] theorem render_marginPiece (text : Text) :
    (Excerpt.marginPiece text).render = text.inCyan := by
  simp [Excerpt.marginPiece, render, Painter.paint, Painter.sequence, Painter.code, Text.inCyan]

@[simp] theorem render_underlinedRed (text : Text) :
    (⟨[.underline, .bold, .red], text⟩ : Piece).render = text.inUnderlinedRed := by
  simp [render, Painter.paint, Painter.sequence, Painter.code, Text.inUnderlinedRed]

end Piece

namespace Row

@[simp] theorem render_nil : Row.render [] = [] := rfl

@[simp] theorem render_cons (piece : Piece) (row : Row) :
    Row.render (piece :: row) = piece.render ++ Row.render row := rfl

@[simp] theorem render_append (left right : Row) :
    Row.render (left ++ right) = left.render ++ right.render :=
  List.flatMap_append

theorem printsAs_of_render_eq {row : Row} {printed : Text} (h : row.render = printed) :
    row.PrintsAs printed :=
  ⟨h, fun hescape => h ▸ unpainted_render hescape⟩

end Row

namespace Excerpt

variable {span : Span} {offset : Nat}

theorem render_margin (excerpt : Excerpt) (mark : Char) :
    (excerpt.margin [mark]).render = printedMargin excerpt.numberWidth mark := by
  simp [margin, printedMargin]

theorem render_placeRow (excerpt : Excerpt) :
    excerpt.placeRow.render = spaces excerpt.numberWidth ++ Text.inCyan ['-', '-', '>'] ++
      ' ' :: excerpt.span.source.path ++ ':' :: Text.numeral excerpt.start.line ++
        ':' :: Text.numeral excerpt.start.column := by
  simp [placeRow]

theorem render_numberMargin (width number : Nat) :
    (numberMargin width number).render = printedNumberMargin width number := by
  simp [numberMargin, gutterMark, printedNumberMargin]

theorem render_cell (span : Span) (offset : Nat) (c : Char) :
    Row.render (cell span offset c) = span.printedAt offset c := by
  unfold cell Span.printedAt printedInSpan shown
  -- A row asks for the span last, and what is printed is divided by it first.
  by_cases hterminator : c = '\n' ∨ c = '\r'
  · simp [hterminator]
  · by_cases htab : c = '\t'
    · subst htab
      simp [spaces, tabWidth]
    · by_cases hspan : span.start ≤ offset ∧ offset < span.stop <;> simp [hterminator, htab, hspan]

@[simp] theorem render_cells (span : Span) (offset : Nat) (part : Text) :
    Row.render (cells span offset part) = span.printedFrom offset part := by
  induction part generalizing offset with
  | nil => rfl
  | cons c part ih =>
    rw [cells_cons, Row.render_append, render_cell, ih, Span.printedFrom_cons]

end Excerpt

end Lexing
