import Lexing.Proofs.Text.Lines
import Lexing.Report.Excerpt

/-!
# Rows of an excerpt

An excerpt is built from painted pieces. What a reader sees of them does not depend on
their paint, and where it stands on the screen is a matter of the columns of the text in
front of it. The row of a line shows the line character by character, so that a part of
a line is shown by a part of its row, and paint is only on characters of the span.

## Main definitions

* `Text.columns`: the columns that a text takes on a screen.
* `Excerpt.shown`: what is shown of a character of the source.
* `Excerpt.cells`: the pieces that show a part of a line.

## Main results

* `Text.length_numeral`: the width of a line number.
* `Excerpt.cells_append`: parts of a line are shown by parts of its row.
* `Excerpt.linesBetween_eq`: the lines that an excerpt shows.
-/

namespace Lexing

namespace Text

theorem length_numeral (n : Nat) : (numeral n).length = numeralWidth n := by
  induction n using numeralWidth.induct with
  | case1 n h =>
    rw [numeral, numeralWidth, if_pos h, Nat.toDigits_of_lt_base h]
    rfl
  | case2 n h ih =>
    rw [numeral, numeralWidth, if_neg h, Nat.toDigits_of_base_le (by decide) (by omega),
      List.length_append, ← numeral, ih]
    rfl

/-- The columns that the text takes on a screen. -/
def columns : Text → Nat
  | [] => 0
  | c :: text => Excerpt.indentOf c + columns text

@[simp] theorem columns_nil : columns [] = 0 := rfl

@[simp] theorem columns_cons (c : Char) (text : Text) :
    columns (c :: text) = Excerpt.indentOf c + columns text := rfl

@[simp] theorem columns_append (left right : Text) :
    columns (left ++ right) = columns left + columns right := by
  induction left with
  | nil => simp
  | cons c left ih => rw [List.cons_append, columns_cons, columns_cons, ih, Nat.add_assoc]

theorem foldl_indentOf (text : Text) (n : Nat) :
    (text.map Excerpt.indentOf).foldl (· + ·) n = n + columns text := by
  induction text generalizing n with
  | nil => rfl
  | cons c text ih => rw [List.map_cons, List.foldl_cons, ih, columns_cons, Nat.add_assoc]

theorem columns_eq_length {text : Text} (h : '\t' ∉ text) : columns text = text.length := by
  induction text with
  | nil => rfl
  | cons c text ih =>
    have hc : c ≠ '\t' := fun heq => h (heq ▸ List.mem_cons_self)
    have htext := ih fun hmem => h (List.mem_cons_of_mem c hmem)
    rw [columns_cons, htext, Excerpt.indentOf, if_neg hc, List.length_cons]
    omega

@[simp] theorem columns_spaces (n : Nat) : columns (Excerpt.spaces n) = n := by
  rw [columns_eq_length, Excerpt.spaces, List.length_replicate]
  intro htab
  cases List.eq_of_mem_replicate htab

@[simp] theorem columns_numeral (n : Nat) : columns (numeral n) = numeralWidth n := by
  rw [columns_eq_length, length_numeral]
  intro htab
  cases Nat.isDigit_of_mem_toDigits (by decide) (by decide) htab

end Text

@[simp] theorem Piece.plain_text (text : Text) : (Piece.plain text).text = text := rfl

namespace Row

@[simp] theorem text_nil : Row.text [] = [] := rfl

@[simp] theorem text_cons (piece : Piece) (row : Row) :
    Row.text (piece :: row) = piece.text ++ Row.text row := rfl

@[simp] theorem text_append (left right : Row) :
    Row.text (left ++ right) = left.text ++ right.text :=
  List.flatMap_append

end Row

namespace Excerpt

theorem notMem_spaces {c : Char} (h : c ≠ ' ') (n : Nat) : c ∉ spaces n :=
  fun hmem => h (List.eq_of_mem_replicate hmem)

/-- What is shown of a character: a tab as spaces, and a terminator not at all. -/
def shown (c : Char) : Text :=
  if c = '\n' ∨ c = '\r' then [] else if c = '\t' then spaces tabWidth else [c]

section Cells

variable {span : Span} {offset : Nat}

@[simp] theorem cell_text (span : Span) (offset : Nat) (c : Char) :
    Row.text (cell span offset c) = shown c := by
  unfold cell shown
  split
  · rfl
  · split
    · simp
    · split <;> simp

theorem painters_of_mem_cell (h : ¬(span.start ≤ offset ∧ offset < span.stop)) {c : Char}
    {piece : Piece} (hmem : piece ∈ cell span offset c) : piece.painters = [] := by
  unfold cell at hmem
  rw [if_neg h] at hmem
  split at hmem
  · cases hmem
  · split at hmem
    · rw [List.mem_singleton.1 hmem]
      rfl
    · rw [List.mem_singleton.1 hmem]
      rfl

/-- The pieces that show the part of a line that starts at an offset. -/
def cells (span : Span) (offset : Nat) (part : Text) : Row :=
  (withOffsets Char.utf8Size offset part).flatMap fun (offset, c) => cell span offset c

@[simp] theorem cells_nil (span : Span) (offset : Nat) : cells span offset [] = [] := rfl

@[simp] theorem cells_cons (span : Span) (offset : Nat) (c : Char) (part : Text) :
    cells span offset (c :: part) =
      cell span offset c ++ cells span (offset + c.utf8Size) part := by
  rw [cells, withOffsets_cons, List.flatMap_cons, ← cells]

theorem cells_append (span : Span) (offset : Nat) (left right : Text) :
    cells span offset (left ++ right) =
      cells span offset left ++ cells span (offset + left.byteLength) right := by
  induction left generalizing offset with
  | nil => simp
  | cons c left ih => simp [ih, Nat.add_assoc]

@[simp] theorem cells_text (span : Span) (offset : Nat) (part : Text) :
    Row.text (cells span offset part) = part.flatMap shown := by
  induction part generalizing offset with
  | nil => rfl
  | cons c part ih => rw [cells_cons, Row.text_append, cell_text, ih, List.flatMap_cons]

theorem painters_of_mem_cells {part : Text}
    (h : span.stop ≤ offset ∨ offset + part.byteLength ≤ span.start) {piece : Piece}
    (hmem : piece ∈ cells span offset part) : piece.painters = [] := by
  induction part generalizing offset with
  | nil => cases hmem
  | cons c part ih =>
    have hpos := Char.utf8Size_pos c
    rw [Text.byteLength_cons] at h
    rcases List.mem_append.1 (cells_cons span offset c part ▸ hmem) with hmem | hmem
    · exact painters_of_mem_cell (by omega) hmem
    · exact ih (by omega) hmem

end Cells

/-- The columns of what is shown of a text without terminators. -/
theorem columns_shown {text : Text} (h : ∀ c ∈ text, Text.isTerminator c = false) :
    Text.columns (text.flatMap shown) = text.columns := by
  induction text with
  | nil => rfl
  | cons c text ih =>
    obtain ⟨hc, htext⟩ := List.forall_mem_cons.1 h
    have hshown : Text.columns (shown c) = indentOf c := by
      simp only [Text.isTerminator, Bool.or_eq_false_iff, beq_eq_false_iff_ne] at hc
      rw [shown, if_neg (by simp [hc]), indentOf]
      split <;> simp [indentOf, *]
    rw [List.flatMap_cons, Text.columns_append, hshown, ih htext, Text.columns_cons]

@[simp] theorem alignRight_numeral (n : Nat) :
    alignRight (Text.numeralWidth n) (Text.numeral n) = Text.numeral n := by
  rw [alignRight, Text.length_numeral, Nat.sub_self]
  rfl

/-- The left margin of the row of a line, with the number of the line. -/
def numberMargin (width number : Nat) : Row :=
  [marginPiece (alignRight width (Text.numeral number)), .plain [' '], marginPiece gutterMark,
    .plain [' ']]

@[simp] theorem marginPiece_text (text : Text) : (marginPiece text).text = text := rfl

/-- The margins of all rows are equally wide. -/
theorem columns_margin (excerpt : Excerpt) :
    (excerpt.margin gutterMark).text.columns = excerpt.numberWidth + 3 := by
  simp [margin, gutterMark, indentOf]

theorem columns_numberMargin (number : Nat) :
    (numberMargin (Text.numeralWidth number) number).text.columns =
      Text.numeralWidth number + 3 := by
  simp [numberMargin, gutterMark, indentOf]

theorem lineRow_eq (span : Span) (width number offset : Nat) (line : Text) :
    lineRow span width number offset line =
      numberMargin width number ++ cells span offset line := rfl

section Lines

theorem withOffsets_byteLength_append (start : Nat) (done more : List Text) :
    withOffsets Text.byteLength start (done ++ more) =
      withOffsets Text.byteLength start done ++
        withOffsets Text.byteLength (start + Text.byteLength done.flatten) more := by
  induction done generalizing start with
  | nil => simp
  | cons line done ih => simp [ih, Nat.add_assoc]

theorem length_withOffsets {α : Type} (size : α → Nat) (start : Nat) (items : List α) :
    (withOffsets size start items).length = items.length := by
  induction items generalizing start with
  | nil => rfl
  | cons item items ih => simp [ih]

theorem filter_append_append {α : Type} {p : α → Bool} {left inner right : List α}
    (hleft : ∀ item ∈ left, ¬p item) (hinner : ∀ item ∈ inner, p item)
    (hright : ∀ item ∈ right, ¬p item) : (left ++ inner ++ right).filter p = inner := by
  rw [List.filter_append, List.filter_append, List.filter_eq_nil_iff.2 hleft,
    List.filter_eq_self.2 hinner, List.filter_eq_nil_iff.2 hright, List.nil_append,
    List.append_nil]

theorem filter_zipIdx_eq {α : Type} (left inner right : List α) (n : Nat) :
    ((left ++ inner ++ right).zipIdx n).filter (fun (_, number) =>
        decide (n + left.length ≤ number) && decide (number < n + left.length + inner.length)) =
      inner.zipIdx (n + left.length) := by
  rw [List.zipIdx_append, List.zipIdx_append, List.length_append]
  apply filter_append_append
  · rintro ⟨item, number⟩ hmem
    have hlt := (List.mem_zipIdx hmem).2.1
    simp only [Bool.and_eq_true, decide_eq_true_eq]
    omega
  · rintro ⟨item, number⟩ hmem
    obtain ⟨hle, hlt, -⟩ := List.mem_zipIdx hmem
    simp only [Bool.and_eq_true, decide_eq_true_eq]
    omega
  · rintro ⟨item, number⟩ hmem
    have hle := (List.mem_zipIdx hmem).1
    simp only [Bool.and_eq_true, decide_eq_true_eq]
    omega

/-- The lines behind the first ones, each with the offset where it starts and its number. -/
theorem linesBetween_eq {source : Source} {done inner more : List Text}
    (h : source.lines = done ++ inner ++ more) :
    linesBetween source (done.length + 1) (done.length + inner.length) =
      (withOffsets Text.byteLength (Text.byteLength done.flatten) inner).zipIdx
        (done.length + 1) := by
  have hnumbers := filter_zipIdx_eq (withOffsets Text.byteLength 0 done)
    (withOffsets Text.byteLength (Text.byteLength done.flatten) inner)
    (withOffsets Text.byteLength (Text.byteLength (done ++ inner).flatten) more) 1
  rw [length_withOffsets, length_withOffsets, Nat.add_comm 1] at hnumbers
  rw [← hnumbers, linesBetween, h, withOffsets_byteLength_append, withOffsets_byteLength_append]
  simp only [Nat.zero_add]
  apply List.filter_congr
  rintro ⟨item, number⟩ -
  have hlast : (number ≤ done.length + inner.length) ↔
      number < done.length + 1 + inner.length := by omega
  simp [hlast]

end Lines

end Excerpt

end Lexing
