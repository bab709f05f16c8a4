import Lexing.Proofs.Report.SpanRows
import Mathlib.Order.Bounds.Basic

/-!
# The gutter of an excerpt

The gutter divides the line numbers of an excerpt from its text. The width of the column of
numbers is settled before any row is made, from the number of the last line, and each row
fills the column by itself. The rows agree on where the gutter is because the last line has
the greatest number, and a greater number is never written with fewer digits.

## Main definitions

* `Text.HasGutter`, `Row.HasGutter`: where the gutter of a row is.
* `Excerpt.HasStraightGutter`: the rows of an excerpt have their gutters in one column.

## Main results

* `Text.numeralWidth_mono`: greater numbers are not shorter.
* `Excerpt.hasStraightGutter`: excerpts have a straight gutter.
-/

namespace Lexing

/-- The text begins with a left margin and the mark between two spaces. There is no other such
mark in front of it, and its column is counted from zero. -/
structure Text.HasGutter (text margin : Text) (mark : Char) (column : Nat) : Prop where
  /-- The margin and the mark come first. -/
  isPrefix : margin ++ [' ', mark, ' '] <+: text
  /-- The first such mark is in the column. -/
  idxOf?_eq : text.idxOf? mark = some column

/-- The row has its gutter in a column, without the paint that is put on its pieces and also
if all escape sequences are taken out of what is printed. These are different texts if the
source itself holds an escape sequence. -/
structure Row.HasGutter (row : Row) (margin : Text) (mark : Char) (column : Nat) : Prop where
  /-- The gutter of the text that a reader sees. -/
  text_hasGutter : row.text.HasGutter margin mark column
  /-- The gutter of what is printed. -/
  unpainted_hasGutter : row.render.unpainted.HasGutter margin mark column

/-- All rows of the excerpt but the one with its place have their gutter in the same column,
behind `width` columns for the numbers and a space. -/
structure Excerpt.HasStraightGutter (excerpt : Excerpt) (width : Nat) : Prop where
  /-- The excerpt begins with the first line that has a character of the span. -/
  isLeast_start : IsLeast {n | excerpt.span.IsOnLine n} excerpt.start.line
  /-- It ends with the last one. -/
  isGreatest_last : IsGreatest {n | excerpt.span.IsOnLine n} excerpt.last.line
  /-- What is printed are the rows of the excerpt, each with a line feed behind it. -/
  unpainted_render : excerpt.render.unpainted =
    ([excerpt.placeRow, excerpt.margin gutterMark] ++ excerpt.sourceRows ++
      [excerpt.helpRow]).flatMap fun row => row.render.unpainted ++ ['\n']
  /-- Between the first row and the last one, each row is one line. -/
  feed_notMem : ∀ row ∈ excerpt.margin gutterMark :: excerpt.sourceRows,
    '\n' ∉ row.render.unpainted
  /-- The row above the lines has no number. -/
  margin_hasGutter : (excerpt.margin gutterMark).HasGutter (spaces width) '┃' (width + 1)
  /-- There is a row for each line, with its number to the right in the margin. -/
  forall₂_hasGutter : List.Forall₂
    (fun number row => row.HasGutter (alignRight width (Text.numeral number)) '┃' (width + 1))
    (List.range' excerpt.start.line (excerpt.last.line + 1 - excerpt.start.line))
    excerpt.sourceRows
  /-- The row below the lines has none either; its mark tells if there are several lines. -/
  helpRow_hasGutter : excerpt.helpRow.HasGutter (spaces width)
    (if excerpt.start.line = excerpt.last.line then '┃' else '=') (width + 1)

namespace Text

variable {margin : Text} {mark : Char}

theorem numeralWidth_pos (n : Nat) : 0 < numeralWidth n := by
  unfold numeralWidth
  split <;> omega

/-- A number has no more digits than a greater one. -/
theorem numeralWidth_mono {m n : Nat} (h : m ≤ n) : numeralWidth m ≤ numeralWidth n := by
  have hpos : 0 < (Nat.toDigits 10 n).length := by
    rw [← numeral, length_numeral]
    exact numeralWidth_pos n
  have hn : n < 10 ^ (Nat.toDigits 10 n).length :=
    (Nat.length_toDigits_le_iff (by decide) hpos).1 (Nat.le_refl _)
  have hm := (Nat.length_toDigits_le_iff (by decide) hpos).2 (Nat.lt_of_le_of_lt h hn)
  rwa [← numeral, ← numeral, length_numeral, length_numeral] at hm

theorem notMem_numeral {c : Char} (h : c.isDigit = false) (n : Nat) : c ∉ numeral n := by
  intro hmem
  rw [Nat.isDigit_of_mem_toDigits (by decide) (by decide) hmem] at h
  cases h

theorem hasGutter_append (hspace : mark ≠ ' ') (hmark : mark ∉ margin) (behind : Text) :
    (margin ++ [' ', mark, ' '] ++ behind).HasGutter margin mark (margin.length + 1) := by
  refine ⟨List.prefix_append _ _, ?_⟩
  induction margin with
  | nil => simp [List.idxOf?_cons, hspace.symm]
  | cons c margin ih =>
    rw [List.mem_cons, not_or] at hmark
    have hc : (c == mark) = false := beq_false_of_ne (Ne.symm hmark.1)
    rw [List.cons_append, List.cons_append, List.idxOf?_cons, hc, ih hmark.2]
    rfl

end Text

/-- Pieces that make a margin give a row its gutter, whatever comes behind them. -/
theorem Row.hasGutter_append {front : Row} {margin : Text} {mark : Char}
    (hfront : front.text = margin ++ [' ', mark, ' ']) (hspace : mark ≠ ' ')
    (hmark : mark ∉ margin) (hescape : '\x1b' ∉ front.text) (behind : Row) :
    (front ++ behind).HasGutter margin mark (margin.length + 1) := by
  constructor
  · rw [Row.text_append, hfront]
    exact Text.hasGutter_append hspace hmark behind.text
  · rw [Row.render_append, Row.unpainted_render_append hescape, hfront]
    exact Text.hasGutter_append hspace hmark behind.render.unpainted

namespace Excerpt

variable {excerpt : Excerpt} {width number : Nat}

section Margins

theorem length_alignRight {text : Text} (h : text.length ≤ width) :
    (alignRight width text).length = width := by
  rw [alignRight, List.length_append, spaces, List.length_replicate]
  omega

theorem notMem_alignRight_numeral {c : Char} (hspace : c ≠ ' ') (hdigit : c.isDigit = false)
    (width number : Nat) : c ∉ alignRight width (Text.numeral number) := by
  rw [alignRight, List.mem_append, not_or]
  exact ⟨notMem_spaces hspace _, Text.notMem_numeral hdigit number⟩

theorem margin_text (excerpt : Excerpt) (mark : Text) :
    (excerpt.margin mark).text = spaces excerpt.numberWidth ++ ' ' :: (mark ++ [' ']) := by
  simp [margin]

theorem numberMargin_text (width number : Nat) : (numberMargin width number).text =
    alignRight width (Text.numeral number) ++ [' ', '┃', ' '] := rfl

theorem margin_append_hasGutter (excerpt : Excerpt) (mark : Char) (hspace : mark ≠ ' ')
    (hescape : mark ≠ '\x1b') (behind : Row) :
    (excerpt.margin [mark] ++ behind).HasGutter (spaces excerpt.numberWidth) mark
      (excerpt.numberWidth + 1) := by
  have hfront : '\x1b' ∉ (excerpt.margin [mark]).text := by
    simp [margin_text, notMem_spaces, hescape.symm]
  have hgutter := Row.hasGutter_append (margin_text excerpt [mark]) hspace
    (notMem_spaces hspace _) hfront behind
  rwa [spaces, List.length_replicate] at hgutter

/-- A number that fits into the column does not move the gutter. -/
theorem numberMargin_append_hasGutter (h : Text.numeralWidth number ≤ width) (behind : Row) :
    (numberMargin width number ++ behind).HasGutter (alignRight width (Text.numeral number)) '┃'
      (width + 1) := by
  have hmark := notMem_alignRight_numeral (c := '┃') (by decide) (by decide) width number
  have hfront : '\x1b' ∉ (numberMargin width number).text := by
    have hescape := notMem_alignRight_numeral (c := '\x1b') (by decide) (by decide) width number
    simp [numberMargin_text, hescape]
  have hgutter := Row.hasGutter_append (numberMargin_text width number) (by decide) hmark hfront
    behind
  rwa [length_alignRight (Text.length_numeral number ▸ h)] at hgutter

theorem margin_hasGutter (excerpt : Excerpt) :
    (excerpt.margin gutterMark).HasGutter (spaces excerpt.numberWidth) '┃'
      (excerpt.numberWidth + 1) := by
  have hgutter := excerpt.margin_append_hasGutter '┃' (by decide) (by decide) []
  rwa [List.append_nil] at hgutter

theorem helpRow_hasGutter (excerpt : Excerpt) :
    excerpt.helpRow.HasGutter (spaces excerpt.numberWidth)
      (if excerpt.start.line = excerpt.last.line then '┃' else '=')
      (excerpt.numberWidth + 1) := by
  by_cases hsingle : excerpt.start.line = excerpt.last.line
  · rw [if_pos hsingle, helpRow, isSingleLine, if_pos (beq_iff_eq.2 hsingle)]
    exact excerpt.margin_append_hasGutter _ (by decide) (by decide) _
  · rw [if_neg hsingle, helpRow, isSingleLine, if_neg (by simpa using hsingle)]
    exact excerpt.margin_append_hasGutter _ (by decide) (by decide) _

end Margins

section Rows

variable {span : Span} {offset : Nat} {lines : List Text}

/-- The rows of lines that follow one another have their gutter in one column if all of their
numbers fit in front of it. -/
theorem forall₂_hasGutter_rowsFrom
    (h : ∀ n, n < number + lines.length → Text.numeralWidth n ≤ width) : List.Forall₂
      (fun number row => row.HasGutter (alignRight width (Text.numeral number)) '┃' (width + 1))
      (List.range' number lines.length) (rowsFrom span width number offset lines) := by
  induction lines generalizing number offset with
  | nil => exact .nil
  | cons line lines ih =>
    rw [List.length_cons] at h
    rw [List.length_cons, List.range'_succ, rowsFrom_cons]
    refine .cons (numberMargin_append_hasGutter (h number (by omega)) _) ?_
    exact ih fun n hn => h n (by omega)

theorem feed_notMem_shown (c : Char) : '\n' ∉ shown c := by
  unfold shown
  split
  · exact List.not_mem_nil
  · rename_i hterminator
    split
    · exact notMem_spaces (by decide) tabWidth
    · rw [not_or] at hterminator
      exact fun hmem => hterminator.1 (List.mem_singleton.1 hmem).symm

theorem feed_notMem_rowsFrom {row : Row} (h : row ∈ rowsFrom span width number offset lines) :
    '\n' ∉ row.text := by
  induction lines generalizing number offset with
  | nil => cases h
  | cons line lines ih =>
    rw [rowsFrom_cons] at h
    rcases List.mem_cons.1 h with rfl | h
    · have hnumber := notMem_alignRight_numeral (c := '\n') (by decide) (by decide) width number
      simp [numberMargin_text, hnumber, feed_notMem_shown]
    · exact ih h

end Rows

section Around

variable {before after left right : Text} {done inner more : List Text}
  (hcontent : excerpt.span.source.content = before ++ (excerpt.span.text ++ after))
  (hbefore : before.byteLength = excerpt.span.start)
  (haround : Text.IsAround before excerpt.span.text after done inner more left right)

include hcontent hbefore haround

theorem start_line_eq : excerpt.start.line = done.length + 1 := by
  rw [start_eq hcontent hbefore haround]

theorem forall₂_hasGutter_sourceRows : List.Forall₂
    (fun number row => row.HasGutter (alignRight excerpt.numberWidth (Text.numeral number)) '┃'
      (excerpt.numberWidth + 1))
    (List.range' excerpt.start.line (excerpt.last.line + 1 - excerpt.start.line))
    excerpt.sourceRows := by
  have hlast := last_line_eq hcontent hbefore haround
  have hstart := start_line_eq hcontent hbefore haround
  have hcount : excerpt.last.line + 1 - excerpt.start.line = inner.length := by omega
  rw [hcount, hstart, sourceRows_eq hcontent hbefore haround]
  apply forall₂_hasGutter_rowsFrom
  -- The last number is the greatest one, and the column is made for it.
  intro n hn
  exact Text.numeralWidth_mono (by omega)

theorem feed_notMem_sourceRows {row : Row} (h : row ∈ excerpt.sourceRows) : '\n' ∉ row.text := by
  rw [sourceRows_eq hcontent hbefore haround] at h
  exact feed_notMem_rowsFrom h

theorem isOnLine_iff_between (hstop : excerpt.span.start + excerpt.span.text.byteLength =
    excerpt.span.stop) (n : Nat) : excerpt.span.IsOnLine n ↔
      excerpt.start.line ≤ n ∧ n ≤ excerpt.last.line := by
  rw [isOnLine_iff hcontent hbefore haround hstop, List.mem_range'_1,
    start_line_eq hcontent hbefore haround, last_line_eq hcontent hbefore haround]
  omega

theorem start_line_le_last_line : excerpt.start.line ≤ excerpt.last.line := by
  have hpos := List.length_pos_of_ne_nil haround.inner_ne_nil
  rw [start_line_eq hcontent hbefore haround, last_line_eq hcontent hbefore haround]
  omega

end Around

/-- Dividing a number finds how many digits it has, and where there is room for the number of
the last line there is room for those of all lines: the gutter is straight. -/
theorem hasStraightGutter :
    (∀ n, Text.numeralWidth n = (Text.numeral n).length) ∧
      ∀ excerpt : Excerpt, excerpt.span.IsValid →
        excerpt.HasStraightGutter (Text.numeralWidth excerpt.last.line) := by
  refine ⟨fun n => (Text.length_numeral n).symm, fun excerpt h => ?_⟩
  obtain ⟨before, after, hcontent, hbefore, hstop⟩ := h.isSound.exists_content_eq
  obtain ⟨done, inner, more, left, right, haround⟩ :=
    Text.exists_isAround before excerpt.span.text after
  have hlines := isOnLine_iff_between hcontent hbefore haround hstop
  have hle := start_line_le_last_line hcontent hbefore haround
  exact
    { isLeast_start := ⟨(hlines _).2 ⟨Nat.le_refl _, hle⟩, fun n hn => ((hlines n).1 hn).1⟩
      isGreatest_last := ⟨(hlines _).2 ⟨hle, Nat.le_refl _⟩, fun n hn => ((hlines n).1 hn).2⟩
      unpainted_render := Row.unpainted_flatMap_render excerpt.rows
      feed_notMem := by
        rintro row hrow
        apply Row.feed_notMem_unpainted_render
        rcases List.mem_cons.1 hrow with rfl | hrow
        · simp [margin_text, gutterMark, notMem_spaces]
        · exact feed_notMem_sourceRows hcontent hbefore haround hrow
      margin_hasGutter := margin_hasGutter excerpt
      forall₂_hasGutter := forall₂_hasGutter_sourceRows hcontent hbefore haround
      helpRow_hasGutter := helpRow_hasGutter excerpt }

/-- The numbers of the lines go from one digit to two. -/
theorem hasStraightGutter_nine_to_ten :
    let source : Source := ⟨0, ['p'], List.replicate 8 '\n' ++ ['x', '\n', 'y']⟩
    let excerpt : Excerpt := ⟨⟨source, 8, 11⟩, none⟩
    excerpt.span.IsValid ∧ excerpt.HasStraightGutter (Text.numeralWidth excerpt.last.line) := by
  intro source excerpt
  have hvalid : excerpt.span.IsValid := ⟨by decide, by decide, by decide⟩
  exact ⟨hvalid, hasStraightGutter.2 excerpt hvalid⟩

example :
    let source : Source := ⟨0, ['p'], List.replicate 8 '\n' ++ ['x', '\n', 'y']⟩
    let excerpt : Excerpt := ⟨⟨source, 8, 11⟩, some ['?']⟩
    (excerpt.rows.drop 1).map Row.text =
      [[' ', ' ', ' ', '┃', ' '], [' ', '9', ' ', '┃', ' ', 'x'],
        ['1', '0', ' ', '┃', ' ', 'y'],
        [' ', ' ', ' ', '=', ' ', 'h', 'e', 'l', 'p', ':', ' ', '?']] := by
  cbv

end Excerpt

end Lexing
