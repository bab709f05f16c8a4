import Lexing.Proofs.Report.Printed
import Lexing.Proofs.Spans
import Lexing.Proofs.Text.Around
import Mathlib.Data.List.Forall2

/-!
# What an excerpt shows of a span

The rows of the source in an excerpt are those of the lines with a character of the span,
and the paint in them is on the characters of the span and on no others. Tabs and
terminators are the exception: they are not shown as themselves, so there is nothing of them
to paint. Where the span begins and ends is found by searching for two offsets; what is said
here of its lines is said by counting through the text. It is said of the pieces of the rows
and, with the escape codes spelled out, of what is printed of them.

## Main definitions

* `Row.highlighted`: what a reader sees painted as a part of the span.
* `Span.IsOnLine`: a line has a character of the span.
* `Excerpt.ShowsLine`: a row that shows a line.
* `Excerpt.ShowsSpan`: rows that show the span.

## Main results

* `Excerpt.highlighted_cells`: of a part of a line, the characters of the span are painted.
* `Excerpt.render_rowsFrom`: the rows of lines are printed behind their numbers.
* `Excerpt.exists_showsSpan`: an excerpt shows exactly its span.
-/

namespace Lexing

/-- The characters of the row that are underlined, bold and red. -/
def Row.highlighted (row : Row) : Text :=
  Row.text (row.filter fun piece => piece.painters == [.underline, .bold, .red])

/-- There is a character of the span in the line with number `n`. An empty span is in the
line where it starts. -/
def Span.IsOnLine (span : Span) (n : Nat) : Prop :=
  if span.start = span.stop then (span.source.content.countedLocation span.start).line = n
  else ∃ i c, span.source.content.charAt? i = some c ∧ span.start ≤ i ∧ i < span.stop ∧
    (span.source.content.countedLocation i).line = n

namespace Excerpt

/-- Whether the character is shown as itself. -/
def isVerbatim (c : Char) : Bool :=
  !(c == '\t' || Text.isTerminator c)

/-- The text with four spaces for each tab. -/
def expandTabs (text : Text) : Text :=
  text.flatMap fun c => if c = '\t' then [' ', ' ', ' ', ' '] else [c]

/-- The row shows the line with a number. The line starts at an offset. -/
structure ShowsLine (excerpt : Excerpt) (number : Nat) (row : Row) (line : Text)
    (offset : Nat) : Prop where
  /-- The source has the line under that number. -/
  line?_eq : excerpt.span.source.line? number = some line
  /-- The offset is the one where the line starts in the source. -/
  lineRange?_eq :
    excerpt.span.source.lineRange? number = some ⟨offset, offset + line.byteLength⟩
  /-- All of the line but its terminator is in the row, behind the number and the gutter. -/
  text_eq : row.text = alignRight excerpt.numberWidth (Text.numeral number) ++
    [' ', '┃', ' '] ++ expandTabs line.trimTerminators
  /-- The line is printed behind the number and the gutter. -/
  printsAs : row.PrintsAs (printedNumberMargin excerpt.numberWidth number ++
    excerpt.span.printedFrom offset line)
  /-- At its place in the row a character has paint if it is in the span, and else none. -/
  exists_row_eq : ∀ left c right, line = left ++ c :: right → isVerbatim c = true →
    ∃ front back, row = front ++ ⟨if excerpt.span.start ≤ offset + left.byteLength ∧
        offset + left.byteLength < excerpt.span.stop then [.underline, .bold, .red] else [], [c]⟩ ::
          back ∧
      Row.text front = alignRight excerpt.numberWidth (Text.numeral number) ++ [' ', '┃', ' '] ++
        expandTabs left
  /-- The character is printed between the codes if it is in the span, and else without. -/
  render_eq : ∀ left c right, line = left ++ c :: right → isVerbatim c = true →
    row.render = printedNumberMargin excerpt.numberWidth number ++
      excerpt.span.printedFrom offset left ++
      (if excerpt.span.start ≤ offset + left.byteLength ∧
        offset + left.byteLength < excerpt.span.stop then Text.inUnderlinedRed [c] else [c]) ++
      excerpt.span.printedFrom (offset + left.byteLength + c.utf8Size) right

/-- The rows `shown` of the lines with the given numbers show the span. -/
structure ShowsSpan (excerpt : Excerpt) (numbers : List Nat) (shown : List Row) : Prop where
  /-- The excerpt has these rows of the source, two above them and one below. -/
  render_eq : excerpt.render =
    ([excerpt.placeRow, excerpt.margin gutterMark] ++ shown ++ [excerpt.helpRow]).flatMap
      fun row => row.render ++ ['\n']
  /-- The place of the span is counted from the start of the source, also at its end. -/
  text_placeRow : ∀ place, place = excerpt.span.source.content.countedLocation excerpt.span.start →
    excerpt.placeRow.text = spaces excerpt.numberWidth ++ ['-', '-', '>', ' '] ++
      excerpt.span.source.path ++ ':' :: Text.numeral place.line ++
        ':' :: Text.numeral place.column
  /-- The path and the place are printed behind an arrow. -/
  placeRow_printsAs : ∀ place,
    place = excerpt.span.source.content.countedLocation excerpt.span.start →
      excerpt.placeRow.PrintsAs (spaces excerpt.numberWidth ++ Text.inCyan ['-', '-', '>'] ++
        ' ' :: excerpt.span.source.path ++ ':' :: Text.numeral place.line ++
          ':' :: Text.numeral place.column)
  /-- The row above the lines is empty but for the gutter. -/
  margin_printsAs :
    (excerpt.margin gutterMark).PrintsAs (printedMargin excerpt.numberWidth '┃')
  /-- The lines are shown from top to bottom, each of them once. -/
  pairwise_numbers : numbers.Pairwise (· < ·)
  /-- They are the lines of the span, and no others. -/
  mem_numbers_iff : ∀ n, n ∈ numbers ↔ excerpt.span.IsOnLine n
  /-- Each row shows the line with its number. -/
  forall₂_showsLine : List.Forall₂
    (fun number row => ∃ line offset, excerpt.ShowsLine number row line offset) numbers shown
  /-- Behind their numbers, the lines are printed with the codes around each character of the
  span, from its first one to its last one, and around none in front of it or behind it. -/
  exists_bodies : ∃ (bodies : List Text) (left right : Text),
    bodies.length = numbers.length ∧
    shown.map Row.render = List.zipWith
      (fun number body => printedNumberMargin excerpt.numberWidth number ++ body) numbers bodies ∧
    (numbers.filterMap excerpt.span.source.line?).flatten =
      left ++ (excerpt.span.text ++ right) ∧
    bodies.flatten = left.flatMap Excerpt.shown ++
      (excerpt.span.text.flatMap printedInSpan ++ right.flatMap Excerpt.shown)
  /-- From top to bottom, what is painted is the text of the span. -/
  highlighted_eq :
    ([excerpt.placeRow, excerpt.margin gutterMark] ++ shown ++ [excerpt.helpRow]).flatMap
      Row.highlighted = excerpt.span.text.filter isVerbatim

end Excerpt

namespace Row

@[simp] theorem highlighted_append (left right : Row) :
    highlighted (left ++ right) = highlighted left ++ highlighted right := by
  rw [highlighted, List.filter_append, text_append]
  rfl

theorem highlighted_eq_nil {row : Row}
    (h : ∀ piece ∈ row, piece.painters ≠ [.underline, .bold, .red]) : highlighted row = [] := by
  have hnone : row.filter (fun piece => piece.painters == [.underline, .bold, .red]) = [] := by
    apply List.filter_eq_nil_iff.2
    intro piece hmem
    simpa using h piece hmem
  rw [highlighted, hnone]
  rfl

end Row

namespace Text

variable {text line left right body ending : Text} {c d : Char}

theorem isTerminator_of_mem_ending (h : ending ∈ [[], ['\n'], ['\r'], ['\r', '\n']]) :
    ∀ c ∈ ending, isTerminator c = true := by
  simp only [List.mem_cons, List.not_mem_nil, or_false] at h
  rcases h with rfl | rfl | rfl | rfl <;> simp [isTerminator]

theorem trimTerminators_append (hbody : ∀ c ∈ body, isTerminator c = false)
    (hending : ∀ c ∈ ending, isTerminator c = true) : trimTerminators (body ++ ending) = body := by
  have hall : ∀ c ∈ ending.reverse, isTerminator c = true :=
    fun c hmem => hending c (List.mem_reverse.1 hmem)
  have hbody := trimTerminators_eq hbody
  rw [trimTerminators] at hbody ⊢
  rw [List.reverse_append, List.dropWhile_append_of_pos hall, hbody]

/-- A terminator is the last character of its line, or the carriage return in front of the last
one. -/
theorem eq_of_mem_left (h : left ++ c :: right ∈ lines text) (hd : d ∈ left)
    (hterminator : isTerminator d = true) : d = '\r' ∧ c = '\n' ∧ right = [] := by
  obtain ⟨body, ending, hline, hbody, hending⟩ := exists_body_of_mem_lines h
  have hnot : d ∉ body := by
    intro hmem
    rw [hbody d hmem] at hterminator
    cases hterminator
  rcases List.append_eq_append_iff.1 hline with ⟨inside, rfl, -⟩ | ⟨inside, rfl, hrest⟩
  · exact absurd (List.mem_append_left inside hd) hnot
  · have hinside := (List.mem_append.1 hd).resolve_left hnot
    cases inside with
    | nil => cases hinside
    | cons e inside =>
      -- There is only one ending of two characters.
      have hpair : e :: (inside ++ c :: right) = ['\r', '\n'] := by
        have hlength := congrArg List.length hrest
        simp only [List.mem_cons, List.not_mem_nil, or_false] at hending
        rcases hending with rfl | rfl | rfl | rfl
        · cases hrest
        · simp at hlength
        · simp at hlength
        · exact hrest.symm
      obtain ⟨rfl, hbehind⟩ := List.cons.inj hpair
      obtain ⟨rfl, hlast⟩ := (List.append_eq_singleton_iff.1 hbehind).resolve_right (by simp)
      obtain ⟨rfl, rfl⟩ := List.cons.inj hlast
      exact ⟨List.mem_singleton.1 hinside, rfl, rfl⟩

end Text

namespace Source

variable {source : Source} {done more : List Text} {line : Text}

theorem line?_of_lines (h : source.lines = done ++ line :: more) :
    source.line? (done.length + 1) = some line := by
  rw [line?, numbered?, h, List.getElem?_append_right (Nat.le_refl _), Nat.sub_self]
  rfl

theorem lineRange?_of_lines (h : source.lines = done ++ line :: more) :
    source.lineRange? (done.length + 1) = some ⟨Text.byteLength done.flatten,
      Text.byteLength done.flatten + line.byteLength⟩ := by
  have hranges : source.content.lineRanges = Text.rangesFrom 0 (done ++ line :: more) := by
    rw [← h]
    rfl
  rw [lineRange?, numbered?, hranges, Text.rangesFrom_append, ← Text.length_rangesFrom 0 done,
    List.getElem?_append_right (Nat.le_refl _), Nat.sub_self, Nat.zero_add, Text.rangesFrom_cons]
  rfl

end Source

namespace Excerpt

variable {excerpt : Excerpt} {span : Span} {offset number : Nat}

section Shown

/-- Where there is no terminator, only tabs are shown as something else. -/
theorem flatMap_shown_eq {text : Text} (h : ∀ c ∈ text, Text.isTerminator c = false) :
    text.flatMap shown = expandTabs text := by
  apply List.flatMap_congr
  intro c hmem
  have hc := h c hmem
  simp only [Text.isTerminator, Bool.or_eq_false_iff, beq_eq_false_iff_ne] at hc
  rw [shown, if_neg (by simp [hc])]
  rfl

theorem flatMap_shown_eq_nil {text : Text} (h : ∀ c ∈ text, Text.isTerminator c = true) :
    text.flatMap shown = [] := by
  apply List.flatMap_eq_nil_iff.2
  intro c hmem
  have hc := h c hmem
  simp only [Text.isTerminator, Bool.or_eq_true, beq_iff_eq] at hc
  exact if_pos hc

/-- All of a line but its terminator is shown. -/
theorem flatMap_shown_of_mem_lines {text line : Text} (h : line ∈ text.lines) :
    line.flatMap shown = expandTabs line.trimTerminators := by
  obtain ⟨body, ending, rfl, hbody, hmem⟩ := Text.exists_body_of_mem_lines h
  have hending := Text.isTerminator_of_mem_ending hmem
  rw [Text.trimTerminators_append hbody hending, List.flatMap_append, flatMap_shown_eq hbody,
    flatMap_shown_eq_nil hending, List.append_nil]

end Shown

section Highlighted

theorem isVerbatim_eq_false_iff {c : Char} :
    isVerbatim c = false ↔ (c = '\n' ∨ c = '\r') ∨ c = '\t' := by
  rw [isVerbatim, Bool.not_eq_false', Text.isTerminator]
  simp only [Bool.or_eq_true, beq_iff_eq]
  exact or_comm

theorem cell_of_isVerbatim {c : Char} (hc : isVerbatim c = true) : cell span offset c =
    [⟨if span.start ≤ offset ∧ offset < span.stop then [.underline, .bold, .red] else [],
      [c]⟩] := by
  have hshown : ¬((c = '\n' ∨ c = '\r') ∨ c = '\t') := by
    rw [← isVerbatim_eq_false_iff, hc]
    simp
  rw [not_or] at hshown
  rw [cell, if_neg hshown.1, if_neg hshown.2]
  split <;> rfl

theorem printedAt_of_isVerbatim {c : Char} (hc : isVerbatim c = true) :
    span.printedAt offset c =
      if span.start ≤ offset ∧ offset < span.stop then Text.inUnderlinedRed [c] else [c] := by
  rw [← render_cell, cell_of_isVerbatim hc]
  split
  · simp
  · rfl

theorem highlighted_cell (h : span.start ≤ offset ∧ offset < span.stop) (c : Char) :
    Row.highlighted (cell span offset c) = [c].filter isVerbatim := by
  by_cases hc : isVerbatim c = true
  · rw [cell_of_isVerbatim hc, if_pos h, List.filter_cons_of_pos hc]
    rfl
  · rw [List.filter_cons_of_neg hc]
    rcases isVerbatim_eq_false_iff.1 (Bool.eq_false_iff.2 hc) with hterminator | rfl
    · rw [cell, if_pos hterminator]
      rfl
    · rfl

/-- All characters of the span are painted, if they are shown as themselves. -/
theorem highlighted_cells {part : Text} (hstart : span.start ≤ offset)
    (hstop : offset + part.byteLength ≤ span.stop) :
    Row.highlighted (cells span offset part) = part.filter isVerbatim := by
  induction part generalizing offset with
  | nil => rfl
  | cons c part ih =>
    have hpos := Char.utf8Size_pos c
    rw [Text.byteLength_cons] at hstop
    rw [cells_cons, Row.highlighted_append, highlighted_cell (by omega), ih (by omega) (by omega),
      ← List.filter_append]
    rfl

theorem highlighted_cells_eq_nil {part : Text}
    (h : span.stop ≤ offset ∨ offset + part.byteLength ≤ span.start) :
    Row.highlighted (cells span offset part) = [] := by
  apply Row.highlighted_eq_nil
  intro piece hmem
  rw [painters_of_mem_cells h hmem]
  simp

theorem highlighted_numberMargin (width number : Nat) :
    Row.highlighted (numberMargin width number) = [] := rfl

theorem highlighted_placeRow (excerpt : Excerpt) : Row.highlighted excerpt.placeRow = [] := rfl

theorem highlighted_margin (excerpt : Excerpt) (mark : Text) :
    Row.highlighted (excerpt.margin mark) = [] := rfl

theorem highlighted_helpRow (excerpt : Excerpt) : Row.highlighted excerpt.helpRow = [] := by
  unfold helpRow
  cases excerpt.help with
  | none => rfl
  | some help => cases excerpt.isSingleLine <;> rfl

end Highlighted

section Rows

/-- The rows of lines that follow one another, the first of which starts at an offset. -/
def rowsFrom (span : Span) (width number offset : Nat) (lines : List Text) : List Row :=
  ((withOffsets Text.byteLength offset lines).zipIdx number).map
    fun ((offset, line), number) => lineRow span width number offset line

theorem rowsFrom_cons (span : Span) (width number offset : Nat) (line : Text)
    (lines : List Text) : rowsFrom span width number offset (line :: lines) =
      (numberMargin width number ++ cells span offset line) ::
        rowsFrom span width (number + 1) (offset + line.byteLength) lines := by
  simp [rowsFrom, lineRow_eq]

/-- The paint in the rows is that on the text of their lines. -/
theorem highlighted_rowsFrom (span : Span) (width number offset : Nat) (lines : List Text) :
    (rowsFrom span width number offset lines).flatMap Row.highlighted =
      Row.highlighted (cells span offset lines.flatten) := by
  induction lines generalizing number offset with
  | nil => rfl
  | cons line lines ih =>
    rw [rowsFrom_cons, List.flatMap_cons, ih, Row.highlighted_append, highlighted_numberMargin,
      List.flatten_cons, cells_append, Row.highlighted_append]
    rfl

/-- What is printed of lines that follow one another, behind their numbers. -/
def bodiesFrom (span : Span) (offset : Nat) : List Text → List Text
  | [] => []
  | line :: lines =>
    span.printedFrom offset line :: bodiesFrom span (offset + line.byteLength) lines

theorem length_bodiesFrom (span : Span) (offset : Nat) (lines : List Text) :
    (bodiesFrom span offset lines).length = lines.length := by
  induction lines generalizing offset with
  | nil => rfl
  | cons line lines ih => rw [bodiesFrom, List.length_cons, ih, List.length_cons]

/-- The lines are printed as their text is, one behind the other. -/
theorem flatten_bodiesFrom (span : Span) (offset : Nat) (lines : List Text) :
    (bodiesFrom span offset lines).flatten = span.printedFrom offset lines.flatten := by
  induction lines generalizing offset with
  | nil => rfl
  | cons line lines ih =>
    rw [bodiesFrom, List.flatten_cons, ih, List.flatten_cons, Span.printedFrom_append]

theorem render_rowsFrom (span : Span) (width number offset : Nat) (lines : List Text) :
    (rowsFrom span width number offset lines).map Row.render =
      List.zipWith (fun number body => printedNumberMargin width number ++ body)
        (List.range' number lines.length) (bodiesFrom span offset lines) := by
  induction lines generalizing number offset with
  | nil => rfl
  | cons line lines ih =>
    rw [rowsFrom_cons, List.map_cons, ih, Row.render_append, render_numberMargin, render_cells,
      List.length_cons, List.range'_succ, bodiesFrom, List.zipWith_cons_cons]

/-- The row of a line shows it. -/
theorem showsLine_numberMargin_append {done more : List Text} {line : Text}
    (h : excerpt.span.source.lines = done ++ line :: more) :
    excerpt.ShowsLine (done.length + 1)
      (numberMargin excerpt.numberWidth (done.length + 1) ++
        cells excerpt.span (Text.byteLength done.flatten) line)
      line (Text.byteLength done.flatten) := by
  have hmem : line ∈ excerpt.span.source.content.lines := by
    show line ∈ excerpt.span.source.lines
    rw [h]
    simp
  have hrender : (numberMargin excerpt.numberWidth (done.length + 1) ++
      cells excerpt.span (Text.byteLength done.flatten) line).render =
        printedNumberMargin excerpt.numberWidth (done.length + 1) ++
          excerpt.span.printedFrom (Text.byteLength done.flatten) line := by
    rw [Row.render_append, render_numberMargin, render_cells]
  refine ⟨Source.line?_of_lines h, Source.lineRange?_of_lines h, ?_,
    Row.printsAs_of_render_eq hrender, ?_, ?_⟩
  · rw [Row.text_append, cells_text, flatMap_shown_of_mem_lines hmem]
    rfl
  · rintro left c right rfl hc
    have hleft : ∀ d ∈ left, Text.isTerminator d = false := by
      intro d hd
      by_contra hterminator
      obtain ⟨-, rfl, -⟩ := Text.eq_of_mem_left hmem hd (Bool.not_eq_false _ ▸ hterminator)
      cases hc
    refine ⟨numberMargin excerpt.numberWidth (done.length + 1) ++
      cells excerpt.span (Text.byteLength done.flatten) left, cells excerpt.span
        (Text.byteLength done.flatten + left.byteLength + c.utf8Size) right, ?_, ?_⟩
    · rw [cells_append, cells_cons, cell_of_isVerbatim hc]
      simp
    · rw [Row.text_append, cells_text, flatMap_shown_eq hleft]
      rfl
  · rintro left c right rfl hc
    rw [hrender, Span.printedFrom_append, Span.printedFrom_cons, printedAt_of_isVerbatim hc]
    simp only [List.append_assoc]

theorem forall₂_rowsFrom {done inner more : List Text}
    (h : excerpt.span.source.lines = done ++ inner ++ more) : List.Forall₂
      (fun number row => ∃ line offset, excerpt.ShowsLine number row line offset)
      (List.range' (done.length + 1) inner.length)
      (rowsFrom excerpt.span excerpt.numberWidth (done.length + 1) (Text.byteLength done.flatten)
        inner) := by
  induction inner generalizing done with
  | nil => exact .nil
  | cons line inner ih =>
    have hrow : excerpt.span.source.lines = done ++ line :: (inner ++ more) := by simpa using h
    have hrest : excerpt.span.source.lines = done ++ [line] ++ inner ++ more := by simpa using h
    rw [List.length_cons, List.range'_succ, rowsFrom_cons]
    refine .cons ⟨_, _, showsLine_numberMargin_append hrow⟩ ?_
    simpa using ih hrest

/-- The lines with the numbers of a range are the ones of the source. -/
theorem filterMap_line?_range' {source : Source} {done inner more : List Text}
    (h : source.lines = done ++ inner ++ more) :
    (List.range' (done.length + 1) inner.length).filterMap source.line? = inner := by
  induction inner generalizing done with
  | nil => rfl
  | cons line inner ih =>
    have hline : source.lines = done ++ line :: (inner ++ more) := by simpa using h
    have hrest : source.lines = done ++ [line] ++ inner ++ more := by simpa using h
    have hnumbers := ih hrest
    rw [List.length_append, List.length_singleton] at hnumbers
    rw [List.length_cons, List.range'_succ,
      List.filterMap_cons_some (Source.line?_of_lines hline), hnumbers]

end Rows

section Around

variable {before after left right : Text} {done inner more : List Text}
  (hcontent : excerpt.span.source.content = before ++ (excerpt.span.text ++ after))
  (hbefore : before.byteLength = excerpt.span.start)
  (haround : Text.IsAround before excerpt.span.text after done inner more left right)

include hcontent haround

theorem lines_eq : excerpt.span.source.lines = done ++ inner ++ more := by
  rw [Source.lines, hcontent]
  exact haround.lines_eq

include hbefore

theorem countedLocation_start : excerpt.span.source.content.countedLocation excerpt.span.start =
    ⟨done.length + 1, left.length + 1⟩ := by
  rw [hcontent, ← hbefore, Text.countedLocation_append, haround.first_eq]

theorem start_eq : excerpt.start = ⟨done.length + 1, left.length + 1⟩ := by
  have hboundary : excerpt.span.source.content.IsBoundary excerpt.span.start :=
    ⟨before, _, hcontent, hbefore⟩
  rw [start, Source.locate_eq_counted hboundary, countedLocation_start hcontent hbefore haround]

theorem last_line_eq : excerpt.last.line = done.length + inner.length := by
  obtain ⟨back, hback⟩ := List.dropLast_prefix excerpt.span.text
  have hboundary : excerpt.span.source.content.IsBoundary excerpt.lastOffset := by
    refine ⟨before ++ excerpt.span.text.dropLast, back ++ after, ?_, ?_⟩
    · rw [hcontent, List.append_assoc, ← List.append_assoc _ back, hback]
    · rw [Text.byteLength_append, hbefore]
      rfl
  rw [last, Source.locate_eq_counted hboundary, lastOffset, ← hbefore, hcontent]
  exact haround.last_line_eq

theorem sourceRows_eq : excerpt.sourceRows =
    rowsFrom excerpt.span excerpt.numberWidth (done.length + 1) (Text.byteLength done.flatten)
      inner := by
  have hlines := lines_eq hcontent haround
  rw [sourceRows, start_eq hcontent hbefore haround, last_line_eq hcontent hbefore haround,
    linesBetween_eq hlines]
  rfl

theorem isOnLine_iff (hstop : excerpt.span.start + excerpt.span.text.byteLength =
    excerpt.span.stop) {n : Nat} : excerpt.span.IsOnLine n ↔
      n ∈ List.range' (done.length + 1) inner.length := by
  have hrange : n ∈ List.range' (done.length + 1) inner.length ↔
      done.length + 1 ≤ n ∧ n ≤ done.length + inner.length := by
    rw [List.mem_range'_1]
    omega
  rw [hrange, Span.IsOnLine]
  by_cases hempty : excerpt.span.text = []
  · -- Its start is in the first line and in the last one.
    have hlast := haround.last_line_eq
    rw [← hcontent, hempty, List.dropLast_nil, Text.byteLength_nil, Nat.add_zero, hbefore,
      countedLocation_start hcontent hbefore haround] at hlast
    rw [hempty, Text.byteLength_nil, Nat.add_zero] at hstop
    rw [if_pos hstop, countedLocation_start hcontent hbefore haround]
    dsimp only at hlast ⊢
    omega
  · have hpos := Nat.pos_of_ne_zero (mt Text.byteLength_eq_zero_iff.1 hempty)
    rw [if_neg (by omega), ← haround.exists_charAt?_iff hempty, ← hcontent, hbefore, hstop]

omit hcontent in
/-- The span begins behind the part `left` of the lines around it. -/
theorem add_byteLength_left :
    Text.byteLength done.flatten + left.byteLength = excerpt.span.start := by
  rw [← hbefore, haround.before_eq, Text.byteLength_append]

omit hcontent in
/-- The characters of the span, and no others, are printed between the codes. -/
theorem flatten_bodiesFrom_around (hstop : excerpt.span.start + excerpt.span.text.byteLength =
    excerpt.span.stop) :
    (bodiesFrom excerpt.span (Text.byteLength done.flatten) inner).flatten =
      left.flatMap shown ++ (excerpt.span.text.flatMap printedInSpan ++ right.flatMap shown) := by
  rw [flatten_bodiesFrom, haround.flatten_eq]
  exact Span.printedFrom_around (add_byteLength_left hbefore haround) hstop

theorem highlighted_sourceRows (hstop : excerpt.span.start + excerpt.span.text.byteLength =
    excerpt.span.stop) :
    excerpt.sourceRows.flatMap Row.highlighted = excerpt.span.text.filter isVerbatim := by
  have hleft := add_byteLength_left hbefore haround
  rw [sourceRows_eq hcontent hbefore haround, highlighted_rowsFrom, haround.flatten_eq,
    cells_append, cells_append, Row.highlighted_append, Row.highlighted_append, hleft, hstop,
    highlighted_cells_eq_nil (Or.inr (Nat.le_of_eq hleft)),
    highlighted_cells (Nat.le_refl _) (Nat.le_of_eq hstop),
    highlighted_cells_eq_nil (Or.inl (Nat.le_refl _))]
  simp

end Around

/-- An excerpt shows the lines with a character of its span, and paints exactly its
characters. -/
theorem exists_showsSpan (excerpt : Excerpt) (h : excerpt.span.IsValid) :
    ∃ numbers shown, excerpt.ShowsSpan numbers shown := by
  obtain ⟨before, after, hcontent, hbefore, hstop⟩ := h.isSound.exists_content_eq
  obtain ⟨done, inner, more, left, right, haround⟩ :=
    Text.exists_isAround before excerpt.span.text after
  refine ⟨List.range' (done.length + 1) inner.length, excerpt.sourceRows,
    { render_eq := rfl
      text_placeRow := ?_
      placeRow_printsAs := ?_
      margin_printsAs := Row.printsAs_of_render_eq (render_margin excerpt '┃')
      pairwise_numbers := List.pairwise_lt_range'
      mem_numbers_iff := fun n => (isOnLine_iff hcontent hbefore haround hstop).symm
      forall₂_showsLine := ?_
      exists_bodies := ?_
      highlighted_eq := ?_ }⟩
  · rintro place rfl
    rw [countedLocation_start hcontent hbefore haround,
      ← start_eq hcontent hbefore haround]
    simp [placeRow]
  · rintro place rfl
    rw [countedLocation_start hcontent hbefore haround, ← start_eq hcontent hbefore haround]
    exact Row.printsAs_of_render_eq (render_placeRow excerpt)
  · rw [sourceRows_eq hcontent hbefore haround]
    exact forall₂_rowsFrom (lines_eq hcontent haround)
  · -- There is one body for each of the lines around the span.
    have hlines := lines_eq hcontent haround
    refine ⟨bodiesFrom excerpt.span (Text.byteLength done.flatten) inner, left, right, ?_, ?_, ?_,
      flatten_bodiesFrom_around hbefore haround hstop⟩
    · rw [length_bodiesFrom, List.length_range']
    · rw [sourceRows_eq hcontent hbefore haround, render_rowsFrom]
    · rw [filterMap_line?_range' hlines, haround.flatten_eq]
  · rw [List.flatMap_append, List.flatMap_append,
      highlighted_sourceRows hcontent hbefore haround hstop]
    simp [highlighted_placeRow, highlighted_margin, highlighted_helpRow]

-- The span goes over the end of the first line and over a tab in the second one.
theorem exists_showsSpan_two_lines :
    let source : Source := ⟨0, ['p'], ['x', '\t', 'é', '\r', '\n', 'y', '\t', 'z', '\n']⟩
    let excerpt : Excerpt := ⟨⟨source, 2, 8⟩, none⟩
    excerpt.span.IsValid ∧ ∃ numbers shown, excerpt.ShowsSpan numbers shown := by
  have hvalid : Span.IsValid ⟨⟨0, ['p'], ['x', '\t', 'é', '\r', '\n', 'y', '\t', 'z', '\n']⟩,
    2, 8⟩ := ⟨by decide, by decide, by decide⟩
  exact ⟨hvalid, exists_showsSpan _ hvalid⟩

example :
    let source : Source := ⟨0, ['p'], ['x', '\t', 'é', '\r', '\n', 'y', '\t', 'z', '\n']⟩
    sourceRows ⟨⟨source, 2, 8⟩, none⟩ =
      [numberMargin 1 1 ++ [.plain ['x'], .plain (spaces 4), ⟨[.underline, .bold, .red], ['é']⟩],
        numberMargin 1 2 ++
          [⟨[.underline, .bold, .red], ['y']⟩, .plain (spaces 4), .plain ['z']]] := by
  cbv

end Excerpt

end Lexing
