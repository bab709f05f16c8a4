import Lexing.Proofs.Location
import Lexing.Proofs.Report.Printed
import Lexing.Proofs.Scanner.Faults

/-!
# The report of an unknown character

A character that is no token is reported with its name, its place and its line. It is the
one highlighted character of the report, and one caret stands below it. The row of the
line and the row of the caret are made separately, the one from the characters themselves
and the other one from the number of columns in front; they agree because a character that
is reported is never blank, so that no terminator is in front of it in its line.

## Main definitions

* `CharacterReport`: the rows of a report on one character.
* `CharacterReport.Marks`: what such a report shows.
* `CharacterReport.Prints`: what is printed of it.
* `Session.Returns`: the errors that come out of sessions.

## Main results

* `Session.Returns.exists_characterReport`: unknown characters are marked in their reports.
-/

namespace Lexing

/-- A report on a character between `left` and `right` in its line. The row of the line is cut
in two at the character, and the row of the help at the caret. -/
structure CharacterReport where
  /-- Where the character is. -/
  place : Location
  /-- The line of the character in front of it. -/
  left : Text
  /-- The line of the character behind it, with the terminator. -/
  right : Text
  /-- The row that names the character. -/
  header : Row
  /-- The row with the path and the place. -/
  arrow : Row
  /-- The row above the line. -/
  gutter : Row
  /-- The row of the line in front of the character. -/
  front : Row
  /-- The row of the line behind the character. -/
  back : Row
  /-- The row of the help in front of the caret. -/
  under : Row
  /-- The row of the help behind the caret. -/
  behind : Row

namespace CharacterReport

/-- The only row of the source, with the character highlighted. -/
def sourceRow (report : CharacterReport) (c : Char) : Row :=
  report.front ++ ⟨[.underline, .bold, .red], [c]⟩ :: report.back

/-- The row of the help, with the caret. -/
def helpRow (report : CharacterReport) : Row :=
  report.under ++ ⟨[.bold, .red], ['^']⟩ :: report.behind

/-- All rows of the report on the character, from top to bottom. -/
def rows (report : CharacterReport) (c : Char) : List Row :=
  [report.header, report.arrow, report.gutter, report.sourceRow c, report.helpRow]

/-- The rows as they are printed. -/
def render (report : CharacterReport) (c : Char) : Text :=
  (report.rows c).flatMap fun row => row.render ++ ['\n']

/-- The report is about the character `c` at an offset of a source. -/
structure Marks (report : CharacterReport) (source : Source) (offset : Nat) (c : Char) :
    Prop where
  /-- The header names the character. -/
  header_text : report.header.text =
    ("[error]: found an unknown character `" : Text) ++ c :: ("`" : Text)
  /-- The place is the one that the source has for the offset. -/
  location?_eq : source.location? offset = some report.place
  /-- The path and the place stand behind an arrow. -/
  arrow_text : report.arrow.text =
    Excerpt.spaces (Text.numeralWidth report.place.line) ++ ("--> " : Text) ++ source.path ++
      ':' :: Text.numeral report.place.line ++ ':' :: Text.numeral report.place.column
  /-- The next row is empty but for the gutter. -/
  gutter_text : report.gutter.text =
    Excerpt.spaces (Text.numeralWidth report.place.line) ++ (" ┃ " : Text)
  /-- The line of the place holds the character. -/
  line?_eq : source.line? report.place.line = some (report.left ++ c :: report.right)
  /-- In that line it is the character at the offset. -/
  lineRange?_eq : ∃ range, source.lineRange? report.place.line = some range ∧
    offset = range.start + report.left.byteLength
  /-- What is in front of the character in its line is shown behind the number of the line. -/
  front_text : report.front.text =
    Text.numeral report.place.line ++ (" ┃ " : Text) ++ report.left.flatMap Excerpt.shown
  /-- What is behind the character in its line is shown too. -/
  back_text : report.back.text = report.right.flatMap Excerpt.shown
  /-- Nothing else in the row is highlighted. -/
  notMem_painters : ∀ piece ∈ report.front ++ report.back, .underline ∉ piece.painters
  /-- In front of the caret are spaces, as many as there are columns in front of the character. -/
  under_text : report.under.text =
    Excerpt.spaces (Text.numeralWidth report.place.line) ++ (" ┃ " : Text) ++
      Excerpt.spaces report.left.columns
  /-- Behind the caret is the help. -/
  behind_text : report.behind.text = (" help: " : Text) ++ LexicalError.unknownCharacterHelp
  /-- There is no other caret. -/
  notMem_caret : '^' ∉ report.under.text ++ report.behind.text
  /-- The caret stands in the column of the character. -/
  columns_eq : report.under.text.columns = report.front.text.columns

/-- What is printed of the report on the character `c` of a source, row by row. -/
structure Prints (report : CharacterReport) (source : Source) (c : Char) : Prop where
  /-- The header is printed in red and bold. -/
  header_printsAs : report.header.PrintsAs
    (Text.inRed "[error]:" ++ ' ' ::
      Text.inBold (("found an unknown character `" : Text) ++ c :: ("`" : Text)))
  /-- The arrow is printed in cyan. -/
  arrow_printsAs : report.arrow.PrintsAs
    (Excerpt.spaces (Text.numeralWidth report.place.line) ++ Text.inCyan ['-', '-', '>'] ++
      ' ' :: source.path ++ ':' :: Text.numeral report.place.line ++
        ':' :: Text.numeral report.place.column)
  /-- So is the gutter. -/
  gutter_printsAs : report.gutter.PrintsAs
    (Excerpt.printedMargin (Text.numeralWidth report.place.line) '┃')
  /-- There are no codes around what is in front of the character. -/
  front_printsAs : report.front.PrintsAs
    (Excerpt.printedNumberMargin (Text.numeralWidth report.place.line) report.place.line ++
      report.left.flatMap Excerpt.shown)
  /-- Of all the line, the codes are around the character alone. -/
  sourceRow_printsAs : (report.sourceRow c).PrintsAs
    (Excerpt.printedNumberMargin (Text.numeralWidth report.place.line) report.place.line ++
      report.left.flatMap Excerpt.shown ++ Text.inUnderlinedRed [c] ++
        report.right.flatMap Excerpt.shown)
  /-- In front of the caret only the gutter and spaces are printed. -/
  under_printsAs : report.under.PrintsAs
    (Excerpt.printedMargin (Text.numeralWidth report.place.line) '┃' ++
      Excerpt.spaces report.left.columns)
  /-- One caret is printed, with the help behind it. -/
  helpRow_printsAs : report.helpRow.PrintsAs
    (Excerpt.printedMargin (Text.numeralWidth report.place.line) '┃' ++
      Excerpt.spaces report.left.columns ++ Text.inRed ['^'] ++ ' ' :: Text.inBold "help" ++
        (": " : Text) ++ LexicalError.unknownCharacterHelp)

end CharacterReport

/-- A character that is not blank is neither a tab nor a terminator. -/
theorem Text.of_isBlank_eq_false {c : Char} (h : isBlank c = false) :
    c ≠ '\t' ∧ isTerminator c = false := by
  constructor
  · rintro rfl
    revert h
    decide
  · by_contra hc
    simp only [isTerminator, Bool.or_eq_false_iff, beq_eq_false_iff_ne, not_and_or,
      Decidable.not_not] at hc
    rcases hc with rfl | rfl <;> revert h <;> decide

namespace Text.IsInLine

variable {before after part right : Text} {c : Char} {done more : List Text}

/-- In a line no terminator is in front of a character that is none. -/
theorem isTerminator_of_mem (h : IsInLine before (c :: after) done part (c :: right) more)
    (hc : isTerminator c = false) : ∀ d ∈ part, isTerminator d = false := by
  have hmem : part ++ c :: right ∈ (before ++ c :: after).lines := by
    rw [h.lines_eq]
    simp
  obtain ⟨body, ending, hline, hbody, hending⟩ := exists_body_of_mem_lines hmem
  rcases List.append_eq_append_iff.1 hline with ⟨inside, rfl, -⟩ | ⟨inside, -, rfl⟩
  · intro d hd
    exact hbody d (List.mem_append_left _ hd)
  · -- The ending of the line would hold the character.
    have hendings : ∀ ending ∈ [[], ['\n'], ['\r'], ['\r', '\n']], ∀ d ∈ ending,
        isTerminator d = true := by simp [isTerminator]
    have hterminator := hendings _ hending c (by simp)
    rw [hc] at hterminator
    cases hterminator

end Text.IsInLine

namespace Excerpt

variable {source : Source} {before after part right : Text} {c : Char} {done more : List Text}

/-- The excerpt for a single character behind `before`. -/
def ofCharacter (source : Source) (before : Text) (c : Char) (help : Text) : Excerpt :=
  ⟨⟨source, before.byteLength, before.byteLength + c.utf8Size⟩, some help⟩

theorem text_ofCharacter (hcontent : source.content = before ++ c :: after) (help : Text) :
    (ofCharacter source before c help).span.text = [c] := by
  have hslice := Text.slice_append before [c] after
  rw [Text.byteLength_cons, Text.byteLength_nil, Nat.add_zero, List.append_assoc] at hslice
  rw [Span.text, ofCharacter, hcontent]
  exact hslice

theorem lineRow_ofCharacter (source : Source) (help : Text)
    (hline : Text.IsInLine before (c :: after) done part (c :: right) more)
    (hc : isBlank c = false) (width number : Nat) :
    let span := (ofCharacter source before c help).span
    let start := Text.byteLength done.flatten
    lineRow span width number start (part ++ c :: right) =
      (numberMargin width number ++ cells span start part) ++
        ⟨[.underline, .bold, .red], [c]⟩ :: cells span (before.byteLength + c.utf8Size) right := by
  intro span start
  have hbefore : start + part.byteLength = before.byteLength := hline.byteLength_eq.symm
  have hpos := Char.utf8Size_pos c
  have hinside : span.start ≤ before.byteLength ∧ before.byteLength < span.stop :=
    ⟨Nat.le_refl _, Nat.lt_add_of_pos_right hpos⟩
  have hcell : cell span before.byteLength c = [⟨[.underline, .bold, .red], [c]⟩] := by
    obtain ⟨htab, hterminator⟩ := Text.of_isBlank_eq_false hc
    simp only [Text.isTerminator, Bool.or_eq_false_iff, beq_eq_false_iff_ne] at hterminator
    rw [cell, if_neg (not_or.2 hterminator), if_neg htab, if_pos hinside]
  rw [lineRow_eq, cells_append, cells_cons, hbefore, hcell, List.append_assoc]
  rfl

variable (hcontent : source.content = before ++ c :: after)
  (hline : Text.IsInLine before (c :: after) done part (c :: right) more) (help : Text)

include hcontent hline

theorem start_ofCharacter :
    (ofCharacter source before c help).start = ⟨done.length + 1, part.length + 1⟩ := by
  show (source.location? before.byteLength).getD source.endLocation = _
  rw [Source.location?_of_isInLine hcontent hline (by simp)]
  rfl

theorem last_ofCharacter :
    (ofCharacter source before c help).last = ⟨done.length + 1, part.length + 1⟩ := by
  have hoffset : (ofCharacter source before c help).lastOffset = before.byteLength := by
    rw [lastOffset, text_ofCharacter hcontent help]
    rfl
  rw [last, hoffset, ← start_ofCharacter hcontent hline help]
  rfl

theorem numberWidth_ofCharacter :
    (ofCharacter source before c help).numberWidth = Text.numeralWidth (done.length + 1) := by
  rw [numberWidth, last_ofCharacter hcontent hline help]

theorem sourceRows_ofCharacter :
    let excerpt := ofCharacter source before c help
    excerpt.sourceRows =
      [lineRow excerpt.span excerpt.numberWidth (done.length + 1) (Text.byteLength done.flatten)
        (part ++ c :: right)] := by
  intro excerpt
  have hlines : source.lines = done ++ [part ++ c :: right] ++ more := by
    rw [Source.lines, hcontent, hline.lines_eq, List.append_assoc]
    rfl
  have hbetween := linesBetween_eq hlines
  have hsource : excerpt.span.source = source := rfl
  rw [List.length_singleton, withOffsets_cons, withOffsets_nil] at hbetween
  rw [sourceRows, start_ofCharacter hcontent hline help, last_ofCharacter hcontent hline help,
    hsource, hbetween]
  rfl

theorem indent_ofCharacter :
    (ofCharacter source before c help).indent = part.columns := by
  have hnumbered := Source.line?_of_isInLine hcontent hline
  rw [indent, start_ofCharacter hcontent hline help]
  simp only [ofCharacter, hnumbered, Option.getD_some, Nat.add_sub_cancel, List.take_left]
  rw [Text.foldl_indentOf, Nat.zero_add]

theorem helpRow_ofCharacter :
    let excerpt := ofCharacter source before c help
    excerpt.helpRow =
      (excerpt.margin gutterMark ++ [.plain (spaces excerpt.indent)]) ++ ⟨[.bold, .red], ['^']⟩ ::
        [.plain [' '], ⟨[.bold], ['h', 'e', 'l', 'p']⟩, .plain (':' :: ' ' :: help)] := by
  intro excerpt
  have hsingle : excerpt.isSingleLine = true := by
    rw [isSingleLine, start_ofCharacter hcontent hline help,
      last_ofCharacter hcontent hline help, beq_self_eq_true]
  have hcount : excerpt.caretCount = 1 := by
    rw [caretCount, text_ofCharacter hcontent help]
    rfl
  have hhelp : excerpt.help = some help := rfl
  simp [helpRow, hsingle, hhelp, carets, hcount]

end Excerpt

namespace LexicalError

/-- The report of an unknown character behind the lines `done` and the part `part` of its
own line. -/
def characterReport (source : Source) (before : Text) (c : Char) (done : List Text)
    (part right : Text) : CharacterReport :=
  let excerpt := Excerpt.ofCharacter source before c unknownCharacterHelp
  let start := Text.byteLength done.flatten
  { place := ⟨done.length + 1, part.length + 1⟩
    left := part
    right := right
    header := (message (.unknownCharacter excerpt.span c)).row
    arrow := excerpt.placeRow
    gutter := excerpt.margin Excerpt.gutterMark
    front := Excerpt.numberMargin excerpt.numberWidth (done.length + 1) ++
      Excerpt.cells excerpt.span start part
    back := Excerpt.cells excerpt.span (before.byteLength + c.utf8Size) right
    under := excerpt.margin Excerpt.gutterMark ++ [.plain (Excerpt.spaces excerpt.indent)]
    behind := [.plain [' '], ⟨[.bold], ['h', 'e', 'l', 'p']⟩,
      .plain (':' :: ' ' :: unknownCharacterHelp)] }

variable {source : Source} {before after part right : Text} {c : Char} {done more : List Text}

theorem sourceRow_characterReport
    (hline : Text.IsInLine before (c :: after) done part (c :: right) more)
    (hc : isBlank c = false) :
    let excerpt := Excerpt.ofCharacter source before c unknownCharacterHelp
    (characterReport source before c done part right).sourceRow c =
      Excerpt.lineRow excerpt.span excerpt.numberWidth (done.length + 1)
        (Text.byteLength done.flatten) (part ++ c :: right) :=
  (Excerpt.lineRow_ofCharacter source unknownCharacterHelp hline hc _ _).symm

theorem helpRow_characterReport (hcontent : source.content = before ++ c :: after)
    (hline : Text.IsInLine before (c :: after) done part (c :: right) more) :
    (characterReport source before c done part right).helpRow =
      (Excerpt.ofCharacter source before c unknownCharacterHelp).helpRow :=
  (Excerpt.helpRow_ofCharacter hcontent hline unknownCharacterHelp).symm

theorem render_unknownCharacter (hcontent : source.content = before ++ c :: after)
    (hline : Text.IsInLine before (c :: after) done part (c :: right) more)
    (hc : isBlank c = false) :
    render (.unknownCharacter ⟨source, before.byteLength, before.byteLength + c.utf8Size⟩ c) =
      (characterReport source before c done part right).render c := by
  have hrows := Excerpt.sourceRows_ofCharacter hcontent hline unknownCharacterHelp
  show _ ++ '\n' :: Excerpt.render (Excerpt.ofCharacter source before c unknownCharacterHelp) = _
  rw [Excerpt.render, Excerpt.rows, hrows, CharacterReport.render, CharacterReport.rows,
    sourceRow_characterReport hline hc, helpRow_characterReport hcontent hline]
  simp [Message.render]
  rfl

theorem underline_notMem_characterReport
    (hline : Text.IsInLine before (c :: after) done part (c :: right) more) {piece : Piece}
    (hmem : piece ∈ (characterReport source before c done part right).front ++
      (characterReport source before c done part right).back) :
    .underline ∉ piece.painters := by
  have hbefore := Nat.le_of_eq hline.byteLength_eq.symm
  rcases List.mem_append.1 hmem with hfront | hback
  · rcases List.mem_append.1 hfront with hmargin | hleft
    · have hpainters : ∀ piece ∈ Excerpt.numberMargin
          (Excerpt.ofCharacter source before c unknownCharacterHelp).numberWidth (done.length + 1),
          .underline ∉ piece.painters := by
        simp [Excerpt.numberMargin, Excerpt.marginPiece, Piece.plain]
      exact hpainters piece hmargin
    · rw [Excerpt.painters_of_mem_cells (.inr hbefore) hleft]
      exact List.not_mem_nil
  · rw [Excerpt.painters_of_mem_cells (.inl (Nat.le_refl _)) hback]
    exact List.not_mem_nil

theorem caret_notMem_characterReport (source : Source) (before : Text) (c : Char)
    (done : List Text) (part right : Text) :
    let report := characterReport source before c done part right
    '^' ∉ report.under.text ++ report.behind.text := by
  intro report
  have hspaces := Excerpt.notMem_spaces (c := '^') (by decide)
  have hhelp : '^' ∉ unknownCharacterHelp := by decide
  simp [report, characterReport, Excerpt.margin, Excerpt.gutterMark, hspaces, hhelp]

/-- The caret stands below the character, whatever is in front of it in the line. -/
theorem columns_characterReport (hcontent : source.content = before ++ c :: after)
    (hline : Text.IsInLine before (c :: after) done part (c :: right) more)
    (hc : Text.isTerminator c = false) :
    let report := characterReport source before c done part right
    report.under.text.columns = report.front.text.columns := by
  intro report
  have hwidth := Excerpt.numberWidth_ofCharacter hcontent hline unknownCharacterHelp
  have hindent := Excerpt.indent_ofCharacter hcontent hline unknownCharacterHelp
  have hshown := Excerpt.columns_shown (hline.isTerminator_of_mem hc)
  simp [report, characterReport, Excerpt.columns_margin, Excerpt.columns_numberMargin, hwidth,
    hindent, hshown]

theorem characterReport_marks (hcontent : source.content = before ++ c :: after)
    (hline : Text.IsInLine before (c :: after) done part (c :: right) more)
    (hc : Text.isTerminator c = false) :
    (characterReport source before c done part right).Marks source before.byteLength c := by
  have hwidth := Excerpt.numberWidth_ofCharacter hcontent hline unknownCharacterHelp
  have hstart := Excerpt.start_ofCharacter hcontent hline unknownCharacterHelp
  have hindent := Excerpt.indent_ofCharacter hcontent hline unknownCharacterHelp
  have hplace : (Excerpt.ofCharacter source before c unknownCharacterHelp).span.source = source :=
    rfl
  exact
    { header_text := rfl
      location?_eq := Source.location?_of_isInLine hcontent hline (by simp)
      arrow_text := by
        simp [characterReport, Excerpt.placeRow, hplace, hwidth, hstart]
      gutter_text := by
        simp [characterReport, Excerpt.margin, Excerpt.gutterMark, hwidth]
      line?_eq := Source.line?_of_isInLine hcontent hline
      lineRange?_eq := ⟨_, Source.lineRange?_of_isInLine hcontent hline, hline.byteLength_eq⟩
      front_text := by
        simp [characterReport, Excerpt.numberMargin, Excerpt.gutterMark, hwidth]
      back_text := Excerpt.cells_text _ _ _
      under_text := by
        simp [characterReport, Excerpt.margin, Excerpt.gutterMark, hwidth, hindent]
      behind_text := rfl
      notMem_painters := fun _ => underline_notMem_characterReport hline
      notMem_caret := caret_notMem_characterReport source before c done part right
      columns_eq := columns_characterReport hcontent hline hc }

section Printed

theorem render_header (source : Source) (before : Text) (c : Char) (done : List Text)
    (part right : Text) : (characterReport source before c done part right).header.render =
      Text.inRed "[error]:" ++ ' ' ::
        Text.inBold (("found an unknown character `" : Text) ++ c :: ("`" : Text)) := by
  simp [characterReport, message, Message.row, Severity.header]

theorem render_front (hcontent : source.content = before ++ c :: after)
    (hline : Text.IsInLine before (c :: after) done part (c :: right) more) :
    (characterReport source before c done part right).front.render =
      Excerpt.printedNumberMargin (Text.numeralWidth (done.length + 1)) (done.length + 1) ++
        part.flatMap Excerpt.shown := by
  have hwidth := Excerpt.numberWidth_ofCharacter hcontent hline unknownCharacterHelp
  have hbefore := Nat.le_of_eq hline.byteLength_eq.symm
  simp only [characterReport, Row.render_append, Excerpt.render_numberMargin, hwidth,
    Excerpt.render_cells]
  -- The part ends where the span begins.
  rw [Span.printedFrom_of_outside (.inr hbefore)]

theorem render_back (source : Source) (before : Text) (c : Char) (done : List Text)
    (part right : Text) : (characterReport source before c done part right).back.render =
      right.flatMap Excerpt.shown := by
  simp only [characterReport, Excerpt.render_cells]
  exact Span.printedFrom_of_outside (.inl (Nat.le_refl _))

theorem render_under (hcontent : source.content = before ++ c :: after)
    (hline : Text.IsInLine before (c :: after) done part (c :: right) more) :
    (characterReport source before c done part right).under.render =
      Excerpt.printedMargin (Text.numeralWidth (done.length + 1)) '┃' ++
        Excerpt.spaces part.columns := by
  have hwidth := Excerpt.numberWidth_ofCharacter hcontent hline unknownCharacterHelp
  have hindent := Excerpt.indent_ofCharacter hcontent hline unknownCharacterHelp
  simp [characterReport, Excerpt.gutterMark, Excerpt.render_margin, hwidth, hindent]

theorem render_behind (source : Source) (before : Text) (c : Char) (done : List Text)
    (part right : Text) : (characterReport source before c done part right).behind.render =
      ' ' :: Text.inBold "help" ++ (": " : Text) ++ unknownCharacterHelp := by
  simp [characterReport]

theorem characterReport_prints (hcontent : source.content = before ++ c :: after)
    (hline : Text.IsInLine before (c :: after) done part (c :: right) more) :
    (characterReport source before c done part right).Prints source c := by
  have hwidth := Excerpt.numberWidth_ofCharacter hcontent hline unknownCharacterHelp
  have hstart := Excerpt.start_ofCharacter hcontent hline unknownCharacterHelp
  have hfront := render_front hcontent hline
  have hunder := render_under hcontent hline
  have harrow := Excerpt.render_placeRow (Excerpt.ofCharacter source before c unknownCharacterHelp)
  have hgutter := Excerpt.render_margin (Excerpt.ofCharacter source before c unknownCharacterHelp)
    '┃'
  rw [hwidth, hstart] at harrow
  rw [hwidth] at hgutter
  exact
    { header_printsAs := Row.printsAs_of_render_eq (render_header source before c done part right)
      arrow_printsAs := Row.printsAs_of_render_eq harrow
      gutter_printsAs := Row.printsAs_of_render_eq hgutter
      front_printsAs := Row.printsAs_of_render_eq hfront
      sourceRow_printsAs := by
        apply Row.printsAs_of_render_eq
        rw [CharacterReport.sourceRow, Row.render_append, Row.render_cons, hfront,
          Piece.render_underlinedRed, render_back]
        exact (List.append_assoc _ _ _).symm
      under_printsAs := Row.printsAs_of_render_eq hunder
      helpRow_printsAs := by
        apply Row.printsAs_of_render_eq
        rw [CharacterReport.helpRow, Row.render_append, Row.render_cons, hunder,
          Piece.render_red, render_behind]
        simp only [List.append_assoc]
        rfl }

end Printed

/-- A character of a source that is not blank is marked in its report. -/
theorem exists_characterReport_of_charAt? {n : Nat} (hchar : source.content.charAt? n = some c)
    (hc : isBlank c = false) :
    ∃ report : CharacterReport,
      render (.unknownCharacter ⟨source, n, n + c.utf8Size⟩ c) = report.render c ∧
        report.Marks source n c ∧ report.Prints source c := by
  obtain ⟨after, before, hcontent, rfl⟩ := Text.charAt?_eq_some_iff.1 hchar
  obtain ⟨done, part, rest, more, hline, -⟩ := Text.exists_isInLine before (c :: after)
  -- The rest of the line begins with the character.
  cases rest with
  | nil => exact absurd rfl (hline.rest_ne_nil (by simp))
  | cons d right =>
    obtain ⟨rfl, -⟩ := List.cons.inj hline.after_eq
    exact ⟨characterReport source before c done part right,
      render_unknownCharacter hcontent hline hc,
      characterReport_marks hcontent hline (Text.of_isBlank_eq_false hc).2,
      characterReport_prints hcontent hline⟩

end LexicalError

namespace Session

/-- The error comes out of a session with the source. -/
def Returns (source : Source) (error : LexicalError) : Prop :=
  ∃ steps, (scannerAfter source steps).scan.1 = .error error ∨
    (scannerAfter source steps).next.1 = some (.error error)

end Session

end Lexing
