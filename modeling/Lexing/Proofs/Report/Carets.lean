import Lexing.LexicalError
import Lexing.Proofs.Report.SpanRows

/-!
# The carets below a line

The carets stand below the row of a line, but they are not made from it. Where they begin
is found by giving each character in front of the span one column, or four to a tab, and
there is one caret for each character of the span. In the row a terminator takes no column,
and a tab takes four also where it is in the span. So the two rows agree only if there is
neither of them to disagree about.

## Main definitions

* `Text.printedWidth`: the columns that are printed for a text.
* `Excerpt.IsUnderlined`: the carets stand below what is printed for the span.
* `Excerpt.HasCarets`: the rows of an excerpt of one line.

## Main results

* `Excerpt.isUnderlined_iff`: when the two rows agree.
* `Excerpt.exists_hasCarets`: how many carets stand below any part of a line, and where.
* `Excerpt.not_isUnderlined_tab`: they do not stand below a tab in the span.
-/

namespace Lexing

namespace Text

/-- The columns that are printed for the text. -/
def printedWidth : Text → Nat
  | [] => 0
  | c :: text => (if c = '\t' then 4 else if c = '\n' ∨ c = '\r' then 0 else 1) + printedWidth text

end Text

namespace Excerpt

/-- The carets begin behind as many columns as are printed for `left`, and there are as many
of them as are printed for the span. An empty span has one caret. -/
structure IsUnderlined (excerpt : Excerpt) (left : Text) : Prop where
  /-- The carets begin in the column where the span does. -/
  indent_eq : excerpt.indent = left.printedWidth
  /-- The carets are as wide as the span. -/
  caretCount_eq : excerpt.caretCount = max 1 excerpt.span.text.printedWidth

/-- The rows of an excerpt with its help and the line in which the span is all of the text
between `left` and `right`. -/
structure HasCarets (excerpt : Excerpt) (help left right : Text) : Prop where
  /-- The line where the span begins is made of these three texts. -/
  line?_eq : excerpt.span.source.line? excerpt.start.line =
    some (left ++ (excerpt.span.text ++ right))
  /-- The span begins behind `left` in that line. -/
  exists_lineRange?_eq : ∃ range, excerpt.span.source.lineRange? excerpt.start.line = some range ∧
    excerpt.span.start = range.start + left.byteLength
  /-- The only row of the source shows the three texts behind the number of the line. -/
  text_sourceRows : excerpt.sourceRows.map Row.text =
    [(numberMargin excerpt.numberWidth excerpt.start.line).text ++
      (left.flatMap shown ++ (excerpt.span.text.flatMap shown ++ right.flatMap shown))]
  /-- The row is printed with codes around the characters of the span. -/
  sourceRow_printsAs : ∀ row ∈ excerpt.sourceRows, row.PrintsAs
    (printedNumberMargin excerpt.numberWidth excerpt.start.line ++ (left.flatMap shown ++
      (excerpt.span.text.flatMap printedInSpan ++ right.flatMap shown)))
  /-- What is shown in front of the span takes the columns that are printed for it. -/
  length_left : (left.flatMap shown).length = left.printedWidth
  /-- So does what is shown of the span. -/
  length_span : (excerpt.span.text.flatMap shown).length = excerpt.span.text.printedWidth
  /-- The last row has spaces, carets and the help. -/
  helpRow_eq : excerpt.helpRow = excerpt.margin gutterMark ++
    [.plain (spaces excerpt.indent),
      ⟨[.bold, .red], List.replicate excerpt.caretCount '^'⟩, .plain [' '],
      ⟨[.bold], ['h', 'e', 'l', 'p']⟩, .plain (':' :: ' ' :: help)]
  /-- Its carets are printed in red behind the gutter and the spaces. -/
  helpRow_printsAs : excerpt.helpRow.PrintsAs (printedMargin excerpt.numberWidth '┃' ++
    spaces excerpt.indent ++ Text.inRed (List.replicate excerpt.caretCount '^') ++
      ' ' :: Text.inBold ['h', 'e', 'l', 'p'] ++ ':' :: ' ' :: help)
  /-- A carriage return in front of the span takes a column too much. -/
  indent_eq : excerpt.indent = left.printedWidth + left.count '\r'
  /-- Tabs in the span have too few carets and terminators too many. -/
  caretCount_eq : excerpt.caretCount = max 1 excerpt.span.text.length
  /-- The carets are right where there is nothing to count wrongly. -/
  isUnderlined_iff : excerpt.IsUnderlined left ↔ '\r' ∉ left ∧ '\t' ∉ excerpt.span.text ∧
    (excerpt.span.text.length ≤ 1 ∨ ∀ c ∈ excerpt.span.text, Text.isTerminator c = false)

end Excerpt

namespace Text

variable {text left right : Text}

theorem columns_eq_add_countP (text : Text) :
    columns text = printedWidth text + text.countP isTerminator := by
  induction text with
  | nil => rfl
  | cons c text ih =>
    rw [columns_cons, ih, printedWidth, List.countP_cons, Excerpt.indentOf, Excerpt.tabWidth]
    by_cases htab : c = '\t'
    · subst htab
      simp [isTerminator]
      omega
    · by_cases hterminator : c = '\n' ∨ c = '\r'
      · simp [isTerminator, htab, hterminator]
        omega
      · simp [isTerminator, htab, hterminator]
        omega

theorem columns_eq_add_count (text : Text) : columns text = text.length + 3 * text.count '\t' := by
  induction text with
  | nil => rfl
  | cons c text ih =>
    rw [columns_cons, ih, Excerpt.indentOf, Excerpt.tabWidth, List.length_cons, List.count_cons]
    by_cases htab : c = '\t' <;> simp [htab] <;> omega

theorem length_flatMap_shown (text : Text) :
    (text.flatMap Excerpt.shown).length = printedWidth text := by
  induction text with
  | nil => rfl
  | cons c text ih =>
    rw [List.flatMap_cons, List.length_append, ih, printedWidth, Excerpt.shown]
    by_cases htab : c = '\t'
    · simp [htab, Excerpt.spaces, Excerpt.tabWidth]
    · by_cases hterminator : c = '\n' ∨ c = '\r' <;> simp [htab, hterminator]

/-- As many columns are taken as there are characters if there are no tabs and, but for a
single character, no terminators. -/
theorem max_length_eq_iff (h : text.countP isTerminator ≤ 2) :
    max 1 text.length = max 1 (printedWidth text) ↔
      '\t' ∉ text ∧ (text.length ≤ 1 ∨ ∀ c ∈ text, isTerminator c = false) := by
  have hcolumns := columns_eq_add_countP text
  rw [columns_eq_add_count] at hcolumns
  have htabs : text.count '\t' ≤ text.length := List.count_le_length
  have hterminators : text.countP isTerminator ≤ text.length := List.countP_le_length
  have hnone : (∀ c ∈ text, isTerminator c = false) ↔ text.countP isTerminator = 0 := by
    rw [List.countP_eq_zero]
    simp
  rw [hnone, ← List.count_eq_zero]
  omega

/-- A line has at most two terminators, a carriage return and a line feed. -/
theorem countP_isTerminator_le {line : Text} (h : line ∈ lines text) :
    line.countP isTerminator ≤ 2 := by
  obtain ⟨body, ending, rfl, hbody, hmem⟩ := exists_body_of_mem_lines h
  have hnone : body.countP isTerminator = 0 :=
    List.countP_eq_zero.2 fun c hmem => by simp [hbody c hmem]
  have hlength : ending.length ≤ 2 := by
    simp only [List.mem_cons, List.not_mem_nil, or_false] at hmem
    rcases hmem with rfl | rfl | rfl | rfl <;> decide
  have hle : ending.countP isTerminator ≤ ending.length := List.countP_le_length
  rw [List.countP_append, hnone]
  omega

theorem countP_isTerminator_eq_count (h : '\n' ∉ text) :
    text.countP isTerminator = text.count '\r' := by
  apply List.countP_congr
  intro c hmem
  have hc : c ≠ '\n' := fun heq => h (heq ▸ hmem)
  simp [isTerminator, hc]

namespace IsAround

variable {before inside after line : Text} {done more : List Text}

/-- There is no line feed in front of a part of one line. -/
theorem feed_notMem_left (h : IsAround before inside after done [line] more left right) :
    '\n' ∉ left := by
  have hline : line = left ++ (inside ++ right) := by simpa using h.flatten_eq
  have hlines := h.lines_eq
  cases hrest : inside ++ right with
  | nil =>
    rw [h.eq_nil hrest, List.append_nil] at hlines
    rw [hrest, List.append_nil] at hline
    intro hleft
    have hfeed := isTerminator_of_mem_last hlines '\n' (hline ▸ hleft)
    cases hfeed
  | cons c rest =>
    rw [hrest] at hline
    have hmem : left ++ c :: rest ∈ lines (before ++ (inside ++ after)) := by
      rw [hlines, ← hline]
      simp
    intro hfeed
    cases (eq_of_mem_left hmem hfeed rfl).1

end IsAround

end Text

namespace Excerpt

variable {excerpt : Excerpt} {help : Text}

theorem helpRow_of_isSingleLine (hsingle : excerpt.start.line = excerpt.last.line)
    (hhelp : excerpt.help = some help) : excerpt.helpRow = excerpt.margin gutterMark ++
      [.plain (spaces excerpt.indent),
        ⟨[.bold, .red], List.replicate excerpt.caretCount '^'⟩, .plain [' '],
        ⟨[.bold], ['h', 'e', 'l', 'p']⟩, .plain (':' :: ' ' :: help)] := by
  have hsingle : excerpt.isSingleLine = true := by
    rw [isSingleLine, hsingle, beq_self_eq_true]
  simp [helpRow, hsingle, hhelp, carets]

theorem render_helpRow_of_isSingleLine (hsingle : excerpt.start.line = excerpt.last.line)
    (hhelp : excerpt.help = some help) : excerpt.helpRow.render =
      printedMargin excerpt.numberWidth '┃' ++ spaces excerpt.indent ++
        Text.inRed (List.replicate excerpt.caretCount '^') ++
          ' ' :: Text.inBold ['h', 'e', 'l', 'p'] ++ ':' :: ' ' :: help := by
  rw [helpRow_of_isSingleLine hsingle hhelp, Row.render_append, gutterMark, render_margin]
  simp

theorem indent_eq_columns {left rest : Text}
    (hline : excerpt.span.source.line? excerpt.start.line = some (left ++ rest))
    (hcolumn : excerpt.start.column = left.length + 1) : excerpt.indent = left.columns := by
  rw [indent, hline, hcolumn]
  simp only [Option.getD_some, Nat.add_sub_cancel, List.take_left]
  rw [Text.foldl_indentOf, Nat.zero_add]

section Around

variable {before after left right : Text} {done more : List Text}
  (hcontent : excerpt.span.source.content = before ++ (excerpt.span.text ++ after))
  (hbefore : before.byteLength = excerpt.span.start)
  (haround : Text.IsAround before excerpt.span.text after done
    [left ++ (excerpt.span.text ++ right)] more left right)

include hcontent haround

theorem lines_eq_of_isAround : excerpt.span.source.lines =
    done ++ (left ++ (excerpt.span.text ++ right)) :: more := by
  simpa using lines_eq hcontent haround

/-- The span has no more terminators than its line. -/
theorem countP_isTerminator_span_le : excerpt.span.text.countP Text.isTerminator ≤ 2 := by
  have hmem : left ++ (excerpt.span.text ++ right) ∈ excerpt.span.source.content.lines := by
    show _ ∈ excerpt.span.source.lines
    rw [lines_eq_of_isAround hcontent haround]
    simp
  have hle := Text.countP_isTerminator_le hmem
  rw [List.countP_append, List.countP_append] at hle
  omega

include hbefore

theorem line?_start_eq : excerpt.span.source.line? excerpt.start.line =
    some (left ++ (excerpt.span.text ++ right)) := by
  rw [start_eq hcontent hbefore haround]
  exact Source.line?_of_lines (lines_eq_of_isAround hcontent haround)

/-- The carets are moved by what is printed in front of the span, and by its carriage
returns. -/
theorem indent_eq_add_count : excerpt.indent = left.printedWidth + left.count '\r' := by
  have hcolumn : excerpt.start.column = left.length + 1 := by
    rw [start_eq hcontent hbefore haround]
  rw [indent_eq_columns (line?_start_eq hcontent hbefore haround) hcolumn,
    Text.columns_eq_add_countP, Text.countP_isTerminator_eq_count haround.feed_notMem_left]

theorem isUnderlined_iff : excerpt.IsUnderlined left ↔ '\r' ∉ left ∧ '\t' ∉ excerpt.span.text ∧
    (excerpt.span.text.length ≤ 1 ∨ ∀ c ∈ excerpt.span.text, Text.isTerminator c = false) := by
  have hreturn : excerpt.indent = left.printedWidth ↔ '\r' ∉ left := by
    rw [indent_eq_add_count hcontent hbefore haround, ← List.count_eq_zero]
    omega
  have hcarets := Text.max_length_eq_iff (countP_isTerminator_span_le hcontent haround)
  constructor
  · rintro ⟨hindent, hcount⟩
    exact ⟨hreturn.1 hindent, hcarets.1 hcount⟩
  · rintro ⟨hleft, hspan⟩
    exact ⟨hreturn.2 hleft, hcarets.2 hspan⟩

end Around

/-- Below a part of a line the carets stand where they should unless there are tabs or
terminators to count. -/
theorem exists_hasCarets (excerpt : Excerpt) (help : Text) (h : excerpt.span.IsValid)
    (hsingle : excerpt.start.line = excerpt.last.line) (hhelp : excerpt.help = some help) :
    ∃ left right, excerpt.HasCarets help left right := by
  obtain ⟨before, after, hcontent, hbefore, hstop⟩ := h.isSound.exists_content_eq
  obtain ⟨done, inner, more, left, right, haround⟩ :=
    Text.exists_isAround before excerpt.span.text after
  have hstart := start_eq hcontent hbefore haround
  -- There is one line around the span, since its ends are in the same one.
  obtain ⟨line, rfl⟩ : ∃ line, inner = [line] := by
    rw [hstart, last_line_eq hcontent hbefore haround] at hsingle
    exact List.length_eq_one_iff.1 (Nat.add_left_cancel hsingle.symm)
  obtain rfl : line = left ++ (excerpt.span.text ++ right) := by simpa using haround.flatten_eq
  refine ⟨left, right,
    { line?_eq := line?_start_eq hcontent hbefore haround
      exists_lineRange?_eq := ?_
      text_sourceRows := ?_
      sourceRow_printsAs := ?_
      length_left := Text.length_flatMap_shown left
      length_span := Text.length_flatMap_shown excerpt.span.text
      helpRow_eq := helpRow_of_isSingleLine hsingle hhelp
      helpRow_printsAs := Row.printsAs_of_render_eq (render_helpRow_of_isSingleLine hsingle hhelp)
      indent_eq := indent_eq_add_count hcontent hbefore haround
      caretCount_eq := rfl
      isUnderlined_iff := isUnderlined_iff hcontent hbefore haround }⟩
  · rw [hstart]
    refine ⟨_, Source.lineRange?_of_lines (lines_eq_of_isAround hcontent haround), ?_⟩
    rw [← hbefore, haround.before_eq, Text.byteLength_append]
  · rw [sourceRows_eq hcontent hbefore haround, rowsFrom_cons, hstart]
    simp [rowsFrom]
  · intro row hrow
    rw [sourceRows_eq hcontent hbefore haround, rowsFrom_cons] at hrow
    obtain rfl : row = _ := List.mem_singleton.1 hrow
    apply Row.printsAs_of_render_eq
    have hleft := add_byteLength_left hbefore haround
    rw [Row.render_append, render_numberMargin, render_cells,
      Span.printedFrom_around hleft hstop, hstart]

-- The span begins behind a tab and ends with a character of two bytes.
theorem exists_hasCarets_behind_tab :
    let source : Source := ⟨0, [], ['x', '\n', '\t', 'a', 'é', '\r', '\n']⟩
    let excerpt : Excerpt := ⟨⟨source, 3, 6⟩, some ['?']⟩
    excerpt.span.IsValid ∧ excerpt.start.line = excerpt.last.line ∧ excerpt.help = some ['?'] ∧
      ∃ left right, excerpt.HasCarets ['?'] left right := by
  have hvalid : Span.IsValid ⟨⟨0, [], ['x', '\n', '\t', 'a', 'é', '\r', '\n']⟩, 3, 6⟩ :=
    ⟨by decide, by decide, by decide⟩
  have hline : (start ⟨⟨⟨0, [], ['x', '\n', '\t', 'a', 'é', '\r', '\n']⟩, 3, 6⟩, some ['?']⟩).line =
      (last ⟨⟨⟨0, [], ['x', '\n', '\t', 'a', 'é', '\r', '\n']⟩, 3, 6⟩, some ['?']⟩).line := by
    decide +kernel
  exact ⟨hvalid, hline, rfl, exists_hasCarets _ _ hvalid hline rfl⟩

/-- A string with a tab in it that is never closed has one caret for the tab, which takes four
columns in the row above. -/
theorem not_isUnderlined_tab :
    let span : Span := ⟨⟨0, [], ['"', 'a', '\t', 'b']⟩, 0, 4⟩
    ∃ excerpt help, (LexicalError.unterminatedString span).excerpt? = some excerpt ∧
      excerpt.span.IsValid ∧ excerpt.start.line = excerpt.last.line ∧
      excerpt.help = some help ∧ excerpt.span.source.line? excerpt.start.line = some span.text ∧
      excerpt.caretCount = 4 ∧ span.text.printedWidth = 7 ∧ ¬excerpt.IsUnderlined [] := by
  intro span
  refine ⟨_, _, rfl, ⟨by decide, by decide, by decide⟩, by decide +kernel, rfl,
    by decide +kernel, by decide, by decide, ?_⟩
  intro hunderlined
  have hcount := hunderlined.caretCount_eq
  revert hcount
  decide

-- Where it goes on to the end of the line there is one caret more than there are columns.
example :
    let span : Span := ⟨⟨0, [], ['"', 'a', 'b', 'c', '\n']⟩, 0, 5⟩
    caretCount ⟨span, none⟩ = 5 ∧ span.text.printedWidth = 4 := by decide

end Excerpt

end Lexing
