import Lexing.Proofs.Text.Lines
import Lexing.Proofs.Text.Place
import Mathlib.Data.List.Basic

/-!
# The one way to split a text into lines

The byte ranges of the lines follow one another from the start of the text to its end. In
each of them but the last one there is a terminator at the end and none in front of it, and
in the last one there is none at all. This is all that can be said of them: there are no
other ranges of which it holds.

## Main definitions

* `Text.IsLineSplit`: byte ranges that split a text into lines.
* `Text.SplitsFrom`: the same, by the lines of the text behind an offset.

## Main results

* `Text.SplitsFrom.eq_rangesFrom`: only the lines of the text split it.
* `Text.isLineSplit_iff`: their ranges are the only ones.
-/

namespace Lexing

namespace Text

/-- The text is the terminator of a line, if `after` follows. -/
def IsEnding (ending after : Text) : Prop :=
  ending = ['\n'] ∨ ending = ['\r', '\n'] ∨ (ending = ['\r'] ∧ after.head? ≠ some '\n')

/-- There is no character in the text that can end a line. -/
def IsUnbroken (text : Text) : Prop :=
  ∀ c ∈ text, isTerminator c = false

/-- In the range there is a line with its terminator. -/
def IsTerminated (text : Text) (range : ByteRange) : Prop :=
  ∃ body ending after, text.GoesOn range.start (body ++ ending ++ after) ∧
    range.stop = range.start + byteLength (body ++ ending) ∧ IsUnbroken body ∧
      IsEnding ending after

/-- The ranges split the text into lines from an offset on. -/
structure IsLineSplit (text : Text) (start : Nat) (ranges : List ByteRange) : Prop where
  /-- There is at least one line. -/
  ne_nil : ranges ≠ []
  /-- The first range starts at the offset. -/
  start_eq : ∀ range ∈ ranges.head?, range.start = start
  /-- Each range starts where the one before it ends. -/
  isChain : ranges.IsChain fun range next => range.stop = next.start
  /-- The last range ends at the end of the text. -/
  stop_eq : ∀ range ∈ ranges.getLast?, range.stop = text.byteLength
  /-- All ranges lie between characters. -/
  isBoundary : ∀ range ∈ ranges, text.IsBoundary range.start ∧ text.IsBoundary range.stop
  /-- Only the last range may be empty. -/
  start_lt_stop : ∀ range ∈ ranges.dropLast, range.start < range.stop
  /-- There is a terminator at the end of each range but the last one, and none in front
  of it. -/
  isTerminated : ∀ range ∈ ranges.dropLast, text.IsTerminated range
  /-- There is no terminator in the last range. -/
  isUnbroken : ∀ range ∈ ranges.getLast?, IsUnbroken (text.slice range.start range.stop)

/-- The ranges of the lines of a text that stands behind the first `start` bytes. -/
inductive SplitsFrom : Nat → Text → List ByteRange → Prop
  /-- There is no terminator. -/
  | last {start : Nat} {rest : Text} (hrest : IsUnbroken rest) :
    SplitsFrom start rest [⟨start, start + rest.byteLength⟩]
  /-- The first line ends with a terminator. -/
  | line {start : Nat} {body ending after : Text} {ranges : List ByteRange}
      (hbody : IsUnbroken body) (hending : IsEnding ending after)
      (hranges : SplitsFrom (start + byteLength (body ++ ending)) after ranges) :
    SplitsFrom start (body ++ ending ++ after)
      (⟨start, start + byteLength (body ++ ending)⟩ :: ranges)

variable {text rest body ending after : Text} {start : Nat} {ranges : List ByteRange}

theorem not_endsLine {c : Char} {next : Option Char} (h : isTerminator c = false) :
    ¬EndsLine c next := by
  simp only [isTerminator, Bool.or_eq_false_iff, beq_eq_false_iff_ne] at h
  simp [EndsLine, h.1, h.2]

/-- What is left of a text is the slice up to its end. -/
theorem GoesOn.slice_rest (h : text.GoesOn start rest) :
    text.slice start (start + rest.byteLength) = rest := by
  rw [← List.append_nil rest] at h
  exact h.slice_eq

theorem IsEnding.ne_nil (h : IsEnding ending after) : ending ≠ [] := by
  rcases h with rfl | rfl | ⟨rfl, -⟩ <;> simp

section Lines

theorem lines_of_isUnbroken (h : IsUnbroken rest) : lines rest = [rest] := by
  induction rest with
  | nil => rfl
  | cons c rest ih =>
    obtain ⟨hc, hrest⟩ := List.forall_mem_cons.1 h
    exact lines_cons_of_not_endsLine (not_endsLine hc) (ih hrest)

/-- The first terminator ends the first line. -/
theorem lines_append_ending (hbody : IsUnbroken body) (hending : IsEnding ending after) :
    lines (body ++ ending ++ after) = (body ++ ending) :: lines after := by
  induction body with
  | nil =>
    rcases hending with rfl | rfl | ⟨rfl, hnext⟩
    · exact lines_cons_of_endsLine (.inl rfl)
    · have hfeed : lines ('\n' :: after) = ['\n'] :: lines after :=
        lines_cons_of_endsLine (.inl rfl)
      exact lines_cons_of_not_endsLine (by simp [EndsLine]) hfeed
    · exact lines_cons_of_endsLine (.inr ⟨rfl, hnext⟩)
  | cons c body ih =>
    obtain ⟨hc, hbody⟩ := List.forall_mem_cons.1 hbody
    exact lines_cons_of_not_endsLine (not_endsLine hc) (ih hbody)

/-- A text has no terminator, or there is a first one. -/
theorem isUnbroken_or_exists_ending (rest : Text) :
    IsUnbroken rest ∨ ∃ body ending after, rest = body ++ ending ++ after ∧
      IsUnbroken body ∧ IsEnding ending after := by
  induction rest with
  | nil => exact .inl (by simp [IsUnbroken])
  | cons c rest ih =>
    cases hc : isTerminator c with
    | false =>
      rcases ih with hrest | ⟨body, ending, after, rfl, hbody, hending⟩
      · exact .inl (List.forall_mem_cons.2 ⟨hc, hrest⟩)
      · exact .inr ⟨c :: body, ending, after, rfl, List.forall_mem_cons.2 ⟨hc, hbody⟩, hending⟩
    | true =>
      right
      simp only [isTerminator, Bool.or_eq_true, beq_iff_eq] at hc
      rcases hc with rfl | rfl
      · exact ⟨[], ['\n'], rest, rfl, by simp [IsUnbroken], .inl rfl⟩
      · -- A line feed behind the carriage return belongs to the same terminator.
        by_cases hnext : rest.head? = some '\n'
        · obtain ⟨after, rfl⟩ := List.head?_eq_some_iff.1 hnext
          exact ⟨[], ['\r', '\n'], after, rfl, by simp [IsUnbroken], .inr (.inl rfl)⟩
        · exact ⟨[], ['\r'], rest, rfl, by simp [IsUnbroken], .inr (.inr ⟨rfl, hnext⟩)⟩

end Lines

namespace SplitsFrom

theorem exists_splitsFrom (start : Nat) (rest : Text) :
    ∃ ranges, SplitsFrom start rest ranges := by
  induction hlength : rest.length using Nat.strongRecOn generalizing start rest with
  | ind length ih =>
    rcases isUnbroken_or_exists_ending rest with hrest | ⟨body, ending, after, rfl, hbody, hending⟩
    · exact ⟨_, .last hrest⟩
    · have hpos := List.length_pos_iff.2 hending.ne_nil
      have hshorter : after.length < length := by
        rw [← hlength, List.length_append, List.length_append]
        omega
      obtain ⟨ranges, hranges⟩ := ih _ hshorter _ after rfl
      exact ⟨_, .line hbody hending hranges⟩

/-- No other ranges split the text than those of its lines. -/
theorem eq_rangesFrom (h : SplitsFrom start rest ranges) :
    ranges = rangesFrom start (lines rest) := by
  induction h with
  | last hrest => rw [lines_of_isUnbroken hrest]; rfl
  | line hbody hending _ ih => rw [lines_append_ending hbody hending, rangesFrom_cons, ih]

theorem rangesFrom_lines (start : Nat) (rest : Text) :
    SplitsFrom start rest (rangesFrom start (lines rest)) := by
  obtain ⟨ranges, h⟩ := exists_splitsFrom start rest
  rwa [← h.eq_rangesFrom]

/-- The ranges of the lines behind an offset split the text from there on. -/
theorem isLineSplit (h : SplitsFrom start rest ranges) (hgoesOn : text.GoesOn start rest) :
    text.IsLineSplit start ranges := by
  induction h with
  | @last start rest hrest =>
    have hend := hgoesOn.add_byteLength
    have hboundary : text.IsBoundary (start + rest.byteLength) :=
      hend ▸ text.isBoundary_byteLength
    exact
      { ne_nil := List.cons_ne_nil _ _
        start_eq := by simp
        isChain := .singleton _
        stop_eq := by simp [hend]
        isBoundary := by simp [hgoesOn.isBoundary, hboundary]
        start_lt_stop := by simp
        isTerminated := by simp
        isUnbroken := by simpa [hgoesOn.slice_rest] using hrest }
  | @line start body ending after ranges hbody hending _ ih =>
    have hafter := hgoesOn.append
    have hsplit := ih hafter
    have hpos : 0 < byteLength (body ++ ending) := by
      have hne := List.append_ne_nil_of_right_ne_nil body hending.ne_nil
      exact Nat.pos_of_ne_zero (mt byteLength_eq_zero_iff.1 hne)
    have hterminated : text.IsTerminated ⟨start, start + byteLength (body ++ ending)⟩ :=
      ⟨body, ending, after, hgoesOn, rfl, hbody, hending⟩
    cases ranges with
    | nil => exact absurd rfl hsplit.ne_nil
    | cons next ranges =>
      have hnext : next.start = start + byteLength (body ++ ending) := hsplit.start_eq next rfl
      exact
        { ne_nil := List.cons_ne_nil _ _
          start_eq := by simp
          isChain := .cons_cons hnext.symm hsplit.isChain
          stop_eq := by simpa using hsplit.stop_eq
          isBoundary := List.forall_mem_cons.2
            ⟨⟨hgoesOn.isBoundary, hafter.isBoundary⟩, hsplit.isBoundary⟩
          start_lt_stop := List.forall_mem_cons.2
            ⟨Nat.lt_add_of_pos_right hpos, hsplit.start_lt_stop⟩
          isTerminated := List.forall_mem_cons.2 ⟨hterminated, hsplit.isTerminated⟩
          isUnbroken := by simpa using hsplit.isUnbroken }

end SplitsFrom

/-- Behind a range that splits off a line come ranges that split the rest. -/
theorem IsLineSplit.tail {range next : ByteRange}
    (h : text.IsLineSplit start (range :: next :: ranges)) :
    text.IsLineSplit range.stop (next :: ranges) := by
  obtain ⟨hnext, hchain⟩ := List.isChain_cons_cons.1 h.isChain
  exact
    { ne_nil := List.cons_ne_nil _ _
      start_eq := by simp [hnext]
      isChain := hchain
      stop_eq := by simpa using h.stop_eq
      isBoundary := (List.forall_mem_cons.1 h.isBoundary).2
      start_lt_stop := (List.forall_mem_cons.1 h.start_lt_stop).2
      isTerminated := (List.forall_mem_cons.1 h.isTerminated).2
      isUnbroken := by simpa using h.isUnbroken }

/-- Whatever splits the text splits it at the lines of what is behind the offset. -/
theorem IsLineSplit.splitsFrom (h : text.IsLineSplit start ranges)
    (hgoesOn : text.GoesOn start rest) : SplitsFrom start rest ranges := by
  induction ranges generalizing start rest with
  | nil => exact absurd rfl h.ne_nil
  | cons range ranges ih =>
    obtain ⟨first, stop⟩ := range
    obtain rfl : first = start := h.start_eq _ rfl
    cases ranges with
    | nil =>
      have hend := hgoesOn.add_byteLength
      obtain rfl : stop = first + rest.byteLength := (h.stop_eq _ rfl).trans hend.symm
      have hunbroken : IsUnbroken (text.slice first (first + rest.byteLength)) :=
        h.isUnbroken _ rfl
      rw [hgoesOn.slice_rest] at hunbroken
      exact .last hunbroken
    | cons next ranges =>
      obtain ⟨body, ending, after, hline, hstop, hbody, hending⟩ :=
        (List.forall_mem_cons.1 h.isTerminated).1
      obtain rfl := hgoesOn.unique hline
      obtain rfl : stop = first + byteLength (body ++ ending) := hstop
      exact .line hbody hending (ih h.tail hline.append)

/-- The ranges of the lines, and no others, split the text. -/
theorem isLineSplit_iff : text.IsLineSplit 0 ranges ↔ ranges = text.lineRanges := by
  constructor
  · intro h
    exact (h.splitsFrom (goesOn_zero text)).eq_rangesFrom
  · rintro rfl
    exact (SplitsFrom.rangesFrom_lines 0 text).isLineSplit (goesOn_zero text)

/-- The first carriage return is a terminator by itself, the second one is not. -/
example : lineRanges ['é', '\r', '\r', '\n'] = [⟨0, 3⟩, ⟨3, 5⟩, ⟨5, 5⟩] := rfl

/-- The lines can be cut out where their ranges say. -/
theorem map_slice?_rangesFrom {lines : List Text} (h : text.GoesOn start lines.flatten) :
    (rangesFrom start lines).map (fun range => text.slice? range.start range.stop) =
      lines.map some := by
  induction lines generalizing start with
  | nil => rfl
  | cons line lines ih =>
    rw [List.flatten_cons] at h
    rw [rangesFrom_cons, List.map_cons, List.map_cons, h.slice?_eq, ih h.append]

/-- No line ends between a carriage return and a line feed. -/
theorem IsLineSplit.stop_ne (h : text.IsLineSplit start ranges) {before after : Text}
    (htext : text = before ++ '\r' :: '\n' :: after) {range : ByteRange} (hrange : range ∈ ranges) :
    range.stop ≠ before.byteLength + 1 := by
  intro hstop
  have hbehind : text.splitAt? range.stop = some (before ++ ['\r'], '\n' :: after) :=
    splitAt?_eq_some_iff.2 ⟨by simp [htext], by rw [hstop, byteLength_append]; rfl⟩
  have hlast : some range ≠ ranges.getLast? := by
    intro hlast
    have hend := h.stop_eq range hlast.symm
    rw [htext, byteLength_append, byteLength_cons, byteLength_cons] at hend
    have hpos := Char.utf8Size_pos '\n'
    have hreturn : '\r'.utf8Size = 1 := rfl
    omega
  obtain ⟨body, ending, after', ⟨front, hline, hfront⟩, hend, -, hending⟩ :=
    h.isTerminated range (List.mem_dropLast_of_mem_of_ne_getLast? hrange hlast)
  have hsplit : text.splitAt? range.stop = some (front ++ (body ++ ending), after') :=
    splitAt?_eq_some_iff.2
      ⟨by rw [hline, List.append_assoc front], by rw [hend, byteLength_append, hfront]⟩
  obtain ⟨hsame, rfl⟩ := Prod.mk.inj (Option.some.inj (hbehind.symm.trans hsplit))
  -- The line would end with a carriage return that has the line feed behind it.
  have hlastChar := congrArg List.getLast? hsame
  rcases hending with rfl | rfl | ⟨rfl, hnext⟩
  · simp at hlastChar
  · simp at hlastChar
  · exact hnext rfl

end Text

end Lexing
