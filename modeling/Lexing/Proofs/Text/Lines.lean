import Lexing.Text.Lines

/-!
# Places between the lines of a text

A place in a text is in one of its lines, behind some part of it. Its line can be found
among the byte ranges of the lines, and it can be counted from the left: behind a
character that ends a line comes the first column of the next line, and behind any other
one the next column. Both ways come to the same location.

## Main definitions

* `Location.walk`: the location behind a part of a text, counted character by character.
* `Text.countedLocation`: the location of an offset, counted from the start.
* `Text.IsInLine`: the lines around a place.

## Main results

* `Text.exists_isInLine`: counting comes to the line and the column of a place.
* `Text.IsInLine.location?_eq`: so does the search for its offset.
-/

namespace Lexing

/-- Whether the character is the last one of its line, if `next` follows. -/
def EndsLine (c : Char) (next : Option Char) : Prop :=
  c = '\n' ∨ (c = '\r' ∧ next ≠ some '\n')

instance (c : Char) (next : Option Char) : Decidable (EndsLine c next) :=
  inferInstanceAs (Decidable (_ ∨ _))

namespace Location

/-- The location of the first character of a text. -/
def first : Location := ⟨1, 1⟩

/-- The location behind a character. -/
def behind (place : Location) (c : Char) (next : Option Char) : Location :=
  if EndsLine c next then ⟨place.line + 1, 1⟩ else ⟨place.line, place.column + 1⟩

/-- The location behind `passed`, one character after the other, where the text goes on
with `rest`. -/
def walk (place : Location) : Text → Text → Location
  | [], _ => place
  | c :: passed, rest => (place.behind c (passed ++ rest).head?).walk passed rest

/-- The order of locations: by line, and in one line by column. -/
def Before (a b : Location) : Prop :=
  a.line < b.line ∨ (a.line = b.line ∧ a.column < b.column)

theorem Before.trans {a b c : Location} (hab : a.Before b) (hbc : b.Before c) : a.Before c := by
  unfold Before at *
  omega

theorem Before.ne {a b : Location} (h : a.Before b) : a ≠ b := by
  rintro rfl
  unfold Before at h
  omega

theorem walk_append (place : Location) (passed more rest : Text) :
    place.walk (passed ++ more) rest = (place.walk passed (more ++ rest)).walk more rest := by
  induction passed generalizing place with
  | nil => rfl
  | cons c passed ih => rw [List.cons_append, walk, ih, walk, List.append_assoc]

theorem before_behind (place : Location) (c : Char) (next : Option Char) :
    place.Before (place.behind c next) := by
  unfold behind
  split
  · exact .inl (Nat.lt_succ_self _)
  · exact .inr ⟨rfl, Nat.lt_succ_self _⟩

theorem before_walk (place : Location) {passed : Text} (hne : passed ≠ []) (rest : Text) :
    place.Before (place.walk passed rest) := by
  induction passed generalizing place with
  | nil => exact absurd rfl hne
  | cons c passed ih =>
    have hstep := place.before_behind c (passed ++ rest).head?
    by_cases hlast : passed = []
    · subst hlast
      exact hstep
    · exact hstep.trans (ih _ hlast)

end Location

namespace Text

/-- The location of an offset that falls between two characters, counted from the start
of the text. -/
def countedLocation (text : Text) (n : Nat) : Location :=
  match text.splitAt? n with
  | some (before, after) => Location.first.walk before after
  | none => Location.first

theorem countedLocation_append (before after : Text) :
    (before ++ after).countedLocation before.byteLength = Location.first.walk before after := by
  rw [countedLocation, splitAt?_eq_some_iff.2 ⟨rfl, rfl⟩]

section Ranges

/-- The byte ranges of lines of which the first one starts at `start`. -/
def rangesFrom (start : Nat) (lines : List Text) : List ByteRange :=
  (withOffsets byteLength start lines).map fun (start, line) => ⟨start, start + byteLength line⟩

theorem rangesFrom_cons (start : Nat) (line : Text) (more : List Text) :
    rangesFrom start (line :: more) =
      ⟨start, start + line.byteLength⟩ :: rangesFrom (start + line.byteLength) more := by
  simp [rangesFrom]

theorem rangesFrom_append (start : Nat) (done more : List Text) :
    rangesFrom start (done ++ more) =
      rangesFrom start done ++ rangesFrom (start + byteLength done.flatten) more := by
  induction done generalizing start with
  | nil => rfl
  | cons line done ih =>
    simp only [List.cons_append, rangesFrom_cons, ih, List.flatten_cons, byteLength_append,
      Nat.add_assoc]

theorem length_rangesFrom (start : Nat) (lines : List Text) :
    (rangesFrom start lines).length = lines.length := by
  induction lines generalizing start with
  | nil => rfl
  | cons line lines ih => rw [rangesFrom_cons, List.length_cons, List.length_cons, ih]

theorem stop_of_mem_rangesFrom {start : Nat} {lines : List Text} {range : ByteRange}
    (h : range ∈ rangesFrom start lines) :
    start ≤ range.stop ∧ range.stop ≤ start + byteLength lines.flatten := by
  induction lines generalizing start with
  | nil => cases h
  | cons line lines ih =>
    rw [List.flatten_cons, byteLength_append]
    rcases List.mem_cons.1 (rangesFrom_cons start line lines ▸ h) with rfl | hmem
    · exact ⟨Nat.le_add_right _ _, Nat.add_le_add_left (Nat.le_add_right _ _) start⟩
    · have hlater := ih hmem
      omega

end Ranges

section Lines

/-- The first line begins like the text. -/
theorem exists_lines_eq_cons (text : Text) :
    ∃ line more, text.lines = line :: more ∧ line.head? = text.head? := by
  cases text with
  | nil => exact ⟨[], [], rfl, rfl⟩
  | cons c text =>
    rw [lines_cons]
    cases hlines : lines text with
    | nil => exact absurd hlines (lines_ne_nil text)
    | cons line more =>
      rw [prependToLines]
      split
      · exact ⟨[c], line :: more, rfl, rfl⟩
      · exact ⟨c :: line, more, rfl, rfl⟩

theorem lines_cons_of_endsLine {c : Char} {text : Text} (h : EndsLine c text.head?) :
    lines (c :: text) = [c] :: lines text := by
  obtain ⟨line, more, hlines, hhead⟩ := exists_lines_eq_cons text
  rw [lines_cons, hlines, prependToLines, hhead]
  exact if_pos h

theorem lines_cons_of_not_endsLine {c : Char} {text line : Text} {more : List Text}
    (h : ¬EndsLine c text.head?) (hlines : lines text = line :: more) :
    lines (c :: text) = (c :: line) :: more := by
  obtain ⟨line', more', hlines', hhead⟩ := exists_lines_eq_cons text
  obtain ⟨rfl, rfl⟩ := List.cons.inj (hlines.symm.trans hlines')
  rw [lines_cons, hlines, prependToLines, hhead]
  exact if_neg h

theorem isTerminator_of_mem_last {text line : Text} {done : List Text}
    (h : text.lines = done ++ [line]) : ∀ c ∈ line, isTerminator c = false := by
  induction text generalizing done line with
  | nil =>
    obtain ⟨rfl, rfl⟩ : done = [] ∧ line = [] := by
      simpa [List.append_eq_singleton_iff] using h.symm
    simp
  | cons c text ih =>
    obtain ⟨first, more, hlines, hhead⟩ := exists_lines_eq_cons text
    by_cases hends : EndsLine c text.head?
    · rw [lines_cons_of_endsLine hends] at h
      cases done with
      | nil => simp [lines_ne_nil] at h
      | cons d done => exact ih (List.cons.inj h).2
    · rw [lines_cons_of_not_endsLine hends hlines] at h
      cases done with
      | cons d done =>
        obtain ⟨-, rfl⟩ := List.cons.inj h
        have hmore : lines text = (first :: done) ++ [line] := hlines
        exact ih hmore
      | nil =>
        obtain ⟨rfl, rfl⟩ := List.cons.inj h
        have hsingle : lines text = [] ++ [first] := hlines
        have hfirst := ih hsingle
        -- `c` is no carriage return in front of a line feed, which the line would hold.
        have hnext : text.head? ≠ some '\n' := by
          intro hnext
          rw [← hhead] at hnext
          have hfeed := hfirst '\n' (List.mem_of_mem_head? hnext)
          cases hfeed
        intro d hd
        rcases List.mem_cons.1 hd with rfl | hd
        · simpa [EndsLine, hnext, isTerminator] using hends
        · exact hfirst d hd

/-- A line holds no terminator but the one it ends with. -/
theorem exists_body_of_mem_lines {text line : Text} (h : line ∈ lines text) :
    ∃ body ending, line = body ++ ending ∧ (∀ c ∈ body, isTerminator c = false) ∧
      ending ∈ [[], ['\n'], ['\r'], ['\r', '\n']] := by
  induction text generalizing line with
  | nil => exact ⟨[], [], by simpa using h, by simp, by simp⟩
  | cons c text ih =>
    obtain ⟨first, more, hlines, hhead⟩ := exists_lines_eq_cons text
    by_cases hends : EndsLine c text.head?
    · rw [lines_cons_of_endsLine hends] at h
      rcases List.mem_cons.1 h with rfl | h
      · rcases hends with rfl | ⟨rfl, -⟩
        · exact ⟨[], ['\n'], rfl, by simp, by simp⟩
        · exact ⟨[], ['\r'], rfl, by simp, by simp⟩
      · exact ih h
    · rw [lines_cons_of_not_endsLine hends hlines] at h
      rcases List.mem_cons.1 h with rfl | h
      · obtain ⟨body, ending, hfirst, hbody, hending⟩ := ih (hlines ▸ List.mem_cons_self)
        by_cases hc : isTerminator c = true
        · -- The character is the carriage return in front of a line feed.
          have hfeed : c = '\r' ∧ first.head? = some '\n' := by
            rw [hhead]
            simp only [isTerminator, Bool.or_eq_true, beq_iff_eq] at hc
            have hreturn := hc.resolve_left fun hfeed => hends (Or.inl hfeed)
            exact ⟨hreturn, Decidable.byContradiction fun hne => hends (Or.inr ⟨hreturn, hne⟩)⟩
          obtain ⟨rfl, hfeed⟩ := hfeed
          cases body with
          | nil =>
            refine ⟨[], '\r' :: first, rfl, by simp, ?_⟩
            rw [hfirst] at hfeed ⊢
            simp only [List.mem_cons, List.not_mem_nil, or_false] at hending
            rcases hending with rfl | rfl | rfl | rfl <;> simp at hfeed ⊢
          | cons d body =>
            rw [hfirst] at hfeed
            obtain rfl : d = '\n' := by simpa using hfeed
            have hnot := hbody '\n' (by simp)
            cases hnot
        · refine ⟨c :: body, ending, by rw [hfirst, List.cons_append], ?_, hending⟩
          intro d hd
          rcases List.mem_cons.1 hd with rfl | hd
          · exact Bool.eq_false_iff.2 hc
          · exact hbody d hd
      · exact ih (hlines ▸ List.mem_cons_of_mem first h)

end Lines

/-- The place between `before` and `after` is behind the lines `done`, in a line between
its parts `part` and `rest`, and in front of the lines `more`. At the end of a line it
counts to the next one, if there is one. -/
structure IsInLine (before after : Text) (done : List Text) (part rest : Text)
    (more : List Text) : Prop where
  lines_eq : (before ++ after).lines = done ++ (part ++ rest) :: more
  before_eq : before = done.flatten ++ part
  eq_nil : rest = [] → more = []

/-- Counting from any location on comes to the line and the column of the place. -/
theorem exists_isInLine (before after : Text) :
    ∃ done part rest more, IsInLine before after done part rest more ∧
      ∀ place : Location, place.walk before after =
        if done = [] then ⟨place.line, place.column + part.length⟩
        else ⟨place.line + done.length, part.length + 1⟩ := by
  induction before with
  | nil =>
    obtain ⟨line, more, hlines, hhead⟩ := exists_lines_eq_cons after
    refine ⟨[], [], line, more, ⟨hlines, rfl, ?_⟩, fun place => rfl⟩
    rintro rfl
    obtain rfl : after = [] := List.head?_eq_none_iff.1 hhead.symm
    exact (List.cons.inj hlines).2.symm
  | cons c before ih =>
    obtain ⟨done, part, rest, more, ⟨hlines, hbefore, hlast⟩, hwalk⟩ := ih
    by_cases hends : EndsLine c (before ++ after).head?
    · refine ⟨[c] :: done, part, rest, more, ⟨?_, by simp [hbefore], hlast⟩, fun place => ?_⟩
      · rw [List.cons_append, lines_cons_of_endsLine hends, hlines, List.cons_append]
      · rw [Location.walk, hwalk, Location.behind, if_pos hends]
        by_cases hdone : done = [] <;> simp [hdone] <;> omega
    · cases done with
      | nil =>
        refine ⟨[], c :: part, rest, more, ⟨?_, by simp [hbefore], hlast⟩, fun place => ?_⟩
        · exact lines_cons_of_not_endsLine hends hlines
        · rw [Location.walk, hwalk, Location.behind, if_neg hends]
          simp
          omega
      | cons line done =>
        refine ⟨(c :: line) :: done, part, rest, more, ⟨?_, by simp [hbefore], hlast⟩,
          fun place => ?_⟩
        · exact lines_cons_of_not_endsLine hends hlines
        · rw [Location.walk, hwalk, Location.behind, if_neg hends]
          simp

namespace IsInLine

variable {before after part rest : Text} {done more : List Text}

theorem after_eq (h : IsInLine before after done part rest more) :
    after = rest ++ more.flatten := by
  have hflatten := flatten_lines (before ++ after)
  rw [h.lines_eq, h.before_eq] at hflatten
  simpa using hflatten.symm

theorem byteLength_eq (h : IsInLine before after done part rest more) :
    before.byteLength = byteLength done.flatten + part.byteLength := by
  rw [h.before_eq, byteLength_append]

theorem rest_ne_nil (h : IsInLine before after done part rest more) (hafter : after ≠ []) :
    rest ≠ [] := by
  rintro rfl
  apply hafter
  rw [h.after_eq, h.eq_nil rfl]
  rfl

/-- The byte range of the line parts those of the lines in front from those behind. -/
theorem lineRanges_eq (h : IsInLine before after done part rest more) :
    ∃ left right, (before ++ after).lineRanges =
        left ++ ⟨byteLength done.flatten, byteLength done.flatten + (part ++ rest).byteLength⟩ ::
          right ∧
      left.length = done.length ∧ (∀ range ∈ left, range.stop ≤ byteLength done.flatten) ∧
      ∀ range ∈ right, byteLength done.flatten + (part ++ rest).byteLength ≤ range.stop := by
  refine ⟨rangesFrom 0 done, rangesFrom (byteLength done.flatten + (part ++ rest).byteLength) more,
    ?_, length_rangesFrom 0 done, fun range hrange => ?_,
    fun range hrange => (stop_of_mem_rangesFrom hrange).1⟩
  · have hranges : (before ++ after).lineRanges = rangesFrom 0 (before ++ after).lines := rfl
    rw [hranges, h.lines_eq, rangesFrom_append, Nat.zero_add, rangesFrom_cons]
  · have hle := (stop_of_mem_rangesFrom hrange).2
    rwa [Nat.zero_add] at hle

theorem lineRange_eq (h : IsInLine before after done part rest more) :
    (before ++ after).lineRanges[done.length]? =
      some ⟨byteLength done.flatten, byteLength done.flatten + (part ++ rest).byteLength⟩ := by
  obtain ⟨left, right, hranges, hlength, -⟩ := h.lineRanges_eq
  rw [hranges, ← hlength, List.getElem?_append_right (Nat.le_refl _), Nat.sub_self]
  rfl

theorem line_eq (h : IsInLine before after done part rest more) :
    (before ++ after).lines[done.length]? = some (part ++ rest) := by
  rw [h.lines_eq, List.getElem?_append_right (Nat.le_refl _), Nat.sub_self]
  rfl

/-- The search finds the line in which the place is. -/
theorem partitionPoint_eq (h : IsInLine before after done part rest more)
    (hafter : after ≠ []) :
    partitionPoint (fun range => decide (range.stop ≤ before.byteLength))
      (before ++ after).lineRanges = done.length := by
  obtain ⟨left, right, hranges, hlength, hleft, hright⟩ := h.lineRanges_eq
  have hrest : 0 < rest.byteLength :=
    Nat.pos_of_ne_zero (mt byteLength_eq_zero_iff.1 (h.rest_ne_nil hafter))
  have hbefore := h.byteLength_eq
  rw [byteLength_append] at hright
  rw [hranges, ← hlength, hbefore]
  apply partitionPoint_append
  · intro range hrange
    have hle := hleft range hrange
    exact decide_eq_true (by omega)
  · intro range hrange
    apply decide_eq_false
    rcases List.mem_cons.1 hrange with rfl | hrange
    · simp only [byteLength_append]
      omega
    · have hle := hright range hrange
      omega

theorem location?_eq (h : IsInLine before after done part rest more) (hafter : after ≠ []) :
    (before ++ after).location? before.byteLength = some ⟨done.length + 1, part.length + 1⟩ := by
  have hafterLength : 0 < after.byteLength :=
    Nat.pos_of_ne_zero (mt byteLength_eq_zero_iff.1 hafter)
  have hvalid : before.byteLength < (before ++ after).byteLength ∧
      (before ++ after).IsBoundary before.byteLength :=
    ⟨by rw [byteLength_append]; omega, before, after, rfl, rfl⟩
  have hslice : (before ++ after).slice (byteLength done.flatten) before.byteLength = part := by
    have happend := slice_append done.flatten part after
    rwa [← byteLength_append, ← h.before_eq] at happend
  rw [location?, if_pos hvalid]
  simp only [h.partitionPoint_eq hafter, h.lineRange_eq, Option.map_some, hslice]

end IsInLine

theorem trimTerminators_eq {line : Text} (h : ∀ c ∈ line, isTerminator c = false) :
    line.trimTerminators = line := by
  have hlast : ∀ c ∈ line.reverse.head?, ¬isTerminator c = true := by
    intro c hc
    have hmem : c ∈ line := List.mem_reverse.1 (List.mem_of_mem_head? hc)
    simp [h c hmem]
  cases hreverse : line.reverse with
  | nil => simp [trimTerminators, List.reverse_eq_nil_iff.1 hreverse]
  | cons c front =>
    rw [hreverse] at hlast
    rw [trimTerminators, hreverse, List.dropWhile_cons_of_neg (hlast c rfl), ← hreverse,
      List.reverse_reverse]

/-- Offsets in front of the end, and only these, have a location. -/
theorem location?_of_not {text : Text} {n : Nat}
    (h : ¬(n < text.byteLength ∧ text.IsBoundary n)) : text.location? n = none := by
  rw [location?, if_neg h]

theorem location?_append {before after : Text} (hafter : after ≠ []) :
    (before ++ after).location? before.byteLength =
      some (Location.first.walk before after) := by
  obtain ⟨done, part, rest, more, hline, hwalk⟩ := exists_isInLine before after
  rw [hline.location?_eq hafter, hwalk]
  by_cases hdone : done = [] <;> simp [hdone, Location.first] <;> omega

end Text

end Lexing
