import Lexing.Proofs.Text.Lines
import Lexing.Source.Basic

/-!
# Locations of a source

A source does not count lines and columns from its start. It searches the byte ranges of
its lines for an offset and counts the characters of one line only, and it looks up the
location of its end in another way. All the same its locations are those that counting
comes to, and an offset can be told from its location.

## Main definitions

* `Source.LocatesExactly`: what can be relied on in the locations of a source.

## Main results

* `Source.locatesExactly`: every source locates exactly.
-/

namespace Lexing

namespace Source

/-- What can be relied on in the locations of a source. -/
structure LocatesExactly (source : Source) : Prop where
  /-- An offset has a location if it falls between two characters and is not the end, and
  this is the one that counting comes to. -/
  location?_eq : ∀ n, source.location? n =
    if n < source.size ∧ source.content.IsBoundary n then
      some (source.content.countedLocation n)
    else none
  /-- The end of the source is located too. -/
  locate_eq : ∀ n, source.content.IsBoundary n →
    source.locate n = source.content.countedLocation n
  /-- Later characters have later locations. -/
  before : ∀ m n a b, m < n → source.location? m = some a → source.location? n = some b →
    a.Before b
  /-- No two characters have the same location. -/
  eq_of_location? : ∀ m n place, source.location? m = some place →
    source.location? n = some place → m = n
  /-- The offset is found again behind the first characters of the line. -/
  offset_eq : ∀ n place, source.location? n = some place →
    ∃ range line, source.lineRange? place.line = some range ∧
      source.line? place.line = some line ∧ 1 ≤ place.column ∧ place.column ≤ line.length ∧
        n = range.start + Text.byteLength (line.take (place.column - 1))

variable {source : Source}

theorem endLocation_eq (source : Source) :
    source.endLocation = Location.first.walk source.content [] := by
  obtain ⟨done, part, rest, more, hline, hwalk⟩ := Text.exists_isInLine source.content []
  obtain ⟨rfl, hmore⟩ := List.append_eq_nil_iff.1 hline.after_eq.symm
  obtain rfl := hline.eq_nil rfl
  have hlines := hline.lines_eq
  have hlast := hline.line_eq
  rw [List.append_nil, List.append_nil] at hlines hlast
  have hcount : source.lineCount = done.length + 1 := by
    rw [lineCount, lines, hlines, List.length_append]
    rfl
  have hline : source.line? source.lineCount = some part := by
    rw [hcount]
    exact hlast
  have htrim := Text.trimTerminators_eq (Text.isTerminator_of_mem_last hlines)
  rw [endLocation, hline, hcount, hwalk]
  by_cases hdone : done = [] <;> simp [hdone, Location.first, htrim] <;> omega

theorem exists_of_location?_eq_some {n : Nat} {place : Location}
    (h : source.location? n = some place) :
    ∃ before after, source.content = before ++ after ∧ before.byteLength = n ∧ after ≠ [] := by
  by_cases hvalid : n < source.size ∧ source.content.IsBoundary n
  · obtain ⟨hlt, before, after, hcontent, hbefore⟩ := hvalid
    refine ⟨before, after, hcontent, hbefore, ?_⟩
    rintro rfl
    rw [size, hcontent, List.append_nil] at hlt
    omega
  · have hnone : source.location? n = none := Text.location?_of_not hvalid
    rw [hnone] at h
    cases h

theorem location?_of_append {before after : Text} (hcontent : source.content = before ++ after)
    (hafter : after ≠ []) :
    source.location? before.byteLength = some (Location.first.walk before after) := by
  rw [location?, hcontent, Text.location?_append hafter]

theorem before_of_lt {m n : Nat} {a b : Location} (hlt : m < n)
    (ha : source.location? m = some a) (hb : source.location? n = some b) : a.Before b := by
  obtain ⟨front, back, hcontent, rfl, hback⟩ := exists_of_location?_eq_some ha
  obtain ⟨front', back', hcontent', rfl, hback'⟩ := exists_of_location?_eq_some hb
  rw [location?_of_append hcontent hback, Option.some.injEq] at ha
  rw [location?_of_append hcontent' hback', Option.some.injEq] at hb
  rcases List.append_eq_append_iff.1 (hcontent.symm.trans hcontent') with
    ⟨inside, rfl, rfl⟩ | ⟨inside, rfl, -⟩
  · rw [← ha, ← hb, Location.walk_append]
    refine Location.before_walk _ ?_ _
    rintro rfl
    simp at hlt
  · rw [Text.byteLength_append] at hlt
    omega

theorem location?_eq_counted (source : Source) (n : Nat) : source.location? n =
    if n < source.size ∧ source.content.IsBoundary n then
      some (source.content.countedLocation n)
    else none := by
  split
  · rename_i hvalid
    obtain ⟨hlt, before, after, hcontent, rfl⟩ := hvalid
    have hafter : after ≠ [] := by
      rintro rfl
      rw [size, hcontent, List.append_nil] at hlt
      omega
    rw [location?_of_append hcontent hafter, hcontent, Text.countedLocation_append]
  · rename_i hvalid
    exact Text.location?_of_not hvalid

theorem locate_eq_counted {n : Nat} (hboundary : source.content.IsBoundary n) :
    source.locate n = source.content.countedLocation n := by
  obtain ⟨before, after, hcontent, rfl⟩ := hboundary
  rw [locate, hcontent, Text.countedLocation_append]
  by_cases hafter : after = []
  · subst hafter
    rw [List.append_nil] at hcontent
    have hnone : source.location? before.byteLength = none := by
      apply Text.location?_of_not
      rw [hcontent]
      omega
    rw [hnone, Option.getD_none, endLocation_eq, hcontent]
  · rw [location?_of_append hcontent hafter, Option.getD_some]

theorem offset_unique {m n : Nat} {place : Location} (hm : source.location? m = some place)
    (hn : source.location? n = some place) : m = n := by
  rcases Nat.lt_trichotomy m n with hlt | heq | hlt
  · exact absurd rfl (before_of_lt hlt hm hn).ne
  · exact heq
  · exact absurd rfl (before_of_lt hlt hn hm).ne

section InLine

variable {before after part rest : Text} {done more : List Text}
  (hcontent : source.content = before ++ after)
  (hline : Text.IsInLine before after done part rest more)

include hcontent hline

theorem line?_of_isInLine : source.line? (done.length + 1) = some (part ++ rest) := by
  rw [line?, lines, hcontent]
  exact hline.line_eq

theorem lineRange?_of_isInLine :
    source.lineRange? (done.length + 1) =
      some ⟨Text.byteLength done.flatten,
        Text.byteLength done.flatten + Text.byteLength (part ++ rest)⟩ := by
  rw [lineRange?, hcontent]
  exact hline.lineRange_eq

theorem location?_of_isInLine (hafter : after ≠ []) :
    source.location? before.byteLength = some ⟨done.length + 1, part.length + 1⟩ := by
  rw [location?, hcontent]
  exact hline.location?_eq hafter

end InLine

/-- The line of a location is found by its number, and the offset by the column. -/
theorem offset_eq_of_location? {n : Nat} {place : Location}
    (h : source.location? n = some place) :
    ∃ range line, source.lineRange? place.line = some range ∧
      source.line? place.line = some line ∧ 1 ≤ place.column ∧ place.column ≤ line.length ∧
        n = range.start + Text.byteLength (line.take (place.column - 1)) := by
  obtain ⟨before, after, hcontent, rfl, hafter⟩ := exists_of_location?_eq_some h
  obtain ⟨done, part, rest, more, hline, -⟩ := Text.exists_isInLine before after
  rw [location?_of_isInLine hcontent hline hafter, Option.some.injEq] at h
  subst h
  refine ⟨_, _, lineRange?_of_isInLine hcontent hline, line?_of_isInLine hcontent hline,
    Nat.succ_pos _, ?_, ?_⟩
  · have hrest := List.length_pos_iff.2 (hline.rest_ne_nil hafter)
    show part.length + 1 ≤ (part ++ rest).length
    rw [List.length_append]
    omega
  · rw [Nat.add_sub_cancel, List.take_left, hline.byteLength_eq]

/-- What a source says of its lines and columns is what counting them comes to, and nothing
is lost by it. -/
theorem locatesExactly (source : Source) : source.LocatesExactly where
  location?_eq := source.location?_eq_counted
  locate_eq _ := locate_eq_counted
  before _ _ _ _ := before_of_lt
  eq_of_location? _ _ _ := offset_unique
  offset_eq _ _ := offset_eq_of_location?

end Source

end Lexing
