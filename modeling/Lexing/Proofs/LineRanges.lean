import Lexing.Proofs.Text.LineScan
import Lexing.Source.Basic

/-!
# The lines of a source

A source knows its lines by their byte ranges. They are the only ranges that split its text
into lines, each line can be cut out where its range says, and all lines together are the
text.

## Main definitions

* `Source.SplitsIntoLines`: what can be relied on in the lines of a source.

## Main results

* `Source.splitsIntoLines`: this holds of every source.
-/

namespace Lexing

namespace Source

/-- What can be relied on in the lines of a source. -/
structure SplitsIntoLines (source : Source) : Prop where
  /-- The ranges of the lines split the text, and no others do. -/
  isLineSplit_iff : ∀ ranges,
    source.content.IsLineSplit 0 ranges ↔ ranges = source.content.lineRanges
  /-- They are those that the loop over the bytes comes to. -/
  scanLines_eq : Utf8.scanLines (Utf8.encode source.content) 0 0 = source.content.lineRanges
  /-- No carriage return is parted from the line feed behind it. -/
  stop_ne : ∀ before after, source.content = before ++ '\r' :: '\n' :: after →
    ∀ range ∈ source.content.lineRanges, range.stop ≠ before.byteLength + 1
  /-- Each line can be cut out where its range says. -/
  map_slice?_eq : ∀ n, (source.lineRange? n).map
    (fun range => source.content.slice? range.start range.stop) = (source.line? n).map some
  /-- The numbers of the lines are those from one to the number of lines. -/
  line?_eq_none_iff : ∀ n, source.line? n = none ↔ n = 0 ∨ source.lineCount < n
  /-- All lines together are the text. -/
  flatten_eq : ((List.range' 1 source.lineCount).filterMap source.line?).flatten =
    source.content

variable {source : Source}

theorem line?_eq_none_iff (source : Source) (n : Nat) :
    source.line? n = none ↔ n = 0 ∨ source.lineCount < n := by
  cases n with
  | zero => simp [line?, numbered?]
  | succ n =>
    rw [line?, numbered?, List.getElem?_eq_none_iff, lineCount]
    omega

/-- The items under their numbers, one after the other, are all items. -/
theorem filterMap_numbered? {α : Type} (items : List α) :
    (List.range' 1 items.length).filterMap (numbered? items) = items := by
  have hnumbered : numbered? items ∘ (1 + ·) = fun n => items[n]? := by
    funext n
    rw [Function.comp_apply, Nat.one_add, numbered?]
  rw [List.range'_eq_map_range, List.filterMap_map, hnumbered]
  clear hnumbered
  induction items with
  | nil => rfl
  | cons item items ih =>
    simpa [List.range_succ_eq_map, List.filterMap_map, Function.comp_def] using ih

theorem map_slice?_lineRange? (source : Source) (n : Nat) :
    (source.lineRange? n).map (fun range => source.content.slice? range.start range.stop) =
      (source.line? n).map some := by
  have hlines : source.content.GoesOn 0 source.lines.flatten := by
    rw [lines, Text.flatten_lines]
    exact Text.goesOn_zero source.content
  cases n with
  | zero => rfl
  | succ n =>
    rw [lineRange?, line?, numbered?, numbered?, ← List.getElem?_map, ← List.getElem?_map,
      ← Text.map_slice?_rangesFrom hlines]
    rfl

/-- The lines of a source are what splitting its text can only come to. -/
theorem splitsIntoLines (source : Source) : source.SplitsIntoLines where
  isLineSplit_iff _ := Text.isLineSplit_iff
  scanLines_eq := Utf8.scanLines_encode source.content
  stop_ne _ _ hcontent _ hrange := (Text.isLineSplit_iff.2 rfl).stop_ne hcontent hrange
  map_slice?_eq := source.map_slice?_lineRange?
  line?_eq_none_iff := source.line?_eq_none_iff
  flatten_eq := by
    have hall : (List.range' 1 source.lineCount).filterMap source.line? = source.lines :=
      filterMap_numbered? source.lines
    rw [hall, lines, Text.flatten_lines]

end Source

end Lexing
