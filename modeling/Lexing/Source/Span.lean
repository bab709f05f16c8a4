import Lexing.Source.Basic

/-!
# Spans of a source

A span is a part of a source, from one byte offset to another. `Span.new?` makes
spans only between offsets that fall between characters, the first of them not
behind the second; `Span.IsValid` states this of a span.

## Main definitions

* `Span`: a source with two offsets.
* `Span.new?`, `Span.toEnd?`, `Span.join?`: the spans that can be made.
* `Span.text`: the part of the source's text.
-/

namespace Lexing

/-- A part of a source. -/
structure Span where
  /-- The source of which it is a part. -/
  source : Source
  /-- The offset of the first byte. -/
  start : Nat
  /-- The offset just behind the last byte. -/
  stop : Nat
  deriving DecidableEq, Repr

namespace Span

/-- The span runs from one boundary of its source's text to another one, not in
front of it. -/
structure IsValid (span : Span) : Prop where
  start_le_stop : span.start ≤ span.stop
  start_isBoundary : span.source.content.IsBoundary span.start
  stop_isBoundary : span.source.content.IsBoundary span.stop

/-- The span between two offsets; `none` if they are in the wrong order or one of
them does not fall between characters. -/
def new? (source : Source) (start stop : Nat) : Option Span :=
  if start ≤ stop ∧ source.content.IsBoundary start ∧ source.content.IsBoundary stop then
    some ⟨source, start, stop⟩
  else none

/-- The span from an offset to the end of the source. -/
def toEnd? (source : Source) (start : Nat) : Option Span :=
  new? source start source.size

/-- The span from the start of one span to the end of another one; `none` if they are
in different sources or in the wrong order. -/
def join? (first last : Span) : Option Span :=
  if first.source = last.source ∧ first.start ≤ last.stop then
    some ⟨first.source, first.start, last.stop⟩
  else none

/-- The text of the span. -/
def text (span : Span) : Text :=
  span.source.content.slice span.start span.stop

/-- The location of the first character; `none` if the span starts at the end of the
source. -/
def startLocation? (span : Span) : Option Location :=
  span.source.location? span.start

/-- The location of the character behind the span; `none` if the span ends at the end
of the source. -/
def stopLocation? (span : Span) : Option Location :=
  span.source.location? span.stop

/-- The order of two spans of one source: by where they start, then by where they
stop. -/
def compare? (a b : Span) : Option Ordering :=
  if a.source = b.source then
    some ((compare a.start b.start).then (compare a.stop b.stop))
  else none

/-- The span as logs show it. -/
def logText (span : Span) : String :=
  s!"Span \x7b start: {span.start}, end: {span.stop}, content: {Text.quote span.text} \x7d"

/-- Exactly the valid spans can be made. -/
theorem new?_eq_some_iff {source : Source} {start stop : Nat} {span : Span} :
    new? source start stop = some span ↔ span = ⟨source, start, stop⟩ ∧ span.IsValid := by
  constructor
  · intro h
    rw [new?] at h
    split at h
    · rename_i hvalid
      cases h
      exact ⟨rfl, hvalid.1, hvalid.2.1, hvalid.2.2⟩
    · cases h
  · rintro ⟨rfl, hle, hstart, hstop⟩
    rw [new?, if_pos ⟨hle, hstart, hstop⟩]

end Span

end Lexing
