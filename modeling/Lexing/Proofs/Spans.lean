import Lexing.Proofs.Location
import Lexing.Proofs.Text.Place
import Lexing.Source.Span

/-!
# The spans that can be made

Spans are made between two offsets of a source, from an offset to its end, or out of two
spans that were made before. The last way looks at no text: it takes over one offset of
each span. No invalid span comes out of it all the same, in whatever order the spans are
made, and the answer is the one that the two offsets would have given.

## Main definitions

* `Span.Construction`: the ways to make a span.
* `Span.madeBy`: the spans that some constructions make.
* `Span.IsSound`: what can be relied on in a span.
* `Span.JoinsSoundly`: what can be relied on when spans are joined.

## Main results

* `Span.isValid_of_mem_madeBy`: only valid spans are made.
* `Span.madeBy_isSound`: they are sound and join soundly.
-/

namespace Lexing

/-- A place in a source has a location unless it is the end. -/
theorem Source.location?_eq_none_iff {source : Source} {n : Nat}
    (h : source.content.IsBoundary n) : source.location? n = none ↔ n = source.size := by
  have hle : n ≤ source.size := h.le_byteLength
  rw [source.location?_eq_counted]
  split
  · rename_i hvalid
    simp only [reduceCtorEq, false_iff]
    omega
  · rename_i hvalid
    have hend : ¬n < source.size := fun hlt => hvalid ⟨hlt, h⟩
    simp only [true_iff]
    omega

namespace Span

/-- A way to make a span when some spans have been made. Any sources can be named in it;
those with different numbers are different. -/
inductive Construction where
  /-- Between two offsets of a source. -/
  | between (source : Source) (start stop : Nat)
  /-- From an offset of a source to its end. -/
  | toEnd (source : Source) (start : Nat)
  /-- From the start of a span that was made to the end of another one. -/
  | join (first last : Nat)
  deriving DecidableEq, Repr

/-- The span that the construction gives, if it gives one. -/
def Construction.span? (made : List Span) : Construction → Option Span
  | between source start stop => new? source start stop
  | toEnd source start => toEnd? source start
  | join first last =>
    made[first]?.bind fun a => made[last]?.bind fun b => a.join? b

/-- The spans made after one more construction. -/
def afterConstruction (made : List Span) (construction : Construction) : List Span :=
  made ++ (construction.span? made).toList

/-- The spans that the constructions make one after the other, the first one first. -/
def madeBy (constructions : List Construction) : List Span :=
  constructions.foldl afterConstruction []

/-- What can be relied on in a span. -/
structure IsSound (span : Span) : Prop where
  /-- Its offsets are in order and fall between characters. -/
  isValid : span.IsValid
  /-- It ends in the text of its source. -/
  stop_le_size : span.stop ≤ span.source.size
  /-- Its text can be cut out. -/
  slice?_eq : span.source.content.slice? span.start span.stop = some span.text
  /-- Its text is what lies between the two offsets. -/
  exists_content_eq : ∃ before after, span.source.content = before ++ (span.text ++ after) ∧
    before.byteLength = span.start ∧ span.start + span.text.byteLength = span.stop
  /-- Its start has no location only at the end of the source. -/
  startLocation?_eq_none_iff : span.startLocation? = none ↔ span.start = span.source.size
  /-- Nor has its end. -/
  stopLocation?_eq_none_iff : span.stopLocation? = none ↔ span.stop = span.source.size

/-- What can be relied on when spans are joined. -/
structure JoinsSoundly (a b c : Span) : Prop where
  /-- In one source, joining is making the span between the two offsets, with all that is
  looked at then. Spans of different sources are not joined. -/
  join?_eq : a.join? b =
    if a.source = b.source then new? a.source a.start b.stop else none
  /-- Of three spans it does not matter which ones are joined first. -/
  join?_join?_eq : ∀ left right, (a.join? b).bind (·.join? c) = some left →
    (b.join? c).bind (a.join? ·) = some right → left = right

variable {a b span : Span} {made : List Span}

theorem join?_eq_some_iff : a.join? b = some span ↔
    a.source = b.source ∧ a.start ≤ b.stop ∧ span = ⟨a.source, a.start, b.stop⟩ := by
  rw [join?]
  split
  · rename_i h
    simp [h, eq_comm]
  · rename_i h
    simp only [reduceCtorEq, false_iff]
    exact fun ⟨hsource, hle, _⟩ => h ⟨hsource, hle⟩

/-- The offsets that a joined span takes over fall between characters already. -/
theorem IsValid.join?_eq_new? (ha : a.IsValid) (hb : b.IsValid) :
    a.join? b = if a.source = b.source then new? a.source a.start b.stop else none := by
  by_cases hsource : a.source = b.source
  · have hstart := ha.start_isBoundary
    have hstop := hb.stop_isBoundary
    rw [hsource] at hstart
    simp [join?, new?, hsource, hstart, hstop]
  · simp [join?, hsource]

theorem isValid_of_new? {source : Source} {start stop : Nat}
    (h : new? source start stop = some span) : span.IsValid :=
  (new?_eq_some_iff.1 h).2

theorem IsValid.of_join? (ha : a.IsValid) (hb : b.IsValid) (h : a.join? b = some span) :
    span.IsValid := by
  rw [ha.join?_eq_new? hb] at h
  split at h
  · exact isValid_of_new? h
  · cases h

/-- A construction gives a valid span if those made before are valid. -/
theorem isValid_of_span? (hmade : ∀ a ∈ made, a.IsValid) {construction : Construction}
    (h : construction.span? made = some span) : span.IsValid := by
  cases construction with
  | between source start stop => exact isValid_of_new? h
  | toEnd source start => exact isValid_of_new? h
  | join first last =>
    obtain ⟨a, hfirst, h⟩ := Option.bind_eq_some_iff.1 h
    obtain ⟨b, hlast, h⟩ := Option.bind_eq_some_iff.1 h
    exact (hmade a (List.mem_of_getElem? hfirst)).of_join? (hmade b (List.mem_of_getElem? hlast)) h

theorem isValid_afterConstruction (hmade : ∀ a ∈ made, a.IsValid) (construction : Construction) :
    ∀ a ∈ afterConstruction made construction, a.IsValid := by
  intro a ha
  rcases List.mem_append.1 ha with ha | ha
  · exact hmade a ha
  · exact isValid_of_span? hmade (Option.mem_toList.1 ha)

/-- Only valid spans are made. -/
theorem isValid_of_mem_madeBy (constructions : List Construction) :
    ∀ a ∈ madeBy constructions, a.IsValid := by
  have hrun : ∀ made : List Span, (∀ a ∈ made, a.IsValid) →
      ∀ a ∈ constructions.foldl afterConstruction made, a.IsValid := by
    -- One more construction keeps all spans valid, so all of them do.
    induction constructions with
    | nil => exact fun _ hmade => hmade
    | cons construction constructions ih =>
      exact fun made hmade => ih _ (isValid_afterConstruction hmade construction)
  exact hrun [] (by simp)

-- The first construction is refused inside a character. The last one joins two spans the
-- other way round and gets an empty one.
example :
    let source : Source := ⟨0, [], ['é', 'a']⟩
    madeBy [.between source 1 3, .between source 0 2, .toEnd source 2, .join 0 1, .join 1 0] =
      [⟨source, 0, 2⟩, ⟨source, 2, 3⟩, ⟨source, 0, 3⟩, ⟨source, 2, 2⟩] := by decide

theorem IsValid.isSound (h : span.IsValid) : span.IsSound := by
  obtain ⟨before, rest, hcontent, hstart⟩ := h.start_isBoundary
  have hrest : span.source.content.GoesOn span.start rest := ⟨before, hcontent, hstart⟩
  obtain ⟨n, hn⟩ := Nat.exists_eq_add_of_le h.start_le_stop
  obtain ⟨upTo, after, hupTo, hstop⟩ := h.stop_isBoundary
  have hafter : span.source.content.GoesOn (span.start + n) after :=
    ⟨upTo, hupTo, hstop.trans hn⟩
  obtain ⟨inside, rfl, rfl⟩ := hrest.add_iff.1 hafter
  have htext : span.text = inside := by
    rw [text, hn, hrest.slice_eq]
  refine
    { isValid := h
      stop_le_size := h.stop_isBoundary.le_byteLength
      slice?_eq := if_pos ⟨h.start_le_stop, h.start_isBoundary, h.stop_isBoundary⟩
      exists_content_eq := ⟨before, after, htext ▸ hcontent, hstart, htext ▸ hn.symm⟩
      startLocation?_eq_none_iff := Source.location?_eq_none_iff h.start_isBoundary
      stopLocation?_eq_none_iff := Source.location?_eq_none_iff h.stop_isBoundary }

theorem IsValid.joinsSoundly (ha : a.IsValid) (hb : b.IsValid) (c : Span) :
    a.JoinsSoundly b c := by
  refine ⟨ha.join?_eq_new? hb, fun left right hleft hright => ?_⟩
  obtain ⟨ab, hab, hleft⟩ := Option.bind_eq_some_iff.1 hleft
  obtain ⟨bc, hbc, hright⟩ := Option.bind_eq_some_iff.1 hright
  obtain ⟨-, -, rfl⟩ := join?_eq_some_iff.1 hab
  obtain ⟨-, -, rfl⟩ := join?_eq_some_iff.1 hbc
  obtain ⟨-, -, rfl⟩ := join?_eq_some_iff.1 hleft
  obtain ⟨-, -, rfl⟩ := join?_eq_some_iff.1 hright
  rfl

/-- Whatever constructions are tried one after the other, the spans that come out of them
are sound and join soundly. -/
theorem madeBy_isSound (constructions : List Construction) :
    (∀ a ∈ madeBy constructions, a.IsSound) ∧
      ∀ a ∈ madeBy constructions, ∀ b ∈ madeBy constructions, ∀ c ∈ madeBy constructions,
        a.JoinsSoundly b c := by
  have hvalid := isValid_of_mem_madeBy constructions
  exact ⟨fun a ha => (hvalid a ha).isSound,
    fun a ha b hb c _ => (hvalid a ha).joinsSoundly (hvalid b hb) c⟩

end Span

end Lexing
