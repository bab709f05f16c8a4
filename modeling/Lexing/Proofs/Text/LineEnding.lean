import Lexing.Proofs.Scanner.Cut
import Lexing.Proofs.Text.Lines
import Lexing.Proofs.Text.Place

/-!
# Line endings

A text whose lines end with line feeds can be spelled with another line ending in their
place. All of its characters but the line feeds stay, at other offsets. If there was no
carriage return in the text, the two spellings have the same lines and columns: a
carriage return in front of a line feed has a column, but the line feed comes next and
nothing counts on from there, and carriage returns alone are never in front of a line
feed, as none is left. No bare lexeme has a line ending in it, and quotation marks stay
quotation marks, so the two spellings also have the same lexemes.

## Main definitions

* `LineEnding`: the line endings that begin with a carriage return.
* `LineEnding.respell`: a text with another line ending for its line feeds.
* `LineEnding.offset`: where the character at an offset stands then.

## Main results

* `LineEnding.walk_respell`: lines and columns are counted alike.
* `LineEnding.isGap_respell`, `LineEnding.respell_of_isBare`: blanks stay blanks, and bare
  lexemes stay as they are.
-/

namespace Lexing

/-- A line ending other than the line feed alone. -/
inductive LineEnding where
  /-- A carriage return with a line feed behind it. -/
  | returnAndFeed
  /-- A carriage return alone. -/
  | returnAlone
  deriving DecidableEq, Repr

/-- An induction over the characters of a text, of which the line feeds are a case of their
own. -/
theorem Text.feedInduction {motive : Text → Prop} (nil : motive [])
    (feed : ∀ text, motive text → motive ('\n' :: text))
    (other : ∀ c text, c ≠ '\n' → motive text → motive (c :: text)) (text : Text) :
    motive text := by
  induction text with
  | nil => exact nil
  | cons c text ih =>
    by_cases hc : c = '\n'
    · subst hc
      exact feed text ih
    · exact other c text hc ih

namespace LineEnding

/-- The characters of the line ending. -/
def text : LineEnding → Text
  | returnAndFeed => ['\r', '\n']
  | returnAlone => ['\r']

/-- The text with the line ending in the place of each line feed. -/
def respell (ending : LineEnding) (text : Text) : Text :=
  text.flatMap fun c => if c = '\n' then ending.text else [c]

variable (ending : LineEnding)

@[simp] theorem respell_nil : ending.respell [] = [] := rfl

@[simp] theorem respell_feed (text : Text) :
    ending.respell ('\n' :: text) = ending.text ++ ending.respell text := rfl

theorem respell_cons {c : Char} (hc : c ≠ '\n') (text : Text) :
    ending.respell (c :: text) = c :: ending.respell text := by
  simp [respell, hc]

@[simp] theorem respell_append (left right : Text) :
    ending.respell (left ++ right) = ending.respell left ++ ending.respell right :=
  List.flatMap_append

theorem respell_of_notMem {text : Text} (h : '\n' ∉ text) : ending.respell text = text := by
  induction text with
  | nil => rfl
  | cons c text ih =>
    rw [List.mem_cons, not_or] at h
    rw [ending.respell_cons (Ne.symm h.1), ih h.2]

theorem respell_eq_nil_iff {text : Text} : ending.respell text = [] ↔ text = [] := by
  induction text using Text.feedInduction with
  | nil => simp
  | feed text => cases ending <;> simp [LineEnding.text]
  | other c text hc => simp [ending.respell_cons hc]

/-- Characters that end no line are neither added nor lost. -/
theorem mem_respell_iff {c : Char} (hc : Text.isTerminator c = false) {text : Text} :
    c ∈ ending.respell text ↔ c ∈ text := by
  have hending : c ∉ ending.text := by
    intro hmem
    have hterminators : ∀ d ∈ ending.text, Text.isTerminator d = true := by
      cases ending <;> simp [LineEnding.text, Text.isTerminator]
    rw [hterminators c hmem] at hc
    cases hc
  induction text using Text.feedInduction with
  | nil => simp
  | feed text ih =>
    have hne : c ≠ '\n' := by
      rintro rfl
      cases hc
    simp [hending, hne, ih]
  | other d text hd ih => simp [ending.respell_cons hd, ih]

theorem feed_notMem_respell (text : Text) : '\n' ∉ returnAlone.respell text := by
  induction text using Text.feedInduction with
  | nil => simp
  | feed text ih => simpa [LineEnding.text] using ih
  | other c text hc ih => simpa [returnAlone.respell_cons hc, Ne.symm hc] using ih

section Locations

/-- The line ending leads to the start of the next line, as a line feed does. -/
theorem walk_text (place : Location) (rest : Text) :
    place.walk ending.text (ending.respell rest) = ⟨place.line + 1, 1⟩ := by
  cases ending with
  | returnAndFeed => simp [LineEnding.text, Location.walk, Location.behind, EndsLine]
  | returnAlone =>
    have hnext : (returnAlone.respell rest).head? ≠ some '\n' :=
      fun hhead => feed_notMem_respell rest (List.mem_of_mem_head? hhead)
    simp [LineEnding.text, Location.walk, Location.behind, EndsLine, hnext]

/-- Behind a text without carriage returns there is the same location with either line
ending. -/
theorem walk_respell (place : Location) {before : Text} (hreturn : '\r' ∉ before)
    (after : Text) :
    place.walk (ending.respell before) (ending.respell after) = place.walk before after := by
  induction before using Text.feedInduction generalizing place with
  | nil => rfl
  | feed before ih =>
    have hends : EndsLine '\n' (before ++ after).head? := Or.inl rfl
    rw [respell_feed, Location.walk_append, ← respell_append, walk_text,
      ih _ (List.not_mem_of_not_mem_cons hreturn), Location.walk, Location.behind, if_pos hends]
  | other c before hc ih =>
    rw [List.mem_cons, not_or] at hreturn
    have hends (next : Option Char) : ¬EndsLine c next := by
      simp [EndsLine, hc, Ne.symm hreturn.1]
    rw [ending.respell_cons hc, Location.walk, Location.walk, Location.behind, Location.behind,
      if_neg (hends _), if_neg (hends _), ih _ hreturn.2]

end Locations

section Offsets

/-- The offset of what stands at an offset of the text, after the text is spelled with the
line ending. -/
def offset (text : Text) (n : Nat) : Nat :=
  Text.byteLength (ending.respell (text.slice 0 n))

theorem offset_append (before after : Text) :
    ending.offset (before ++ after) before.byteLength =
      Text.byteLength (ending.respell before) := by
  have hslice := Text.slice_append [] before after
  rw [List.nil_append, Text.byteLength_nil, Nat.zero_add] at hslice
  rw [offset, hslice]

variable {text rest : Text} {n : Nat}

theorem goesOn_respell (h : text.GoesOn n rest) :
    (ending.respell text).GoesOn (ending.offset text n) (ending.respell rest) := by
  obtain ⟨before, rfl, rfl⟩ := h
  exact ⟨ending.respell before, ending.respell_append before rest,
    (ending.offset_append before rest).symm⟩

theorem offset_add {passed : Text} (h : text.GoesOn n (passed ++ rest)) :
    ending.offset text (n + passed.byteLength) =
      ending.offset text n + Text.byteLength (ending.respell passed) := by
  obtain ⟨before, rfl, rfl⟩ := h
  rw [ending.offset_append, ← Text.byteLength_append, ← List.append_assoc, ending.offset_append,
    respell_append, Text.byteLength_append]

theorem charAt?_respell {c : Char} (hc : c ≠ '\n') (h : text.charAt? n = some c) :
    (ending.respell text).charAt? (ending.offset text n) = some c := by
  obtain ⟨after, hafter⟩ := Text.charAt?_eq_some_iff.1 h
  have hgoesOn := ending.goesOn_respell hafter
  rw [ending.respell_cons hc] at hgoesOn
  exact Text.charAt?_eq_some_iff.2 ⟨_, hgoesOn⟩

/-- What is in front of the end keeps its line and column; what is not has none. -/
theorem location?_respell (hreturn : '\r' ∉ text) (h : text.IsBoundary n) :
    (ending.respell text).location? (ending.offset text n) = text.location? n := by
  obtain ⟨before, after, rfl, rfl⟩ := h
  rw [ending.offset_append, ending.respell_append]
  by_cases hafter : after = []
  · subst hafter
    rw [respell_nil, Text.location?_of_not (by simp), Text.location?_of_not (by simp)]
  · have hbefore : '\r' ∉ before := fun hmem => hreturn (List.mem_append_left after hmem)
    rw [Text.location?_append hafter,
      Text.location?_append (mt ending.respell_eq_nil_iff.1 hafter), ending.walk_respell _ hbefore]

end Offsets

section Lexemes

theorem isGap_respell {gap : Text} (h : IsGap gap) : IsGap (ending.respell gap) := by
  have hending : IsGap ending.text := by
    cases ending <;> decide
  induction gap using Text.feedInduction with
  | nil => exact h
  | feed gap ih => exact IsGap.append_iff.2 ⟨hending, ih (IsGap.cons_iff.1 h).2⟩
  | other c gap hc ih =>
    obtain ⟨hblank, hgap⟩ := IsGap.cons_iff.1 h
    rw [ending.respell_cons hc]
    exact IsGap.cons_iff.2 ⟨hblank, ih hgap⟩

theorem startsWithBlank_respell {rest : Text} (h : StartsWithBlank rest) :
    StartsWithBlank (ending.respell rest) := by
  induction rest using Text.feedInduction with
  | nil => exact h
  | feed rest =>
    have hfeed : IsGap ['\n'] := by decide
    rw [← List.singleton_append, respell_append]
    apply (ending.isGap_respell hfeed).startsWithBlank_append
    exact mt ending.respell_eq_nil_iff.1 (List.cons_ne_nil _ _)
  | other c rest hc =>
    rw [ending.respell_cons hc]
    exact h

theorem respell_quoted (content : Text) :
    ending.respell (Lexeme.quoted content).written =
      (Lexeme.quoted (ending.respell content)).written := by
  simp [Lexeme.written, ending.respell_cons (c := '"') (by decide)]

theorem respell_of_isBare {text : Text} (h : IsBare text) : ending.respell text = text := by
  apply ending.respell_of_notMem
  intro hfeed
  have hblank := h.not_blank '\n' hfeed
  revert hblank
  decide

end Lexemes

end LineEnding

end Lexing
