import Lexing.Proofs.Scanner.Cut
import Lexing.Proofs.Text.Place
import Lexing.Scanner.Basic

/-!
# What one scan does

A scanner is *placed* if the text in front of it is the part of its source behind its
cursor. `Scanner.Scans` lists everything that reading one token from a placed scanner
can lead to, with the text that was read, the result and the scanner behind it. Facts
about scanning are case distinctions on it, and facts about whole runs are inductions
whose step is such a case distinction.

## Main definitions

* `Scanner.IsPlaced`: cursor and text in front belong together.
* `Scanner.passing`: the scanner behind a part of its text.
* `Scanner.Scans`: the five outcomes of a scan.

## Main results

* `Scanner.scans_scan`: every scan has one of them.
* `Scanner.Scans.isPlaced`: a scan leaves the scanner placed.
-/

namespace Lexing

namespace Vocabulary

/-- Only a single character that is no symbol, letter or digit stands for nothing. -/
theorem classify_eq_none_iff {vocabulary : Vocabulary} {text : Text} (hne : text ≠ []) :
    vocabulary.classify text = none ↔ ∃ c, text = [c] ∧ classifyCharacter c = none := by
  match text with
  | [] => exact absurd rfl hne
  | [c] => simp [classify]
  | c :: d :: rest => simp [classify]

end Vocabulary

/-- The front of the text behind an offset has a span. -/
theorem Span.new?_of_goesOn {source : Source} {start : Nat} {inside rest : Text}
    (h : source.content.GoesOn start (inside ++ rest)) :
    Span.new? source start (start + inside.byteLength) =
      some ⟨source, start, start + inside.byteLength⟩ :=
  Span.new?_eq_some_iff.2 ⟨rfl, Nat.le_add_right _ _, h.isBoundary, h.append.isBoundary⟩

namespace Scanner

/-- The text in front of the scanner is what its source holds from the cursor on. -/
def IsPlaced (scanner : Scanner) : Prop :=
  scanner.source.content.GoesOn scanner.cursor scanner.rest

/-- The scanner behind `passed`, with `rest` in front of it. -/
def passing (scanner : Scanner) (passed rest : Text) : Scanner :=
  { scanner with cursor := scanner.cursor + passed.byteLength, rest }

/-- The span of `text` behind `gap` in front of the scanner. -/
def spanBehind (scanner : Scanner) (gap text : Text) : Span :=
  ⟨scanner.source, scanner.cursor + gap.byteLength,
    scanner.cursor + gap.byteLength + text.byteLength⟩

/-- What reading a token can lead to, by what is in front of the scanner. -/
inductive Scans (scanner : Scanner) : Except LexicalError (Option Token) → Scanner → Prop
  /-- There are only blanks. -/
  | finished (hblank : IsGap scanner.rest) :
      Scans scanner (.ok none) (scanner.passing scanner.rest [])
  /-- There is a text between two quotation marks. -/
  | quoted {gap content rest : Text}
      (hrest : scanner.rest = gap ++ ((Lexeme.quoted content).written ++ rest))
      (hgap : IsGap gap) (hlexeme : (Lexeme.quoted content).Precedes rest) :
      Scans scanner (.ok (some (.string content)))
        (scanner.passing (gap ++ (Lexeme.quoted content).written) rest)
  /-- There is a bare lexeme that stands for a token. -/
  | bare {gap text rest : Text} {token : Token} (hrest : scanner.rest = gap ++ (text ++ rest))
      (hgap : IsGap gap) (hlexeme : (Lexeme.bare text).Precedes rest)
      (htoken : scanner.vocabulary.classify text = some token) :
      Scans scanner (.ok (some token)) (scanner.passing (gap ++ text) rest)
  /-- There is a quotation mark with no other one behind it. -/
  | unclosed {gap content : Text} (hrest : scanner.rest = gap ++ '"' :: content)
      (hgap : IsGap gap) (hcontent : '"' ∉ content) :
      Scans scanner
        (.error (.unterminatedString (scanner.spanBehind gap ('"' :: content))))
        (scanner.passing scanner.rest [])
  /-- There is a character alone that stands for nothing. -/
  | unknown {gap rest : Text} {c : Char} (hrest : scanner.rest = gap ++ c :: rest)
      (hgap : IsGap gap) (hlexeme : (Lexeme.bare [c]).Precedes rest)
      (hunknown : Vocabulary.classifyCharacter c = none) :
      Scans scanner (.error (.unknownCharacter (scanner.spanBehind gap [c]) c))
        (scanner.passing (gap ++ [c]) rest)

variable {scanner behind : Scanner} {result : Except LexicalError (Option Token)}

@[simp] theorem passing_source (passed rest : Text) :
    (scanner.passing passed rest).source = scanner.source := rfl

@[simp] theorem passing_vocabulary (passed rest : Text) :
    (scanner.passing passed rest).vocabulary = scanner.vocabulary := rfl

@[simp] theorem passing_cursor (passed rest : Text) :
    (scanner.passing passed rest).cursor = scanner.cursor + passed.byteLength := rfl

@[simp] theorem passing_rest (passed rest : Text) :
    (scanner.passing passed rest).rest = rest := rfl

@[simp] theorem passing_halted (passed rest : Text) :
    (scanner.passing passed rest).halted = scanner.halted := rfl

theorem isPlaced_ofSource (source : Source) : (ofSource source).IsPlaced :=
  Text.goesOn_zero source.content

theorem IsPlaced.passing (h : scanner.IsPlaced) {passed rest : Text}
    (hrest : scanner.rest = passed ++ rest) : (scanner.passing passed rest).IsPlaced := by
  unfold IsPlaced at h
  rw [hrest] at h
  exact h.append

/-- An error in what is in front of a placed scanner gets its span. -/
theorem IsPlaced.errorAt_eq (h : scanner.IsPlaced) {gap text rest : Text}
    (hrest : scanner.rest = gap ++ (text ++ rest)) (cause : Span → LexicalError) :
    errorAt scanner.source (scanner.cursor + gap.byteLength)
      (scanner.cursor + gap.byteLength + text.byteLength) cause =
        cause (scanner.spanBehind gap text) := by
  have hspan : Span.new? scanner.source (scanner.cursor + gap.byteLength)
      (scanner.cursor + gap.byteLength + text.byteLength) = some (scanner.spanBehind gap text) :=
    Span.new?_of_goesOn (h.passing hrest)
  rw [errorAt, hspan]

/-- Each of the five outcomes is what a scan of a placed scanner gives. -/
theorem Scans.scan_eq (h : Scans scanner result behind) (hplaced : scanner.IsPlaced) :
    scanner.scan = (result, behind) := by
  cases h with
  | finished hblank =>
    rw [scan, Lexeme.cut?_eq_none_iff.2 hblank]
    rfl
  | @quoted gap content rest hrest hgap hlexeme =>
    have hcut : Lexeme.cut? scanner.rest = some ⟨gap, .quoted content, rest⟩ :=
      Lexeme.cut?_eq_some_iff.2 ⟨hrest, hgap, hlexeme⟩
    rw [scan, hcut]
    simp [tokenOf, passing, Except.map, Nat.add_assoc]
  | @bare gap text rest token hrest hgap hlexeme htoken =>
    have hcut : Lexeme.cut? scanner.rest = some ⟨gap, .bare text, rest⟩ :=
      Lexeme.cut?_eq_some_iff.2 ⟨hrest, hgap, hlexeme⟩
    rw [scan, hcut]
    simp [tokenOf, htoken, passing, Except.map, Lexeme.written, Nat.add_assoc]
  | @unclosed gap content hrest hgap hcontent =>
    have hwhole : scanner.rest = gap ++ ((Lexeme.unclosed content).written ++ []) := by
      rw [hrest, List.append_nil, Lexeme.written]
    have hcut : Lexeme.cut? scanner.rest = some ⟨gap, .unclosed content, []⟩ :=
      Lexeme.cut?_eq_some_iff.2 ⟨hwhole, hgap, hcontent, rfl⟩
    have herror := hplaced.errorAt_eq hwhole .unterminatedString
    rw [scan, hcut]
    simp only [tokenOf, herror]
    simp [passing, Except.map, hrest, Lexeme.written, Nat.add_assoc]
  | @unknown gap rest c hrest hgap hlexeme hunknown =>
    have hwhole : scanner.rest = gap ++ ([c] ++ rest) := hrest
    have hcut : Lexeme.cut? scanner.rest = some ⟨gap, .bare [c], rest⟩ :=
      Lexeme.cut?_eq_some_iff.2 ⟨hwhole, hgap, hlexeme⟩
    have herror := hplaced.errorAt_eq hwhole (.unknownCharacter · c)
    rw [scan, hcut]
    simp only [tokenOf, Vocabulary.classify, hunknown, Lexeme.written, herror]
    simp [passing, Except.map, Nat.add_assoc]

theorem exists_scans (scanner : Scanner) : ∃ result behind, Scans scanner result behind := by
  cases hcut : Lexeme.cut? scanner.rest with
  | none => exact ⟨_, _, .finished (Lexeme.cut?_eq_none_iff.1 hcut)⟩
  | some cut =>
    obtain ⟨gap, lexeme, rest⟩ := cut
    obtain ⟨hrest, hgap, hlexeme⟩ := Lexeme.cut?_eq_some_iff.1 hcut
    cases lexeme with
    | quoted content => exact ⟨_, _, .quoted hrest hgap hlexeme⟩
    | unclosed content =>
      obtain ⟨hcontent, rfl⟩ := hlexeme
      exact ⟨_, _, .unclosed (by simpa [Lexeme.written] using hrest) hgap hcontent⟩
    | bare text =>
      cases hclassify : scanner.vocabulary.classify text with
      | some token => exact ⟨_, _, .bare hrest hgap hlexeme hclassify⟩
      | none =>
        obtain ⟨c, rfl, hunknown⟩ :=
          (Vocabulary.classify_eq_none_iff hlexeme.1.ne_nil).1 hclassify
        exact ⟨_, _, .unknown hrest hgap hlexeme hunknown⟩

/-- Reading from a placed scanner has one of the five outcomes. -/
theorem scans_scan (h : scanner.IsPlaced) : Scans scanner scanner.scan.1 scanner.scan.2 := by
  obtain ⟨result, behind, hscans⟩ := exists_scans scanner
  rw [hscans.scan_eq h]
  exact hscans

namespace Scans

/-- What a scan has read and what it has left make up the text that was in front. -/
theorem exists_passing (h : Scans scanner result behind) :
    ∃ passed rest, scanner.rest = passed ++ rest ∧ behind = scanner.passing passed rest := by
  cases h with
  | finished => exact ⟨scanner.rest, [], by simp, rfl⟩
  | quoted hrest => exact ⟨_, _, by rw [hrest, List.append_assoc], rfl⟩
  | bare hrest => exact ⟨_, _, by rw [hrest, List.append_assoc], rfl⟩
  | unclosed => exact ⟨scanner.rest, [], by simp, rfl⟩
  | unknown hrest => exact ⟨_, _, by simp [hrest], rfl⟩

theorem isPlaced (h : Scans scanner result behind) (hplaced : scanner.IsPlaced) :
    behind.IsPlaced := by
  obtain ⟨passed, rest, hrest, rfl⟩ := h.exists_passing
  exact hplaced.passing hrest

theorem source_eq (h : Scans scanner result behind) : behind.source = scanner.source := by
  obtain ⟨passed, rest, -, rfl⟩ := h.exists_passing
  rfl

theorem cursor_le (h : Scans scanner result behind) : scanner.cursor ≤ behind.cursor := by
  obtain ⟨passed, rest, -, rfl⟩ := h.exists_passing
  exact Nat.le_add_right _ _

/-- A scan that does not find the end reads something. -/
theorem exists_passing_ne_nil (h : Scans scanner result behind) (hne : result ≠ .ok none) :
    ∃ passed rest, passed ≠ [] ∧ scanner.rest = passed ++ rest ∧
      behind = scanner.passing passed rest := by
  cases h with
  | finished => exact absurd rfl hne
  | @quoted gap content rest hrest =>
    exact ⟨_, _, by simp [Lexeme.written], by rw [hrest, List.append_assoc], rfl⟩
  | @bare gap text rest token hrest hgap hlexeme =>
    exact ⟨_, _, by simp [hlexeme.1.ne_nil], by rw [hrest, List.append_assoc], rfl⟩
  | unclosed hrest => exact ⟨scanner.rest, [], by simp [hrest], by simp, rfl⟩
  | @unknown gap rest c hrest => exact ⟨gap ++ [c], rest, by simp, by simp [hrest], rfl⟩

theorem cursor_lt (h : Scans scanner result behind) (hne : result ≠ .ok none) :
    scanner.cursor < behind.cursor := by
  obtain ⟨passed, rest, hpassed, -, rfl⟩ := h.exists_passing_ne_nil hne
  have hpos := Nat.pos_of_ne_zero (mt Text.byteLength_eq_zero_iff.1 hpassed)
  rw [passing_cursor]
  omega

theorem length_lt (h : Scans scanner result behind) (hne : result ≠ .ok none) :
    behind.rest.length < scanner.rest.length := by
  obtain ⟨passed, rest, hpassed, hrest, rfl⟩ := h.exists_passing_ne_nil hne
  have hpos := List.length_pos_iff.2 hpassed
  rw [passing_rest, hrest, List.length_append]
  omega

theorem ne_cursorLost (h : Scans scanner result behind) (offset : Nat) :
    result ≠ .error (.cursorLost offset) := by
  cases h <;> intro heq <;> cases heq

end Scans

theorem scan_of_isGap (h : IsGap scanner.rest) :
    scanner.scan = (.ok none, scanner.passing scanner.rest []) := by
  rw [scan, Lexeme.cut?_eq_none_iff.2 h]
  rfl

theorem scan_fst_eq_ok_none_iff : scanner.scan.1 = .ok none ↔ IsGap scanner.rest := by
  constructor
  · intro h
    rw [← Lexeme.cut?_eq_none_iff]
    unfold scan at h
    split at h
    · assumption
    · -- A lexeme is a token or an error, but never the end.
      rename_i cut _
      simp only [Except.map] at h
      split at h <;> cases h
  · intro h
    rw [scan_of_isGap h]

end Scanner

end Lexing
