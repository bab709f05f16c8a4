import Lexing.Proofs.Classification
import Lexing.Proofs.Scanner.Halting

/-!
# Scanning without a look at the tokens

Where the lexemes of a text are, and which of them are errors, has nothing to do with the
vocabulary. A scanner with another vocabulary stops at the same places and comes to the
same errors; the tokens alone may be others, and these only where a bare lexeme of two or
more characters is reserved in one of the vocabularies and not in the other one.

## Main definitions

* `Results.outline`: results without the tokens.
* `Scanner.FacesBare`: the next lexeme is a bare one.
* `Scanner.ScansAlike`: what scans with two vocabularies have in common.
* `Scanner.watch`: what is seen of some calls, the tokens left out.

## Main results

* `Scanner.scansAlike`: all pairs of vocabularies have this in common.
* `Scanner.watch_withVocabulary`: no vocabulary changes what is seen of some calls.
* `Scanner.results_map_eq`: what single scans have in common, all results have in common.
-/

namespace Lexing

namespace Vocabulary

variable {v w : Vocabulary} {text : Text}

/-- The token that a lexeme of two or more characters stands for if it is not reserved. -/
def unreservedToken (text : Text) : Token :=
  match Literal.parse? text with
  | some literal => .number literal.value
  | none => .string text

theorem classifyWord_of_isReserved (h : v.isReserved text = true) :
    v.classifyWord text = .name text := by
  rw [classifyWord, if_pos h]

theorem classifyWord_of_not_isReserved (h : v.isReserved text = false) :
    v.classifyWord text = unreservedToken text := by
  rw [classifyWord, if_neg (by simp [h])]
  rfl

/-- All that matters of a vocabulary is whether a lexeme of two or more characters is
reserved. -/
theorem classify_congr (h : 2 ≤ text.length → v.isReserved text = w.isReserved text) :
    v.classify text = w.classify text := by
  by_cases htwo : 2 ≤ text.length
  · rw [classify_of_two_le htwo, classify_of_two_le htwo, classifyWord, classifyWord, h htwo]
  · cases text with
    | nil => rfl
    | cons c rest =>
      cases rest with
      | nil => rfl
      | cons d rest => simp at htwo

end Vocabulary

/-- The result without the token. -/
def outlineOf (result : Except LexicalError Token) : Except LexicalError Unit :=
  result.map fun _ => ()

namespace Results

/-- The results without the tokens. -/
def outline (results : Results Token) : Results Unit :=
  results.map outlineOf

theorem firstError?_outline (results : Results Token) :
    results.outline.firstError? = results.firstError? := by
  rw [outline, firstError?_map outlineOf (fun _ => rfl) (fun _ => rfl)]
  exact Option.map_id'

theorem length_tokens_outline (results : Results Token) :
    results.outline.tokens.length = results.tokens.length := by
  rw [outline, tokens_map outlineOf (fun _ => rfl) (fun _ => rfl), List.length_map]

end Results

namespace Scanner

variable {scanner : Scanner} {v w : Vocabulary} {text : Text}

/-- The text is the next lexeme, and there is no quotation mark in front of it. -/
def FacesBare (scanner : Scanner) (text : Text) : Prop :=
  ∃ gap rest, scanner.rest = gap ++ (text ++ rest) ∧ IsGap gap ∧ IsBare text ∧
    StartsWithBlank rest

/-- What the scans of one scanner with two vocabularies have in common. -/
structure ScansAlike (scanner : Scanner) (v w : Vocabulary) : Prop where
  /-- The scanner behind is the same. -/
  scan_snd_eq : (scanner.withVocabulary w).scan.2 =
    (scanner.withVocabulary v).scan.2.withVocabulary w
  /-- The scans come to the end, to the same error, or to a token each. -/
  outline_eq : (scanner.withVocabulary v).item?.map outlineOf =
    (scanner.withVocabulary w).item?.map outlineOf
  /-- The tokens are the same unless a lexeme of two or more characters is reserved in one
  of the vocabularies only. -/
  item?_eq : (∀ text, scanner.FacesBare text → 2 ≤ text.length →
      v.isReserved text = w.isReserved text) →
    (scanner.withVocabulary v).item? = (scanner.withVocabulary w).item?
  /-- Such a lexeme is a name where it is reserved, and a number or a string where it is
  not. -/
  item?_of_isReserved : ∀ text, scanner.FacesBare text → 2 ≤ text.length →
    v.isReserved text = true → w.isReserved text = false →
      (scanner.withVocabulary v).item? = some (.ok (.name text)) ∧
        (scanner.withVocabulary w).item? = some (.ok (Vocabulary.unreservedToken text))

/-- The next lexeme decides what is found. -/
theorem item?_eq_map_cut? (scanner : Scanner) :
    scanner.item? = (Lexeme.cut? scanner.rest).map fun cut =>
      tokenOf scanner.source scanner.vocabulary (scanner.cursor + cut.gap.byteLength)
        (scanner.cursor + cut.gap.byteLength + cut.lexeme.written.byteLength) cut.lexeme := by
  cases hcut : Lexeme.cut? scanner.rest with
  | none => exact item?_eq_none_iff.2 (Lexeme.cut?_eq_none_iff.1 hcut)
  | some cut => rw [Option.map_some, item?_eq_some_iff, scan, hcut]

theorem facesBare_iff : scanner.FacesBare text ↔
    ∃ gap rest, Lexeme.cut? scanner.rest = some ⟨gap, .bare text, rest⟩ := by
  constructor
  · rintro ⟨gap, rest, hrest, hgap, hbare, hblank⟩
    exact ⟨gap, rest, Lexeme.cut?_eq_some_iff.2 ⟨hrest, hgap, hbare, hblank⟩⟩
  · rintro ⟨gap, rest, hcut⟩
    obtain ⟨hrest, hgap, hbare, hblank⟩ := Lexeme.cut?_eq_some_iff.1 hcut
    exact ⟨gap, rest, hrest, hgap, hbare, hblank⟩

theorem tokenOf_congr {source : Source} {start stop : Nat} {lexeme : Lexeme}
    (h : ∀ text, lexeme = .bare text → v.classify text = w.classify text) :
    tokenOf source v start stop lexeme = tokenOf source w start stop lexeme := by
  cases lexeme with
  | bare text => simp only [tokenOf, h text rfl]
  | quoted content => rfl
  | unclosed content => rfl

/-- Whether there is an error, and which one, is not a matter of the vocabulary. -/
theorem outlineOf_tokenOf (source : Source) (v w : Vocabulary) (start stop : Nat)
    (lexeme : Lexeme) :
    outlineOf (tokenOf source v start stop lexeme) =
      outlineOf (tokenOf source w start stop lexeme) := by
  by_cases hword : ∃ text, lexeme = .bare text ∧ 2 ≤ text.length
  · obtain ⟨text, rfl, htwo⟩ := hword
    simp only [tokenOf, Vocabulary.classify_of_two_le htwo]
    rfl
  · rw [tokenOf_congr]
    intro text htext
    apply Vocabulary.classify_congr
    intro htwo
    exact absurd ⟨text, htext, htwo⟩ hword

theorem scan_snd_withVocabulary (scanner : Scanner) (w : Vocabulary) :
    (scanner.withVocabulary w).scan.2 = scanner.scan.2.withVocabulary w := by
  show (scan { scanner with vocabulary := w }).2 = _
  simp only [scan]
  cases Lexeme.cut? scanner.rest <;> rfl

theorem outline_item?_withVocabulary (scanner : Scanner) (w : Vocabulary) :
    (scanner.withVocabulary w).item?.map outlineOf = scanner.item?.map outlineOf := by
  rw [item?_eq_map_cut?, item?_eq_map_cut?, Option.map_map, Option.map_map]
  show Option.map _ (Lexeme.cut? scanner.rest) = _
  congr 1
  funext cut
  exact outlineOf_tokenOf scanner.source w scanner.vocabulary _ _ cut.lexeme

/-- The scans have this in common, whatever the vocabularies are. -/
theorem scansAlike (scanner : Scanner) (v w : Vocabulary) : scanner.ScansAlike v w := by
  refine ⟨?_, ?_, fun h => ?_, fun text hfaces htwo hv hw => ?_⟩
  · rw [scan_snd_withVocabulary, scan_snd_withVocabulary]
    rfl
  · rw [outline_item?_withVocabulary, outline_item?_withVocabulary]
  · rw [item?_eq_map_cut?, item?_eq_map_cut?]
    show Option.map _ (Lexeme.cut? scanner.rest) = Option.map _ (Lexeme.cut? scanner.rest)
    cases hcut : Lexeme.cut? scanner.rest with
    | none => rfl
    | some cut =>
      apply congrArg some
      apply tokenOf_congr
      intro text htext
      apply Vocabulary.classify_congr
      apply h text
      exact facesBare_iff.2 ⟨cut.gap, cut.rest, by rw [hcut, ← htext]⟩
  · obtain ⟨gap, rest, hcut⟩ := facesBare_iff.1 hfaces
    have hfinds : ∀ u : Vocabulary,
        (scanner.withVocabulary u).item? = some (.ok (u.classifyWord text)) := by
      intro u
      rw [item?_eq_map_cut?, show (scanner.withVocabulary u).rest = scanner.rest from rfl, hcut]
      simp only [Option.map_some, tokenOf, Vocabulary.classify_of_two_le htwo]
      rfl
    rw [hfinds, hfinds, Vocabulary.classifyWord_of_isReserved hv,
      Vocabulary.classifyWord_of_not_isReserved hw]
    exact ⟨rfl, rfl⟩

/-- A number literal that is reserved is a name. -/
example : ((ofSource ⟨0, [], ['4', '2']⟩).withVocabulary ⟨[['4', '2']]⟩).item? =
    some (.ok (.name ['4', '2'])) := rfl

section Watch

/-- What is seen of the calls: what each one finds, the tokens left out, and where the
cursor is then. -/
def watch (scanner : Scanner) : List Call → List (Option (Except LexicalError Unit) × Nat)
  | [] => []
  | .scan :: calls =>
    (scanner.item?.map outlineOf, scanner.scan.2.cursor) :: scanner.scan.2.watch calls
  | .next :: calls =>
    (scanner.next.1.map outlineOf, scanner.next.2.cursor) :: scanner.next.2.watch calls
  | .withVocabulary vocabulary :: calls => (scanner.withVocabulary vocabulary).watch calls

/-- The calls that read. -/
def readings (calls : List Call) : List Call :=
  calls.filter fun
    | .withVocabulary _ => false
    | _ => true

theorem exists_item?_ok_iff :
    (∃ token, scanner.item? = some (.ok token)) ↔
      scanner.item?.map outlineOf = some (.ok ()) := by
  cases scanner.item? with
  | none => simp
  | some result => cases result <;> simp [outlineOf, Except.map]

theorem next_withVocabulary (scanner : Scanner) (w : Vocabulary) :
    (scanner.withVocabulary w).next.1.map outlineOf = scanner.next.1.map outlineOf ∧
      (scanner.withVocabulary w).next.2 = scanner.next.2.withVocabulary w := by
  have houtline := outline_item?_withVocabulary scanner w
  have hbehind := scan_snd_withVocabulary scanner w
  have hsame : (scanner.withVocabulary w).halted = scanner.halted := rfl
  cases hhalted : scanner.halted with
  | true =>
    rw [next_of_halted hhalted, next_of_halted (hsame.trans hhalted)]
    exact ⟨rfl, rfl⟩
  | false =>
    by_cases htoken : ∃ token, scanner.item? = some (.ok token)
    · have hother : ∃ token, (scanner.withVocabulary w).item? = some (.ok token) := by
        rwa [exists_item?_ok_iff, houtline, ← exists_item?_ok_iff]
      obtain ⟨token, htoken⟩ := htoken
      obtain ⟨other, hother⟩ := hother
      rw [next_of_item?_ok hhalted htoken, next_of_item?_ok (hsame.trans hhalted) hother]
      exact ⟨rfl, hbehind⟩
    · have hother : ¬∃ token, (scanner.withVocabulary w).item? = some (.ok token) := by
        rwa [exists_item?_ok_iff, houtline, ← exists_item?_ok_iff]
      rw [next_of_item?_ne_ok hhalted (not_exists.1 htoken),
        next_of_item?_ne_ok (hsame.trans hhalted) (not_exists.1 hother), hbehind]
      exact ⟨houtline, rfl⟩

/-- Other vocabularies, also in between, change nothing in what is seen. -/
theorem watch_withVocabulary (scanner : Scanner) (w : Vocabulary) (calls : List Call) :
    (scanner.withVocabulary w).watch calls = scanner.watch (readings calls) := by
  induction calls generalizing scanner w with
  | nil => rfl
  | cons call calls ih =>
    cases call with
    | scan =>
      show (_, _) :: _ = (_, _) :: _
      rw [outline_item?_withVocabulary, scan_snd_withVocabulary, ih]
      rfl
    | next =>
      obtain ⟨houtline, hbehind⟩ := next_withVocabulary scanner w
      show (_, _) :: _ = (_, _) :: _
      rw [houtline, hbehind, ih]
      rfl
    | withVocabulary vocabulary => exact ih scanner vocabulary

theorem watch_eq_of_readings_eq {calls others : List Call} (h : readings calls = readings others) :
    scanner.watch calls = scanner.watch others := by
  have hwatch := watch_withVocabulary scanner scanner.vocabulary
  calc scanner.watch calls
      = scanner.watch (readings calls) := hwatch calls
    _ = scanner.watch (readings others) := by rw [h]
    _ = scanner.watch others := (hwatch others).symm

end Watch

/-- What two vocabularies have in common in each scan, they have in common in all
results. -/
theorem results_map_eq {α : Type} {f : Except LexicalError Token → α}
    (h : ∀ scanner : Scanner, (scanner.withVocabulary v).item?.map f =
      (scanner.withVocabulary w).item?.map f) (scanner : Scanner) :
    (scanner.withVocabulary v).results.map f = (scanner.withVocabulary w).results.map f := by
  let Along (one other : Scanner) : Prop :=
    ∃ scanner : Scanner, one = scanner.withVocabulary v ∧ other = scanner.withVocabulary w
  have hstep {one other : Scanner} (halong : Along one other) :
      one.item?.map f = other.item?.map f ∧ Along one.scan.2 other.scan.2 := by
    obtain ⟨scanner, rfl, rfl⟩ := halong
    exact ⟨h scanner, scanner.scan.2, scan_snd_withVocabulary scanner v,
      scan_snd_withVocabulary scanner w⟩
  exact results_map_eq_of_step hstep ⟨scanner, rfl, rfl⟩

end Scanner

end Lexing
