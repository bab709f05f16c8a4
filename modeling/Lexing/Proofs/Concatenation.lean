import Lexing.Proofs.Scanner.Results

/-!
# Scanning two texts as one

Blanks between two texts keep them apart: scanning the whole gives the results of the
first text and then those of the second one, with the errors at the places where the
second text now stands. Only a string that is not closed in the first text can reach
beyond the blanks.

The scanner of the whole source runs along with the scanner of one part: it has the same
text in front, but for a tail behind it, and stands a fixed number of bytes further on.

## Main definitions

* `Results.moved`: the same results, in a source where their text stands further on.
* `Scanner.Embeds`: a scanner runs along with another one.

## Main results

* `Scanner.Embeds.results_eq`: the results of a part are among those of the whole.
* `Source.results_joined`: what scanning two texts as one gives.
-/

namespace Lexing

/-- The same span where the text stands `distance` bytes further on, in another source. -/
def Span.moved (source : Source) (distance : Nat) (span : Span) : Span :=
  ⟨source, distance + span.start, distance + span.stop⟩

/-- The same error at the place where the text stands then. -/
def LexicalError.moved (source : Source) (distance : Nat) : LexicalError → LexicalError
  | .unterminatedString span => .unterminatedString (span.moved source distance)
  | .unknownCharacter span c => .unknownCharacter (span.moved source distance) c
  | .cursorLost cursor => .cursorLost (distance + cursor)

/-- The same results, the errors at the places where the text stands then. -/
def Results.moved {α : Type} (source : Source) (distance : Nat) (results : Results α) :
    Results α :=
  results.map (Except.mapError (·.moved source distance))

/-- The receiver gets the errors at the places where the text stands then. -/
def Receiver.moved {σ : Type} (source : Source) (distance : Nat)
    (receiver : Receiver σ LexicalError) : Receiver σ LexicalError :=
  ⟨fun kept error => receiver.receive kept (error.moved source distance)⟩

theorem StartsWithBlank.append {text tail : Text} (htext : StartsWithBlank text)
    (htail : StartsWithBlank tail) : StartsWithBlank (text ++ tail) := by
  cases text with
  | nil => exact htail
  | cons c text => exact htext

namespace Results

variable {α : Type} {source : Source} {distance : Nat}

theorem moved_cons (result : Except LexicalError α) (more : Results α) :
    moved source distance (result :: more) =
      result.mapError (·.moved source distance) :: moved source distance more := rfl

theorem firstError?_append (results more : Results α) :
    firstError? (results ++ more) = results.firstError?.or more.firstError? := by
  induction results with
  | nil => rfl
  | cons result results ih =>
    cases result with
    | ok token => exact ih
    | error error => rfl

theorem tokens_append (results more : Results α) :
    tokens (results ++ more) = results.tokens ++ more.tokens := by
  induction results with
  | nil => rfl
  | cons result results ih =>
    cases result with
    | ok token => exact congrArg (token :: ·) ih
    | error error => exact ih

theorem firstError?_moved (results : Results α) :
    (results.moved source distance).firstError? =
      results.firstError?.map (·.moved source distance) :=
  firstError?_map (Except.mapError _) (fun _ => rfl) (fun _ => rfl) results

theorem tokens_moved (results : Results α) :
    (results.moved source distance).tokens = results.tokens := by
  rw [moved, tokens_map (Except.mapError _) (f := id) (fun _ => rfl) (fun _ => rfl), List.map_id]

theorem notMem_of_firstError? {results : Results α} (h : results.firstError? = none)
    (error : LexicalError) : .error error ∉ results := by
  induction results with
  | nil => simp
  | cons result results ih =>
    cases result with
    | ok token => simpa using ih h
    | error error => cases h

end Results

namespace Scanner

variable {scanner part : Scanner}

theorem passing_passing (passed more rest rest' : Text) :
    (scanner.passing passed rest).passing more rest' =
      scanner.passing (passed ++ more) rest' := by
  simp [passing, Nat.add_assoc]

/-- Blanks in front of a scanner make no difference to what it finds next. -/
theorem scan_passing_gap {gap rest : Text} (hrest : scanner.rest = gap ++ rest)
    (hgap : IsGap gap) : (scanner.passing gap rest).scan = scanner.scan := by
  cases hcut : Lexeme.cut? rest with
  | none =>
    have hblank := Lexeme.cut?_eq_none_iff.1 hcut
    have hall : IsGap scanner.rest := hrest ▸ IsGap.append_iff.2 ⟨hgap, hblank⟩
    have hbehind : (scanner.passing gap rest).scan = _ := scan_of_isGap hblank
    rw [hbehind, scan_of_isGap hall, hrest, passing_rest, passing_passing]
  | some cut =>
    obtain ⟨hsplit, hblank, hlexeme⟩ := Lexeme.cut?_eq_some_iff.1 hcut
    have hwhole : Lexeme.cut? scanner.rest = some ⟨gap ++ cut.gap, cut.lexeme, cut.rest⟩ :=
      Lexeme.cut?_eq_some_iff.2
        ⟨by rw [hrest, hsplit, List.append_assoc], IsGap.append_iff.2 ⟨hgap, hblank⟩, hlexeme⟩
    simp [scan, hcut, hwhole, passing, Nat.add_assoc]

/-- The scanner has the text of another one in front, with a tail behind it, and stands
`distance` bytes further on. -/
structure Embeds (distance : Nat) (tail : Text) (part scanner : Scanner) : Prop where
  vocabulary_eq : scanner.vocabulary = part.vocabulary
  cursor_eq : scanner.cursor = distance + part.cursor
  rest_eq : scanner.rest = part.rest ++ tail

namespace Embeds

variable {distance : Nat} {tail : Text} {result : Except LexicalError (Option Token)}
  {behind : Scanner}

theorem passing (h : Embeds distance tail part scanner) (passed rest : Text) :
    Embeds distance tail (part.passing passed rest) (scanner.passing passed (rest ++ tail)) := by
  refine ⟨h.vocabulary_eq, ?_, rfl⟩
  rw [passing_cursor, passing_cursor, h.cursor_eq, Nat.add_assoc]

theorem spanBehind_eq (h : Embeds distance tail part scanner) (gap text : Text) :
    scanner.spanBehind gap text = (part.spanBehind gap text).moved scanner.source distance := by
  simp [spanBehind, Span.moved, h.cursor_eq, Nat.add_assoc]

theorem rest_eq_append (h : Embeds distance tail part scanner) {passed rest : Text}
    (hrest : part.rest = passed ++ rest) : scanner.rest = passed ++ (rest ++ tail) := by
  rw [h.rest_eq, hrest, List.append_assoc]

/-- What the part finds, the scanner of the whole finds too, unless it is a string that is
not closed. -/
theorem scans (h : Embeds distance tail part scanner) (hscans : Scans part result behind)
    (hne : result ≠ .ok none) (htail : StartsWithBlank tail)
    (hclosed : tail = [] ∨ ∀ span, result ≠ .error (.unterminatedString span)) :
    ∃ passed rest, part.rest = passed ++ rest ∧ behind = part.passing passed rest ∧
      Scans scanner (result.mapError (·.moved scanner.source distance))
        (scanner.passing passed (rest ++ tail)) := by
  cases hscans with
  | finished => exact absurd rfl hne
  | @quoted gap content rest hrest hgap hlexeme =>
    refine ⟨_, _, by rw [hrest, List.append_assoc], rfl, .quoted ?_ hgap hlexeme⟩
    rw [h.rest_eq_append hrest, List.append_assoc]
  | @bare gap text rest token hrest hgap hlexeme htoken =>
    refine ⟨_, _, by rw [hrest, List.append_assoc], rfl, ?_⟩
    refine .bare ?_ hgap ⟨hlexeme.1, hlexeme.2.append htail⟩ (h.vocabulary_eq ▸ htoken)
    rw [h.rest_eq_append hrest, List.append_assoc]
  | @unclosed gap content hrest hgap hcontent =>
    rcases hclosed with rfl | hclosed
    · refine ⟨part.rest, [], by simp, rfl, ?_⟩
      have hwhole : scanner.rest = part.rest := by rw [h.rest_eq, List.append_nil]
      have hunclosed := Scans.unclosed (hwhole.trans hrest) hgap hcontent
      rwa [h.spanBehind_eq, hwhole] at hunclosed
    · exact absurd rfl (hclosed _)
  | @unknown gap rest c hrest hgap hlexeme hunknown =>
    refine ⟨gap ++ [c], rest, by simp [hrest], rfl, ?_⟩
    have hfound : Scans scanner _ _ := .unknown (h.rest_eq_append hrest) hgap
      ⟨hlexeme.1, hlexeme.2.append htail⟩ hunknown
    rwa [h.spanBehind_eq] at hfound

/-- The results of the part come first among those of the whole. Behind them there are the
results of the tail. -/
theorem results_eq (h : Embeds distance tail part scanner) (hpart : part.IsPlaced)
    (hplaced : scanner.IsPlaced) (htail : StartsWithBlank tail)
    (hclosed : tail = [] ∨ ∀ span, .error (.unterminatedString span) ∉ part.results) :
    scanner.results =
      part.results.moved scanner.source distance ++ (scanner.passing part.rest tail).results := by
  induction part using results.induct generalizing scanner with
  | case1 part hitem =>
    have hgap := item?_eq_none_iff.1 hitem
    rw [results_of_isGap hgap, ← results_congr (scan_passing_gap h.rest_eq hgap)]
    rfl
  | case2 part result hitem _ ih =>
    have hscans := scans_scan hpart
    rw [item?_eq_some_iff.1 hitem] at hscans
    rw [results_of_item? hitem] at hclosed ⊢
    have hsome : result.map some ≠ .ok none := by cases result <;> simp [Except.map]
    have hresult : tail = [] ∨ ∀ span, result.map some ≠ .error (.unterminatedString span) := by
      refine hclosed.imp_right fun hclosed span heq => hclosed span ?_
      cases result with
      | ok token => cases heq
      | error error => cases heq; exact List.mem_cons_self
    obtain ⟨passed, rest, hrest, hbehind, hfound⟩ := h.scans hscans hsome htail hresult
    have hscan := hfound.scan_eq hplaced
    have hfinds : scanner.item? = some (result.mapError (·.moved scanner.source distance)) := by
      rw [item?_eq_some_iff, hscan]
      cases result <;> rfl
    rw [results_of_item? hfinds, hscan, Results.moved_cons, List.cons_append]
    -- The two scanners run on together behind what has been passed.
    have hlater := ih (hbehind ▸ h.passing passed rest) (hscans.isPlaced hpart)
      (hfound.isPlaced hplaced)
      (hclosed.imp_right fun hclosed span hmem => hclosed span (List.mem_cons_of_mem _ hmem))
    rw [hlater, passing_passing, hbehind, passing_rest, ← hrest]
    rfl

/-- Without a tail there is nothing more to find. -/
theorem results_eq_moved (h : Embeds distance [] part scanner) (hpart : part.IsPlaced)
    (hplaced : scanner.IsPlaced) :
    scanner.results = part.results.moved scanner.source distance := by
  have hend : (scanner.passing part.rest []).results = [] := results_of_isGap IsGap.nil
  rw [h.results_eq hpart hplaced IsGap.nil.startsWithBlank (.inl rfl), hend, List.append_nil]

end Embeds

end Scanner

namespace Source

variable {left right whole : Source} {gap : Text}

/-- The results of two texts with blanks between them are those of the one and then those
of the other. -/
theorem results_append (hgap : IsGap gap) (hne : gap ≠ [])
    (hwhole : whole.content = left.content ++ (gap ++ right.content)) (vocabulary : Vocabulary)
    (hclosed : ∀ span, .error (.unterminatedString span) ∉ left.results vocabulary) :
    whole.results vocabulary = (left.results vocabulary).moved whole 0 ++
      (right.results vocabulary).moved whole (Text.byteLength (left.content ++ gap)) := by
  have hfront : Scanner.Embeds 0 (gap ++ right.content) (left.scanner vocabulary)
      (whole.scanner vocabulary) := ⟨rfl, rfl, hwhole⟩
  have hback : Scanner.Embeds (Text.byteLength (left.content ++ gap)) []
      (right.scanner vocabulary)
      ((whole.scanner vocabulary).passing (left.content ++ gap) right.content) :=
    ⟨rfl, Nat.add_comm _ _, (List.append_nil _).symm⟩
  have hmiddle := (whole.isPlaced_scanner vocabulary).passing
    (hwhole.trans (List.append_assoc _ _ _).symm)
  calc whole.results vocabulary
      = (left.results vocabulary).moved whole 0 ++
          ((whole.scanner vocabulary).passing left.content (gap ++ right.content)).results :=
        hfront.results_eq (left.isPlaced_scanner vocabulary) (whole.isPlaced_scanner vocabulary)
          (hgap.startsWithBlank_append hne right.content) (.inr hclosed)
    _ = (left.results vocabulary).moved whole 0 ++
          ((whole.scanner vocabulary).passing (left.content ++ gap) right.content).results := by
        rw [← Scanner.passing_passing left.content gap (gap ++ right.content),
          ← Scanner.results_congr (Scanner.scan_passing_gap rfl hgap)]
    _ = _ := by
        rw [hback.results_eq_moved (right.isPlaced_scanner vocabulary) hmiddle]
        rfl

/-- Scanning two texts with blanks between them gives the results of the first text and
those of the second one, moved to where it stands, if no string of the first text is left
open. Where the first text has a token stream, the whole has one exactly if the second
text has one, and it has the tokens of both; else the error of the second text is reported
at the place where it stands. -/
theorem results_joined (hgap : IsGap gap) (hne : gap ≠ [])
    (hwhole : whole.content = left.content ++ (gap ++ right.content))
    (vocabulary : Vocabulary) :
    let distance := Text.byteLength (left.content ++ gap)
    ((∀ span, .error (.unterminatedString span) ∉ left.results vocabulary) →
      whole.results vocabulary = (left.results vocabulary).moved whole 0 ++
        (right.results vocabulary).moved whole distance) ∧
    ∀ stream : TokenStream,
      (TokenStream.ofSource left vocabulary Receiver.ignoring ()).1 = some stream →
      ∀ (σ : Type) (receiver : Receiver σ LexicalError) (kept : σ),
        let ofRight := TokenStream.ofSource right vocabulary (receiver.moved whole distance) kept
        TokenStream.ofSource whole vocabulary receiver kept =
          (ofRight.1.map fun more => ⟨stream.tokens ++ more.tokens⟩, ofRight.2) := by
  intro distance
  refine ⟨results_append hgap hne hwhole vocabulary, fun stream hstream σ receiver kept => ?_⟩
  rw [TokenStream.ofSource_eq] at hstream
  cases hleft : (left.results vocabulary).firstError? with
  | some error => rw [hleft] at hstream; cases hstream
  | none =>
    rw [hleft] at hstream
    cases hstream
    have happend := results_append hgap hne hwhole vocabulary
      fun span => Results.notMem_of_firstError? hleft _
    simp only [TokenStream.ofSource_eq, happend, Results.firstError?_append,
      Results.firstError?_moved, Results.tokens_append, Results.tokens_moved, hleft]
    cases (right.results vocabulary).firstError? <;> rfl

/-- The error of the second text is found behind the wide blank, where its quotation mark
now stands. -/
theorem results_joined_unclosed :
    let left : Source := ⟨0, [], ['#']⟩
    let right : Source := ⟨1, [], ['"', 'é']⟩
    let whole : Source := ⟨2, [], ['#', '\u3000', '"', 'é']⟩
    IsGap ['\u3000'] ∧ whole.content = left.content ++ (['\u3000'] ++ right.content) ∧
      (∀ span, .error (.unterminatedString span) ∉ left.results .standard) ∧
      whole.results .standard = [.error (.unknownCharacter ⟨whole, 0, 1⟩ '#'),
        .error (.unterminatedString ⟨whole, 4, 7⟩)] := by
  intro left right whole
  have hgap : IsGap ['\u3000'] := by decide
  have hwhole : whole.content = left.content ++ (['\u3000'] ++ right.content) := rfl
  have hleft : left.results .standard = [.error (.unknownCharacter ⟨left, 0, 1⟩ '#')] := by
    have hitem : (left.scanner .standard).item? =
        some (.error (.unknownCharacter ⟨left, 0, 1⟩ '#')) := rfl
    rw [results, Scanner.results_of_item? hitem, Scanner.results_of_isGap (by decide)]
  have hright : right.results .standard = [.error (.unterminatedString ⟨right, 0, 3⟩)] := by
    have hitem : (right.scanner .standard).item? =
        some (.error (.unterminatedString ⟨right, 0, 3⟩)) := rfl
    rw [results, Scanner.results_of_item? hitem, Scanner.results_of_isGap (by decide)]
  have hclosed : ∀ span, .error (.unterminatedString span) ∉ left.results .standard := by
    simp [hleft]
  have hjoined := (results_joined hgap (by decide) hwhole .standard).1 hclosed
  exact ⟨hgap, hwhole, hclosed, by rw [hjoined, hleft, hright]; rfl⟩

end Source

end Lexing
