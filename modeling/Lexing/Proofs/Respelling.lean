import Lexing.Proofs.Classification
import Lexing.Proofs.Location
import Lexing.Proofs.Scanner.Results
import Lexing.Proofs.Text.LineEnding

/-!
# Scanning with other line endings

Whether the lines of a program end with line feeds or in another way is nothing to its
tokens but to the strings that run over several lines, and nothing to the lines and
columns of its errors.

The scanners of the two spellings run along with each other. They stand at different
offsets: the one at the offset of what is in front of the other after it is spelled with
the other line ending. Each scan of the one finds what the scan of the other finds, and
they stand at such offsets again.

## Main definitions

* `Results.respelled`: the same results, in a source with another line ending.
* `Scanner.Respells`: a scanner runs along with another one.
* `Source.IsRespelled`: what two spellings of a source have in common.

## Main results

* `Scanner.Respells.step`: they find the same and run on along with each other.
* `Source.isRespelled`: the line ending makes no difference.
-/

namespace Lexing

variable {ending : LineEnding}

/-- The same token with another line ending: the line feeds of a string are spelled with
it. -/
def Token.respelled (ending : LineEnding) : Token → Token
  | .string content => .string (ending.respell content)
  | token => token

/-- The same stream with another line ending in its strings. -/
def TokenStream.respelled (ending : LineEnding) (stream : TokenStream) : TokenStream :=
  ⟨stream.tokens.map (·.respelled ending)⟩

/-- The same span in the other spelling of its source. -/
def Span.respelled (ending : LineEnding) (other : Source) (span : Span) : Span :=
  ⟨other, ending.offset span.source.content span.start,
    ending.offset span.source.content span.stop⟩

/-- The same error in the other spelling of its source. -/
def LexicalError.respelled (ending : LineEnding) (other : Source) : LexicalError → LexicalError
  | .unterminatedString span => .unterminatedString (span.respelled ending other)
  | .unknownCharacter span c => .unknownCharacter (span.respelled ending other) c
  | .cursorLost cursor => .cursorLost cursor

/-- The same token or error in the other spelling of its source. -/
def Results.respelledItem (ending : LineEnding) (other : Source) :
    Except LexicalError Token → Except LexicalError Token
  | .ok token => .ok (token.respelled ending)
  | .error error => .error (error.respelled ending other)

/-- The same results in the other spelling of their source. -/
def Results.respelled (ending : LineEnding) (other : Source) (results : Results Token) :
    Results Token :=
  results.map (respelledItem ending other)

theorem Token.respelled_of_classify {vocabulary : Vocabulary} {text : Text} {token : Token}
    (hbare : IsBare text) (h : vocabulary.classify text = some token) :
    token.respelled ending = token := by
  cases Vocabulary.classify_eq_some_iff.1 h with
  | string => exact congrArg Token.string (ending.respell_of_isBare hbare)
  | _ => rfl

namespace Scanner

variable {other : Source} {scanner plain behind : Scanner}

/-- The scanner has the text of another one in front, with another line ending, and stands
where this text is in the other spelling of the source. -/
structure Respells (ending : LineEnding) (other : Source) (plain scanner : Scanner) : Prop where
  source_eq : scanner.source = other
  vocabulary_eq : scanner.vocabulary = plain.vocabulary
  cursor_eq : scanner.cursor = ending.offset plain.source.content plain.cursor
  rest_eq : scanner.rest = ending.respell plain.rest
  isPlaced_plain : plain.IsPlaced
  isPlaced : scanner.IsPlaced

/-- Where the one passes a part of its text to get to `behind`, the other passes the same part
in its spelling and finds `result`. -/
def Follows (ending : LineEnding) (plain behind scanner : Scanner)
    (result : Except LexicalError (Option Token)) : Prop :=
  ∃ passed rest, plain.rest = passed ++ rest ∧ behind = plain.passing passed rest ∧
    Scans scanner result (scanner.passing (ending.respell passed) (ending.respell rest))

namespace Respells

variable (h : Respells ending other plain scanner)

include h

theorem rest_eq_append {passed rest : Text} (hrest : plain.rest = passed ++ rest) :
    scanner.rest = ending.respell passed ++ ending.respell rest := by
  rw [h.rest_eq, hrest, LineEnding.respell_append]

theorem passing {passed rest : Text} (hrest : plain.rest = passed ++ rest) :
    Respells ending other (plain.passing passed rest)
      (scanner.passing (ending.respell passed) (ending.respell rest)) := by
  refine ⟨h.source_eq, h.vocabulary_eq, ?_, rfl, h.isPlaced_plain.passing hrest,
    h.isPlaced.passing (h.rest_eq_append hrest)⟩
  have hplaced := h.isPlaced_plain
  rw [IsPlaced, hrest] at hplaced
  rw [passing_cursor, passing_cursor, passing_source, ending.offset_add hplaced, h.cursor_eq]

theorem spanBehind_eq {gap text rest : Text} (hrest : plain.rest = gap ++ (text ++ rest)) :
    scanner.spanBehind (ending.respell gap) (ending.respell text) =
      (plain.spanBehind gap text).respelled ending other := by
  have hplaced := h.isPlaced_plain
  rw [IsPlaced, hrest] at hplaced
  rw [spanBehind, spanBehind, Span.respelled, h.source_eq, h.cursor_eq,
    ending.offset_add hplaced.append, ending.offset_add hplaced]

theorem follows_of_token {token : Token} (hscans : Scans plain (.ok (some token)) behind) :
    Follows ending plain behind scanner (.ok (some (token.respelled ending))) := by
  cases hscans with
  | @quoted gap content rest hrest hgap hlexeme =>
    refine ⟨_, _, by rw [hrest, List.append_assoc], rfl, ?_⟩
    have hcontent : '"' ∉ ending.respell content := mt (ending.mem_respell_iff rfl).1 hlexeme
    rw [ending.respell_append, ending.respell_quoted]
    refine .quoted ?_ (ending.isGap_respell hgap) hcontent
    rw [h.rest_eq_append hrest, ending.respell_append, ending.respell_quoted]
  | @bare gap text rest token hrest hgap hlexeme htoken =>
    refine ⟨_, _, by rw [hrest, List.append_assoc], rfl, ?_⟩
    have htext := ending.respell_of_isBare hlexeme.1
    rw [Token.respelled_of_classify hlexeme.1 htoken, ending.respell_append, htext]
    refine .bare ?_ (ending.isGap_respell hgap)
      ⟨hlexeme.1, ending.startsWithBlank_respell hlexeme.2⟩ (h.vocabulary_eq ▸ htoken)
    rw [h.rest_eq_append hrest, ending.respell_append, htext]

theorem follows_of_error {error : LexicalError} (hscans : Scans plain (.error error) behind) :
    Follows ending plain behind scanner (.error (error.respelled ending other)) := by
  cases hscans with
  | @unclosed gap content hrest hgap hcontent =>
    refine ⟨plain.rest, [], by simp, rfl, ?_⟩
    have hmark := ending.respell_cons (show '"' ≠ '\n' by decide) content
    have hopen : scanner.rest = ending.respell gap ++ '"' :: ending.respell content := by
      rw [h.rest_eq_append hrest, hmark]
    have hwhole : plain.rest = gap ++ ('"' :: content ++ []) := by rw [hrest, List.append_nil]
    have hspan := h.spanBehind_eq hwhole
    have hfound := Scans.unclosed hopen (ending.isGap_respell hgap)
      (mt (ending.mem_respell_iff rfl).1 hcontent)
    rwa [← hmark, hspan, h.rest_eq] at hfound
  | @unknown gap rest c hrest hgap hlexeme hunknown =>
    refine ⟨gap ++ [c], rest, by simp [hrest], rfl, ?_⟩
    have hmark := ending.respell_of_isBare hlexeme.1
    have hwhole : plain.rest = gap ++ ([c] ++ rest) := hrest
    have hfront : scanner.rest = ending.respell gap ++ c :: ending.respell rest := by
      rw [h.rest_eq_append hwhole, ending.respell_append, hmark, List.singleton_append]
    have hspan := h.spanBehind_eq hwhole
    have hfound := Scans.unknown hfront (ending.isGap_respell hgap)
      ⟨hlexeme.1, ending.startsWithBlank_respell hlexeme.2⟩ hunknown
    rw [hmark] at hspan
    rwa [hspan, ← hmark, ← ending.respell_append, hmark] at hfound

/-- What the one finds, the other finds in its spelling, and they run on along with each
other. -/
theorem step :
    plain.item?.map (Results.respelledItem ending other) = scanner.item? ∧
      Respells ending other plain.scan.2 scanner.scan.2 := by
  cases hitem : plain.item? with
  | none =>
    have hgap := item?_eq_none_iff.1 hitem
    have hblank : IsGap scanner.rest := h.rest_eq ▸ ending.isGap_respell hgap
    refine ⟨(item?_eq_none_iff.2 hblank).symm, ?_⟩
    rw [scan_of_isGap hgap, scan_of_isGap hblank, h.rest_eq]
    exact h.passing (List.append_nil plain.rest).symm
  | some result =>
    have hscans := scans_scan h.isPlaced_plain
    rw [item?_eq_some_iff.1 hitem] at hscans
    have hfollows : Follows ending plain plain.scan.2 scanner
        ((Results.respelledItem ending other result).map some) := by
      cases result with
      | ok token => exact h.follows_of_token hscans
      | error error => exact h.follows_of_error hscans
    obtain ⟨passed, rest, hrest, hbehind, hfound⟩ := hfollows
    rw [Option.map_some, eq_comm, item?_eq_some_iff, hbehind, hfound.scan_eq h.isPlaced]
    exact ⟨rfl, h.passing hrest⟩

theorem results_eq : scanner.results = plain.results.respelled ending other := by
  have hstep {one another : Scanner} (halong : Respells ending other one another) :
      one.item?.map (Results.respelledItem ending other) = another.item?.map id ∧
        Respells ending other one.scan.2 another.scan.2 := by
    rw [Option.map_id, id]
    exact halong.step
  rw [Results.respelled, results_map_eq_of_step hstep h, List.map_id]

end Respells

/-- An error is at a character that ends no line, and this is where its place is in the other
spelling. -/
theorem Scans.exists_charAt?_offset {error : LexicalError}
    (h : Scans scanner (.error error) behind) (hplaced : scanner.IsPlaced) :
    (∃ c, scanner.source.content.charAt? error.offset = some c ∧ c ≠ '\n') ∧
      ∀ ending other, (error.respelled ending other).offset =
        ending.offset scanner.source.content error.offset := by
  cases h with
  | @unclosed gap content hrest hgap hcontent =>
    rw [IsPlaced, hrest] at hplaced
    have hchar := Text.charAt?_eq_some_iff.2 ⟨_, hplaced.append⟩
    exact ⟨⟨'"', hchar, by decide⟩, fun _ _ => rfl⟩
  | @unknown gap rest c hrest hgap hlexeme hunknown =>
    rw [IsPlaced, hrest] at hplaced
    have hchar := Text.charAt?_eq_some_iff.2 ⟨_, hplaced.append⟩
    have hblank := hlexeme.1.not_blank c (List.mem_singleton_self c)
    refine ⟨⟨c, hchar, ?_⟩, fun _ _ => rfl⟩
    rintro rfl
    revert hblank
    decide

end Scanner

namespace Source

variable {source other : Source}

theorem results_respelled (hcontent : other.content = ending.respell source.content)
    (vocabulary : Vocabulary) :
    other.results vocabulary = (source.results vocabulary).respelled ending other := by
  have hstart : Scanner.Respells ending other (source.scanner vocabulary)
      (other.scanner vocabulary) :=
    { source_eq := rfl
      vocabulary_eq := rfl
      cursor_eq := (ending.offset_append [] source.content).symm
      rest_eq := hcontent
      isPlaced_plain := source.isPlaced_scanner vocabulary
      isPlaced := other.isPlaced_scanner vocabulary }
  exact hstart.results_eq

theorem exists_charAt?_of_mem_results {vocabulary : Vocabulary} {error : LexicalError}
    (h : .error error ∈ source.results vocabulary) :
    (∃ c, source.content.charAt? error.offset = some c ∧ c ≠ '\n') ∧
      ∀ ending other, (error.respelled ending other).offset =
        ending.offset source.content error.offset := by
  have hstart : (source.scanner vocabulary).PlacedIn source :=
    ⟨rfl, source.isPlaced_scanner vocabulary⟩
  obtain ⟨n, hn⟩ := List.getElem?_of_mem h
  rw [results, Scanner.getElem?_results, Scanner.item?_eq_some_iff] at hn
  obtain ⟨hsource, hplaced⟩ := hstart.afterScans n
  have hscans := Scanner.scans_scan hplaced
  rw [hn] at hscans
  have hfound := hscans.exists_charAt?_offset hplaced
  rwa [hsource] at hfound

/-- What two spellings of a source have in common. -/
structure IsRespelled (ending : LineEnding) (source other : Source) : Prop where
  /-- They have the same number of lines. -/
  lineCount_eq : other.lineCount = source.lineCount
  /-- Each character but the line feeds is in the other one too, in the same line and
  column. -/
  charAt?_eq : ∀ n c, source.content.charAt? n = some c → c ≠ '\n' →
    other.content.charAt? (ending.offset source.content n) = some c ∧
      ∃ place, source.location? n = some place ∧
        other.location? (ending.offset source.content n) = some place
  /-- If one has a token stream, so has the other one, with the other line ending in the
  strings. -/
  stream_eq : ∀ (vocabulary : Vocabulary) (σ : Type) (receiver : Receiver σ LexicalError)
    (kept : σ), (TokenStream.ofSource other vocabulary receiver kept).1 =
      (TokenStream.ofSource source vocabulary receiver kept).1.map (·.respelled ending)
  /-- If one has an error in place of the stream, so has the other one, of the same kind and
  with the same character. -/
  errors_eq : ∀ vocabulary : Vocabulary,
    (TokenStream.ofSource other vocabulary Receiver.keeping []).2 =
      (TokenStream.ofSource source vocabulary Receiver.keeping []).2.map
        (·.respelled ending other)
  /-- The errors are in the same line and column. -/
  location?_eq : ∀ vocabulary : Vocabulary,
    ∀ error ∈ (TokenStream.ofSource source vocabulary Receiver.keeping []).2,
      ∃ place, source.location? error.offset = some place ∧
        other.location? (error.respelled ending other).offset = some place

section Respelled

variable (hcontent : other.content = ending.respell source.content)

include hcontent

theorem firstError?_respelled (vocabulary : Vocabulary) :
    (other.results vocabulary).firstError? =
      (source.results vocabulary).firstError?.map (·.respelled ending other) := by
  rw [results_respelled hcontent]
  exact Results.firstError?_map (Results.respelledItem ending other) (fun _ => rfl) (fun _ => rfl) _

theorem tokens_respelled (vocabulary : Vocabulary) :
    (other.results vocabulary).tokens =
      (source.results vocabulary).tokens.map (·.respelled ending) := by
  rw [results_respelled hcontent]
  exact Results.tokens_map (Results.respelledItem ending other) (fun _ => rfl) (fun _ => rfl) _

theorem exists_location?_respelled (hreturn : '\r' ∉ source.content) {n : Nat} {c : Char}
    (h : source.content.charAt? n = some c) :
    ∃ place, source.location? n = some place ∧
      other.location? (ending.offset source.content n) = some place := by
  obtain ⟨after, hafter⟩ := Text.charAt?_eq_some_iff.1 h
  have hboundary := hafter.isBoundary
  obtain ⟨before, hsplit, rfl⟩ := hafter
  have hplace := location?_of_append hsplit (List.cons_ne_nil c after)
  refine ⟨_, hplace, ?_⟩
  rw [location?, hcontent, ending.location?_respell hreturn hboundary]
  exact hplace

end Respelled

/-- Spelling the line feeds of a source without carriage returns in another way changes
neither its lines and columns nor its tokens and errors, apart from the strings that have
line feeds in them. -/
theorem isRespelled (ending : LineEnding) (hreturn : '\r' ∉ source.content)
    (hcontent : other.content = ending.respell source.content) :
    IsRespelled ending source other where
  lineCount_eq := by
    have hend : other.endLocation = source.endLocation := by
      rw [endLocation_eq, endLocation_eq, hcontent]
      exact ending.walk_respell _ hreturn []
    exact congrArg Location.line hend
  charAt?_eq n c hchar hc := by
    refine ⟨?_, exists_location?_respelled hcontent hreturn hchar⟩
    rw [hcontent, ending.charAt?_respell hc hchar]
  stream_eq vocabulary σ receiver kept := by
    rw [TokenStream.ofSource_eq, TokenStream.ofSource_eq, firstError?_respelled hcontent,
      tokens_respelled hcontent]
    cases (source.results vocabulary).firstError? <;> rfl
  errors_eq vocabulary := by
    rw [TokenStream.ofSource_eq, TokenStream.ofSource_eq, firstError?_respelled hcontent]
    cases (source.results vocabulary).firstError? <;> rfl
  location?_eq vocabulary error hmem := by
    rw [TokenStream.ofSource_eq] at hmem
    cases hfirst : (source.results vocabulary).firstError? with
    | none => rw [hfirst] at hmem; cases hmem
    | some first =>
      rw [hfirst] at hmem
      obtain rfl := List.mem_singleton.1 hmem
      obtain ⟨tokens, more, hresults⟩ := Results.firstError?_eq_some_iff.1 hfirst
      have herror : .error error ∈ source.results vocabulary := by simp [hresults]
      obtain ⟨⟨c, hchar, -⟩, hoffset⟩ := exists_charAt?_of_mem_results herror
      rw [hoffset]
      exact exists_location?_respelled hcontent hreturn hchar

/-- The unknown character is two bytes further on, and still the first one of line three. -/
theorem isRespelled_inner_feed :
    let source : Source := ⟨0, [], ['"', 'a', '\n', 'b', '"', '\n', '#']⟩
    let other : Source := ⟨1, [], ['"', 'a', '\r', '\n', 'b', '"', '\r', '\n', '#']⟩
    '\r' ∉ source.content ∧ other.content = LineEnding.returnAndFeed.respell source.content ∧
      (TokenStream.ofSource other .standard Receiver.keeping []).2 =
        [.unknownCharacter ⟨other, 8, 9⟩ '#'] ∧
      source.location? 6 = some ⟨3, 1⟩ ∧ other.location? 8 = some ⟨3, 1⟩ := by
  intro source other
  have hreturn : '\r' ∉ source.content := by decide
  have hcontent : other.content = LineEnding.returnAndFeed.respell source.content := rfl
  have hrespelled := isRespelled LineEnding.returnAndFeed hreturn hcontent
  have hstring : (source.scanner .standard).item? = some (.ok (.string ['a', '\n', 'b'])) := rfl
  have hunknown : (source.scanner .standard).scan.2.item? =
      some (.error (.unknownCharacter ⟨source, 6, 7⟩ '#')) := rfl
  have herrors : (TokenStream.ofSource source .standard Receiver.keeping []).2 =
      [.unknownCharacter ⟨source, 6, 7⟩ '#'] := by
    rw [TokenStream.ofSource_eq, results, Scanner.results_of_item? hstring,
      Scanner.results_of_item? hunknown]
    rfl
  have hsplit : source.content = ['"', 'a', '\n', 'b', '"', '\n'] ++ ['#'] := rfl
  have hplace : source.location? 6 = some ⟨3, 1⟩ := location?_of_append hsplit (by decide)
  obtain ⟨place, hsource, hother⟩ :=
    hrespelled.location?_eq .standard _ (herrors ▸ List.mem_singleton_self _)
  obtain rfl := Option.some.inj (hplace.symm.trans hsource)
  exact ⟨hreturn, hcontent, by rw [hrespelled.errors_eq, herrors]; rfl, hplace, hother⟩

end Source

end Lexing
