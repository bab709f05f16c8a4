import Lexing.Command.Program
import Lexing.Proofs.Scanner.Outline

/-!
# What reserved words can change

Reserved words make names of some lexemes and do nothing else. Under any two vocabularies
a source has the same errors and as many tokens; so a run of the program ends with the
same exit code and the same report, and prints the same number of tokens. Of the words
given on the command line those of two or more characters can change the tokens that are
printed, and neither their order matters nor how often a word is given.

## Main definitions

* `Options.RunsAlike`: what runs with different reserved words have in common.

## Main results

* `Vocabulary.isReserved_reserving`: the words that are reserved by a list.
* `Source.outline_results`: the results of a source under two vocabularies.
* `reservedWords_only_name`: reserved words make names and change nothing else.
-/

namespace Lexing

namespace Vocabulary

theorem isReserved_foldl_reserve (words : List Text) (vocabulary : Vocabulary) (text : Text) :
    (words.foldl reserve vocabulary).isReserved text =
      (vocabulary.isReserved text || words.contains text) := by
  induction words generalizing vocabulary with
  | nil => simp
  | cons word words ih =>
    rw [List.foldl_cons, ih, isReserved_reserve, List.contains_cons, Bool.or_assoc,
      Bool.or_left_comm]

theorem isReserved_reserving (words : List Text) (text : Text) :
    (reserving words).isReserved text = (standard.isReserved text || words.contains text) :=
  isReserved_foldl_reserve words standard text

theorem isReserved_reserving_congr {words others : List Text} {text : Text}
    (h : text ∈ words ↔ text ∈ others) :
    (reserving words).isReserved text = (reserving others).isReserved text := by
  have hcontains : words.contains text = others.contains text := by
    rw [Bool.eq_iff_iff, List.contains_iff_mem, List.contains_iff_mem, h]
  rw [isReserved_reserving, isReserved_reserving, hcontains]

end Vocabulary

namespace Source

variable {v w : Vocabulary}

/-- The errors of a source, and the places of the tokens among them, are the same under all
vocabularies. -/
theorem outline_results (source : Source) (v w : Vocabulary) :
    (source.results v).outline = (source.results w).outline :=
  Scanner.results_map_eq (fun scanner => (scanner.scansAlike v w).outline_eq) (.ofSource source)

theorem firstError?_results (source : Source) (v w : Vocabulary) :
    (source.results v).firstError? = (source.results w).firstError? := by
  rw [← Results.firstError?_outline, source.outline_results v w, Results.firstError?_outline]

theorem length_tokens_results (source : Source) (v w : Vocabulary) :
    (source.results v).tokens.length = (source.results w).tokens.length := by
  rw [← Results.length_tokens_outline, source.outline_results v w,
    Results.length_tokens_outline]

theorem results_eq_of_agree (source : Source)
    (h : ∀ text, 2 ≤ text.length → v.isReserved text = w.isReserved text) :
    source.results v = source.results w := by
  have hmap := Scanner.results_map_eq (f := id) (v := v) (w := w) (fun scanner => by
    rw [(scanner.scansAlike v w).item?_eq fun text _ => h text]) (.ofSource source)
  rwa [List.map_id, List.map_id] at hmap

end Source

namespace TokenStream

variable {σ : Type} {v w : Vocabulary}

theorem ofSource_snd_eq (source : Source) (v w : Vocabulary) (receiver : Receiver σ LexicalError)
    (kept : σ) : (ofSource source v receiver kept).2 = (ofSource source w receiver kept).2 := by
  rw [ofSource_eq, ofSource_eq, source.firstError?_results v w]
  cases (source.results w).firstError? <;> rfl

theorem map_size_ofSource (source : Source) (v w : Vocabulary)
    (receiver : Receiver σ LexicalError) (kept : σ) :
    (ofSource source v receiver kept).1.map size =
      (ofSource source w receiver kept).1.map size := by
  rw [ofSource_eq, ofSource_eq, source.firstError?_results v w]
  cases (source.results w).firstError? with
  | none => exact congrArg some (source.length_tokens_results v w)
  | some error => rfl

theorem ofSource_eq_of_agree (source : Source)
    (h : ∀ text, 2 ≤ text.length → v.isReserved text = w.isReserved text)
    (receiver : Receiver σ LexicalError) (kept : σ) :
    ofSource source v receiver kept = ofSource source w receiver kept := by
  rw [ofSource_eq, ofSource_eq, source.results_eq_of_agree h]

end TokenStream

namespace Options

/-- The same options with other reserved words. -/
def withReserved (options : Options) (words : List Text) : Options :=
  { options with reserved := words }

@[simp] theorem vocabulary_withReserved (options : Options) (words : List Text) :
    (options.withReserved words).vocabulary = Vocabulary.reserving words := rfl

@[simp] theorem count_withReserved (options : Options) (words : List Text) :
    (options.withReserved words).count = options.count := rfl

/-- What the runs on one file have in common when different words are reserved. -/
structure RunsAlike (options : Options) (file : Except FileError (List UInt8))
    (words others : List Text) : Prop where
  /-- Both succeed, or both fail. -/
  exitCode_eq : ((options.withReserved words).run file).exitCode =
    ((options.withReserved others).run file).exitCode
  /-- The report on standard error is the same. -/
  errors_eq : ((options.withReserved words).run file).errors =
    ((options.withReserved others).run file).errors
  /-- The number of tokens is the same. -/
  output_eq : options.count = true →
    ((options.withReserved words).run file).output =
      ((options.withReserved others).run file).output
  /-- Nothing differs if the same words of two or more characters are among those given. -/
  run_eq : (∀ word, 2 ≤ word.length → (word ∈ words ↔ word ∈ others)) →
    (options.withReserved words).run file = (options.withReserved others).run file

variable {options : Options} {words others : List Text}

/-- Reserved words come into play when there is a source. -/
theorem run_reserved_cases (options : Options) (words others : List Text)
    (file : Except FileError (List UInt8)) :
    (options.withReserved words).run file = (options.withReserved others).run file ∨
      ∃ source,
        (options.withReserved words).run file =
          (options.withReserved words).runOnSource source ∧
        (options.withReserved others).run file =
          (options.withReserved others).runOnSource source := by
  cases file with
  | error error => exact .inl rfl
  | ok bytes =>
    simp only [run, withReserved]
    cases Source.load 0 options.file bytes with
    | error error => exact .inl rfl
    | ok source => exact .inr ⟨source, rfl, rfl⟩

theorem runOnSource_alike (options : Options) (words others : List Text) (source : Source) :
    ((options.withReserved words).runOnSource source).exitCode =
        ((options.withReserved others).runOnSource source).exitCode ∧
      ((options.withReserved words).runOnSource source).errors =
        ((options.withReserved others).runOnSource source).errors ∧
      (options.count = true → ((options.withReserved words).runOnSource source).output =
        ((options.withReserved others).runOnSource source).output) := by
  have herrors := TokenStream.ofSource_snd_eq source (Vocabulary.reserving words)
    (Vocabulary.reserving others) Receiver.keeping []
  have hsize := TokenStream.map_size_ofSource source (Vocabulary.reserving words)
    (Vocabulary.reserving others) Receiver.keeping []
  simp only [runOnSource, vocabulary_withReserved]
  generalize TokenStream.ofSource source (Vocabulary.reserving words) Receiver.keeping [] = first
    at herrors hsize ⊢
  generalize TokenStream.ofSource source (Vocabulary.reserving others) Receiver.keeping [] = second
    at herrors hsize ⊢
  obtain ⟨stream, errors⟩ := first
  obtain ⟨other, _⟩ := second
  obtain rfl := herrors
  cases stream with
  | none =>
    cases other with
    | none => simp
    | some other => cases hsize
  | some stream =>
    cases other with
    | none => cases hsize
    | some other =>
      have hcount : stream.size = other.size := Option.some.inj hsize
      refine ⟨rfl, rfl, fun h => ?_⟩
      simp only [render, count_withReserved, h, if_true, hcount]

theorem runOnSource_eq (options : Options) (source : Source)
    (h : ∀ word, 2 ≤ word.length → (word ∈ words ↔ word ∈ others)) :
    (options.withReserved words).runOnSource source =
      (options.withReserved others).runOnSource source := by
  have hstream := TokenStream.ofSource_eq_of_agree source
    (fun text htwo => Vocabulary.isReserved_reserving_congr (h text htwo))
    (Receiver.keeping : Receiver (List LexicalError) LexicalError) []
  simp only [runOnSource, vocabulary_withReserved, hstream]
  rfl

theorem runsAlike (options : Options) (file : Except FileError (List UInt8))
    (words others : List Text) : options.RunsAlike file words others := by
  rcases run_reserved_cases options words others file with heq | ⟨source, hword, hother⟩
  · exact ⟨by rw [heq], by rw [heq], fun _ => by rw [heq], fun _ => heq⟩
  · obtain ⟨hexit, herrors, houtput⟩ := runOnSource_alike options words others source
    refine ⟨?_, ?_, fun hcount => ?_, fun hsame => ?_⟩
    · rw [hword, hother, hexit]
    · rw [hword, hother, herrors]
    · rw [hword, hother, houtput hcount]
    · rw [hword, hother, runOnSource_eq options source hsame]

end Options

/-- Reserved words make names of the lexemes that are reserved, and change nothing else: not
where a scan stops, not whether there is an error nor which one, not what is seen of calls
between which other vocabularies come into use, not whether there is a token stream, how
many tokens are in it and what is received, and not how a run of the program ends. -/
theorem reservedWords_only_name :
    (∀ (scanner : Scanner) (v w : Vocabulary), scanner.ScansAlike v w) ∧
    (∀ (scanner : Scanner) (calls others : List Scanner.Call),
      Scanner.readings calls = Scanner.readings others →
        scanner.watch calls = scanner.watch others) ∧
    (∀ (source : Source) (v w : Vocabulary) (σ : Type) (receiver : Receiver σ LexicalError)
        (kept : σ),
      (TokenStream.ofSource source v receiver kept).2 =
          (TokenStream.ofSource source w receiver kept).2 ∧
        (TokenStream.ofSource source v receiver kept).1.map TokenStream.size =
          (TokenStream.ofSource source w receiver kept).1.map TokenStream.size) ∧
    ∀ (options : Options) (file : Except FileError (List UInt8)) (words others : List Text),
      options.RunsAlike file words others := by
  refine ⟨Scanner.scansAlike, ?_, ?_, Options.runsAlike⟩
  · intro scanner calls others h
    exact Scanner.watch_eq_of_readings_eq h
  · intro source v w σ receiver kept
    exact ⟨TokenStream.ofSource_snd_eq source v w receiver kept,
      TokenStream.map_size_ofSource source v w receiver kept⟩

end Lexing
