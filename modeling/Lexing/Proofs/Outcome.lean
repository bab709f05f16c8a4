import Lexing.Command.Program
import Lexing.Proofs.Scanner.Faults
import Lexing.Proofs.Scanner.Results
import Lexing.Proofs.Text.Utf8

/-!
# The outcome of a run

A run goes through four stages, of which each can fail in its own way: the file is read,
its bytes are decoded, the text is scanned, and the tokens are printed. Either all of them
succeed, and nothing but the tokens is printed, or one diagnostic is printed and nothing
else, also if some tokens were scanned before. That the diagnostic is about the first
error is a matter of the results of scanning the whole text, where errors stand in the
order of their places.

## Main definitions

* `Options.Tokenizes`: the file holds a text that has a token stream.
* `Options.Diagnosis`: the diagnostics of a file that does not.
* `Options.AllOrNothing`: the two sorts of outcomes that there are.

## Main results

* `Options.run_allOrNothing`: every run has such an outcome.
-/

namespace Lexing

/-- Errors among the results of a source are in the order of their places. -/
theorem Source.offset_lt_of_results {source : Source} {vocabulary : Vocabulary}
    {front more : Results Token} {error later : LexicalError}
    (h : source.results vocabulary = front ++ .error error :: more) (hlater : .error later ∈ more) :
    error.offset < later.offset := by
  have hplaced : (source.scanner vocabulary).PlacedIn source :=
    ⟨rfl, source.isPlaced_scanner vocabulary⟩
  obtain ⟨n, hn⟩ := List.getElem?_of_mem hlater
  have herror : (source.results vocabulary)[front.length]? = some (.error error) := by
    rw [h, List.getElem?_append_right (Nat.le_refl _), Nat.sub_self]
    rfl
  have hbehind : (source.results vocabulary)[front.length + (n + 1)]? = some (.error later) := by
    rw [h, List.getElem?_append_right (Nat.le_add_right _ _), Nat.add_sub_cancel_left]
    exact hn
  rw [results, Scanner.getElem?_results, Scanner.item?_eq_some_iff] at herror hbehind
  exact hplaced.offset_lt (Nat.lt_add_of_pos_right (Nat.succ_pos n)) herror hbehind

namespace Options

/-- The source that the file is if it holds the text. -/
def sourceOf (options : Options) (content : Text) : Source :=
  ⟨0, options.file, content⟩

/-- The file can be read, its bytes are those of a text, and the text has this token stream
under the vocabulary of the options. -/
def Tokenizes (options : Options) (file : Except FileError (List UInt8)) (stream : TokenStream) :
    Prop :=
  ∃ content, file = .ok (Utf8.encode content) ∧
    (TokenStream.ofSource (options.sourceOf content) options.vocabulary Receiver.ignoring ()).1 =
      some stream

/-- The diagnostic of a file that is not tokenized. -/
inductive Diagnosis (options : Options) : Except FileError (List UInt8) → Text → Prop
  /-- The file cannot be opened or read. -/
  | unreadable (error : FileError) :
    Diagnosis options (.error error)
      (Message.render ⟨.error, options.file ++ (": " : Text) ++ error.message⟩)
  /-- The bytes are not those of a text. -/
  | undecodable {bytes : List UInt8} {error : Utf8.DecodingError}
      (hbytes : ∀ content, bytes ≠ Utf8.encode content)
      (hdecode : Utf8.decode bytes = .error error) :
    Diagnosis options (.ok bytes)
      (Message.render ⟨.error, options.file ++ (": " : Text) ++ error.message.toList⟩)
  /-- There are only tokens in front of the error in the text, and all other errors are
  behind it. -/
  | lexical {content : Text} {tokens : List Token} {error : LexicalError} {more : Results Token}
      (hresults : (options.sourceOf content).results options.vocabulary =
        tokens.map .ok ++ .error error :: more)
      (hmore : ∀ later, .error later ∈ more → error.offset < later.offset) :
    Diagnosis options (.ok (Utf8.encode content)) error.render

/-- The outcome is a success that prints the tokens of the file and nothing else, or a
failure that prints one diagnostic and nothing else. -/
structure AllOrNothing (options : Options) (file : Except FileError (List UInt8))
    (outcome : Outcome) : Prop where
  /-- The run succeeds if the file is tokenized, and only then. -/
  exitCode_eq_zero_iff : outcome.exitCode = 0 ↔ ∃ stream, options.Tokenizes file stream
  /-- Then the tokens are printed, and nothing else. -/
  of_tokenizes : ∀ stream, options.Tokenizes file stream →
    outcome = ⟨0, options.render stream, []⟩
  /-- A run that fails has a diagnostic. -/
  exists_diagnosis : outcome.exitCode ≠ 0 → ∃ report, options.Diagnosis file report
  /-- It is printed with a line feed behind it, and nothing else. -/
  of_diagnosis : ∀ report, options.Diagnosis file report → outcome = ⟨1, [], report ++ ['\n']⟩

variable {options : Options} {file : Except FileError (List UInt8)}

theorem runOnSource_eq_of_results (options : Options) (source : Source) :
    options.runOnSource source =
      match (source.results options.vocabulary).firstError? with
      | none => ⟨0, options.render ⟨(source.results options.vocabulary).tokens⟩, []⟩
      | some error => failure error.render := by
  rw [runOnSource, TokenStream.ofSource_eq]
  cases (source.results options.vocabulary).firstError? with
  | none => rfl
  | some error => simp [Receiver.keeping, Receiver.keepingAs, failure]

theorem run_encode (options : Options) (content : Text) :
    options.run (.ok (Utf8.encode content)) = options.runOnSource (options.sourceOf content) := by
  rw [run, Source.load, Utf8.decode_eq_ok_iff.2 rfl]
  rfl

theorem fileReport_eq (options : Options) (cause : Text) :
    options.fileReport cause =
      Message.render ⟨.error, options.file ++ (": " : Text) ++ cause⟩ := by
  rw [fileReport, List.append_assoc]
  rfl

theorem ofSource_sourceOf_eq_some_iff {content : Text} {stream : TokenStream} :
    (TokenStream.ofSource (options.sourceOf content) options.vocabulary Receiver.ignoring ()).1 =
        some stream ↔
      ((options.sourceOf content).results options.vocabulary).firstError? = none ∧
        stream = ⟨((options.sourceOf content).results options.vocabulary).tokens⟩ := by
  rw [TokenStream.ofSource_eq]
  cases ((options.sourceOf content).results options.vocabulary).firstError? <;> simp [eq_comm]

theorem Tokenizes.run_eq {stream : TokenStream} (h : options.Tokenizes file stream) :
    options.run file = ⟨0, options.render stream, []⟩ := by
  obtain ⟨content, rfl, hstream⟩ := h
  obtain ⟨hnone, rfl⟩ := ofSource_sourceOf_eq_some_iff.1 hstream
  rw [run_encode, runOnSource_eq_of_results, hnone]

theorem Diagnosis.run_eq {report : Text} (h : options.Diagnosis file report) :
    options.run file = failure report := by
  cases h with
  | unreadable error => rw [run, fileReport_eq]
  | undecodable hbytes hdecode =>
    rw [run, Source.load, hdecode, ← fileReport_eq]
    rfl
  | lexical hresults hmore =>
    rw [run_encode, runOnSource_eq_of_results, Results.firstError?_eq_some_iff.2 ⟨_, _, hresults⟩]

theorem tokenizes_or_diagnosis (options : Options) (file : Except FileError (List UInt8)) :
    (∃ stream, options.Tokenizes file stream) ∨ ∃ report, options.Diagnosis file report := by
  cases file with
  | error error => exact .inr ⟨_, .unreadable error⟩
  | ok bytes =>
    cases hdecode : Utf8.decode bytes with
    | error error =>
      refine .inr ⟨_, .undecodable (fun content hbytes => ?_) hdecode⟩
      rw [Utf8.decode_eq_ok_iff.2 hbytes] at hdecode
      cases hdecode
    | ok content =>
      obtain rfl := Utf8.decode_eq_ok_iff.1 hdecode
      cases herror : ((options.sourceOf content).results options.vocabulary).firstError? with
      | none =>
        exact .inl ⟨_, content, rfl, ofSource_sourceOf_eq_some_iff.2 ⟨herror, rfl⟩⟩
      | some error =>
        obtain ⟨tokens, more, hresults⟩ := Results.firstError?_eq_some_iff.1 herror
        exact .inr ⟨_, .lexical hresults fun _ => Source.offset_lt_of_results hresults⟩

theorem allOrNothing_run (options : Options) (file : Except FileError (List UInt8)) :
    options.AllOrNothing file (options.run file) := by
  refine ⟨?_, fun _ => Tokenizes.run_eq, ?_, fun _ => Diagnosis.run_eq⟩
  · constructor
    · intro hzero
      rcases options.tokenizes_or_diagnosis file with htokenizes | ⟨report, hdiagnosis⟩
      · exact htokenizes
      · rw [hdiagnosis.run_eq] at hzero
        cases hzero
    · rintro ⟨stream, hstream⟩
      rw [hstream.run_eq]
  · intro hfails
    rcases options.tokenizes_or_diagnosis file with ⟨stream, hstream⟩ | hdiagnosis
    · rw [hstream.run_eq] at hfails
      exact absurd rfl hfails
    · exact hdiagnosis

/-- Whatever reading the file has come to, the run prints the tokens of the file and nothing
else, or one diagnostic and nothing else. So does the program, whatever files there are. -/
theorem run_allOrNothing (options : Options) :
    (∀ file, options.AllOrNothing file (options.run file)) ∧
      ∀ directory arguments, parse arguments = .ok options →
        options.AllOrNothing (directory.read options.file) (runProgram directory arguments) := by
  refine ⟨options.allOrNothing_run, fun directory arguments hparse => ?_⟩
  rw [runProgram, hparse]
  exact options.allOrNothing_run (directory.read options.file)

/-- Of a file with a token and two errors only the first error is reported. -/
theorem run_allOrNothing_two_errors :
    let options : Options := ⟨['p'], [['b']], false⟩
    let file : Except FileError (List UInt8) := .ok [0x61, 0x20, 0x23, 0x20, 0x22]
    let first : LexicalError :=
      .unknownCharacter ⟨options.sourceOf ['a', ' ', '#', ' ', '"'], 2, 3⟩ '#'
    options.AllOrNothing file (options.run file) ∧
      options.run file = ⟨1, [], first.render ++ ['\n']⟩ := by
  intro options file first
  let source := options.sourceOf ['a', ' ', '#', ' ', '"']
  have hall := (run_allOrNothing options).1 file
  have hfile : file = .ok (Utf8.encode source.content) := rfl
  have hresults : source.results options.vocabulary =
      [Token.name ['a']].map .ok ++
        .error first :: [.error (.unterminatedString ⟨source, 4, 5⟩)] := by
    have htoken : (source.scanner options.vocabulary).item? = some (.ok (.name ['a'])) := rfl
    have hfirst : (source.scanner options.vocabulary).scan.2.item? = some (.error first) := rfl
    have hsecond : (source.scanner options.vocabulary).scan.2.scan.2.item? =
        some (.error (.unterminatedString ⟨source, 4, 5⟩)) := rfl
    rw [Source.results, Scanner.results_of_item? htoken, Scanner.results_of_item? hfirst,
      Scanner.results_of_item? hsecond, Scanner.results_of_isGap (by decide)]
    rfl
  have hdiagnosis : options.Diagnosis file first.render := by
    rw [hfile]
    exact .lexical hresults fun _ => Source.offset_lt_of_results hresults
  exact ⟨hall, hall.of_diagnosis _ hdiagnosis⟩

-- The options are those of a command line.
example : parse ["p", "--reserved=b"] = .ok ⟨['p'], [['b']], false⟩ := rfl

end Options

end Lexing
