import Lexing.Proofs.Scanner.Cut
import Lexing.Scanner.Stream

/-!
# Which tokens a text is read as

Whether a source has a token stream, and which one, depends on nothing but its text
and the vocabulary. `Vocabulary.Reads` states this relation without a scanner, a cursor
or a receiver.

## Main definitions

* `Lexeme.token?`: the token that a lexeme stands for.
* `Vocabulary.Reads`: the tokens that a text is read as.

## Main results

* `Scanner.collect_eq_ok_iff`: a scanner collects the tokens that its text is read as.
* `TokenStream.ofSource_eq_some_iff`: the same of a whole source.
-/

namespace Lexing

/-- The token that the lexeme stands for, if it stands for one. -/
def Lexeme.token? (vocabulary : Vocabulary) : Lexeme → Option Token
  | bare text => vocabulary.classify text
  | quoted content => some (.string content)
  | unclosed _ => none

/-- The text is read as these tokens: one lexeme after the other stands for one token
after the other, up to a rest of blanks. -/
inductive Vocabulary.Reads (vocabulary : Vocabulary) : Text → List Token → Prop
  /-- Nothing is left to be read. -/
  | finished {text : Text} (hcut : Lexeme.cut? text = none) : Reads vocabulary text []
  /-- The first lexeme stands for the first token. -/
  | token {text : Text} {cut : Lexeme.Cut} {token : Token} {tokens : List Token}
      (hcut : Lexeme.cut? text = some cut) (htoken : cut.lexeme.token? vocabulary = some token)
      (hrest : Reads vocabulary cut.rest tokens) : Reads vocabulary text (token :: tokens)

namespace Vocabulary

variable {vocabulary : Vocabulary}

theorem reads_iff_of_cut?_eq_none {text : Text} (hcut : Lexeme.cut? text = none)
    {tokens : List Token} : vocabulary.Reads text tokens ↔ tokens = [] := by
  constructor
  · intro h
    cases h with
    | finished => rfl
    | token hcut' => rw [hcut] at hcut'; cases hcut'
  · rintro rfl
    exact .finished hcut

/-- What a text is read as, by its first lexeme. -/
theorem reads_iff_of_cut?_eq_some {text : Text} {cut : Lexeme.Cut}
    (hcut : Lexeme.cut? text = some cut) {tokens : List Token} :
    vocabulary.Reads text tokens ↔
      ∃ token more, tokens = token :: more ∧ cut.lexeme.token? vocabulary = some token ∧
        vocabulary.Reads cut.rest more := by
  constructor
  · intro h
    cases h with
    | finished hcut' => rw [hcut] at hcut'; cases hcut'
    | token hcut' htoken hrest =>
      obtain rfl := Option.some.inj (hcut.symm.trans hcut')
      exact ⟨_, _, rfl, htoken, hrest⟩
  · rintro ⟨token, more, rfl, htoken, hrest⟩
    exact .token hcut htoken hrest

end Vocabulary

namespace Scanner

variable {scanner : Scanner}

/-- A scanner finds a token in a lexeme exactly if the lexeme stands for it. -/
theorem tokenOf_eq_ok_iff {source : Source} {vocabulary : Vocabulary} {start stop : Nat}
    {lexeme : Lexeme} {token : Token} :
    tokenOf source vocabulary start stop lexeme = .ok token ↔
      lexeme.token? vocabulary = some token := by
  cases lexeme with
  | quoted content => simp [tokenOf, Lexeme.token?]
  | unclosed content => simp [tokenOf, Lexeme.token?]
  | bare text =>
    rw [Lexeme.token?]
    cases hclassify : vocabulary.classify text with
    | some found => simp [tokenOf, hclassify]
    | none => cases text <;> simp [tokenOf, hclassify]

theorem collectFrom_fst (hhalted : scanner.halted = false) (read : List Token) :
    (collectFrom read scanner).1 =
      match scanner.scan.1 with
      | .ok none => .ok read.reverse
      | .ok (some token) => (collectFrom (token :: read) scanner.scan.2).1
      | .error error => .error error := by
  cases hscan : scanner.scan with
  | mk result behind =>
    match result with
    | .ok none =>
      have hnext : scanner.next = (none, { behind with halted := true }) := by
        simp [next, hhalted, hscan]
      rw [collectFrom]
      split <;> simp_all
    | .ok (some token) =>
      have hnext : scanner.next = (some (.ok token), behind) := by
        simp [next, hhalted, hscan]
      rw [collectFrom]
      split <;> simp_all
    | .error error =>
      have hnext : scanner.next = (some (.error error), { behind with halted := true }) := by
        simp [next, hhalted, hscan]
      rw [collectFrom]
      split <;> simp_all

@[simp] theorem halted_scan : scanner.scan.2.halted = scanner.halted := by
  unfold scan
  split <;> rfl

@[simp] theorem vocabulary_scan : scanner.scan.2.vocabulary = scanner.vocabulary := by
  unfold scan
  split <;> rfl

/-- Behind the tokens already read come the tokens that the text is read as. -/
theorem collectFrom_eq_ok_iff (hhalted : scanner.halted = false) {read tokens : List Token} :
    (collectFrom read scanner).1 = .ok tokens ↔
      ∃ more, tokens = read.reverse ++ more ∧
        scanner.vocabulary.Reads scanner.rest more := by
  -- The text in front gets shorter with every token.
  induction hlength : scanner.rest.length using Nat.strong_induction_on
    generalizing scanner read with
  | _ n ih =>
    rw [collectFrom_fst hhalted]
    cases hcut : Lexeme.cut? scanner.rest with
    | none =>
      have hscan : scanner.scan.1 = .ok none := by simp [scan, hcut]
      simp only [hscan, Vocabulary.reads_iff_of_cut?_eq_none hcut]
      simp [eq_comm]
    | some cut =>
      have hbehind : scanner.scan.2.rest = cut.rest := by simp [scan, hcut]
      have hshorter : scanner.scan.2.rest.length < n := by
        rw [hbehind, ← hlength]
        exact Lexeme.length_lt_of_cut? hcut
      simp only [Vocabulary.reads_iff_of_cut?_eq_some hcut]
      cases htoken : cut.lexeme.token? scanner.vocabulary with
      | none =>
        have hscan : ∃ error, scanner.scan.1 = .error error := by
          simp only [scan, hcut]
          cases hresult : tokenOf scanner.source scanner.vocabulary
            (scanner.cursor + Text.byteLength cut.gap) _ cut.lexeme with
          | ok token => rw [tokenOf_eq_ok_iff, htoken] at hresult; cases hresult
          | error error => exact ⟨error, rfl⟩
        obtain ⟨error, hscan⟩ := hscan
        simp [hscan]
      | some token =>
        have hscan : scanner.scan.1 = .ok (some token) := by
          simp only [scan, hcut]
          rw [tokenOf_eq_ok_iff.2 htoken]
          rfl
        simp only [hscan]
        rw [ih _ hshorter (by simpa using hhalted) rfl, hbehind, vocabulary_scan]
        constructor
        · rintro ⟨more, rfl, hmore⟩
          exact ⟨token :: more, by simp, token, more, rfl, rfl, hmore⟩
        · rintro ⟨_, rfl, _, more, rfl, hsame, hmore⟩
          cases hsame
          exact ⟨more, by simp, hmore⟩

/-- A scanner that has not halted collects the tokens that its text is read as. -/
theorem collect_eq_ok_iff (hhalted : scanner.halted = false) {tokens : List Token} :
    scanner.collect.1 = .ok tokens ↔ scanner.vocabulary.Reads scanner.rest tokens := by
  rw [collect, collectFrom_eq_ok_iff hhalted]
  simp

end Scanner

/-- The token stream of a source has the tokens that its text is read as. -/
theorem TokenStream.ofSource_eq_some_iff {σ : Type} {source : Source}
    {vocabulary : Vocabulary} {receiver : Receiver σ LexicalError} {kept : σ}
    {stream : TokenStream} :
    (ofSource source vocabulary receiver kept).1 = some stream ↔
      vocabulary.Reads source.content stream.tokens := by
  have hcollect : ((Scanner.ofSource source).withVocabulary vocabulary).collect.1 =
      .ok stream.tokens ↔ vocabulary.Reads source.content stream.tokens :=
    Scanner.collect_eq_ok_iff rfl
  rw [← hcollect, ofSource]
  cases ((Scanner.ofSource source).withVocabulary vocabulary).collect.1 with
  | ok tokens =>
    obtain ⟨found⟩ := stream
    simp
  | error error => simp

end Lexing
