import Lexing.Proofs.Classification
import Lexing.Proofs.Scanner.Reads

/-!
# Showing tokens and reading them again

The tokens of a source can be shown with blanks between them, and the text that this
gives can be scanned in its turn. A token survives this if what is read at its place is
the token itself. All tokens of a stream are read again exactly if each of them
survives: where the first one does not, another token is read at its place.

## Main definitions

* `Separator`: what stands between two tokens.
* `Token.spaced`: tokens as they are shown, with separators between them.
* `Token.Survives`: the tokens that can be read again.

## Main results

* `Vocabulary.reads_spaced_iff`: which lists of tokens are read again.
* `TokenStream.ofSource_spaced_iff`: the same of the stream of a source.
-/

namespace Lexing

/-- A run of blanks that keeps two tokens apart. -/
structure Separator where
  /-- The blanks. -/
  run : Text
  /-- There is at least one. -/
  run_ne_nil : run ≠ []
  /-- There is nothing else in it. -/
  isGap_run : IsGap run

namespace Token

/-- The tokens as they are shown, with a separator in front of each. -/
def followed (separator : Nat → Separator) : List Token → Text
  | [] => []
  | token :: rest =>
    (separator 0).run ++ (token.text ++ followed (fun i => separator (i + 1)) rest)

/-- The tokens as they are shown, with a separator between each two of them. -/
def spaced (separator : Nat → Separator) : List Token → Text
  | [] => []
  | token :: rest => token.text ++ followed separator rest

/-- The token that is read where this one is shown is this one. -/
def Survives (vocabulary : Vocabulary) : Token → Prop
  | name _ => True
  | symbol _ => True
  | number x =>
    x.isInfinite = false ∧ (2 ≤ x.text.length → vocabulary.isReserved x.text = false)
  | string content => '"' ∉ content

theorem startsWithBlank_followed (separator : Nat → Separator) (tokens : List Token) :
    StartsWithBlank (followed separator tokens) := by
  cases tokens with
  | nil => exact IsGap.nil.startsWithBlank
  | cons token rest =>
    exact (separator 0).isGap_run.startsWithBlank_append (separator 0).run_ne_nil _

theorem exists_followed_eq (separator : Nat → Separator) (tokens : List Token) :
    ∃ gap separator', IsGap gap ∧ followed separator tokens = gap ++ spaced separator' tokens := by
  cases tokens with
  | nil => exact ⟨[], separator, IsGap.nil, rfl⟩
  | cons token rest =>
    exact ⟨(separator 0).run, fun i => separator (i + 1), (separator 0).isGap_run, rfl⟩

end Token

namespace Vocabulary

variable {vocabulary : Vocabulary}

theorem eq_of_classify_eq_name {text identifier : Text}
    (h : vocabulary.classify text = some (.name identifier)) : text = identifier := by
  cases classify_eq_some_iff.1 h with
  | letter => rfl
  | reserved => rfl

theorem exists_value_of_classify_eq_number {text : Text} {x : Binary64}
    (h : vocabulary.classify text = some (.number x)) : ∃ literal : Literal, literal.value = x := by
  cases classify_eq_some_iff.1 h with
  | digit => exact ⟨_, rfl⟩
  | literal => exact ⟨_, rfl⟩

/-- Every token that a text is read as is the token of a whole lexeme. -/
theorem Reads.exists_lexeme {text : Text} {tokens : List Token}
    (h : vocabulary.Reads text tokens) {token : Token} (hmem : token ∈ tokens) :
    ∃ lexeme rest, Lexeme.Precedes lexeme rest ∧ lexeme.token? vocabulary = some token := by
  induction h with
  | finished => cases hmem
  | @token text cut first tokens hcut htoken _ ih =>
    rcases List.mem_cons.1 hmem with rfl | hmem
    · exact ⟨cut.lexeme, cut.rest, (Lexeme.cut?_eq_some_iff.1 hcut).2.2, htoken⟩
    · exact ih hmem

/-- A token that was read, other than a string, is shown as a bare lexeme, which stands
for it again exactly if the token survives. -/
theorem classify_text_iff {lexeme : Lexeme} {rest : Text} {token : Token}
    (hlexeme : lexeme.Precedes rest) (htoken : lexeme.token? vocabulary = some token)
    (hstring : ∀ content, token ≠ .string content) :
    IsBare token.text ∧
      (vocabulary.classify token.text = some token ↔ token.Survives vocabulary) := by
  cases lexeme with
  | unclosed content => cases htoken
  | quoted content => exact absurd (Option.some.inj htoken).symm (hstring content)
  | bare text =>
    simp only [Lexeme.token?] at htoken
    cases token with
    | string content => exact absurd rfl (hstring content)
    | name identifier =>
      obtain rfl := eq_of_classify_eq_name htoken
      exact ⟨hlexeme.1, by simp [Token.text, Token.Survives, htoken]⟩
    | symbol kind =>
      refine ⟨?_, by simp [Token.text, Token.Survives, (Classifies.symbol kind).classify_eq]⟩
      cases kind <;> decide
    | number x =>
      obtain ⟨literal, rfl⟩ := exists_value_of_classify_eq_number htoken
      refine ⟨Binary64.isBare_text _, ?_⟩
      have hnumber := Binary64.isNaN_value literal
      generalize literal.value = x at hnumber
      simp only [Token.text, Token.Survives]
      cases hinfinite : x.isInfinite with
      | true => simp [classify_text_ne vocabulary hinfinite]
      | false =>
        rw [classify_text vocabulary (Binary64.magnitude_lt hnumber hinfinite)]
        by_cases hlength : 2 ≤ x.text.length
        · cases vocabulary.isReserved x.text <;> simp [hlength]
        · simp [hlength]

/-- Where a token that was read is shown, a lexeme is read that stands for the token
exactly if the token survives. -/
theorem exists_cut?_text {lexeme : Lexeme} {other : Text} {token : Token}
    (hlexeme : lexeme.Precedes other) (htoken : lexeme.token? vocabulary = some token)
    {gap rest : Text} (hgap : IsGap gap) (hrest : StartsWithBlank rest) :
    ∃ cut, Lexeme.cut? (gap ++ (token.text ++ rest)) = some cut ∧
      (token.Survives vocabulary → cut.rest = rest) ∧
      (cut.lexeme.token? vocabulary = some token ↔ token.Survives vocabulary) := by
  by_cases hstring : ∃ content, token = .string content
  · obtain ⟨content, rfl⟩ := hstring
    by_cases hquote : '"' ∈ content
    · -- The first quotation mark in the string ends it when it is read again.
      obtain ⟨before, after, rfl, hbefore⟩ := List.eq_append_cons_of_mem hquote
      refine ⟨⟨gap, .quoted before, after ++ '"' :: rest⟩, ?_, ?_, ?_⟩
      · exact Lexeme.cut?_eq_some_iff.2 ⟨by simp [Token.text, Lexeme.written], hgap, hbefore⟩
      · exact fun hsurvives => absurd hquote hsurvives
      · simp [Lexeme.token?, Token.Survives]
    · refine ⟨⟨gap, .quoted content, rest⟩, ?_, fun _ => rfl, ?_⟩
      · exact Lexeme.cut?_eq_some_iff.2 ⟨by simp [Token.text, Lexeme.written], hgap, hquote⟩
      · simp [Lexeme.token?, Token.Survives, hquote]
  · obtain ⟨hbare, hclassify⟩ := classify_text_iff hlexeme htoken
      fun content heq => hstring ⟨content, heq⟩
    refine ⟨⟨gap, .bare token.text, rest⟩, ?_, fun _ => rfl, hclassify⟩
    exact Lexeme.cut?_eq_some_iff.2 ⟨rfl, hgap, hbare, hrest⟩

/-- Tokens that were read are read again exactly if all of them survive. -/
theorem reads_spaced_iff {tokens : List Token}
    (htokens : ∀ token ∈ tokens,
      ∃ lexeme rest, Lexeme.Precedes lexeme rest ∧ lexeme.token? vocabulary = some token)
    (separator : Nat → Separator) {gap : Text} (hgap : IsGap gap) :
    vocabulary.Reads (gap ++ Token.spaced separator tokens) tokens ↔
      ∀ token ∈ tokens, token.Survives vocabulary := by
  induction tokens generalizing separator gap with
  | nil =>
    have hblank : IsGap (gap ++ Token.spaced separator []) := by simpa [Token.spaced] using hgap
    simpa using Reads.finished (Lexeme.cut?_eq_none_iff.2 hblank)
  | cons token rest ih =>
    obtain ⟨lexeme, other, hlexeme, htoken⟩ := htokens token (by simp)
    obtain ⟨cut, hcut, hrest, hsame⟩ := exists_cut?_text hlexeme htoken hgap
      (Token.startsWithBlank_followed separator rest)
    obtain ⟨next, separator', hnext, hfollowed⟩ := Token.exists_followed_eq separator rest
    have hih := ih (fun later hlater => htokens later (by simp [hlater])) separator' hnext
    rw [Token.spaced, reads_iff_of_cut?_eq_some hcut, List.forall_mem_cons]
    constructor
    · rintro ⟨_, more, heq, hread, hmore⟩
      obtain ⟨rfl, rfl⟩ := List.cons.inj heq
      have hsurvives := hsame.1 hread
      rw [hrest hsurvives, hfollowed] at hmore
      exact ⟨hsurvives, hih.1 hmore⟩
    · rintro ⟨hsurvives, hall⟩
      refine ⟨token, rest, rfl, hsame.2 hsurvives, ?_⟩
      rw [hrest hsurvives, hfollowed]
      exact hih.2 hall

end Vocabulary

/-- The tokens of a source, shown with any separators between them, are read again
exactly if no string among them has a quotation mark in it, no number is infinite, and
no number that is shown with two or more characters is a reserved word. -/
theorem TokenStream.ofSource_spaced_iff {σ τ : Type} {source shown : Source}
    {vocabulary : Vocabulary} {receiver : Receiver σ LexicalError} {kept : σ}
    {stream : TokenStream} (h : (ofSource source vocabulary receiver kept).1 = some stream)
    (separator : Nat → Separator)
    (hshown : shown.content = Token.spaced separator stream.tokens)
    (again : Receiver τ LexicalError) (keptAgain : τ) :
    (ofSource shown vocabulary again keptAgain).1 = some stream ↔
      (∀ content, .string content ∈ stream.tokens → '"' ∉ content) ∧
      (∀ x, .number x ∈ stream.tokens → x.isInfinite = false) ∧
      ∀ x, .number x ∈ stream.tokens → 2 ≤ x.text.length →
        vocabulary.isReserved x.text = false := by
  have hreads := ofSource_eq_some_iff.1 h
  have hspaced := Vocabulary.reads_spaced_iff (fun token hmem => hreads.exists_lexeme hmem)
    separator IsGap.nil
  rw [List.nil_append, ← hshown] at hspaced
  rw [ofSource_eq_some_iff, hspaced]
  constructor
  · intro hall
    exact ⟨fun content hmem => hall _ hmem, fun x hmem => (hall _ hmem).1,
      fun x hmem => (hall _ hmem).2⟩
  · rintro ⟨hstring, hinfinite, hreserved⟩ token hmem
    cases token with
    | name identifier => trivial
    | symbol kind => trivial
    | number x => exact ⟨hinfinite x hmem, hreserved x hmem⟩
    | string content => exact hstring content hmem

/-- A bare string with a quotation mark in it is not read again: shown between quotation
marks, it ends at the one inside. -/
theorem TokenStream.ofSource_spaced_inner_quote :
    let separator : Nat → Separator := fun _ => ⟨[' '], by decide, by decide⟩
    let tokens : List Token := [.string ['a', '"', 'b'], .symbol .minus]
    (ofSource ⟨0, [], ['a', '"', 'b', ' ', '-']⟩ .standard Receiver.ignoring ()).1 =
        some ⟨tokens⟩ ∧
      (ofSource ⟨1, [], Token.spaced separator tokens⟩ .standard Receiver.ignoring ()).1 ≠
        some ⟨tokens⟩ := by
  intro separator tokens
  have hread : (ofSource ⟨0, [], ['a', '"', 'b', ' ', '-']⟩ .standard
      Receiver.ignoring ()).1 = some ⟨tokens⟩ := by
    refine ofSource_eq_some_iff.2 ?_
    have hfirst : Lexeme.cut? ['a', '"', 'b', ' ', '-'] =
        some ⟨[], .bare ['a', '"', 'b'], [' ', '-']⟩ := by rfl
    have hlast : Lexeme.cut? [' ', '-'] = some ⟨[' '], .bare ['-'], []⟩ := by rfl
    exact .token hfirst rfl (.token hlast rfl (.finished rfl))
  refine ⟨hread, fun hagain => ?_⟩
  have hsurvive := (ofSource_spaced_iff hread separator rfl Receiver.ignoring ()).1 hagain
  exact hsurvive.1 ['a', '"', 'b'] (by simp [tokens]) (by decide)

end Lexing
