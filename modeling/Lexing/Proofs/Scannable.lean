import Lexing.Proofs.Number.Spelling
import Lexing.Proofs.Redisplay
import Lexing.Proofs.ReservedWords

/-!
# Tokens that can be scanned

Not every token comes out of a text. A name is a letter or a reserved word, a number is
never NaN, and a string either has no quotation mark in it or could have been written
bare. These are all the restrictions there are: each token that keeps to them can be
spelled, whichever words are reserved, and the spellings of any tokens, with blanks in
front of them, make up a text that is read as these tokens.

## Main definitions

* `Token.IsScannable`: the tokens that can be scanned when some words are reserved.

## Main results

* `Vocabulary.Reads.isScannable`: no other tokens are read.
* `Vocabulary.exists_reads`: all lists of them are.
* `TokenStream.exists_ofSource_iff`: the token streams of all sources.
-/

namespace Lexing

section Letters

namespace CharacterSet

/-- Whether no range of one set meets a range of the other. -/
def isDisjoint (a b : CharacterSet) : Bool :=
  a.ranges.all fun r => b.ranges.all fun s => decide (r.2 < s.1) || decide (s.2 < r.1)

theorem contains_eq_false_of_isDisjoint {a b : CharacterSet} (h : a.isDisjoint b = true)
    {c : Char} (hc : a.contains c = true) : b.contains c = false := by
  rw [Bool.eq_false_iff]
  intro hb
  obtain ⟨r, hr, hrc⟩ := contains_iff.1 hc
  obtain ⟨s, hs, hsc⟩ := contains_iff.1 hb
  have hapart := List.all_eq_true.1 (List.all_eq_true.1 h r hr) s hs
  simp only [Bool.or_eq_true, decide_eq_true_eq] at hapart
  omega

end CharacterSet

theorem isBlank_of_isAlphabetic {c : Char} (h : isAlphabetic c = true) : isBlank c = false :=
  CharacterSet.contains_eq_false_of_isDisjoint (a := alphabeticSet) (by decide +kernel) h

theorem isBare_of_isAlphabetic {c : Char} (h : isAlphabetic c = true) : IsBare [c] := by
  refine ⟨by simp, ?_, ?_⟩
  · intro hquote
    obtain rfl : c = '"' := by simpa using hquote
    revert h
    decide
  · intro d hd
    obtain rfl := List.mem_singleton.1 hd
    exact isBlank_of_isAlphabetic h

end Letters

/-- The tokens that can be scanned if `words` are the reserved words. -/
def Token.IsScannable (words : List Text) : Token → Prop
  | name identifier =>
    (∃ c, identifier = [c] ∧ isAlphabetic c = true) ∨
      (identifier ∈ words ∧ 2 ≤ identifier.length ∧ IsBare identifier)
  | symbol _ => True
  | number x => x.isNaN = false
  | string content =>
    '"' ∉ content ∨ ('"' ∈ content ∧ IsBare content ∧ content ∉ words)

namespace Vocabulary

variable {vocabulary : Vocabulary} {words : List Text}

theorem Classifies.isScannable (hwords : ∀ w, vocabulary.isReserved w = true ↔ w ∈ words)
    {text : Text} (hbare : IsBare text) {token : Token} (h : vocabulary.Classifies text token) :
    token.IsScannable words := by
  cases h with
  | symbol kind => trivial
  | letter hletter => exact Or.inl ⟨_, rfl, hletter⟩
  | digit => exact Binary64.isNaN_value _
  | reserved htwo hreserved => exact Or.inr ⟨(hwords _).1 hreserved, htwo, hbare⟩
  | literal => exact Binary64.isNaN_value _
  | string _ hreserved =>
    by_cases hquote : '"' ∈ text
    · have hmem : text ∉ words := by
        rw [← hwords, hreserved]
        exact Bool.false_ne_true
      exact Or.inr ⟨hquote, hbare, hmem⟩
    · exact Or.inl hquote

theorem Reads.isScannable (hwords : ∀ w, vocabulary.isReserved w = true ↔ w ∈ words)
    {text : Text} {tokens : List Token} (h : vocabulary.Reads text tokens) {token : Token}
    (hmem : token ∈ tokens) : token.IsScannable words := by
  obtain ⟨lexeme, rest, hlexeme, htoken⟩ := h.exists_lexeme hmem
  cases lexeme with
  | bare text => exact (classify_eq_some_iff.1 htoken).isScannable hwords hlexeme.1
  | quoted content =>
    obtain rfl := Option.some.inj htoken
    exact Or.inl hlexeme
  | unclosed content => cases htoken

theorem two_le_length_of_inner_quote {text : Text} (hbare : IsBare text) (hquote : '"' ∈ text) :
    2 ≤ text.length := by
  cases text with
  | nil => cases hquote
  | cons c rest =>
    cases rest with
    | nil =>
      obtain rfl := List.mem_singleton.1 hquote
      exact absurd rfl hbare.head?_ne
    | cons d rest => exact Nat.le_add_left 2 rest.length

/-- There is a bare text that stands for the number, whichever words are reserved. -/
theorem exists_classifies_number (vocabulary : Vocabulary) {x : Binary64}
    (hnumber : x.isNaN = false) :
    ∃ text, IsBare text ∧ vocabulary.Classifies text (.number x) := by
  -- A text that is longer than all reserved words together is none of them.
  obtain ⟨text, literal, hlong, hbare, hparse, hvalue⟩ :=
    x.exists_long_spelling hnumber (vocabulary.words.flatten.length + 1)
  have hreserved : vocabulary.isReserved text = false := by
    rw [isReserved, List.contains_eq_mem]
    apply decide_eq_false
    intro hmem
    have hle := (List.sublist_flatten_of_mem hmem).length_le
    omega
  refine ⟨text, hbare, ?_⟩
  rw [← hvalue]
  exact .literal (by omega) hreserved hparse

/-- A token that can be scanned has a lexeme that stands for it. -/
theorem exists_lexeme (hwords : ∀ w, vocabulary.isReserved w = true ↔ w ∈ words)
    {token : Token} (h : token.IsScannable words) :
    ∃ lexeme : Lexeme, lexeme.token? vocabulary = some token ∧
      ∀ rest, StartsWithBlank rest → lexeme.Precedes rest := by
  -- A bare lexeme will do for all tokens but the strings without a quotation mark.
  have hspelled {text : Text} (hbare : IsBare text)
      (hclassifies : vocabulary.Classifies text token) :
      ∃ lexeme : Lexeme, lexeme.token? vocabulary = some token ∧
        ∀ rest, StartsWithBlank rest → lexeme.Precedes rest :=
    ⟨.bare text, hclassifies.classify_eq, fun _ hrest => ⟨hbare, hrest⟩⟩
  cases token with
  | name identifier =>
    rcases h with ⟨c, rfl, hletter⟩ | ⟨hmem, htwo, hidentifier⟩
    · exact hspelled (isBare_of_isAlphabetic hletter) (.letter hletter)
    · exact hspelled hidentifier (.reserved htwo ((hwords _).2 hmem))
  | symbol kind => exact hspelled (by cases kind <;> decide) (.symbol kind)
  | number x =>
    obtain ⟨text, htext, hclassifies⟩ := vocabulary.exists_classifies_number h
    exact hspelled htext hclassifies
  | string content =>
    rcases h with hquote | ⟨hquote, hcontent, hmem⟩
    · exact ⟨.quoted content, rfl, fun _ _ => hquote⟩
    · have hreserved : vocabulary.isReserved content = false :=
        Bool.eq_false_iff.2 (mt (hwords _).1 hmem)
      exact hspelled hcontent (.string (two_le_length_of_inner_quote hcontent hquote) hreserved
        (Literal.parse?_eq_none_of_mem hquote))

theorem exists_reads (hwords : ∀ w, vocabulary.isReserved w = true ↔ w ∈ words)
    {tokens : List Token} (h : ∀ token ∈ tokens, token.IsScannable words) :
    ∃ text, StartsWithBlank text ∧ vocabulary.Reads text tokens := by
  induction tokens with
  | nil => exact ⟨[], IsGap.nil.startsWithBlank, .finished rfl⟩
  | cons token tokens ih =>
    obtain ⟨htoken, htokens⟩ := List.forall_mem_cons.1 h
    obtain ⟨rest, hstart, hreads⟩ := ih htokens
    obtain ⟨lexeme, hlexeme, hprecedes⟩ := exists_lexeme hwords htoken
    have hgap : IsGap [' '] := by decide
    have hcut : Lexeme.cut? ([' '] ++ (lexeme.written ++ rest)) = some ⟨[' '], lexeme, rest⟩ :=
      Lexeme.cut?_eq_some_iff.2 ⟨rfl, hgap, hprecedes rest hstart⟩
    exact ⟨_, hgap.startsWithBlank_append (by simp) _, .token hcut hlexeme hreads⟩

end Vocabulary

/-- How the words of the language are written. -/
def ReservedWord.spellings : List Text :=
  all.map spelling

theorem Vocabulary.isReserved_reserving_iff (words : List Text) (w : Text) :
    (reserving words).isReserved w = true ↔ w ∈ ReservedWord.spellings ++ words := by
  rw [isReserved_reserving, List.mem_append, Bool.or_eq_true,
    List.contains_iff_mem, isReserved, List.contains_iff_mem]
  rfl

theorem Token.isSome_reservedWord?_name {identifier : Text} :
    (name identifier).reservedWord?.isSome ↔ identifier ∈ ReservedWord.spellings := by
  have hparse : (name identifier).reservedWord?.isSome ↔
      ∃ word : ReservedWord, identifier = word.spelling := by
    rw [reservedWord?]
    constructor
    · intro h
      cases hword : ReservedWord.parse identifier with
      | ok word => exact ⟨word, ReservedWord.parse_eq_ok_iff.1 hword⟩
      | error refusal =>
        rw [hword] at h
        cases h
    · rintro ⟨word, rfl⟩
      rw [ReservedWord.parse_eq_ok_iff.2 rfl]
      rfl
  rw [hparse, ReservedWord.spellings, List.mem_map]
  constructor
  · rintro ⟨word, rfl⟩
    exact ⟨word, word.mem_all, rfl⟩
  · rintro ⟨word, -, rfl⟩
    exact ⟨word, rfl⟩

namespace TokenStream

variable {σ : Type}

/-- The token streams that there can be if some words are reserved are the lists of tokens
that can be scanned. A name among them is a word of the language exactly if it is spelled
like one, and, if no other words are reserved, exactly if it is longer than a letter. -/
theorem exists_ofSource_iff (receiver : Receiver σ LexicalError) (kept : σ)
    (words : List Text) :
    (∀ tokens, (∃ source, (ofSource source (.reserving words) receiver kept).1 = some ⟨tokens⟩) ↔
      ∀ token ∈ tokens, token.IsScannable (ReservedWord.spellings ++ words)) ∧
    (∀ identifier, (Token.name identifier).reservedWord?.isSome ↔
      identifier ∈ ReservedWord.spellings) ∧
    ∀ source stream identifier,
      (ofSource source .standard receiver kept).1 = some stream →
        .name identifier ∈ stream.tokens →
          ((Token.name identifier).reservedWord?.isSome ↔ 1 < identifier.length) := by
  have hwords := Vocabulary.isReserved_reserving_iff
  refine ⟨fun tokens => ⟨?_, ?_⟩, fun _ => Token.isSome_reservedWord?_name, ?_⟩
  · rintro ⟨source, h⟩ token hmem
    exact (ofSource_eq_some_iff.1 h).isScannable (hwords words) hmem
  · intro h
    obtain ⟨text, -, hreads⟩ := Vocabulary.exists_reads (hwords words) h
    exact ⟨⟨0, [], text⟩, ofSource_eq_some_iff.2 hreads⟩
  · intro source stream identifier h hmem
    have hscannable := (ofSource_eq_some_iff.1 h).isScannable (hwords []) hmem
    rw [List.append_nil] at hscannable
    rw [Token.isSome_reservedWord?_name]
    rcases hscannable with ⟨c, rfl, -⟩ | ⟨hreserved, hlength, -⟩
    · have hlong : ∀ w ∈ ReservedWord.spellings, 1 < w.length := by decide
      exact ⟨fun hreserved => hlong _ hreserved, fun h => absurd h (by simp)⟩
    · exact ⟨fun _ => hlength, fun _ => hreserved⟩

/-- Where `42` is reserved it is a name, and the number is scanned from another spelling. -/
theorem exists_ofSource_reserved_number :
    let x : Binary64 := ⟨0x4045000000000000⟩
    let words : List Text := [['4', '2']]
    x.text = ['4', '2'] ∧
      (∃ source, (ofSource source (.reserving words) Receiver.ignoring ()).1 =
        some ⟨[.number x, .name ['4', '2'], .string ['a', '"']]⟩) ∧
      (ofSource ⟨0, [], ['l', 'e', 't']⟩ .standard Receiver.ignoring ()).1 =
        some ⟨[.name ['l', 'e', 't']]⟩ ∧
      (Token.name ['l', 'e', 't']).reservedWord?.isSome := by
  intro x words
  have hlet : (ofSource ⟨0, [], ['l', 'e', 't']⟩ .standard Receiver.ignoring ()).1 =
      some ⟨[.name ['l', 'e', 't']]⟩ := by
    have hcut : Lexeme.cut? ['l', 'e', 't'] = some ⟨[], .bare ['l', 'e', 't'], []⟩ := rfl
    exact ofSource_eq_some_iff.2 (.token hcut rfl (.finished rfl))
  obtain ⟨hiff, -, hname⟩ := exists_ofSource_iff Receiver.ignoring () words
  refine ⟨by decide +kernel, (hiff _).2 ?_, hlet, (hname _ _ _ hlet (by simp)).2 (by decide)⟩
  simp only [List.forall_mem_cons, List.not_mem_nil, false_implies, implies_true, and_true]
  refine ⟨?_, Or.inr ⟨by decide, by decide, by decide⟩, Or.inr ⟨by decide, by decide, by decide⟩⟩
  show x.isNaN = false
  decide

end TokenStream

end Lexing
