import Lexing.Proofs.Classification
import Lexing.Proofs.Number.Grammar
import Lexing.Proofs.Scanner.Faults

/-!
# The order in which lexemes are classified

A lexeme of two or more characters is looked up among the reserved words first, then it is
read as a number, and it is a string if both fail. A lexeme of one character never comes so
far, so it does not matter what is reserved. The two ways agree on digits: one digit stands
for the number that it is read as, like any other run of digits.

Readers of numbers take more than literals, but no lexeme is a number because of that.

## Main definitions

* `Vocabulary.ClassifiesInOrder`: what a lexeme stands for.

## Main results

* `Vocabulary.classifiesInOrder`: this holds of every vocabulary and every lexeme.
-/

namespace Lexing

namespace Vocabulary

/-- What a lexeme stands for. -/
structure ClassifiesInOrder (vocabulary : Vocabulary) (lexeme : Text) : Prop where
  /-- Nothing, and a single character that is no symbol, letter or digit, stands for no token. -/
  classify_eq_none_iff : vocabulary.classify lexeme = none ↔ lexeme = [] ∨
    ∃ c, lexeme = [c] ∧ c ∉ [';', '=', '+', '-'] ∧ isAlphabetic c = false ∧ c.isDigit = false
  /-- What a single character stands for does not depend on the vocabulary. -/
  classify_eq_of_length : ∀ other : Vocabulary, lexeme.length = 1 →
    other.classify lexeme = vocabulary.classify lexeme
  /-- A symbol is its character. -/
  symbol_iff : ∀ kind, vocabulary.classify lexeme = some (.symbol kind) ↔ lexeme = [kind.character]
  /-- A single character is a name if it is a letter. -/
  letter_iff : ∀ c text, lexeme = [c] →
    (vocabulary.classify lexeme = some (.name text) ↔ isAlphabetic c = true ∧ text = lexeme)
  /-- A single character is a number if it is a digit. -/
  digit_iff : ∀ c v, lexeme = [c] →
    (vocabulary.classify lexeme = some (.number v) ↔ c.isDigit = true ∧ lexeme.ReadsAs v)
  /-- Of two or more characters, the names are the reserved words. -/
  name_iff : ∀ text, 2 ≤ lexeme.length → (vocabulary.classify lexeme = some (.name text) ↔
    lexeme ∈ vocabulary.words ∧ text = lexeme)
  /-- If it is not reserved, a literal is the number that it is read as. -/
  number_iff : ∀ v, 2 ≤ lexeme.length → (vocabulary.classify lexeme = some (.number v) ↔
    lexeme ∉ vocabulary.words ∧ Literal.IsSpelling lexeme ∧ lexeme.ReadsAs v)
  /-- What is neither is a string. -/
  string_iff : ∀ text, vocabulary.classify lexeme = some (.string text) ↔
    2 ≤ lexeme.length ∧ lexeme ∉ vocabulary.words ∧ ¬Literal.IsSpelling lexeme ∧ text = lexeme
  /-- A literal is read as one number. -/
  existsUnique_readsAs : Literal.IsSpelling lexeme → ∃! v, lexeme.ReadsAs v
  /-- That number is nearest to what the literal spells, unless it is far too long. -/
  isNearest_magnitude : ∀ parts v, Literal.Spells lexeme parts → lexeme.length ≤ 65000 →
    lexeme.ReadsAs v → Binary64.IsNearest parts.toRat v.magnitude ∧ v.isNegative = parts.negative
  /-- Numbers are also what readers take if all lexemes with other letters are kept from them. -/
  number_iff_of_letters : ∀ v, 2 ≤ lexeme.length →
    (vocabulary.classify lexeme = some (.number v) ↔ lexeme ∉ vocabulary.words ∧
      (∀ c ∈ lexeme, isAlphabetic c = true → c = 'e' ∨ c = 'E') ∧ lexeme.ReadsAs v)
  /-- The words that readers take as numbers are none. -/
  ne_number : ∀ negative sign word v, Literal.IsSign negative sign → lexeme = sign ++ word →
    word.map Char.toLower ∈ Text.numberWords → vocabulary.classify lexeme ≠ some (.number v)
  /-- Every number has a value. -/
  isNaN_eq_false : ∀ v, vocabulary.classify lexeme = some (.number v) → v.isNaN = false
  /-- Digits are what they are read as, be it one of them or more. -/
  exists_readsAs_of_isDigits : lexeme ≠ [] → lexeme.IsDigits →
    (2 ≤ lexeme.length → lexeme ∉ vocabulary.words) →
    ∃ v, vocabulary.classify lexeme = some (.number v) ∧ lexeme.ReadsAs v

variable {vocabulary : Vocabulary} {lexeme text : Text} {v : Binary64}

theorem isReserved_iff : vocabulary.isReserved text = true ↔ text ∈ vocabulary.words := by
  simp [isReserved]

theorem isReserved_eq_false_iff : vocabulary.isReserved text = false ↔ text ∉ vocabulary.words := by
  rw [← isReserved_iff, Bool.not_eq_true]

theorem classify_eq_name_iff (htwo : 2 ≤ lexeme.length) :
    vocabulary.classify lexeme = some (.name text) ↔ lexeme ∈ vocabulary.words ∧ text = lexeme := by
  rw [classify_eq_some_iff]
  constructor
  · intro h
    cases h with
    | letter hletter => simp at htwo
    | reserved _ hreserved => exact ⟨isReserved_iff.1 hreserved, rfl⟩
  · rintro ⟨hword, rfl⟩
    exact .reserved htwo (isReserved_iff.2 hword)

theorem classify_eq_number_iff (htwo : 2 ≤ lexeme.length) :
    vocabulary.classify lexeme = some (.number v) ↔
      lexeme ∉ vocabulary.words ∧ Literal.IsSpelling lexeme ∧ lexeme.ReadsAs v := by
  rw [classify_eq_some_iff]
  constructor
  · intro h
    cases h with
    | digit hdigit => simp at htwo
    | literal _ hreserved hparse =>
      exact ⟨isReserved_eq_false_iff.1 hreserved, Literal.isSpelling_iff.2 ⟨_, hparse⟩,
        (Text.readsAs_iff_of_parse? hparse).2 rfl⟩
  · rintro ⟨hword, hspelling, hreads⟩
    obtain ⟨literal, hparse⟩ := Literal.isSpelling_iff.1 hspelling
    rw [(Text.readsAs_iff_of_parse? hparse).1 hreads]
    exact .literal htwo (isReserved_eq_false_iff.2 hword) hparse

theorem classify_eq_string_iff : vocabulary.classify lexeme = some (.string text) ↔
    2 ≤ lexeme.length ∧ lexeme ∉ vocabulary.words ∧ ¬Literal.IsSpelling lexeme ∧ text = lexeme := by
  rw [classify_eq_some_iff]
  constructor
  · intro h
    cases h with
    | string htwo hreserved hparse =>
      refine ⟨htwo, isReserved_eq_false_iff.1 hreserved, fun hspelling => ?_, rfl⟩
      obtain ⟨literal, hliteral⟩ := Literal.isSpelling_iff.1 hspelling
      rw [hparse] at hliteral
      cases hliteral
  · rintro ⟨htwo, hword, hspelling, rfl⟩
    refine .string htwo (isReserved_eq_false_iff.2 hword) (Option.eq_none_iff_forall_ne_some.2 ?_)
    exact fun literal hparse => hspelling (Literal.isSpelling_iff.2 ⟨literal, hparse⟩)

theorem classify_eq_symbol_iff {kind : Symbol} :
    vocabulary.classify lexeme = some (.symbol kind) ↔ lexeme = [kind.character] := by
  rw [classify_eq_some_iff]
  constructor
  · intro h
    cases h with
    | symbol => rfl
  · rintro rfl
    exact .symbol kind

theorem classify_singleton_eq_name_iff {c : Char} :
    vocabulary.classify [c] = some (.name text) ↔ isAlphabetic c = true ∧ text = [c] := by
  rw [classify_eq_some_iff]
  constructor
  · intro h
    cases h with
    | letter hletter => exact ⟨hletter, rfl⟩
    | reserved htwo => simp at htwo
  · rintro ⟨hletter, rfl⟩
    exact .letter hletter

theorem classify_singleton_eq_number_iff {c : Char} :
    vocabulary.classify [c] = some (.number v) ↔ c.isDigit = true ∧ Text.ReadsAs [c] v := by
  have hread : c.isDigit = true →
      (vocabulary.classify [c] = some (.number v) ↔ Text.ReadsAs [c] v) := by
    intro hdigit
    obtain ⟨literal, hparse, hclassify⟩ := classifyCharacter_of_isDigit hdigit
    rw [Text.readsAs_iff_of_parse? hparse, classify, hclassify]
    simp [eq_comm]
  constructor
  · intro h
    have hdigit : c.isDigit = true := by
      cases classifies_of_classify h with
      | digit hdigit => exact hdigit
      | literal htwo => simp at htwo
    exact ⟨hdigit, (hread hdigit).1 h⟩
  · rintro ⟨hdigit, hreads⟩
    exact (hread hdigit).2 hreads

/-- Every number is what a literal is read as. -/
theorem exists_parse?_of_classify (h : vocabulary.classify lexeme = some (.number v)) :
    ∃ literal, Literal.parse? lexeme = some literal ∧ v = literal.value := by
  cases classifies_of_classify h with
  | @digit c hdigit =>
    obtain ⟨literal, hparse, hclassify⟩ := classifyCharacter_of_isDigit hdigit
    have hsame := hclassify.symm.trans h
    exact ⟨literal, hparse, (Token.number.inj (Option.some.inj hsame)).symm⟩
  | literal _ _ hparse => exact ⟨_, hparse, rfl⟩

theorem exists_classify_of_isDigits (hne : lexeme ≠ []) (hdigits : lexeme.IsDigits)
    (hword : 2 ≤ lexeme.length → lexeme ∉ vocabulary.words) :
    ∃ v, vocabulary.classify lexeme = some (.number v) ∧ lexeme.ReadsAs v := by
  have hspelling := hdigits.isSpelling hne
  obtain ⟨literal, hparse⟩ := Literal.isSpelling_iff.1 hspelling
  have hreads := (Text.readsAs_iff_of_parse? hparse).2 rfl
  refine ⟨literal.value, ?_, hreads⟩
  match lexeme with
  | [] => exact absurd rfl hne
  | [c] => exact classify_singleton_eq_number_iff.2 ⟨hdigits c List.mem_cons_self, hreads⟩
  | c :: d :: rest =>
    have htwo : 2 ≤ (c :: d :: rest).length := Nat.le_add_left 2 rest.length
    exact (classify_eq_number_iff htwo).2 ⟨hword htwo, hspelling, hreads⟩

end Vocabulary

theorem Binary64.isNegative_ofMagnitude (negative : Bool) {m : Nat} (h : m ≤ infinityMagnitude) :
    (ofMagnitude negative m).isNegative = negative := by
  have hm : m < 2 ^ 63 := Nat.lt_of_le_of_lt h (by decide)
  rw [isNegative_eq, ofMagnitude_eq]
  cases negative with
  | true =>
    simp only [if_true, UInt64.toNat_ofNat', decide_eq_true_eq]
    omega
  | false =>
    simp only [Bool.false_eq_true, if_false, UInt64.toNat_ofNat', decide_eq_false_iff_not]
    omega

namespace Vocabulary

/-- Every lexeme is classified in this order, whatever words are reserved. -/
theorem classifiesInOrder (vocabulary : Vocabulary) (lexeme : Text) :
    vocabulary.ClassifiesInOrder lexeme where
  classify_eq_none_iff := by
    by_cases hne : lexeme = []
    · simp [hne, classify]
    · simp only [classify_eq_none_iff hne, classifyCharacter_eq_none_iff, hne, false_or]
  classify_eq_of_length other hlength := by
    obtain ⟨c, rfl⟩ := List.length_eq_one_iff.1 hlength
    rfl
  symbol_iff _ := classify_eq_symbol_iff
  letter_iff := by
    rintro c text rfl
    exact classify_singleton_eq_name_iff
  digit_iff := by
    rintro c v rfl
    exact classify_singleton_eq_number_iff
  name_iff _ htwo := classify_eq_name_iff htwo
  number_iff _ htwo := classify_eq_number_iff htwo
  string_iff _ := classify_eq_string_iff
  existsUnique_readsAs := by
    intro hspelling
    obtain ⟨literal, hparse⟩ := Literal.isSpelling_iff.1 hspelling
    exact ⟨literal.value, (Text.readsAs_iff_of_parse? hparse).2 rfl,
      fun _ => (Text.readsAs_iff_of_parse? hparse).1⟩
  isNearest_magnitude := by
    intro parts v hspells hlength hreads
    have hle := parts.literal.decimal.isNearest_nearest.le_infinity
    rw [(Text.readsAs_iff_of_spells hspells).1 hreads, Literal.value,
      Binary64.magnitude_ofMagnitude _ hle, Binary64.isNegative_ofMagnitude _ hle]
    exact ⟨hspells.isNearest_toRat hlength, rfl⟩
  number_iff_of_letters := by
    intro v htwo
    rw [classify_eq_number_iff htwo, Text.readsAs_iff_of_letters]
  ne_number := by
    rintro negative sign word v - rfl hword h
    obtain ⟨literal, hparse, -⟩ := exists_parse?_of_classify h
    exact Text.not_isSpelling_of_mem_numberWords hword (Literal.isSpelling_iff.2 ⟨literal, hparse⟩)
  isNaN_eq_false := by
    intro v h
    obtain ⟨literal, -, rfl⟩ := exists_parse?_of_classify h
    exact Binary64.isNaN_value literal
  exists_readsAs_of_isDigits := exists_classify_of_isDigits

end Vocabulary

end Lexing
