import Lexing.Proofs.Number.ReadBack

/-!
# What a lexeme stands for

A lexeme of one character is a symbol, a letter or a digit. A longer one is a name if it is
reserved, a number if it is a literal, and a string otherwise. `Vocabulary.Classifies` has
one case for each of these; facts about the token of a lexeme are case distinctions on it.

## Main definitions

* `Vocabulary.Classifies`: the token of a lexeme, and why it is that one.

## Main results

* `Vocabulary.classify_eq_some_iff`: lexemes are classified in these ways.
-/

namespace Lexing

theorem ofChar?_of_isAlphabetic {c : Char} (h : isAlphabetic c = true) :
    Symbol.ofChar? c = none := by
  cases hsymbol : Symbol.ofChar? c with
  | none => rfl
  | some symbol =>
    rw [Symbol.ofChar?_eq_some_iff.1 hsymbol] at h
    cases symbol <;> revert h <;> decide

namespace Vocabulary

/-- A lexeme and the token that it stands for. -/
inductive Classifies (vocabulary : Vocabulary) : Text → Token → Prop
  | symbol (kind : Symbol) : Classifies vocabulary [kind.character] (.symbol kind)
  | letter {c : Char} (hletter : isAlphabetic c = true) : Classifies vocabulary [c] (.name [c])
  | digit {c : Char} (hdigit : c.isDigit = true) :
    Classifies vocabulary [c] (.number (Literal.value ⟨false, ⟨Literal.digitValue c, 0⟩⟩))
  | reserved {text : Text} (htwo : 2 ≤ text.length)
      (hreserved : vocabulary.isReserved text = true) : Classifies vocabulary text (.name text)
  | literal {text : Text} {literal : Literal} (htwo : 2 ≤ text.length)
      (hreserved : vocabulary.isReserved text = false)
      (hparse : Literal.parse? text = some literal) :
    Classifies vocabulary text (.number literal.value)
  | string {text : Text} (htwo : 2 ≤ text.length)
      (hreserved : vocabulary.isReserved text = false) (hparse : Literal.parse? text = none) :
    Classifies vocabulary text (.string text)

variable {vocabulary : Vocabulary} {text : Text} {token : Token}

theorem classify_of_two_le (h : 2 ≤ text.length) :
    vocabulary.classify text = some (vocabulary.classifyWord text) := by
  match text with
  | [] => simp at h
  | [c] => simp at h
  | c :: d :: rest => rfl

theorem Classifies.classify_eq (h : vocabulary.Classifies text token) :
    vocabulary.classify text = some token := by
  cases h with
  | symbol kind => simp only [classify, classifyCharacter, Symbol.ofChar?_eq_some_iff.2 rfl]
  | letter hletter =>
    simp [classify, classifyCharacter, ofChar?_of_isAlphabetic hletter, hletter]
  | digit hdigit =>
    obtain ⟨hsymbol, hletter⟩ := kind_of_isDigit hdigit
    simp [classify, classifyCharacter, hsymbol, hletter, hdigit]
  | reserved htwo hreserved => simp [classify_of_two_le htwo, classifyWord, hreserved]
  | literal htwo hreserved hparse => simp [classify_of_two_le htwo, classifyWord, hreserved, hparse]
  | string htwo hreserved hparse => simp [classify_of_two_le htwo, classifyWord, hreserved, hparse]

theorem classifies_of_classify (h : vocabulary.classify text = some token) :
    vocabulary.Classifies text token := by
  match text with
  | [] => cases h
  | [c] =>
    simp only [classify, classifyCharacter] at h
    cases hsymbol : Symbol.ofChar? c with
    | some kind =>
      obtain rfl := Symbol.ofChar?_eq_some_iff.1 hsymbol
      rw [hsymbol] at h
      cases h
      exact .symbol kind
    | none =>
      rw [hsymbol] at h
      by_cases hletter : isAlphabetic c = true
      · simp only [hletter, if_true] at h
        cases h
        exact .letter hletter
      · by_cases hdigit : c.isDigit = true
        · simp only [hletter, hdigit, if_true, Bool.false_eq_true, if_false] at h
          cases h
          exact .digit hdigit
        · simp [hletter, hdigit] at h
  | c :: d :: rest =>
    obtain rfl := Option.some.inj h
    have htwo : 2 ≤ (c :: d :: rest).length := Nat.le_add_left 2 rest.length
    rw [classifyWord]
    by_cases hreserved : vocabulary.isReserved (c :: d :: rest) = true
    · rw [if_pos hreserved]
      exact .reserved htwo hreserved
    · rw [if_neg hreserved]
      rw [Bool.not_eq_true] at hreserved
      split
      · rename_i hparse
        exact .literal htwo hreserved hparse
      · rename_i hparse
        exact .string htwo hreserved hparse

theorem classify_eq_some_iff :
    vocabulary.classify text = some token ↔ vocabulary.Classifies text token :=
  ⟨classifies_of_classify, Classifies.classify_eq⟩

end Vocabulary

end Lexing
