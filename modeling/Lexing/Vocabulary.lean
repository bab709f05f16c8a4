import Lexing.Number.Literal
import Lexing.Text.Alphabetic
import Lexing.Token.Basic

/-!
# Vocabularies

A vocabulary holds the reserved words and says what token a bare lexeme stands for.
A lexeme outside quotation marks is a token by what it consists of. A single character
is a symbol, a letter or a digit. A longer lexeme is a name if it is reserved, else a
number if it is a number literal, and else a string.

## Main definitions

* `Vocabulary`: the words that are reserved.
* `Vocabulary.reserve`: one more reserved word.
* `Vocabulary.classify`: the token that a lexeme stands for.
-/

namespace Lexing

/-- The words that are read as names. -/
structure Vocabulary where
  /-- The reserved words, in the order in which they were added. -/
  words : List Text
  deriving DecidableEq, Repr

namespace Vocabulary

/-- Reserves the words of the language. -/
def standard : Vocabulary :=
  ⟨ReservedWord.all.map ReservedWord.spelling⟩

instance : Inhabited Vocabulary := ⟨standard⟩

/-- Whether the lexeme is a reserved word. -/
def isReserved (vocabulary : Vocabulary) (lexeme : Text) : Bool :=
  vocabulary.words.contains lexeme

/-- Reserves one more word. A word that is reserved already changes nothing. -/
def reserve (vocabulary : Vocabulary) (word : Text) : Vocabulary :=
  if vocabulary.isReserved word then vocabulary else ⟨vocabulary.words ++ [word]⟩

/-- The language's words and the given ones. -/
def reserving (words : List Text) : Vocabulary :=
  words.foldl reserve standard

/-- The token that a single character stands for. -/
def classifyCharacter (c : Char) : Option Token :=
  match Symbol.ofChar? c with
  | some symbol => some (.symbol symbol)
  | none =>
    if isAlphabetic c then some (.name [c])
    else if c.isDigit then
      some (.number (Literal.value ⟨false, ⟨Literal.digitValue c, 0⟩⟩))
    else none

/-- The token that a lexeme of two or more characters stands for. -/
def classifyWord (vocabulary : Vocabulary) (lexeme : Text) : Token :=
  if vocabulary.isReserved lexeme then .name lexeme
  else match Literal.parse? lexeme with
    | some literal => .number literal.value
    | none => .string lexeme

/-- The token that a lexeme stands for; `none` if it is empty, or a single character
that is no symbol, letter or digit. -/
def classify (vocabulary : Vocabulary) : Text → Option Token
  | [] => none
  | [c] => classifyCharacter c
  | lexeme => some (vocabulary.classifyWord lexeme)

/-- After a word is reserved, the reserved words are that word and those of before. -/
theorem isReserved_reserve (vocabulary : Vocabulary) (word lexeme : Text) :
    (vocabulary.reserve word).isReserved lexeme =
      (lexeme == word || vocabulary.isReserved lexeme) := by
  rw [reserve]
  split
  · rename_i h
    by_cases heq : lexeme = word
    · simp [heq, h]
    · simp [heq]
  · by_cases heq : lexeme = word
    · simp [heq, isReserved]
    · simp [heq, isReserved]

end Vocabulary

end Lexing
