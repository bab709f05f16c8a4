import Lexing.Text.Offset

/-!
# Symbols

The characters that are a token by themselves, in the order in which tokens are
compared.

## Main definitions

* `Symbol`: the symbols, with the character of each.
* `Symbol.parse`: the symbol that a character stands for.
-/

namespace Lexing

/-- A character that is a token by itself. -/
inductive Symbol where
  /-- The semicolon. -/
  | semicolon
  /-- The equals sign. -/
  | equals
  /-- The plus sign. -/
  | plus
  /-- The minus sign. -/
  | minus
  deriving DecidableEq, Repr, Ord

/-- A character that is no symbol. -/
structure UnknownSymbol where
  /-- The character. -/
  character : Char
  deriving DecidableEq, Repr

/-- The wording of the refusal. -/
def UnknownSymbol.message (unknown : UnknownSymbol) : Text :=
  ("`" : Text) ++ unknown.character :: ("` is not a symbol." : Text)

namespace Symbol

/-- All symbols, in their order. -/
def all : List Symbol := [.semicolon, .equals, .plus, .minus]

/-- The character of the symbol. -/
def character : Symbol → Char
  | .semicolon => ';'
  | .equals => '='
  | .plus => '+'
  | .minus => '-'

/-- The symbol that the character stands for. -/
def ofChar? (c : Char) : Option Symbol :=
  all.find? (·.character == c)

/-- The symbol that the character stands for, or the refusal of the character. -/
def parse (c : Char) : Except UnknownSymbol Symbol :=
  match ofChar? c with
  | some symbol => .ok symbol
  | none => .error ⟨c⟩

/-- A character stands for a symbol exactly if it is the symbol's character. -/
theorem ofChar?_eq_some_iff {c : Char} {symbol : Symbol} :
    ofChar? c = some symbol ↔ c = symbol.character := by
  constructor
  · intro h
    have hcharacter := List.find?_some h
    exact (beq_iff_eq.1 hcharacter).symm
  · rintro rfl
    cases symbol <;> rfl

end Symbol

end Lexing
