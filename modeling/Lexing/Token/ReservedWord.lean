import Lexing.Text.Offset

/-!
# Reserved words

The three words that the language itself gives a meaning.

## Main definitions

* `ReservedWord`: the words, with their `spelling`.
* `ReservedWord.parse`: the word that a text spells.
-/

namespace Lexing

/-- The words with which a statement begins. -/
inductive ReservedWord where
  /-- Begins a remark. -/
  | note
  /-- Begins an output statement. -/
  | print
  /-- Begins a definition. -/
  | letWord
  deriving DecidableEq, Repr

/-- A text that spells no reserved word. -/
structure UnknownWord where
  deriving DecidableEq, Repr

/-- The wording of the refusal. -/
def UnknownWord.message (_ : UnknownWord) : Text :=
  "invalid string representation of reserved word."

namespace ReservedWord

/-- All reserved words. -/
def all : List ReservedWord := [.note, .print, .letWord]

/-- How the word is written. -/
def spelling : ReservedWord → Text
  | .note => ['n', 'o', 't', 'e']
  | .print => ['p', 'r', 'i', 'n', 't']
  | .letWord => ['l', 'e', 't']

/-- The reserved word that the text spells. -/
def parse (text : Text) : Except UnknownWord ReservedWord :=
  match all.find? (·.spelling == text) with
  | some word => .ok word
  | none => .error ⟨⟩

theorem mem_all (word : ReservedWord) : word ∈ all := by
  cases word <;> decide

/-- A text is read as a word exactly if it is the word's spelling. -/
theorem parse_eq_ok_iff {text : Text} {word : ReservedWord} :
    parse text = .ok word ↔ text = word.spelling := by
  constructor
  · intro h
    rw [parse] at h
    split at h
    · rename_i found hfound
      cases h
      have hspelling := List.find?_some hfound
      exact (beq_iff_eq.1 hspelling).symm
    · cases h
  · rintro rfl
    cases word <;> rfl

end ReservedWord

end Lexing
