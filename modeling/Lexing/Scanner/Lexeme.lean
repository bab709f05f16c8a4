import Lexing.Text.Blank
import Lexing.Text.Offset

/-!
# Lexemes

A text falls into lexemes with blanks between them. A lexeme that begins with a
quotation mark runs to the next quotation mark, whatever is between the two; any other
one runs to the next blank. Where the lexemes are depends on nothing but the text.

## Main definitions

* `Lexeme`: the kinds of lexemes.
* `Lexeme.written`: the characters of a lexeme.
* `Lexeme.cut?`: the first lexeme of a text, with the blanks in front of it and the
  text behind it.
-/

namespace Lexing

/-- A part of a text without blanks around it. -/
inductive Lexeme where
  /-- A run of characters that are not blank. -/
  | bare (text : Text)
  /-- The content between two quotation marks. -/
  | quoted (content : Text)
  /-- What follows a quotation mark after which there is no other one. -/
  | unclosed (content : Text)
  deriving DecidableEq, Repr

namespace Lexeme

/-- The characters of the lexeme, quotation marks included. -/
def written : Lexeme → Text
  | .bare text => text
  | .quoted content => '"' :: content ++ ['"']
  | .unclosed content => '"' :: content

/-- A text cut behind its first lexeme. -/
structure Cut where
  /-- The blanks in front of the lexeme. -/
  gap : Text
  /-- The lexeme. -/
  lexeme : Lexeme
  /-- The text behind the lexeme. -/
  rest : Text
  deriving DecidableEq, Repr

/-- Whether the character is not blank. -/
def isMark (c : Char) : Bool :=
  !isBlank c

/-- Whether the character is no quotation mark. -/
def isContent (c : Char) : Bool :=
  c != '"'

/-- The lexeme at the front of a text that does not begin with a blank. -/
def first? : Text → Option (Lexeme × Text)
  | [] => none
  | '"' :: body =>
    match body.dropWhile isContent with
    | [] => some (.unclosed body, [])
    | _ :: rest => some (.quoted (body.takeWhile isContent), rest)
  | c :: body => some (.bare (c :: body.takeWhile isMark), body.dropWhile isMark)

/-- The first lexeme of the text; `none` if there are only blanks. -/
def cut? (text : Text) : Option Cut :=
  (first? (text.dropWhile isBlank)).map fun (lexeme, rest) =>
    ⟨text.takeWhile isBlank, lexeme, rest⟩

/-- Where a run of other characters ends, the character at which it ends begins the
rest. -/
theorem eq_of_dropWhile_eq_cons {c : Char} {body rest : Text}
    (h : body.dropWhile isContent = c :: rest) : c = '"' := by
  have hnot := List.head?_dropWhile_not isContent body
  rw [h] at hnot
  simpa [isContent] using hnot

/-- The front lexeme and the rest make up the text. -/
theorem written_append_of_first? {text rest : Text} {lexeme : Lexeme}
    (h : first? text = some (lexeme, rest)) : lexeme.written ++ rest = text := by
  unfold first? at h
  split at h
  · cases h
  · rename_i body
    split at h
    · cases h
      simp [written]
    · rename_i c tail hdrop
      cases h
      have hsplit := List.takeWhile_append_dropWhile (p := isContent) (l := body)
      rw [hdrop, eq_of_dropWhile_eq_cons hdrop] at hsplit
      simp [written, hsplit]
  · cases h
    simp [written, List.takeWhile_append_dropWhile]

theorem length_lt_of_first? {text rest : Text} {lexeme : Lexeme}
    (h : first? text = some (lexeme, rest)) : rest.length < text.length := by
  have hwritten := written_append_of_first? h
  have hpos : 0 < lexeme.written.length := by
    unfold first? at h
    split at h
    · cases h
    · split at h <;> cases h <;> simp [written]
    · cases h
      simp [written]
  rw [← hwritten, List.length_append]
  omega

/-- Gap, lexeme and rest make up the text. -/
theorem append_of_cut? {text : Text} {cut : Cut} (h : cut? text = some cut) :
    cut.gap ++ (cut.lexeme.written ++ cut.rest) = text := by
  obtain ⟨⟨lexeme, rest⟩, hfirst, rfl⟩ := Option.map_eq_some_iff.1 h
  rw [written_append_of_first? hfirst]
  exact List.takeWhile_append_dropWhile

/-- Behind the first lexeme there is less text than before. -/
theorem length_lt_of_cut? {text : Text} {cut : Cut} (h : cut? text = some cut) :
    cut.rest.length < text.length := by
  obtain ⟨⟨lexeme, rest⟩, hfirst, rfl⟩ := Option.map_eq_some_iff.1 h
  have hlt := length_lt_of_first? hfirst
  have hle := congrArg List.length
    (List.takeWhile_append_dropWhile (p := isBlank) (l := text))
  rw [List.length_append] at hle
  simp only at hlt ⊢
  omega

end Lexeme

end Lexing
