import Lexing.Report.Excerpt
import Lexing.Report.Message

/-!
# Lexical errors

What can be wrong with a text before its tokens are looked at.

## Main definitions

* `LexicalError`: the causes.
* `LexicalError.offset`: the place of an error.
* `LexicalError.render`: the report of an error.
* `LexicalError.compare?`: the order of errors.
-/

namespace Lexing

/-- Why a text could not be scanned. -/
inductive LexicalError where
  /-- The quotation mark at the start of the span is not followed by another one. -/
  | unterminatedString (span : Span)
  /-- The character, alone in the span, is no symbol, letter or digit. -/
  | unknownCharacter (span : Span) (character : Char)
  /-- The scanner stood at an offset that is no place in the text. -/
  | cursorLost (cursor : Nat)
  deriving DecidableEq, Repr

namespace LexicalError

/-- The byte offset of the error. -/
def offset : LexicalError → Nat
  | .unterminatedString span => span.start
  | .unknownCharacter span _ => span.start
  | .cursorLost cursor => cursor

/-- The line that says what is wrong. -/
def message : LexicalError → Message
  | .unterminatedString _ => ⟨.error, "found an unterminated string"⟩
  | .unknownCharacter _ c =>
    ⟨.error, ("found an unknown character `" : Text) ++ c :: ("`" : Text)⟩
  | .cursorLost cursor =>
    ⟨.error, ("the tokenizer read past the end of the source code at byte " : Text) ++
      Text.numeral cursor⟩

/-- What to do about an unknown character. -/
def unknownCharacterHelp : Text :=
  "expected `;`, `=`, `+`, `-`, a letter or a digit"

/-- The part of the source that shows the error. -/
def excerpt? : LexicalError → Option Excerpt
  | .unterminatedString span =>
    some ⟨span, some ("this string is never closed by a `\"`" : Text)⟩
  | .unknownCharacter span _ => some ⟨span, some unknownCharacterHelp⟩
  | .cursorLost _ => none

/-- The report: the message, and below it the excerpt if there is one. -/
def render (error : LexicalError) : Text :=
  match error.excerpt? with
  | some excerpt => error.message.render ++ '\n' :: excerpt.render
  | none => error.message.render

/-- The position of the error's kind among the kinds. -/
def rank : LexicalError → Nat
  | .unterminatedString _ => 0
  | .unknownCharacter _ _ => 1
  | .cursorLost _ => 2

/-- The order of two errors: by kind, then by place, then by character. Errors of one
kind in different sources have no order. -/
def compare? : LexicalError → LexicalError → Option Ordering
  | .unterminatedString a, .unterminatedString b => a.compare? b
  | .unknownCharacter a c, .unknownCharacter b d =>
    (a.compare? b).map (·.then (compare c d))
  | .cursorLost a, .cursorLost b => some (compare a b)
  | a, b => some (compare a.rank b.rank)

end LexicalError

end Lexing
