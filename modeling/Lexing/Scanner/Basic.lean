import Lexing.LexicalError
import Lexing.Scanner.Lexeme
import Lexing.Vocabulary

/-!
# Scanners

A scanner stands at a place in a source and reads one token after the other.
`Scanner.scan` reads on even behind an error; `Scanner.next` is for those who want the
tokens up to the first error only, and halts there.

## Main definitions

* `Scanner`: a place in a source, with the vocabulary in use.
* `Scanner.scan`: the next token, and the scanner behind it.
* `Scanner.next`: the same, until the scanner halts.
* `Scanner.collect`: all tokens up to the end, or the first error.
-/

namespace Lexing

/-- A place in a source from which tokens are read. -/
structure Scanner where
  /-- The source that is read. -/
  source : Source
  /-- Says which token a bare lexeme is. -/
  vocabulary : Vocabulary
  /-- The byte offset of the place. -/
  cursor : Nat
  /-- The text from there on. -/
  rest : Text
  /-- Whether `next` has met the end or an error. -/
  halted : Bool
  deriving DecidableEq, Repr

namespace Scanner

/-- A scanner at the start of a source. -/
def ofSource (source : Source) : Scanner :=
  ⟨source, .standard, 0, source.content, false⟩

/-- The scanner at the same place with another vocabulary. -/
def withVocabulary (scanner : Scanner) (vocabulary : Vocabulary) : Scanner :=
  { scanner with vocabulary }

/-- The error with the given cause between two offsets. -/
def errorAt (source : Source) (start stop : Nat) (cause : Span → LexicalError) :
    LexicalError :=
  match Span.new? source start stop with
  | some span => cause span
  | none => .cursorLost start

/-- The token that a lexeme between two offsets of a source is. -/
def tokenOf (source : Source) (vocabulary : Vocabulary) (start stop : Nat) :
    Lexeme → Except LexicalError Token
  | .quoted content => .ok (.string content)
  | .unclosed _ => .error (errorAt source start stop .unterminatedString)
  | .bare text =>
    match vocabulary.classify text with
    | some token => .ok token
    | none =>
      match text with
      | [] => .error (.cursorLost start)
      | c :: _ => .error (errorAt source start stop (.unknownCharacter · c))

/-- Reads the next token, or finds that there is none. The scanner behind it has
passed what was read, even if that was an error. -/
def scan (scanner : Scanner) : Except LexicalError (Option Token) × Scanner :=
  match Lexeme.cut? scanner.rest with
  | none =>
    (.ok none,
      { scanner with cursor := scanner.cursor + Text.byteLength scanner.rest, rest := [] })
  | some cut =>
    let start := scanner.cursor + Text.byteLength cut.gap
    let stop := start + Text.byteLength cut.lexeme.written
    ((tokenOf scanner.source scanner.vocabulary start stop cut.lexeme).map some,
      { scanner with cursor := stop, rest := cut.rest })

/-- Reads the next token unless the scanner has halted. It halts at the end and at an
error. -/
def next (scanner : Scanner) : Option (Except LexicalError Token) × Scanner :=
  if scanner.halted then (none, scanner)
  else
    match scanner.scan with
    | (.ok none, behind) => (none, { behind with halted := true })
    | (.ok (some token), behind) => (some (.ok token), behind)
    | (.error error, behind) => (some (.error error), { behind with halted := true })

/-- A scanner that has read a token has less text in front of it. -/
theorem rest_length_lt_of_scan {scanner behind : Scanner} {token : Token}
    (h : scanner.scan = (.ok (some token), behind)) :
    behind.rest.length < scanner.rest.length := by
  unfold scan at h
  split at h
  · cases h
  · rename_i cut hcut
    rw [← (Prod.mk.inj h).2]
    exact Lexeme.length_lt_of_cut? hcut

/-- The same of `next`. -/
theorem rest_length_lt_of_next {scanner behind : Scanner} {token : Token}
    (h : scanner.next = (some (.ok token), behind)) :
    behind.rest.length < scanner.rest.length := by
  unfold next at h
  split at h
  · cases h
  · split at h
    · cases h
    · rename_i token' behind' hscan
      obtain ⟨-, rfl⟩ := Prod.mk.inj h
      exact rest_length_lt_of_scan hscan
    · cases h

/-- Reads on behind the tokens already `read` (latest first). -/
def collectFrom (read : List Token) (scanner : Scanner) :
    Except LexicalError (List Token) × Scanner :=
  match h : scanner.next with
  | (none, behind) => (.ok read.reverse, behind)
  | (some (.error error), behind) => (.error error, behind)
  | (some (.ok token), behind) =>
    have := rest_length_lt_of_next h
    collectFrom (token :: read) behind
termination_by scanner.rest.length

/-- All tokens that `next` gives, or its first error. -/
def collect (scanner : Scanner) : Except LexicalError (List Token) × Scanner :=
  collectFrom [] scanner

end Scanner

end Lexing
