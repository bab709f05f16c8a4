import Lexing.Report.Receiver
import Lexing.Scanner.Basic

/-!
# The token stream of a source

A source has a token stream only if all of it can be scanned. The first lexical error
goes to a receiver, and there is no stream then.

## Main definitions

* `TokenStream.ofSource`: the tokens of a source.
* `TokenStream.dump`: the tokens, a numbered line for each.
-/

namespace Lexing.TokenStream

/-- The tokens of the source under a vocabulary, and what the receiver keeps of the
error if there is one. -/
def ofSource {σ : Type} (source : Source) (vocabulary : Vocabulary)
    (receiver : Receiver σ LexicalError) (kept : σ) : Option TokenStream × σ :=
  match ((Scanner.ofSource source).withVocabulary vocabulary).collect.1 with
  | .ok tokens => (some ⟨tokens⟩, kept)
  | .error error => (none, receiver.receive kept error)

/-- The line for the token at a position. -/
def dumpLine (i : Nat) (token : Token) : Text :=
  Text.numeral i ++ ':' :: ' ' :: token.text ++ ['\n']

/-- All tokens, each on a line with its position in front. -/
def dump (stream : TokenStream) : Text :=
  stream.tokens.zipIdx.flatMap fun (token, i) => dumpLine i token

end Lexing.TokenStream
