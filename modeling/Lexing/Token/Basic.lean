import Lexing.Number.Shortest
import Lexing.Token.ReservedWord
import Lexing.Token.Symbol

/-!
# Tokens

A token is a name, a symbol, a number or a string.

## Main definitions

* `Token`: the four kinds of tokens.
* `Token.text`: how a token is shown.
* `Token.compare?`: the order of tokens: by kind first, then by what they hold. A
  number that is not a number has no place in it.
* `Token.sameValue`: equality in that sense.
* `TokenStream`: the tokens of a whole source.
-/

namespace Lexing

/-- The smallest part of a program with a meaning of its own. -/
inductive Token where
  /-- A reserved word or a single letter. -/
  | name (identifier : Text)
  /-- A symbol. -/
  | symbol (kind : Symbol)
  /-- A number literal. -/
  | number (value : Binary64)
  /-- A text, between quotation marks or not. -/
  | string (content : Text)
  deriving DecidableEq

namespace Token

/-- How the token is shown. Strings are shown between quotation marks. -/
def text : Token → Text
  | .name identifier => identifier
  | .symbol kind => [kind.character]
  | .number value => value.text
  | .string content => '"' :: content ++ ['"']

/-- The reserved word of the language that the token is, if it is one. -/
def reservedWord? : Token → Option ReservedWord
  | .name identifier => (ReservedWord.parse identifier).toOption
  | _ => none

/-- The position of the token's kind among the kinds. -/
def rank : Token → Nat
  | .name _ => 0
  | .symbol _ => 1
  | .number _ => 2
  | .string _ => 3

/-- The order of two tokens: by kind, and tokens of one kind by what they hold, texts
by the code points of their characters. -/
def compare? : Token → Token → Option Ordering
  | .name a, .name b => some (compare a b)
  | .symbol a, .symbol b => some (compare a b)
  | .number a, .number b => a.compare? b
  | .string a, .string b => some (compare a b)
  | a, b => some (compare a.rank b.rank)

/-- Whether two tokens are of one kind and hold the same. -/
def sameValue : Token → Token → Bool
  | .name a, .name b => a == b
  | .symbol a, .symbol b => a == b
  | .number a, .number b => a.sameValue b
  | .string a, .string b => a == b
  | _, _ => false

end Token

/-- The tokens of a whole source, in order. -/
structure TokenStream where
  /-- The tokens. -/
  tokens : List Token
  deriving DecidableEq

namespace TokenStream

/-- The number of tokens. -/
def size (stream : TokenStream) : Nat :=
  stream.tokens.length

/-- The token at position `i`, from zero. -/
def get? (stream : TokenStream) (i : Nat) : Option Token :=
  stream.tokens[i]?

/-- The order of two lists of tokens: by the first tokens that differ, or else the
shorter one is less. -/
def compareTokens? : List Token → List Token → Option Ordering
  | [], [] => some .eq
  | [], _ :: _ => some .lt
  | _ :: _, [] => some .gt
  | a :: as, b :: bs =>
    match a.compare? b with
    | some .eq => compareTokens? as bs
    | decided => decided

/-- The order of two streams. -/
def compare? (a b : TokenStream) : Option Ordering :=
  compareTokens? a.tokens b.tokens

/-- Whether two lists have the same tokens. -/
def sameTokens : List Token → List Token → Bool
  | [], [] => true
  | a :: as, b :: bs => a.sameValue b && sameTokens as bs
  | _, _ => false

/-- Whether two streams have the same tokens. -/
def sameValue (a b : TokenStream) : Bool :=
  sameTokens a.tokens b.tokens

/-- The order of two streams of which each may be missing; a missing one is less. -/
def compareOptional? : Option TokenStream → Option TokenStream → Option Ordering
  | none, none => some .eq
  | none, some _ => some .lt
  | some _, none => some .gt
  | some a, some b => a.compare? b

/-- Whether two streams are both missing or have the same tokens. -/
def sameOptional : Option TokenStream → Option TokenStream → Bool
  | none, none => true
  | some a, some b => a.sameValue b
  | _, _ => false

end TokenStream

end Lexing
