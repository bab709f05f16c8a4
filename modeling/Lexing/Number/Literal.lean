import Lexing.Number.Decimal

/-!
# Number literals

A number literal is an optional sign, digits with at most one point among or around
them, and an optional exponent: `e` or `E`, an optional sign and digits. At least one
digit stands in front of the exponent. Its value is the floating-point number nearest
to the decimal it spells.

The digits of an exponent stop counting once they have reached 65536, which is far
behind the point where every coefficient that could be written has become zero or
infinite.

## Main definitions

* `Literal`: a sign and a decimal.
* `Literal.parse?`: the literal that a text spells.
* `Literal.value`: its floating-point number.
-/

namespace Lexing

/-- What a number literal spells. -/
structure Literal where
  /-- Whether a minus sign is in front. -/
  negative : Bool
  /-- The digits and their power of ten. -/
  decimal : Decimal
  deriving DecidableEq, Repr

namespace Literal

/-- The value of a decimal digit. -/
def digitValue (c : Char) : Nat :=
  c.toNat - '0'.toNat

/-- The number that a run of digits spells. -/
def digitsValue (ds : Text) : Nat :=
  ds.foldl (fun n c => n * 10 + digitValue c) 0

/-- An exponent that has reached this number takes no further digits. -/
def exponentLimit : Nat := 65536

/-- The number that the digits of an exponent spell, those behind the limit left out. -/
def exponentValue (ds : Text) : Nat :=
  ds.foldl (fun n c => if n < exponentLimit then n * 10 + digitValue c else n) 0

/-- Whether a minus sign is in front, and what follows the sign. -/
def readSign : Text → Bool × Text
  | '-' :: rest => (true, rest)
  | '+' :: rest => (false, rest)
  | text => (false, text)

/-- The digits behind a point, if there is one, and what follows them. -/
def readFraction : Text → Text × Text
  | '.' :: rest => (rest.takeWhile Char.isDigit, rest.dropWhile Char.isDigit)
  | text => ([], text)

/-- The exponent that makes up the whole text; zero if the text is empty. -/
def readExponent? : Text → Option Int
  | [] => some 0
  | mark :: rest =>
    if mark = 'e' ∨ mark = 'E' then
      let (negative, ds) := readSign rest
      if ds.isEmpty || !ds.all Char.isDigit then none
      else some (if negative then -(exponentValue ds : Int) else exponentValue ds)
    else none

/-- The literal that the text spells, if it is one. -/
def parse? (text : Text) : Option Literal :=
  let (negative, unsigned) := readSign text
  let whole := unsigned.takeWhile Char.isDigit
  let (fraction, rest) := readFraction (unsigned.dropWhile Char.isDigit)
  if whole.isEmpty && fraction.isEmpty then none
  else (readExponent? rest).map fun exponent =>
    ⟨negative, digitsValue (whole ++ fraction), exponent - fraction.length⟩

/-- The floating-point number nearest to what the literal spells. -/
def value (literal : Literal) : Binary64 :=
  .ofMagnitude literal.negative literal.decimal.nearest

end Literal

end Lexing
