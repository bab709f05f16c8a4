import Lexing.Number.Binary64
import Lexing.Text.Numeral

/-!
# Decimal numbers

A `Decimal` is a natural number times a power of ten. It is read as the nearest
`Binary64`, and written in positional notation, never with an exponent.

## Main definitions

* `Decimal.nearest`: the magnitude nearest to a decimal.
* `Decimal.positional`: the digits of a decimal, with a point where it has a
  fraction.
-/

namespace Lexing

/-- The number `coefficient` times ten to the power `exponent`. -/
structure Decimal where
  /-- The digits, read as one whole number. -/
  coefficient : Nat
  /-- The power of ten that the digits count. -/
  exponent : Int
  deriving DecidableEq, Repr

namespace Decimal

/-- The magnitude of the floating-point number nearest to the decimal. -/
def nearest (d : Decimal) : Nat :=
  match d.exponent with
  | .ofNat n => nearestMagnitude (d.coefficient * Nat.pow 10 n) 1
  | .negSucc n => nearestMagnitude d.coefficient (Nat.pow 10 (n + 1))

/-- Drops the zeros at the end. -/
def dropTrailingZeros (ds : Text) : Text :=
  (ds.reverse.dropWhile (· == '0')).reverse

/-- The decimal in positional notation. A fraction that is nothing but zeros is left
out together with its point. -/
def positional (d : Decimal) : Text :=
  match d.exponent with
  | .ofNat n =>
    if d.coefficient = 0 then ['0']
    else Text.numeral d.coefficient ++ List.replicate n '0'
  | .negSucc n =>
    let places := n + 1
    let fraction := dropTrailingZeros <|
      let ds := Text.numeral (d.coefficient % Nat.pow 10 places)
      List.replicate (places - ds.length) '0' ++ ds
    let whole := Text.numeral (d.coefficient / Nat.pow 10 places)
    if fraction.isEmpty then whole else whole ++ '.' :: fraction

end Decimal

end Lexing
