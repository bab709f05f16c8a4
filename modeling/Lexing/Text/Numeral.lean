import Lexing.Text.Offset

/-!
# Decimal numerals

How natural numbers are written in reports and listings.

## Main definitions

* `Text.numeral`: the decimal digits of a number, without leading zeros.
* `Text.numeralWidth`: how many there are, found by dividing.
-/

namespace Lexing.Text

/-- The decimal digits of the number. -/
def numeral (n : Nat) : Text :=
  Nat.toDigits 10 n

/-- The number of decimal digits of the number. -/
def numeralWidth (n : Nat) : Nat :=
  if n < 10 then 1 else numeralWidth (n / 10) + 1

end Lexing.Text
