import Lexing.Number.Decimal

/-!
# The shortest decimal that reads back

A floating-point number is written with the fewest digits from which it can be read
back. For a number of digits the decimals of that length form a grid, and only the
two neighbours of the value on it can be nearest. The first grid with a neighbour
that reads back gives the answer; of two such neighbours the nearer one is taken, and
the greater one if both are equally near. Seventeen digits are always enough.

## Main definitions

* `Decimal.neighbour?`: the decimal with a given number of digits that reads back.
* `Decimal.shortest`: the one with the fewest digits.
* `Binary64.text`: a floating-point number in positional notation.
-/

namespace Lexing

namespace Decimal

/-- The number of decimal digits of a positive number. Its binary logarithm gives it
up to one. -/
def digitCount (n : Nat) : Nat :=
  let least := n.log2 * 1233 / 4096 + 1
  if n < Nat.pow 10 least then least else least + 1

/-- The number of digits in front of the point of the value with that many units;
negative by the number of zeros that follow the point. -/
def pointPosition (units : Nat) : Int :=
  digitCount (units * Nat.pow 10 400 / Nat.pow 2 1074) - 400

/-- The decimals of the grid with step ten to the power `exponent` on both sides of
the value with that many units, the nearer one first. -/
def gridNeighbours (units : Nat) (exponent : Int) : List Decimal :=
  let (n, d) := match exponent with
    | .ofNat e => (units, Nat.pow 2 1074 * Nat.pow 10 e)
    | .negSucc e => (units * Nat.pow 10 (e + 1), Nat.pow 2 1074)
  let below : Decimal := ⟨n / d, exponent⟩
  let above : Decimal := ⟨n / d + 1, exponent⟩
  if 2 * (n % d) < d then [below, above] else [above, below]

/-- The decimal with `count` digits nearest to the magnitude among those that read
back. -/
def neighbour? (magnitude count : Nat) : Option Decimal :=
  let units := Binary64.units magnitude
  (gridNeighbours units (pointPosition units - count)).find? (·.nearest == magnitude)

/-- The decimal that is exactly as great as the magnitude. -/
def exact (magnitude : Nat) : Decimal :=
  ⟨Binary64.units magnitude * Nat.pow 5 1074, -1074⟩

/-- The decimal with the fewest digits that reads back as the magnitude. -/
def shortest (magnitude : Nat) : Decimal :=
  if magnitude = 0 then ⟨0, 0⟩
  else ((List.range 17).findSome? fun i => neighbour? magnitude (i + 1)).getD (exact magnitude)

end Decimal

/-- The number in positional notation, with as many digits as it takes to read it
back. -/
def Binary64.text (x : Binary64) : Text :=
  if x.isNaN then "NaN".toList
  else
    let unsigned := if x.isInfinite then "inf".toList else (Decimal.shortest x.magnitude).positional
    if x.isNegative then '-' :: unsigned else unsigned

end Lexing
