/-!
# Floating-point numbers of 64 bits

A `Binary64` is a word of the IEEE 754 format binary64: a sign bit, eleven bits of
exponent and 52 bits of fraction. Without the sign bit the word is a natural number,
its *magnitude*, and magnitudes are in the order of the values they stand for. A
finite value is a whole number of *units* of two to the power -1074, the smallest
positive value, so all of its arithmetic is done with natural numbers.

## Main definitions

* `Binary64`: a word, with its sign and magnitude.
* `Binary64.units`: the value of a finite magnitude in units.
* `nearestMagnitude`: the magnitude nearest to a quotient, of two equally near ones
  the one with an even fraction.
* `Binary64.compare?`: the order of values, in which both zeros are equal and a
  word that is not a number has no place.
-/

namespace Lexing

/-- A number in the 64-bit binary interchange format. -/
structure Binary64 where
  /-- The word: sign, exponent and fraction. -/
  bits : UInt64
  deriving DecidableEq

namespace Binary64

/-- The magnitude of the infinities; greater ones are not numbers. -/
def infinityMagnitude : Nat := 2047 * Nat.pow 2 52

/-- The word with the given sign and magnitude. -/
def ofMagnitude (negative : Bool) (magnitude : Nat) : Binary64 :=
  ⟨UInt64.ofNat ((if negative then Nat.pow 2 63 else 0) + magnitude)⟩

/-- Whether the sign bit is set. -/
def isNegative (x : Binary64) : Bool :=
  decide (Nat.pow 2 63 ≤ x.bits.toNat)

/-- The word without its sign bit. -/
def magnitude (x : Binary64) : Nat :=
  x.bits.toNat % Nat.pow 2 63

/-- Whether the word stands for no number. -/
def isNaN (x : Binary64) : Bool :=
  decide (infinityMagnitude < x.magnitude)

/-- Whether the word is one of the two infinities. -/
def isInfinite (x : Binary64) : Bool :=
  decide (x.magnitude = infinityMagnitude)

/-- The value of a finite magnitude, counted in units of two to the power -1074. -/
def units (magnitude : Nat) : Nat :=
  let exponent := magnitude / Nat.pow 2 52
  if exponent = 0 then magnitude
  else (Nat.pow 2 52 + magnitude % Nat.pow 2 52) * Nat.pow 2 (exponent - 1)

/-- A number that is in the order of the values: the magnitude with its sign. Both
zeros have the same place. -/
def place (x : Binary64) : Int :=
  if x.isNegative then -(x.magnitude : Int) else x.magnitude

/-- The order of two values; `none` if one of them is not a number. -/
def compare? (x y : Binary64) : Option Ordering :=
  if x.isNaN || y.isNaN then none else some (compare x.place y.place)

/-- Whether two words have the same value: they are equal, or the two zeros. A word
that is not a number has not even its own value. -/
def sameValue (x y : Binary64) : Bool :=
  !x.isNaN && !y.isNaN && (x == y || (x.magnitude == 0 && y.magnitude == 0))

end Binary64

/-- The whole number nearest to `n / d`; of two equally near ones the even one. -/
def roundHalfEven (n d : Nat) : Nat :=
  let quotient := n / d
  let rest := n % d
  if 2 * rest < d then quotient
  else if d < 2 * rest then quotient + 1
  else quotient + quotient % 2

/-- The magnitude nearest to the value `n / d`. The step between magnitudes grows
with the value: it is two to the power `shift` units where the value has at least 53
binary digits, which leaves 53 of them. Values too great for the format become
infinite. -/
def nearestMagnitude (n d : Nat) : Nat :=
  let scaled := n * Nat.pow 2 1074
  let shift := Nat.log2 (scaled / d) - 52
  min Binary64.infinityMagnitude (shift * Nat.pow 2 52 + roundHalfEven scaled (d * Nat.pow 2 shift))

end Lexing
