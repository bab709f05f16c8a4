import Lexing.Number.Literal
import Lexing.Number.Shortest
import Mathlib.Algebra.Group.Nat.Defs

/-!
# Decimals that read back

Rounding a quotient to the nearest magnitude does not depend on how the quotient is
written, and a finite magnitude is the nearest one to its own value. So the decimal
that is exactly as great as a magnitude reads back as it, and with it the shortest
decimal, which is only taken where it reads back.

## Main results

* `nearestMagnitude_mul_right`: numerator and denominator may have a common factor.
* `nearestMagnitude_units`: a finite magnitude is nearest to its own value.
* `Decimal.nearest_shortest`: the shortest decimal reads back.
-/

namespace Lexing

theorem roundHalfEven_mul_right (n d : Nat) {k : Nat} (hk : 0 < k) :
    roundHalfEven (n * k) (d * k) = roundHalfEven n d := by
  have hdouble : 2 * (n % d * k) = 2 * (n % d) * k := (Nat.mul_assoc 2 (n % d) k).symm
  simp only [roundHalfEven, Nat.mul_div_mul_right n d hk, Nat.mul_mod_mul_right, hdouble,
    Nat.mul_lt_mul_right hk]

theorem roundHalfEven_mul_self (n : Nat) {d : Nat} (hd : 0 < d) :
    roundHalfEven (n * d) d = n := by
  simp [roundHalfEven, hd]

theorem nearestMagnitude_eq (n d : Nat) :
    nearestMagnitude n d =
      min Binary64.infinityMagnitude
        ((Nat.log2 (n * 2 ^ 1074 / d) - 52) * 2 ^ 52 +
          roundHalfEven (n * 2 ^ 1074) (d * 2 ^ (Nat.log2 (n * 2 ^ 1074 / d) - 52))) := by
  unfold nearestMagnitude
  -- The power is too great to be computed.
  generalize 1074 = exponent
  rfl

theorem Binary64.units_eq (magnitude : Nat) :
    units magnitude =
      if magnitude / 2 ^ 52 = 0 then magnitude
      else (2 ^ 52 + magnitude % 2 ^ 52) * 2 ^ (magnitude / 2 ^ 52 - 1) := by
  simp only [units, Nat.pow_eq]

/-- The nearest magnitude depends on the value of the quotient only. -/
theorem nearestMagnitude_mul_right (n d : Nat) {k : Nat} (hk : 0 < k) :
    nearestMagnitude (n * k) (d * k) = nearestMagnitude n d := by
  have hscaled : n * k * 2 ^ 1074 = n * 2 ^ 1074 * k := Nat.mul_right_comm n k _
  have hstep : ∀ shift, d * k * 2 ^ shift = d * 2 ^ shift * k :=
    fun shift => Nat.mul_right_comm d k _
  simp only [nearestMagnitude_eq, hscaled, hstep, Nat.mul_div_mul_right _ d hk,
    roundHalfEven_mul_right _ _ hk]

theorem nearestMagnitude_le (n d : Nat) : nearestMagnitude n d ≤ Binary64.infinityMagnitude :=
  Nat.min_le_left _ _

theorem nearestMagnitude_zero (d : Nat) : nearestMagnitude 0 d = 0 := by
  have hround : ∀ d, roundHalfEven 0 d = 0 := fun d => by simp [roundHalfEven]
  simp only [nearestMagnitude_eq, Nat.zero_mul, Nat.zero_div, hround, Nat.log2_zero, Nat.zero_sub,
    Nat.zero_add, Nat.min_zero]

/-- A whole number of units is rounded in units. -/
theorem nearestMagnitude_whole (n : Nat) :
    nearestMagnitude n (2 ^ 1074) =
      min Binary64.infinityMagnitude
        ((Nat.log2 n - 52) * 2 ^ 52 + roundHalfEven n (2 ^ (Nat.log2 n - 52))) := by
  rw [nearestMagnitude_eq]
  generalize 1074 = exponent
  have hpos := Nat.two_pow_pos exponent
  have hstep : ∀ shift, 2 ^ exponent * 2 ^ shift = 2 ^ shift * 2 ^ exponent :=
    fun shift => Nat.mul_comm _ _
  simp only [Nat.mul_div_cancel _ hpos, hstep, roundHalfEven_mul_right _ _ hpos]

/-- A number of 53 binary digits in front of zeros. -/
theorem log2_significand {fraction : Nat} (h : fraction < 2 ^ 52) (shift : Nat) :
    Nat.log2 ((2 ^ 52 + fraction) * 2 ^ shift) = 52 + shift := by
  have hne : (2 ^ 52 + fraction) * 2 ^ shift ≠ 0 :=
    Nat.mul_ne_zero (by omega) (Nat.ne_of_gt (Nat.two_pow_pos shift))
  refine (Nat.log2_eq_iff hne).2 ⟨?_, ?_⟩
  · rw [Nat.pow_add]
    exact Nat.mul_le_mul_right _ (Nat.le_add_right _ _)
  · rw [show 52 + shift + 1 = 53 + shift by omega, Nat.pow_add]
    exact Nat.mul_lt_mul_of_pos_right (by omega) (Nat.two_pow_pos shift)

/-- A finite magnitude is the nearest one to its own value. -/
theorem nearestMagnitude_units {magnitude : Nat} (h : magnitude < Binary64.infinityMagnitude) :
    nearestMagnitude (Binary64.units magnitude) (2 ^ 1074) = magnitude := by
  have hexponent := Nat.div_add_mod magnitude (2 ^ 52)
  have hfraction := Nat.mod_lt magnitude (Nat.two_pow_pos 52)
  rw [nearestMagnitude_whole]
  by_cases hzero : magnitude / 2 ^ 52 = 0
  · -- The value has less than 53 binary digits, and its units are the magnitude.
    have hunits : Binary64.units magnitude = magnitude := by
      rw [Binary64.units_eq, if_pos hzero]
    have hlog : Nat.log2 magnitude - 52 = 0 := by
      by_cases hne : magnitude = 0
      · rw [hne]
        decide
      · have hlt : Nat.log2 magnitude < 52 := (Nat.log2_lt hne).2 (by omega)
        omega
    have hround := roundHalfEven_mul_self magnitude (Nat.two_pow_pos 0)
    rw [hunits, hlog, Nat.zero_mul, Nat.zero_add]
    rw [Nat.pow_zero, Nat.mul_one] at hround
    rw [Nat.pow_zero, hround]
    exact Nat.min_eq_right (Nat.le_of_lt h)
  · -- The value has 53 binary digits in front of zeros.
    obtain ⟨shift, hshift⟩ := Nat.exists_eq_succ_of_ne_zero hzero
    have hunits : Binary64.units magnitude =
        (2 ^ 52 + magnitude % 2 ^ 52) * 2 ^ shift := by
      rw [Binary64.units_eq, if_neg hzero, hshift, Nat.succ_sub_one]
    rw [hunits, log2_significand hfraction, Nat.add_sub_cancel_left,
      roundHalfEven_mul_self _ (Nat.two_pow_pos shift)]
    have hsum : shift * 2 ^ 52 + (2 ^ 52 + magnitude % 2 ^ 52) = magnitude := by omega
    rw [hsum]
    exact Nat.min_eq_right (Nat.le_of_lt h)

namespace Decimal

theorem nearest_neg (coefficient places : Nat) :
    (Decimal.mk coefficient (-(places : Int))).nearest =
      nearestMagnitude coefficient (10 ^ places) := by
  cases places with
  | zero => simp [nearest]
  | succ n => rfl

/-- Powers of five turn decimal places into binary ones. -/
theorem nearest_mul_five_pow (n places : Nat) :
    (Decimal.mk (n * Nat.pow 5 places) (-(places : Int))).nearest =
      nearestMagnitude n (2 ^ places) := by
  have hten : 10 ^ places = 2 ^ places * 5 ^ places := Nat.mul_pow 2 5 places
  rw [nearest_neg, Nat.pow_eq, hten]
  exact nearestMagnitude_mul_right _ _ (Nat.pow_pos (by decide))

/-- The decimal that is exactly as great as a finite magnitude reads back. -/
theorem nearest_exact {magnitude : Nat} (h : magnitude < Binary64.infinityMagnitude) :
    (exact magnitude).nearest = magnitude := by
  have hexact : exact magnitude =
      ⟨Binary64.units magnitude * Nat.pow 5 1074, -((1074 : Nat) : Int)⟩ := rfl
  have hunits := nearestMagnitude_units h
  rw [hexact]
  generalize 1074 = places at hunits ⊢
  rw [nearest_mul_five_pow, hunits]

theorem nearest_of_neighbour? {magnitude count : Nat} {d : Decimal}
    (h : neighbour? magnitude count = some d) : d.nearest = magnitude := by
  rw [neighbour?] at h
  have hnearest := List.find?_some h
  exact beq_iff_eq.1 hnearest

/-- The shortest decimal of a finite magnitude reads back. -/
theorem nearest_shortest {magnitude : Nat} (h : magnitude < Binary64.infinityMagnitude) :
    (shortest magnitude).nearest = magnitude := by
  rw [shortest]
  split
  · rename_i hzero
    have hnearest := nearest_neg 0 0
    rw [nearestMagnitude_zero] at hnearest
    rw [hzero]
    exact hnearest
  · cases hfound : (List.range 17).findSome? fun i => neighbour? magnitude (i + 1) with
    | none => exact nearest_exact h
    | some d =>
      obtain ⟨i, -, hneighbour⟩ := List.exists_of_findSome?_eq_some hfound
      exact nearest_of_neighbour? hneighbour

end Decimal

end Lexing
