import Lexing.Proofs.Number.Nearest
import Mathlib.Algebra.Order.Field.Rat
import Mathlib.Algebra.Order.Field.Basic
import Mathlib.Algebra.Order.Group.Unbundled.Abs
import Mathlib.Tactic.Linarith
import Mathlib.Tactic.FieldSimp
import Mathlib.Tactic.Ring

/-!
# Rounding to the nearest magnitude

A quotient is rounded by cutting off all of its binary digits behind the 53rd one and
looking at what was cut off. Nothing is compared that way but two neighbours. They are the
only magnitudes that matter, for magnitudes are in the order of their values: all others are
farther away.

## Main definitions

* `Binary64.toRat`: the value of a magnitude.
* `Binary64.IsNearest`: the magnitude nearest to a value, of two the even one.

## Main results

* `Binary64.units_strictMono`: magnitudes are in the order of their values.
* `Binary64.IsNearest.unique`: only one magnitude is nearest to a value.
* `Binary64.isNearest_nearestMagnitude`: rounding comes to it.
-/

namespace Lexing

namespace Binary64

/-- The value of a magnitude. Infinity has the place of two to the power 1024. -/
def toRat (magnitude : Nat) : ℚ :=
  units magnitude / 2 ^ 1074

/-- No other magnitude is as near to the value, except that of two the even one is taken. -/
structure IsNearest (x : ℚ) (m : Nat) : Prop where
  /-- There is no magnitude behind infinity. -/
  le_infinity : m ≤ infinityMagnitude
  /-- No other one is nearer. -/
  abs_le : ∀ other ≤ infinityMagnitude, |x - toRat m| ≤ |x - toRat other|
  /-- One that is as near as another one is even. -/
  even : ∀ other ≤ infinityMagnitude, other ≠ m → |x - toRat other| = |x - toRat m| → m % 2 = 0

variable {x : ℚ} {m other shift k n d : Nat}

section Units

/-- The magnitudes between two powers of two are evenly spaced. -/
theorem units_shift (hshift : shift = 0 ∨ 2 ^ 52 ≤ k) (hk : k ≤ 2 ^ 53) :
    units (shift * 2 ^ 52 + k) = k * 2 ^ shift := by
  rw [units_eq]
  by_cases hsmall : k < 2 ^ 52
  · obtain rfl : shift = 0 := hshift.resolve_right (by omega)
    rw [if_pos (by omega)]
    simp
  · rw [if_neg (by omega)]
    by_cases htop : k = 2 ^ 53
    · have hexponent : (shift * 2 ^ 52 + k) / 2 ^ 52 - 1 = shift + 1 := by omega
      have hfraction : (shift * 2 ^ 52 + k) % 2 ^ 52 = 0 := by omega
      have hpow := Nat.pow_succ 2 shift
      rw [hexponent, hfraction, htop, hpow]
      omega
    · have hexponent : (shift * 2 ^ 52 + k) / 2 ^ 52 - 1 = shift := by omega
      have hfraction : 2 ^ 52 + (shift * 2 ^ 52 + k) % 2 ^ 52 = k := by omega
      rw [hexponent, hfraction]

theorem exists_shift (m : Nat) :
    ∃ shift k, m = shift * 2 ^ 52 + k ∧ (shift = 0 ∨ 2 ^ 52 ≤ k) ∧ k < 2 ^ 53 := by
  by_cases hsmall : m < 2 ^ 53
  · exact ⟨0, m, by omega, .inl rfl, hsmall⟩
  · exact ⟨m / 2 ^ 52 - 1, 2 ^ 52 + m % 2 ^ 52, by omega, .inr (by omega), by omega⟩

theorem units_strictMono : StrictMono units := by
  refine strictMono_nat_of_lt_succ fun m => ?_
  obtain ⟨shift, k, rfl, hshift, hk⟩ := exists_shift m
  have hnext : shift = 0 ∨ 2 ^ 52 ≤ k + 1 := by omega
  rw [Nat.add_assoc, units_shift hshift (Nat.le_of_lt hk), units_shift hnext hk]
  exact Nat.mul_lt_mul_of_pos_right (Nat.lt_succ_self k) (Nat.two_pow_pos shift)

theorem toRat_strictMono : StrictMono toRat := by
  intro a b hlt
  have hunits : (units a : ℚ) < units b := by exact_mod_cast units_strictMono hlt
  exact div_lt_div_of_pos_right hunits (by positivity)

end Units

section Neighbours

/-- The lower one of two neighbours is nearest if it is no farther away than the upper one. -/
theorem nearest_lower (hle : toRat m ≤ x) (hhalf : x - toRat m ≤ toRat (m + 1) - x)
    (heven : x - toRat m = toRat (m + 1) - x → m % 2 = 0) (other : Nat) :
    |x - toRat m| ≤ |x - toRat other| ∧
      (other ≠ m → |x - toRat other| = |x - toRat m| → m % 2 = 0) := by
  rw [abs_of_nonneg (sub_nonneg.2 hle)]
  rcases Nat.lt_trichotomy other m with hlt | rfl | hlt
  · have hother := toRat_strictMono hlt
    rw [abs_of_nonneg (by linarith)]
    exact ⟨by linarith, fun _ heq => by linarith⟩
  · exact ⟨le_abs_self _, fun hne => absurd rfl hne⟩
  · have hother := toRat_strictMono.monotone (Nat.succ_le_of_lt hlt)
    rw [abs_of_nonpos (by linarith)]
    exact ⟨by linarith, fun _ heq => heven (by linarith)⟩

/-- So is the upper one. -/
theorem nearest_upper (hle : x ≤ toRat (m + 1)) (hhalf : toRat (m + 1) - x ≤ x - toRat m)
    (heven : toRat (m + 1) - x = x - toRat m → (m + 1) % 2 = 0) (other : Nat) :
    |x - toRat (m + 1)| ≤ |x - toRat other| ∧
      (other ≠ m + 1 → |x - toRat other| = |x - toRat (m + 1)| → (m + 1) % 2 = 0) := by
  rw [abs_of_nonpos (sub_nonpos.2 hle)]
  rcases Nat.lt_trichotomy other (m + 1) with hlt | rfl | hlt
  · have hother := toRat_strictMono.monotone (Nat.le_of_lt_succ hlt)
    rw [abs_of_nonneg (by linarith)]
    exact ⟨by linarith, fun _ heq => heven (by linarith)⟩
  · exact ⟨neg_le_abs _, fun hne => absurd rfl hne⟩
  · have hother := toRat_strictMono hlt
    rw [abs_of_nonpos (by linarith)]
    exact ⟨by linarith, fun _ heq => by linarith⟩

/-- Behind infinity there is nothing nearer. -/
theorem isNearest_infinity (h : toRat infinityMagnitude ≤ x) : IsNearest x infinityMagnitude := by
  have hfar : ∀ other ≤ infinityMagnitude, other ≠ infinityMagnitude →
      |x - toRat infinityMagnitude| < |x - toRat other| := by
    intro other hother hne
    have hlt := toRat_strictMono (Nat.lt_of_le_of_ne hother hne)
    rw [abs_of_nonneg (by linarith), abs_of_nonneg (by linarith)]
    linarith
  refine ⟨Nat.le_refl _, fun other hother => ?_, fun other hother hne heq => ?_⟩
  · by_cases hne : other = infinityMagnitude
    · rw [hne]
    · exact le_of_lt (hfar other hother hne)
  · exact absurd heq (ne_of_gt (hfar other hother hne))

theorem isNearest_zero (hnonneg : 0 ≤ x) (h : 2 * x < toRat 1) : IsNearest x 0 := by
  have hzero : toRat 0 = 0 := by simp [toRat, units]
  have hall := @nearest_lower x 0 (by rw [hzero]; exact hnonneg)
    (by rw [hzero]; linarith) (fun _ => rfl)
  exact ⟨Nat.zero_le _, fun other _ => (hall other).1, fun other _ => (hall other).2⟩

/-- Two magnitudes cannot both be nearest: there is one between them that is nearer. -/
theorem IsNearest.unique {m m' : Nat} (h : IsNearest x m) (h' : IsNearest x m') : m = m' := by
  have hlt : ∀ {a b : Nat}, IsNearest x a → IsNearest x b → ¬a < b := by
    intro a b ha hb hlt
    have hsame := le_antisymm (ha.abs_le b hb.le_infinity) (hb.abs_le a ha.le_infinity)
    have ha2 := ha.even b hb.le_infinity (Nat.ne_of_gt hlt) hsame.symm
    have hb2 := hb.even a ha.le_infinity (Nat.ne_of_lt hlt) hsame
    have hbetween : a + 1 < b := by omega
    have hle := ha.abs_le (a + 1) (Nat.le_trans (Nat.le_of_lt hbetween) hb.le_infinity)
    have hleft := toRat_strictMono (Nat.lt_succ_self a)
    have hright := toRat_strictMono hbetween
    -- The value is halfway between the two, so it is nearer to what is between them.
    have hmiddle : x - toRat a = toRat b - x := by
      rcases abs_cases (x - toRat a) with h | h <;> rcases abs_cases (x - toRat b) with h' | h' <;>
        linarith
    rw [abs_of_nonneg (by linarith : 0 ≤ x - toRat a)] at hle
    rcases abs_cases (x - toRat (a + 1)) with h | h <;> linarith
  exact Nat.le_antisymm (Nat.le_of_not_lt (hlt h' h)) (Nat.le_of_not_lt (hlt h h'))

end Neighbours

section Rounding

theorem roundHalfEven_eq (n d : Nat) : roundHalfEven n d =
    if 2 * (n % d) < d then n / d
    else if d < 2 * (n % d) then n / d + 1 else n / d + n / d % 2 := rfl

/-- Of a whole number, 53 binary digits are left behind the shift. -/
theorem significand_bounds (n : Nat) : n / 2 ^ (Nat.log2 n - 52) < 2 ^ 53 ∧
    (Nat.log2 n - 52 = 0 ∨ 2 ^ 52 ≤ n / 2 ^ (Nat.log2 n - 52)) := by
  have hlt := @Nat.lt_log2_self n
  by_cases hsmall : Nat.log2 n < 53
  · have hshift : Nat.log2 n - 52 = 0 := by omega
    have hpow : 2 ^ (Nat.log2 n + 1) ≤ 2 ^ 53 := Nat.pow_le_pow_right (by decide) (by omega)
    rw [hshift, Nat.pow_zero, Nat.div_one]
    exact ⟨by omega, .inl rfl⟩
  · have hne : n ≠ 0 := by
      rintro rfl
      exact hsmall (by decide)
    have hle := Nat.log2_self_le hne
    obtain ⟨shift, hshift⟩ := Nat.exists_eq_add_of_le (show 52 ≤ Nat.log2 n by omega)
    rw [hshift] at hlt hle ⊢
    rw [Nat.add_sub_cancel_left]
    rw [Nat.pow_add] at hle
    rw [show 52 + shift + 1 = 53 + shift by omega, Nat.pow_add] at hlt
    have hpos := Nat.two_pow_pos shift
    exact ⟨(Nat.div_lt_iff_lt_mul hpos).2 hlt, .inr ((Nat.le_div_iff_mul_le hpos).2 hle)⟩

/-- The distance of a quotient from a magnitude, counted in parts of a unit. -/
theorem sub_toRat (n : Nat) (hd : 0 < d) (hshift : shift = 0 ∨ 2 ^ 52 ≤ k) (hk : k ≤ 2 ^ 53) :
    (n / d : ℚ) - toRat (shift * 2 ^ 52 + k) =
      (n * 2 ^ 1074 - k * (d * 2 ^ shift)) / (d * 2 ^ 1074) := by
  have hd : (d : ℚ) ≠ 0 := by exact_mod_cast hd.ne'
  rw [toRat, units_shift hshift hk]
  push_cast
  have hunit : (2 : ℚ) ^ 1074 ≠ 0 := by positivity
  generalize (2 : ℚ) ^ 1074 = unit at hunit ⊢
  field_simp

theorem isNearest_min (hnear : ∀ other, |x - toRat m| ≤ |x - toRat other| ∧
    (other ≠ m → |x - toRat other| = |x - toRat m| → m % 2 = 0))
    (hfloor : infinityMagnitude < m → toRat infinityMagnitude ≤ x) :
    IsNearest x (min infinityMagnitude m) := by
  by_cases hle : m ≤ infinityMagnitude
  · rw [Nat.min_eq_right hle]
    exact ⟨hle, fun other _ => (hnear other).1, fun other _ => (hnear other).2⟩
  · have hlt := Nat.lt_of_not_le hle
    rw [Nat.min_eq_left (Nat.le_of_lt hlt)]
    exact isNearest_infinity (hfloor hlt)

/-- Between two neighbours, what has been cut off tells which one is nearest. -/
theorem isNearest_halfEven {gap : ℚ} {rest step : Nat} (hgap : 0 < gap) (hrest : rest < step)
    (hlower : x - toRat m = rest / gap) (hupper : toRat (m + 1) - x = (step - rest) / gap) :
    IsNearest x (min infinityMagnitude
      (if 2 * rest < step then m else if step < 2 * rest then m + 1 else m + m % 2)) := by
  have hrest : (rest : ℚ) < step := by exact_mod_cast hrest
  have hle : toRat m ≤ x := by
    have hnonneg : (0 : ℚ) ≤ rest / gap := by positivity
    linarith
  have hlt : x < toRat (m + 1) := by
    have hpos : 0 < (step - rest) / gap := div_pos (by linarith) hgap
    linarith
  have hfloor : infinityMagnitude ≤ m → toRat infinityMagnitude ≤ x :=
    fun hm => (toRat_strictMono.monotone hm).trans hle
  have hhalf : (2 * rest ≤ step → x - toRat m ≤ toRat (m + 1) - x) ∧
      (step ≤ 2 * rest → toRat (m + 1) - x ≤ x - toRat m) := by
    rw [hlower, hupper, div_le_div_iff_of_pos_right hgap, div_le_div_iff_of_pos_right hgap]
    constructor
    · intro h
      have hcast : (2 * rest : ℚ) ≤ step := by exact_mod_cast h
      linarith
    · intro h
      have hcast : (step : ℚ) ≤ 2 * rest := by exact_mod_cast h
      linarith
  have htie : x - toRat m = toRat (m + 1) - x → 2 * rest = step := by
    rw [hlower, hupper, div_left_inj' hgap.ne']
    intro h
    have hcast : (2 * rest : ℚ) = step := by linarith
    exact_mod_cast hcast
  split
  · rename_i hless
    refine isNearest_min (nearest_lower hle (hhalf.1 (Nat.le_of_lt hless)) fun heq => ?_)
      fun hm => hfloor (Nat.le_of_lt hm)
    exact absurd (htie heq) (Nat.ne_of_lt hless)
  · split
    · rename_i hmore
      refine isNearest_min (nearest_upper hlt.le (hhalf.2 (Nat.le_of_lt hmore)) fun heq => ?_)
        fun hm => hfloor (Nat.le_of_lt_succ hm)
      exact absurd (htie heq.symm) (Nat.ne_of_gt hmore)
    · rcases Nat.mod_two_eq_zero_or_one m with heven | hodd
      · rw [heven, Nat.add_zero]
        exact isNearest_min (nearest_lower hle (hhalf.1 (by omega)) fun _ => heven)
          fun hm => hfloor (Nat.le_of_lt hm)
      · rw [hodd]
        exact isNearest_min (nearest_upper hlt.le (hhalf.2 (by omega)) fun _ => by omega)
          fun hm => hfloor (Nat.le_of_lt_succ hm)

/-- Rounding a quotient comes to the nearest magnitude. -/
theorem isNearest_nearestMagnitude (n : Nat) (hd : 0 < d) :
    IsNearest (n / d) (nearestMagnitude n d) := by
  rw [nearestMagnitude_eq]
  obtain ⟨hk, hshift⟩ := significand_bounds (n * 2 ^ 1074 / d)
  generalize Nat.log2 (n * 2 ^ 1074 / d) - 52 = shift at hk hshift ⊢
  rw [Nat.div_div_eq_div_mul] at hk hshift
  have hlower := sub_toRat n hd hshift (Nat.le_of_lt hk)
  have hupper := sub_toRat n hd (by omega : shift = 0 ∨ 2 ^ 52 ≤ n * 2 ^ 1074 / (d * 2 ^ shift) + 1)
    (Nat.succ_le_of_lt hk)
  have hdivide : (n * 2 ^ 1074 : ℚ) = (d * 2 ^ shift) * (n * 2 ^ 1074 / (d * 2 ^ shift) : Nat) +
      (n * 2 ^ 1074 % (d * 2 ^ shift) : Nat) := by
    have hdivide := Nat.div_add_mod (n * 2 ^ 1074) (d * 2 ^ shift)
    generalize 1074 = exponent at hdivide ⊢
    exact_mod_cast hdivide.symm
  have hrest := Nat.mod_lt (n * 2 ^ 1074) (Nat.mul_pos hd (Nat.two_pow_pos shift))
  rw [roundHalfEven_eq]
  generalize n * 2 ^ 1074 / (d * 2 ^ shift) = k at hk hshift hlower hupper hdivide ⊢
  generalize n * 2 ^ 1074 % (d * 2 ^ shift) = rest at hrest hdivide ⊢
  have hgap : (0 : ℚ) < d * 2 ^ 1074 := by positivity
  rw [hdivide] at hlower hupper
  generalize (d * 2 ^ 1074 : ℚ) = gap at hgap hlower hupper
  have hbelow : (n / d : ℚ) - toRat (shift * 2 ^ 52 + k) = rest / gap := by
    rw [hlower]
    ring
  have habove : toRat (shift * 2 ^ 52 + k + 1) - n / d = ((d * 2 ^ shift : Nat) - rest) / gap := by
    rw [← neg_sub, Nat.add_assoc, hupper]
    push_cast
    ring
  have hround := isNearest_halfEven hgap hrest hbelow habove
  -- A shift of the significand by 52 digits keeps its parity.
  have hsame : shift * 2 ^ 52 + (if 2 * rest < d * 2 ^ shift then k
        else if d * 2 ^ shift < 2 * rest then k + 1 else k + k % 2) =
      if 2 * rest < d * 2 ^ shift then shift * 2 ^ 52 + k
        else if d * 2 ^ shift < 2 * rest then shift * 2 ^ 52 + k + 1
        else shift * 2 ^ 52 + k + (shift * 2 ^ 52 + k) % 2 := by
    split
    · rfl
    · split
      · exact (Nat.add_assoc _ _ _).symm
      · omega
  rw [hsame]
  exact hround

end Rounding

end Binary64

namespace Decimal

/-- The value of a decimal. -/
def toRat (d : Decimal) : ℚ :=
  d.coefficient * 10 ^ d.exponent

/-- A decimal is read as the magnitude nearest to its value. -/
theorem isNearest_nearest (d : Decimal) : Binary64.IsNearest d.toRat d.nearest := by
  obtain ⟨coefficient, exponent⟩ := d
  cases exponent with
  | ofNat n =>
    have hnearest := Binary64.isNearest_nearestMagnitude (coefficient * 10 ^ n) Nat.one_pos
    simpa [toRat, nearest] using hnearest
  | negSucc n =>
    have hnearest := Binary64.isNearest_nearestMagnitude coefficient
      (Nat.pow_pos (by decide : 0 < 10) : 0 < 10 ^ (n + 1))
    have hvalue : toRat ⟨coefficient, .negSucc n⟩ = (coefficient : ℚ) / (10 ^ (n + 1) : Nat) := by
      rw [toRat, zpow_negSucc, ← div_eq_mul_inv]
      norm_cast
    rw [hvalue]
    exact hnearest

end Decimal

end Lexing
