import Lexing.Proofs.Number.ReadBack

/-!
# Spellings of a number

A literal holds nothing but digits, signs, points and the letter of its exponent.

A number can be spelled with as many characters as one likes. Zeros in front of the digits
do not change what a literal is worth, so they make a finite number's own text longer. An
infinity has no text that is a literal; a one with enough zeros behind it stands for it.

## Main results

* `Literal.mem_of_parse?`: the characters of a literal.
* `nearestMagnitude_of_le`: quotients that are too great become infinite.
* `Binary64.text_inj`: different numbers are shown differently.
* `Binary64.exists_long_spelling`: literals for a number that are longer than any bound.
-/

namespace Lexing

namespace Literal

/-- Whether the character can be in a literal. -/
def IsNumeric (c : Char) : Prop :=
  c.isDigit = true ∨ c ∈ ['+', '-', '.', 'e', 'E']

theorem isNumeric_of_mem_takeWhile {text : Text} {c : Char}
    (h : c ∈ text.takeWhile Char.isDigit) : IsNumeric c :=
  Or.inl (List.mem_takeWhile_imp h)

theorem mem_readSign {text : Text} {c : Char} (h : c ∈ text) :
    IsNumeric c ∨ c ∈ (readSign text).2 := by
  unfold readSign
  split
  · rcases List.mem_cons.1 h with rfl | h
    · exact Or.inl (Or.inr (by decide))
    · exact Or.inr h
  · rcases List.mem_cons.1 h with rfl | h
    · exact Or.inl (Or.inr (by decide))
    · exact Or.inr h
  · exact Or.inr h

theorem mem_readFraction {text : Text} {c : Char} (h : c ∈ text) :
    IsNumeric c ∨ c ∈ (readFraction text).2 := by
  unfold readFraction
  split
  · rename_i rest
    rcases List.mem_cons.1 h with rfl | h
    · exact Or.inl (Or.inr (by decide))
    · rw [← List.takeWhile_append_dropWhile (p := Char.isDigit) (l := rest)] at h
      rcases List.mem_append.1 h with h | h
      · exact Or.inl (isNumeric_of_mem_takeWhile h)
      · exact Or.inr h
  · exact Or.inr h

theorem isNumeric_of_readExponent? {text : Text} {exponent : Int}
    (hread : readExponent? text = some exponent) {c : Char} (h : c ∈ text) : IsNumeric c := by
  unfold readExponent? at hread
  split at hread
  · cases h
  · rename_i mark rest
    by_cases hmark : mark = 'e' ∨ mark = 'E'
    · rw [if_pos hmark] at hread
      by_cases hdigits : (readSign rest).2.all Char.isDigit = true
      · rcases List.mem_cons.1 h with rfl | h
        · exact Or.inr (by rcases hmark with rfl | rfl <;> decide)
        · rcases mem_readSign h with h | h
          · exact h
          · exact Or.inl (List.all_eq_true.1 hdigits c h)
      · simp [hdigits] at hread
    · rw [if_neg hmark] at hread
      cases hread

theorem mem_of_parse? {text : Text} {literal : Literal} (hparse : parse? text = some literal)
    {c : Char} (h : c ∈ text) : IsNumeric c := by
  simp only [parse?] at hparse
  split at hparse
  · cases hparse
  · obtain ⟨exponent, hread, -⟩ := Option.map_eq_some_iff.1 hparse
    rcases mem_readSign h with h | h
    · exact h
    · rw [← List.takeWhile_append_dropWhile (p := Char.isDigit) (l := (readSign text).2)] at h
      rcases List.mem_append.1 h with h | h
      · exact isNumeric_of_mem_takeWhile h
      · rcases mem_readFraction h with h | h
        · exact h
        · exact isNumeric_of_readExponent? hread h

theorem parse?_eq_none_of_mem {text : Text} (h : '"' ∈ text) : parse? text = none := by
  cases hparse : parse? text with
  | none => rfl
  | some literal =>
    rcases mem_of_parse? hparse h with hdigit | hmark
    · cases hdigit
    · exact absurd hmark (by decide)

end Literal

theorem add_le_log2_mul_two_pow {n e : Nat} (h : 2 ^ e ≤ n) (k : Nat) :
    e + k ≤ Nat.log2 (n * 2 ^ k) := by
  have hscaled : 2 ^ (e + k) ≤ n * 2 ^ k := by
    rw [Nat.pow_add]
    exact Nat.mul_le_mul_right _ h
  have hpos := Nat.lt_of_lt_of_le (Nat.two_pow_pos (e + k)) hscaled
  exact (Nat.le_log2 (Nat.ne_of_gt hpos)).2 hscaled

theorem nearestMagnitude_of_le {n e : Nat} (he : 1025 ≤ e) (h : 2 ^ e ≤ n) :
    nearestMagnitude n 1 = Binary64.infinityMagnitude := by
  have hlog := add_le_log2_mul_two_pow h 1074
  rw [nearestMagnitude_eq, Nat.div_one]
  generalize Nat.log2 (n * 2 ^ 1074) = log at hlog
  have hsteps : 2047 * 2 ^ 52 ≤ (log - 52) * 2 ^ 52 := Nat.mul_le_mul_right _ (by omega)
  exact Nat.min_eq_left (Nat.le_trans hsteps (Nat.le_add_right _ _))

theorem Literal.digitsValue_zeros_append (zeros : Nat) (ds : Text) :
    digitsValue (List.replicate zeros '0' ++ ds) = digitsValue ds := by
  rw [digitsValue_append, digitsValue_replicate, Nat.zero_mul, Nat.zero_add]

namespace Decimal

/-- A one with zeros behind it is a power of ten. -/
theorem nearest_one_zeros {zeros : Nat} (h : 1025 ≤ zeros) :
    (Decimal.mk (Literal.digitsValue ('1' :: List.replicate zeros '0')) 0).nearest =
      Binary64.infinityMagnitude := by
  have hvalue : Literal.digitsValue ('1' :: List.replicate zeros '0') = 10 ^ zeros := by
    have happend := Literal.digitsValue_append ['1'] (List.replicate zeros '0')
    rw [Literal.digitsValue_replicate, List.length_replicate] at happend
    simpa [Literal.digitsValue, Literal.digitValue] using happend
  have hgreat : 2 ^ zeros ≤ 10 ^ zeros := Nat.pow_le_pow_left (by decide) zeros
  have hnearest := nearest_neg (10 ^ zeros) 0
  rw [Nat.pow_zero, nearestMagnitude_of_le h hgreat] at hnearest
  rw [hvalue]
  exact hnearest

theorem length_le_length_written (whole fraction : Text) :
    whole.length ≤ (written whole fraction).length := by
  rw [written]
  split
  · exact Nat.le_refl _
  · rw [List.length_append]
    exact Nat.le_add_right _ _

end Decimal

namespace Binary64

/-- A number is the value of digits around a point, as many of them in front as asked
for. -/
theorem exists_digits (x : Binary64) (hnumber : x.isNaN = false) (n : Nat) :
    ∃ whole fraction, n < whole.length ∧ (∀ c ∈ whole ++ fraction, c.isDigit = true) ∧
      (Decimal.mk (Literal.digitsValue (whole ++ fraction)) (-(fraction.length : Int))).nearest =
        x.magnitude := by
  have hzero : ∀ {k : Nat} {c : Char}, c ∈ List.replicate k '0' → c.isDigit = true := by
    intro k c hc
    rw [List.eq_of_mem_replicate hc]
    rfl
  cases hinfinite : x.isInfinite with
  | false =>
    obtain ⟨whole, fraction, -, hdigits, -, hnearest⟩ :=
      exists_text_eq (magnitude_lt hnumber hinfinite)
    refine ⟨List.replicate (n + 1) '0' ++ whole, fraction, ?_, ?_, ?_⟩
    · rw [List.length_append, List.length_replicate]
      omega
    · intro c hc
      rw [List.append_assoc] at hc
      rcases List.mem_append.1 hc with hc | hc
      · exact hzero hc
      · exact hdigits c hc
    · rw [List.append_assoc, Literal.digitsValue_zeros_append, hnearest]
  | true =>
    refine ⟨'1' :: List.replicate (n + 1025) '0', [], ?_, ?_, ?_⟩
    · rw [List.length_cons, List.length_replicate]
      omega
    · intro c hc
      rw [List.append_nil] at hc
      rcases List.mem_cons.1 hc with rfl | hc
      · rfl
      · exact hzero hc
    · rw [List.append_nil, of_decide_eq_true hinfinite]
      exact Decimal.nearest_one_zeros (Nat.le_add_left _ _)

/-- A number has literals longer than any bound, all of them bare. -/
theorem exists_long_spelling (x : Binary64) (hnumber : x.isNaN = false) (n : Nat) :
    ∃ text literal, n < text.length ∧ IsBare text ∧ Literal.parse? text = some literal ∧
      literal.value = x := by
  obtain ⟨whole, fraction, hlength, hdigits, hnearest⟩ := x.exists_digits hnumber n
  have hne : whole ≠ [] := by
    intro hnil
    rw [hnil] at hlength
    exact Nat.not_lt_zero _ hlength
  refine ⟨_, _, ?_, isBare_written x.isNegative hne hdigits,
    Literal.parse?_written x.isNegative hne hdigits, ?_⟩
  · have hwritten := Decimal.length_le_length_written whole fraction
    split
    · rw [List.length_cons]
      omega
    · omega
  · rw [Literal.value, hnearest, ofMagnitude_magnitude]

/-- What the text of a number begins with, if it is one, infinite or not. -/
theorem head?_text (x : Binary64) : ∀ c ∈ x.text.head?, c ∈ ['N', 'i', '-'] ∨ c.isDigit = true := by
  intro c hc
  cases hnumber : x.isNaN with
  | true =>
    have htext : x.text = ['N', 'a', 'N'] := by
      simp only [text, hnumber, if_true]
      rfl
    rw [htext] at hc
    obtain rfl := Option.some.inj hc
    exact Or.inl (by decide)
  | false =>
    cases hinfinite : x.isInfinite with
    | true =>
      rw [text_of_isInfinite hinfinite] at hc
      left
      split at hc <;> (obtain rfl := Option.some.inj hc; decide)
    | false =>
      obtain ⟨whole, fraction, hne, hdigits, htext, -⟩ :=
        exists_text_eq (magnitude_lt hnumber hinfinite)
      rw [htext] at hc
      split at hc
      · obtain rfl := Option.some.inj hc
        exact Or.inl (by decide)
      · cases whole with
        | nil => exact absurd rfl hne
        | cons d whole =>
          have hsame : d = c := by
            rw [Decimal.written] at hc
            split at hc <;> simpa using hc
          exact Or.inr (hdigits c (by simp [hsame]))

theorem parse?_text_eq_none {x : Binary64} (h : x.isInfinite = true) :
    Literal.parse? x.text = none := by
  rw [text_of_isInfinite h]
  split <;> decide

theorem eq_of_isNegative_eq {x y : Binary64} (hx : x.isInfinite = true) (hy : y.isInfinite = true)
    (h : x.isNegative = y.isNegative) : x = y := by
  have hxm : x.magnitude = infinityMagnitude := of_decide_eq_true hx
  have hym : y.magnitude = infinityMagnitude := of_decide_eq_true hy
  rw [← ofMagnitude_magnitude x, ← ofMagnitude_magnitude y, h, hxm, hym]

theorem text_inj {x y : Binary64} (hx : x.isNaN = false) (hy : y.isNaN = false)
    (h : x.text = y.text) : x = y := by
  cases hxi : x.isInfinite with
  | true =>
    have hnone := parse?_text_eq_none hxi
    cases hyi : y.isInfinite with
    | true =>
      apply eq_of_isNegative_eq hxi hyi
      rw [text_of_isInfinite hxi, text_of_isInfinite hyi] at h
      revert h
      cases x.isNegative <;> cases y.isNegative <;> decide
    | false =>
      obtain ⟨literal, hparse, -⟩ := exists_parse?_text (magnitude_lt hy hyi)
      rw [h, hparse] at hnone
      cases hnone
  | false =>
    obtain ⟨literal, hparse, hvalue⟩ := exists_parse?_text (magnitude_lt hx hxi)
    cases hyi : y.isInfinite with
    | true =>
      rw [h, parse?_text_eq_none hyi] at hparse
      cases hparse
    | false =>
      -- Both are the value of the one literal that their text is.
      obtain ⟨other, hparse', hvalue'⟩ := exists_parse?_text (magnitude_lt hy hyi)
      rw [h, hparse'] at hparse
      obtain rfl := Option.some.inj hparse
      rw [← hvalue, ← hvalue']

end Binary64

end Lexing
