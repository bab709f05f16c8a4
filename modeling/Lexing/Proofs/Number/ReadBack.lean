import Lexing.Proofs.Number.Nearest
import Lexing.Proofs.Scanner.Cut
import Lexing.Vocabulary

/-!
# Numbers that are read back

A finite number is shown as a number literal, and the literal has the value of the
number: the same sign, and a decimal of which the number's magnitude is the nearest
one. The point and the zeros around it may stand elsewhere than in the decimal that
was shown, which changes the fraction but not its value.

## Main definitions

* `Decimal.written`: digits around a point.
* `Decimal.padded`: a numeral with zeros in front.

## Main results

* `Decimal.exists_positional_eq`: how a decimal is shown.
* `Binary64.exists_parse?_text`: a finite number is read back.
* `Vocabulary.classify_text`: what the text of a finite number stands for.
-/

namespace Lexing

theorem exists_digitChar_of_isDigit {c : Char} (h : c.isDigit = true) :
    ∃ n, n < 10 ∧ c = Nat.digitChar n := by
  have hbounds : 48 ≤ c.toNat ∧ c.toNat ≤ 57 := by
    simpa [Char.isDigit, UInt32.le_iff_toNat_le] using h
  refine ⟨c.toNat - 48, by omega, ?_⟩
  apply Char.toNat_inj.1
  rw [Nat.toNat_digitChar_of_lt_ten (by omega)]
  omega

namespace Literal

theorem digitsValue_eq (ds : Text) : digitsValue ds = Nat.ofDigitChars 10 ds 0 := by
  simp only [digitsValue, Nat.ofDigitChars, digitValue, Nat.mul_comm]

theorem digitsValue_numeral (n : Nat) : digitsValue (Text.numeral n) = n := by
  rw [digitsValue_eq, Text.numeral, Nat.ofDigitChars_ten_toDigits]

theorem digitsValue_append (left right : Text) :
    digitsValue (left ++ right) = digitsValue left * 10 ^ right.length + digitsValue right := by
  simp only [digitsValue_eq, Nat.ofDigitChars_append]
  rw [Nat.ofDigitChars_eq_ofDigitChars_zero, Nat.mul_comm]

theorem digitsValue_replicate (n : Nat) : digitsValue (List.replicate n '0') = 0 := by
  simp [digitsValue_eq]

theorem readSign_of_isDigit (negative : Bool) {text : Text}
    (hdigit : ∀ c ∈ text.head?, c.isDigit = true) :
    readSign (if negative then '-' :: text else text) = (negative, text) := by
  cases negative with
  | true => rfl
  | false =>
    cases text with
    | nil => rfl
    | cons c rest =>
      have hc := hdigit c rfl
      have hminus : c ≠ '-' := by
        rintro rfl
        cases hc
      have hplus : c ≠ '+' := by
        rintro rfl
        cases hc
      simp [readSign, hminus, hplus]

end Literal

namespace Decimal

/-- Digits around a point, which is left out if there are none behind it. -/
def written (whole fraction : Text) : Text :=
  if fraction.isEmpty then whole else whole ++ '.' :: fraction

/-- The numeral of a number, with zeros in front that make it `places` digits. -/
def padded (n places : Nat) : Text :=
  List.replicate (places - (Text.numeral n).length) '0' ++ Text.numeral n

theorem isDigit_of_mem_numeral {n : Nat} {c : Char} (h : c ∈ Text.numeral n) :
    c.isDigit = true :=
  Nat.isDigit_of_mem_toDigits (by decide) (by decide) h

theorem isDigit_of_mem_padded {n places : Nat} {c : Char} (h : c ∈ padded n places) :
    c.isDigit = true := by
  rcases List.mem_append.1 h with hc | hc
  · rw [List.eq_of_mem_replicate hc]
    rfl
  · exact isDigit_of_mem_numeral hc

theorem length_padded {n places : Nat} (hpos : 0 < places) (h : n < 10 ^ places) :
    (padded n places).length = places := by
  have hfits : (Text.numeral n).length ≤ places :=
    (Nat.length_toDigits_le_iff (by decide) hpos).2 h
  rw [padded, List.length_append, List.length_replicate]
  omega

theorem digitsValue_padded (n places : Nat) : Literal.digitsValue (padded n places) = n := by
  rw [padded, Literal.digitsValue_append, Literal.digitsValue_replicate,
    Literal.digitsValue_numeral, Nat.zero_mul, Nat.zero_add]

/-- Behind the point only zeros are dropped. -/
theorem exists_eq_dropTrailingZeros_append (ds : Text) :
    ∃ n, ds = dropTrailingZeros ds ++ List.replicate n '0' := by
  have hzeros : ∀ c ∈ (ds.reverse.takeWhile (· == '0')).reverse, c = '0' := by
    intro c hc
    have hzero := List.mem_takeWhile_imp (List.mem_reverse.1 hc)
    exact beq_iff_eq.1 hzero
  refine ⟨(ds.reverse.takeWhile (· == '0')).reverse.length, ?_⟩
  rw [← List.eq_replicate_of_mem hzeros, dropTrailingZeros, ← List.reverse_append,
    List.takeWhile_append_dropWhile, List.reverse_reverse]

/-- Digits at the right of a decimal are as good as a power of ten. -/
theorem nearest_mul_ten_pow (coefficient places dropped : Nat) :
    nearestMagnitude (coefficient * 10 ^ dropped) (10 ^ (places + dropped)) =
      nearestMagnitude coefficient (10 ^ places) := by
  rw [Nat.pow_add]
  exact nearestMagnitude_mul_right _ _ (Nat.pow_pos (by decide))

/-- The digits on both sides of the point of a decimal spell it up to the zeros that are
dropped. -/
theorem nearest_dropTrailingZeros (coefficient : Nat) {places : Nat} (hpos : 0 < places) :
    let fraction := dropTrailingZeros (padded (coefficient % 10 ^ places) places)
    (Decimal.mk (Literal.digitsValue (Text.numeral (coefficient / 10 ^ places) ++ fraction))
      (-(fraction.length : Int))).nearest = nearestMagnitude coefficient (10 ^ places) := by
  intro fraction
  have hlength := length_padded hpos (Nat.mod_lt coefficient (Nat.pow_pos (by decide)))
  have hvalue := digitsValue_padded (coefficient % 10 ^ places) places
  obtain ⟨dropped, hdropped⟩ :=
    exists_eq_dropTrailingZeros_append (padded (coefficient % 10 ^ places) places)
  rw [hdropped, List.length_append, List.length_replicate] at hlength
  rw [hdropped, Literal.digitsValue_append, Literal.digitsValue_replicate,
    List.length_replicate, Nat.add_zero] at hvalue
  -- With the dropped zeros, the digits on both sides spell the coefficient.
  have hspelled : Literal.digitsValue (Text.numeral (coefficient / 10 ^ places) ++ fraction) *
      10 ^ dropped = coefficient := by
    rw [Literal.digitsValue_append, Literal.digitsValue_numeral, Nat.add_mul, hvalue,
      Nat.mul_assoc, ← Nat.pow_add, hlength, Nat.div_add_mod']
  rw [nearest_neg, ← nearest_mul_ten_pow _ _ dropped, hspelled, hlength]

/-- A decimal is shown as digits around a point, and the decimal that these spell has
the same magnitude nearest to it. -/
theorem exists_positional_eq (d : Decimal) :
    ∃ whole fraction, d.positional = written whole fraction ∧ whole ≠ [] ∧
      (∀ c ∈ whole ++ fraction, c.isDigit = true) ∧
      (Decimal.mk (Literal.digitsValue (whole ++ fraction)) (-(fraction.length : Int))).nearest =
        d.nearest := by
  obtain ⟨coefficient, exponent⟩ := d
  cases exponent with
  | ofNat n =>
    by_cases hzero : coefficient = 0
    · subst hzero
      refine ⟨['0'], [], rfl, by simp, by simp, ?_⟩
      have hspelled : Literal.digitsValue (['0'] ++ []) = 0 := rfl
      rw [hspelled, nearest_neg]
      simp [nearest, nearestMagnitude_zero]
    · refine ⟨Text.numeral coefficient ++ List.replicate n '0', [], ?_, ?_, ?_, ?_⟩
      · simp [positional, written, hzero]
      · simp [Text.numeral]
      · intro c hc
        rw [List.append_nil] at hc
        rcases List.mem_append.1 hc with hc | hc
        · exact isDigit_of_mem_numeral hc
        · rw [List.eq_of_mem_replicate hc]
          rfl
      · rw [List.append_nil, nearest_neg, Literal.digitsValue_append,
          Literal.digitsValue_numeral, Literal.digitsValue_replicate]
        simp [nearest]
  | negSucc n =>
    let digits := padded (coefficient % 10 ^ (n + 1)) (n + 1)
    refine ⟨Text.numeral (coefficient / 10 ^ (n + 1)), dropTrailingZeros digits, rfl,
      by simp [Text.numeral], ?_, nearest_dropTrailingZeros coefficient (Nat.succ_pos n)⟩
    intro c hc
    rcases List.mem_append.1 hc with hc | hc
    · exact isDigit_of_mem_numeral hc
    · obtain ⟨dropped, hdropped⟩ := exists_eq_dropTrailingZeros_append digits
      apply isDigit_of_mem_padded
      show c ∈ digits
      rw [hdropped]
      exact List.mem_append_left _ hc

end Decimal

/-- Digits around a point, with or without a minus sign, are a number literal. -/
theorem Literal.parse?_written (negative : Bool) {whole fraction : Text} (hne : whole ≠ [])
    (hdigits : ∀ c ∈ whole ++ fraction, c.isDigit = true) :
    parse? (if negative then '-' :: Decimal.written whole fraction
        else Decimal.written whole fraction) =
      some ⟨negative, ⟨digitsValue (whole ++ fraction), -(fraction.length : Int)⟩⟩ := by
  have hwhole : ∀ c ∈ whole, c.isDigit = true := fun c hc =>
    hdigits c (List.mem_append_left _ hc)
  have hfraction : ∀ c ∈ fraction, c.isDigit = true := fun c hc =>
    hdigits c (List.mem_append_right _ hc)
  have hhead : ∀ c ∈ (Decimal.written whole fraction).head?, c.isDigit = true := by
    intro c hc
    cases whole with
    | nil => exact absurd rfl hne
    | cons d rest =>
      have hsame : d = c := by
        rw [Decimal.written] at hc
        split at hc <;> simpa using hc
      exact hwhole c (by simp [hsame])
  have hempty : whole.isEmpty = false := by simpa using hne
  rw [parse?, readSign_of_isDigit negative hhead]
  by_cases hnone : fraction = []
  · subst hnone
    have htake : whole.takeWhile Char.isDigit = whole := List.takeWhile_eq_self_iff.2 hwhole
    have hdrop : whole.dropWhile Char.isDigit = [] := List.dropWhile_eq_nil_iff.2 hwhole
    simp [Decimal.written, htake, hdrop, readFraction, readExponent?, hempty]
  · have hpoint : ∀ c ∈ ('.' :: fraction).head?, c.isDigit = false := by
      intro c hc
      obtain rfl : '.' = c := Option.some.inj hc
      rfl
    have hwritten : Decimal.written whole fraction = whole ++ '.' :: fraction := by
      simp [Decimal.written, hnone]
    have htake := Lexeme.takeWhile_append_of_head? hwhole hpoint
    have hdrop := Lexeme.dropWhile_append_of_head? hwhole hpoint
    have htake' : fraction.takeWhile Char.isDigit = fraction :=
      List.takeWhile_eq_self_iff.2 hfraction
    have hdrop' : fraction.dropWhile Char.isDigit = [] := List.dropWhile_eq_nil_iff.2 hfraction
    simp [hwritten, htake, hdrop, readFraction, htake', hdrop', readExponent?, hempty]

namespace Binary64

theorem ofMagnitude_eq (negative : Bool) (magnitude : Nat) :
    ofMagnitude negative magnitude =
      ⟨UInt64.ofNat ((if negative then 2 ^ 63 else 0) + magnitude)⟩ := rfl

theorem isNegative_eq (x : Binary64) : x.isNegative = decide (2 ^ 63 ≤ x.bits.toNat) := rfl

theorem magnitude_eq (x : Binary64) : x.magnitude = x.bits.toNat % 2 ^ 63 := rfl

theorem ofMagnitude_magnitude (x : Binary64) : ofMagnitude x.isNegative x.magnitude = x := by
  have hlt := x.bits.toNat_lt
  have hsum : (if x.isNegative then 2 ^ 63 else 0) + x.magnitude = x.bits.toNat := by
    rw [isNegative_eq, magnitude_eq]
    by_cases h : 2 ^ 63 ≤ x.bits.toNat
    · simp only [h, decide_true, if_true]
      omega
    · simp only [h, decide_false, Bool.false_eq_true, if_false]
      omega
  rw [ofMagnitude_eq, hsum, UInt64.ofNat_toNat]

theorem magnitude_ofMagnitude (negative : Bool) {m : Nat} (h : m ≤ infinityMagnitude) :
    (ofMagnitude negative m).magnitude = m := by
  have hm : m < 2 ^ 63 := Nat.lt_of_le_of_lt h (by decide)
  cases negative with
  | true =>
    simp only [magnitude_eq, ofMagnitude_eq, if_true, UInt64.toNat_ofNat']
    omega
  | false =>
    simp only [magnitude_eq, ofMagnitude_eq, Bool.false_eq_true, if_false, UInt64.toNat_ofNat']
    omega

theorem magnitude_lt {x : Binary64} (hnumber : x.isNaN = false) (hfinite : x.isInfinite = false) :
    x.magnitude < infinityMagnitude := by
  have hle := of_decide_eq_false hnumber
  have hne := of_decide_eq_false hfinite
  omega

/-- The text of a finite number is digits around a point, with a sign in front. -/
theorem exists_text_eq {x : Binary64} (h : x.magnitude < infinityMagnitude) :
    ∃ whole fraction, whole ≠ [] ∧ (∀ c ∈ whole ++ fraction, c.isDigit = true) ∧
      x.text = (if x.isNegative then '-' :: Decimal.written whole fraction
        else Decimal.written whole fraction) ∧
      (Decimal.mk (Literal.digitsValue (whole ++ fraction)) (-(fraction.length : Int))).nearest =
        x.magnitude := by
  obtain ⟨whole, fraction, hshown, hne, hdigits, hnearest⟩ :=
    (Decimal.shortest x.magnitude).exists_positional_eq
  rw [Decimal.nearest_shortest h] at hnearest
  have hnumber : x.isNaN = false := decide_eq_false (by omega)
  have hfinite : x.isInfinite = false := decide_eq_false (by omega)
  refine ⟨whole, fraction, hne, hdigits, ?_, hnearest⟩
  simp only [text, hnumber, hfinite, Bool.false_eq_true, if_false, hshown]

/-- A finite number that is shown as one character is shown as a digit. -/
theorem isDigit_of_text_eq_singleton {x : Binary64} (h : x.magnitude < infinityMagnitude)
    {c : Char} (hc : x.text = [c]) : c.isDigit = true := by
  obtain ⟨whole, fraction, hne, hdigits, htext, -⟩ := exists_text_eq h
  have hpos : 0 < whole.length := List.length_pos_iff.2 hne
  have hlength := congrArg List.length (htext.symm.trans hc)
  rw [htext] at hc
  cases hnegative : x.isNegative with
  | true =>
    -- There is a digit behind the sign.
    rw [hnegative, if_pos rfl, Decimal.written] at hlength
    split at hlength
    · simp at hlength
      exact absurd hlength hne
    · simp at hlength
  | false =>
    rw [hnegative, if_neg Bool.false_ne_true, Decimal.written] at hc hlength
    split at hc
    · exact hdigits c (by simp [hc])
    · rename_i hpoint
      rw [if_neg hpoint] at hlength
      simp at hlength
      omega

/-- The text of a finite number is a literal with the number as its value. -/
theorem exists_parse?_text {x : Binary64} (h : x.magnitude < infinityMagnitude) :
    ∃ literal, Literal.parse? x.text = some literal ∧ literal.value = x := by
  obtain ⟨whole, fraction, hne, hdigits, htext, hnearest⟩ := exists_text_eq h
  refine ⟨_, by rw [htext, Literal.parse?_written _ hne hdigits], ?_⟩
  rw [Literal.value, hnearest, ofMagnitude_magnitude]

theorem isNaN_value (literal : Literal) : literal.value.isNaN = false := by
  have hle : literal.decimal.nearest ≤ infinityMagnitude := by
    unfold Decimal.nearest
    split
    · exact nearestMagnitude_le _ _
    · exact nearestMagnitude_le _ _
  refine decide_eq_false ?_
  rw [Literal.value, magnitude_ofMagnitude _ hle]
  omega

theorem text_of_isInfinite {x : Binary64} (h : x.isInfinite = true) :
    x.text = (if x.isNegative then ['-', 'i', 'n', 'f'] else ['i', 'n', 'f']) := by
  have hnumber : x.isNaN = false := decide_eq_false (by
    have := of_decide_eq_true h
    omega)
  simp only [text, hnumber, h, Bool.false_eq_true, if_false, if_true]
  rfl

/-- What numbers are shown with is neither blank nor a quotation mark. -/
theorem isBlank_of_numeric {c : Char} (h : c = '-' ∨ c = '.' ∨ c.isDigit = true) :
    isBlank c = false ∧ c ≠ '"' := by
  rcases h with rfl | rfl | hc
  · decide
  · decide
  · obtain ⟨n, hn, rfl⟩ := exists_digitChar_of_isDigit hc
    have hdigit : ∀ n, n < 10 →
        isBlank (Nat.digitChar n) = false ∧ Nat.digitChar n ≠ '"' := by decide
    exact hdigit n hn

theorem isBare_written (negative : Bool) {whole fraction : Text} (hne : whole ≠ [])
    (hdigits : ∀ c ∈ whole ++ fraction, c.isDigit = true) :
    IsBare (if negative then '-' :: Decimal.written whole fraction
      else Decimal.written whole fraction) := by
  have hwritten : ∀ c ∈ Decimal.written whole fraction, c = '.' ∨ c.isDigit = true := by
    intro c hc
    rw [Decimal.written] at hc
    split at hc
    · exact Or.inr (hdigits c (List.mem_append_left _ hc))
    · rcases List.mem_append.1 hc with hc | hc
      · exact Or.inr (hdigits c (List.mem_append_left _ hc))
      · rcases List.mem_cons.1 hc with hc | hc
        · exact Or.inl hc
        · exact Or.inr (hdigits c (List.mem_append_right _ hc))
  have hfilled : Decimal.written whole fraction ≠ [] := by
    rw [Decimal.written]
    split <;> simp [hne]
  cases negative with
  | true =>
    have hmark : ∀ c ∈ '-' :: Decimal.written whole fraction, isBlank c = false ∧ c ≠ '"' := by
      intro c hc
      rcases List.mem_cons.1 hc with hc | hc
      · exact isBlank_of_numeric (Or.inl hc)
      · exact isBlank_of_numeric (Or.inr (hwritten c hc))
    exact ⟨by simp, by simp, fun c hc => (hmark c hc).1⟩
  | false =>
    have hmark : ∀ c ∈ Decimal.written whole fraction, isBlank c = false ∧ c ≠ '"' :=
      fun c hc => isBlank_of_numeric (Or.inr (hwritten c hc))
    refine ⟨hfilled, fun hhead => ?_, fun c hc => (hmark c hc).1⟩
    exact (hmark '"' (List.mem_of_mem_head? hhead)).2 rfl

theorem isBare_text (x : Binary64) : IsBare x.text := by
  by_cases hnumber : x.isNaN = true
  · have htext : x.text = ['N', 'a', 'N'] := by simp only [text, hnumber, if_true]; rfl
    rw [htext]
    decide
  · by_cases hinfinite : x.isInfinite = true
    · rw [text_of_isInfinite hinfinite]
      split
      · decide
      · decide
    · obtain ⟨whole, fraction, hne, hdigits, htext, -⟩ :=
        exists_text_eq (magnitude_lt (by simpa using hnumber) (by simpa using hinfinite))
      rw [htext]
      exact isBare_written x.isNegative hne hdigits

end Binary64

namespace Vocabulary

theorem kind_of_isDigit {c : Char} (h : c.isDigit = true) :
    Symbol.ofChar? c = none ∧ isAlphabetic c = false := by
  obtain ⟨n, hn, rfl⟩ := exists_digitChar_of_isDigit h
  have hdigit : ∀ n, n < 10 → Symbol.ofChar? (Nat.digitChar n) = none ∧
      isAlphabetic (Nat.digitChar n) = false := by decide
  exact hdigit n hn

/-- A digit stands for the number that it spells as a literal. -/
theorem classifyCharacter_of_isDigit {c : Char} (h : c.isDigit = true) :
    ∃ literal, Literal.parse? [c] = some literal ∧
      classifyCharacter c = some (.number literal.value) := by
  have hdigits : ∀ d ∈ [c] ++ [], d.isDigit = true := by simpa using h
  have hparse : Literal.parse? [c] = some ⟨false, ⟨Literal.digitsValue [c], 0⟩⟩ :=
    Literal.parse?_written false (List.cons_ne_nil c []) hdigits
  refine ⟨_, hparse, ?_⟩
  simp [classifyCharacter, kind_of_isDigit h, h, Literal.digitsValue]

/-- The text of a finite number stands for the number, unless it is a reserved word of
two or more characters. -/
theorem classify_text (vocabulary : Vocabulary) {x : Binary64}
    (h : x.magnitude < Binary64.infinityMagnitude) :
    vocabulary.classify x.text =
      if 2 ≤ x.text.length ∧ vocabulary.isReserved x.text = true then some (.name x.text)
      else some (.number x) := by
  obtain ⟨literal, hparse, hvalue⟩ := Binary64.exists_parse?_text h
  match hshown : x.text with
  | [] => exact absurd hshown (Binary64.isBare_text x).ne_nil
  | [c] =>
    obtain ⟨same, hsame, hclassify⟩ :=
      classifyCharacter_of_isDigit (Binary64.isDigit_of_text_eq_singleton h hshown)
    rw [hshown, hsame] at hparse
    obtain rfl := Option.some.inj hparse
    simp [classify, hclassify, hvalue]
  | c :: d :: rest =>
    rw [hshown] at hparse
    by_cases hreserved : vocabulary.isReserved (c :: d :: rest) = true
    · simp [classify, classifyWord, hreserved]
    · simp [classify, classifyWord, hreserved, hparse, hvalue]

theorem classify_text_ne (vocabulary : Vocabulary) {x : Binary64} (h : x.isInfinite = true) :
    vocabulary.classify x.text ≠ some (.number x) := by
  have hword : ∀ c d rest, Literal.parse? (c :: d :: rest) = none →
      vocabulary.classify (c :: d :: rest) ≠ some (.number x) := by
    intro c d rest hparse
    by_cases hreserved : vocabulary.isReserved (c :: d :: rest) = true
    · simp [classify, classifyWord, hreserved]
    · simp [classify, classifyWord, hreserved, hparse]
  rw [Binary64.text_of_isInfinite h]
  split
  · exact hword _ _ _ (by decide)
  · exact hword _ _ _ (by decide)

end Vocabulary

end Lexing
