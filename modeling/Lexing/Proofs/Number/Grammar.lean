import Lexing.Proofs.Number.Rounding
import Lexing.Proofs.Number.Spelling
import Mathlib.Algebra.Order.Field.Power

/-!
# The grammar of number literals

Number literals are what a grammar generates: an optional sign, digits with at most one
point and an optional exponent, with digits on one side of the point at least. A reader of
numbers takes one part of the text after the other, and what it reads is what the grammar
gives.

Readers of numbers know more: they also take the words for infinity and for no number, in
large and small letters. No literal is spelled like that, and where the only letters are
those of an exponent, there is nothing but literals to be read.

## Main definitions

* `Literal.Spells`: the grammar, with the parts of a literal.
* `Text.ReadsAs`: the floating-point number that a text is read as.

## Main results

* `Literal.parse?_eq_some_iff`: exactly the texts of the grammar are parsed.
* `Text.readsAs_iff_of_letters`: a filter of letters leaves the literals only.
* `Literal.Spells.isNearest_toRat`: a literal is read as the number nearest to its value.
-/

namespace Lexing

/-- There are only digits in the text. -/
def Text.IsDigits (text : Text) : Prop :=
  ∀ c ∈ text, c.isDigit = true

namespace Literal

/-- An optional sign, and whether it is a minus sign. -/
inductive IsSign : Bool → Text → Prop
  | none : IsSign false []
  | plus : IsSign false ['+']
  | minus : IsSign true ['-']

/-- Digits, with a point behind, among or in front of them. -/
inductive IsMantissa : Text → Text → Text → Prop
  | whole {whole : Text} (hne : whole ≠ []) (hwhole : whole.IsDigits) : IsMantissa whole [] whole
  | pointBehind {whole fraction : Text} (hne : whole ≠ []) (hwhole : whole.IsDigits)
      (hfraction : fraction.IsDigits) : IsMantissa whole fraction (whole ++ '.' :: fraction)
  | pointInFront {whole fraction : Text} (hne : fraction ≠ []) (hwhole : whole.IsDigits)
      (hfraction : fraction.IsDigits) : IsMantissa whole fraction (whole ++ '.' :: fraction)

/-- An optional exponent, with its sign and its digits. -/
inductive IsExponent : Option (Bool × Text) → Text → Prop
  | none : IsExponent none []
  | some {mark : Char} {negative : Bool} {sign digits : Text} (hmark : mark = 'e' ∨ mark = 'E')
      (hsign : IsSign negative sign) (hne : digits ≠ []) (hdigits : digits.IsDigits) :
    IsExponent (some (negative, digits)) (mark :: (sign ++ digits))

/-- The parts of a literal. -/
structure Parts where
  /-- Whether a minus sign is in front. -/
  negative : Bool
  /-- The digits in front of the point. -/
  whole : Text
  /-- The digits behind the point. -/
  fraction : Text
  /-- The sign and the digits of the exponent. -/
  exponent : Option (Bool × Text)

/-- The text is a literal with the given parts. -/
inductive Spells : Text → Parts → Prop
  | mk {parts : Parts} {sign mantissa exponent : Text} (hsign : IsSign parts.negative sign)
      (hmantissa : IsMantissa parts.whole parts.fraction mantissa)
      (hexponent : IsExponent parts.exponent exponent) :
    Spells (sign ++ (mantissa ++ exponent)) parts

/-- The text is a literal of the grammar. -/
def IsSpelling (text : Text) : Prop :=
  ∃ parts, Spells text parts

/-- The number that an exponent is, by a way to read its digits. -/
def powerOf (read : Text → Nat) : Option (Bool × Text) → Int
  | none => 0
  | some (negative, digits) => if negative then -(read digits : Int) else read digits

namespace Parts

/-- What the parts come to if the digits of the exponent are not counted without end. -/
def literal (parts : Parts) : Literal :=
  ⟨parts.negative, digitsValue (parts.whole ++ parts.fraction),
    powerOf exponentValue parts.exponent - parts.fraction.length⟩

/-- The value of the digits with their power of ten. -/
def toRat (parts : Parts) : ℚ :=
  digitsValue (parts.whole ++ parts.fraction) *
    10 ^ (powerOf digitsValue parts.exponent - parts.fraction.length)

end Parts

end Literal

/-- The words for infinity, in small letters. -/
def Text.infinityWords : List Text :=
  [['i', 'n', 'f'], ['i', 'n', 'f', 'i', 'n', 'i', 't', 'y']]

/-- The words that readers of numbers know, in small letters. -/
def Text.numberWords : List Text :=
  infinityWords ++ [['n', 'a', 'n']]

/-- A text and the number that a reader of numbers makes of it: the one nearest to a literal,
or what a word stands for. -/
inductive Text.ReadsAs : Text → Binary64 → Prop
  | number {text : Text} {parts : Literal.Parts} {m : Nat} (hspells : Literal.Spells text parts)
      (hnearest : Binary64.IsNearest parts.literal.decimal.toRat m) :
    ReadsAs text (.ofMagnitude parts.negative m)
  | infinity {negative : Bool} {sign word : Text} (hsign : Literal.IsSign negative sign)
      (hword : word.map Char.toLower ∈ infinityWords) :
    ReadsAs (sign ++ word) (.ofMagnitude negative Binary64.infinityMagnitude)
  | notNumber {negative : Bool} {sign word : Text} {v : Binary64}
      (hsign : Literal.IsSign negative sign) (hword : word.map Char.toLower = ['n', 'a', 'n'])
      (hnan : v.isNaN = true) : ReadsAs (sign ++ word) v

namespace Literal

variable {text rest : Text} {parts : Parts} {literal : Literal}

section Signs

theorem exists_isSign_readSign (text : Text) :
    ∃ sign, IsSign (readSign text).1 sign ∧ text = sign ++ (readSign text).2 := by
  unfold readSign
  split
  · exact ⟨_, .minus, rfl⟩
  · exact ⟨_, .plus, rfl⟩
  · exact ⟨_, .none, rfl⟩

theorem IsSign.readSign_append {negative : Bool} {sign : Text} (h : IsSign negative sign)
    (hrest : ∀ c ∈ rest.head?, c ≠ '+' ∧ c ≠ '-') : readSign (sign ++ rest) = (negative, rest) := by
  cases h with
  | plus => rfl
  | minus => rfl
  | none =>
    cases rest with
    | nil => rfl
    | cons c rest =>
      have hc := hrest c rfl
      simp [readSign, hc.1, hc.2]

theorem not_sign_of_isDigit {c : Char} (h : c.isDigit = true) : c ≠ '+' ∧ c ≠ '-' := by
  constructor
  · rintro rfl
    cases h
  · rintro rfl
    cases h

end Signs

section Exponents

theorem readExponent?_eq_some_iff {power : Int} : readExponent? text = some power ↔
    ∃ exponent, IsExponent exponent text ∧ powerOf exponentValue exponent = power := by
  constructor
  · intro h
    unfold readExponent? at h
    split at h
    · exact ⟨none, .none, Option.some.inj h⟩
    · rename_i mark rest
      split at h
      · rename_i hmark
        obtain ⟨sign, hsign, hrest⟩ := exists_isSign_readSign rest
        simp only at h
        split at h
        · cases h
        · rename_i hdigits
          rw [Bool.or_eq_true, not_or, Bool.not_eq_true', Bool.not_eq_false] at hdigits
          refine ⟨some ((readSign rest).1, (readSign rest).2), ?_, Option.some.inj h⟩
          have hexponent := IsExponent.some hmark hsign (by simpa using hdigits.1)
            (List.all_eq_true.1 hdigits.2)
          rwa [← hrest] at hexponent
      · cases h
  · rintro ⟨exponent, hexponent, rfl⟩
    cases hexponent with
    | none => rfl
    | some hmark hsign hne hdigits =>
      have hhead := fun c hc => not_sign_of_isDigit (hdigits c (List.mem_of_mem_head? hc))
      have hall := List.all_eq_true.2 hdigits
      simp [readExponent?, hmark, hsign.readSign_append hhead, hne, hall, powerOf]

theorem IsExponent.head? {exponent : Option (Bool × Text)} (h : IsExponent exponent text) :
    ∀ c ∈ text.head?, c.isDigit = false ∧ c ≠ '.' := by
  cases h with
  | none => simp
  | some hmark hsign hne hdigits =>
    intro c hc
    obtain rfl := Option.some.inj hc
    rcases hmark with rfl | rfl <;> decide

end Exponents

section Mantissas

/-- The digits in front of a point and behind it, and what follows them. -/
def readMantissa (text : Text) : Text × Text × Text :=
  (text.takeWhile Char.isDigit, readFraction (text.dropWhile Char.isDigit))

theorem parse?_eq (text : Text) : parse? text =
    let (whole, fraction, rest) := readMantissa (readSign text).2
    if whole.isEmpty && fraction.isEmpty then none
    else (readExponent? rest).map fun exponent =>
      ⟨(readSign text).1, digitsValue (whole ++ fraction), exponent - fraction.length⟩ := rfl

theorem exists_isMantissa_readMantissa {whole fraction : Text}
    (hread : readMantissa text = (whole, fraction, rest)) (hne : whole ≠ [] ∨ fraction ≠ []) :
    ∃ mantissa, IsMantissa whole fraction mantissa ∧ text = mantissa ++ rest := by
  obtain ⟨rfl, hfront⟩ := Prod.mk.inj hread
  have hwhole : Text.IsDigits (text.takeWhile Char.isDigit) := fun c => List.mem_takeWhile_imp
  have htext := (List.takeWhile_append_dropWhile (p := Char.isDigit) (l := text)).symm
  unfold readFraction at hfront
  split at hfront
  · rename_i behind hpoint
    obtain ⟨rfl, rfl⟩ := Prod.mk.inj hfront
    have hfraction : Text.IsDigits (behind.takeWhile Char.isDigit) :=
      fun c => List.mem_takeWhile_imp
    refine ⟨text.takeWhile Char.isDigit ++ '.' :: behind.takeWhile Char.isDigit, ?_, ?_⟩
    · rcases hne with hne | hne
      · exact .pointBehind hne hwhole hfraction
      · exact .pointInFront hne hwhole hfraction
    · rw [List.append_assoc, List.cons_append, List.takeWhile_append_dropWhile, ← hpoint]
      exact htext
  · obtain ⟨rfl, rfl⟩ := Prod.mk.inj hfront
    have hne := hne.resolve_right fun hne => hne rfl
    exact ⟨_, .whole hne hwhole, htext⟩

theorem IsMantissa.ne_nil {whole fraction mantissa : Text}
    (h : IsMantissa whole fraction mantissa) : whole ≠ [] ∨ fraction ≠ [] := by
  cases h with
  | whole hne => exact .inl hne
  | pointBehind hne => exact .inl hne
  | pointInFront hne => exact .inr hne

/-- There is no sign in front of digits that are followed by none. -/
theorem not_sign_of_digits {digits : Text} (hdigits : digits.IsDigits)
    (hrest : digits = [] → ∀ c ∈ rest.head?, c ≠ '+' ∧ c ≠ '-') :
    ∀ c ∈ (digits ++ rest).head?, c ≠ '+' ∧ c ≠ '-' := by
  cases digits with
  | nil => exact hrest rfl
  | cons d digits =>
    intro c hc
    obtain rfl := Option.some.inj hc
    exact not_sign_of_isDigit (hdigits d List.mem_cons_self)

theorem IsMantissa.not_sign {whole fraction mantissa : Text}
    (h : IsMantissa whole fraction mantissa) (rest : Text) :
    ∀ c ∈ (mantissa ++ rest).head?, c ≠ '+' ∧ c ≠ '-' := by
  cases h with
  | whole hne hwhole => exact not_sign_of_digits hwhole fun hempty => absurd hempty hne
  | pointBehind hne hwhole hfraction =>
    rw [List.append_assoc]
    exact not_sign_of_digits hwhole fun hempty => absurd hempty hne
  | pointInFront hne hwhole hfraction =>
    rw [List.append_assoc]
    refine not_sign_of_digits hwhole fun _ c hc => ?_
    obtain rfl := Option.some.inj hc
    decide

theorem readMantissa_point {whole fraction : Text} (hwhole : whole.IsDigits)
    (hfraction : fraction.IsDigits) (hrest : ∀ c ∈ rest.head?, c.isDigit = false) :
    readMantissa (whole ++ '.' :: fraction ++ rest) = (whole, fraction, rest) := by
  have hpoint : ∀ c ∈ ('.' :: (fraction ++ rest)).head?, c.isDigit = false := by
    intro c hc
    obtain rfl := Option.some.inj hc
    decide
  rw [List.append_assoc, List.cons_append, readMantissa,
    Lexeme.takeWhile_append_of_head? hwhole hpoint, Lexeme.dropWhile_append_of_head? hwhole hpoint,
    readFraction, Lexeme.takeWhile_append_of_head? hfraction hrest,
    Lexeme.dropWhile_append_of_head? hfraction hrest]

theorem readFraction_of_head? (hrest : ∀ c ∈ rest.head?, c ≠ '.') :
    readFraction rest = ([], rest) := by
  unfold readFraction
  split
  · exact absurd rfl (hrest '.' rfl)
  · rfl

theorem IsMantissa.readMantissa_append {whole fraction mantissa : Text}
    (h : IsMantissa whole fraction mantissa)
    (hrest : ∀ c ∈ rest.head?, c.isDigit = false ∧ c ≠ '.') :
    readMantissa (mantissa ++ rest) = (whole, fraction, rest) := by
  have hdigit := fun c hc => (hrest c hc).1
  cases h with
  | whole hne hwhole =>
    rw [readMantissa, Lexeme.takeWhile_append_of_head? hwhole hdigit,
      Lexeme.dropWhile_append_of_head? hwhole hdigit,
      readFraction_of_head? fun c hc => (hrest c hc).2]
  | pointBehind hne hwhole hfraction => exact readMantissa_point hwhole hfraction hdigit
  | pointInFront hne hwhole hfraction => exact readMantissa_point hwhole hfraction hdigit

end Mantissas

/-- Exactly the texts of the grammar are parsed, with their parts. -/
theorem parse?_eq_some_iff :
    parse? text = some literal ↔ ∃ parts, Spells text parts ∧ parts.literal = literal := by
  rw [parse?_eq]
  constructor
  · intro h
    obtain ⟨sign, hsign, htext⟩ := exists_isSign_readSign text
    rcases hread : readMantissa (readSign text).2 with ⟨whole, fraction, rest⟩
    rw [hread] at h
    by_cases hne : whole ≠ [] ∨ fraction ≠ []
    · obtain ⟨mantissa, hmantissa, hunsigned⟩ := exists_isMantissa_readMantissa hread hne
      have hempty : (whole.isEmpty && fraction.isEmpty) = false := by
        rcases hne with hne | hne <;> simp [hne]
      simp only [hempty, Bool.false_eq_true, if_false] at h
      obtain ⟨power, hpower, rfl⟩ := Option.map_eq_some_iff.1 h
      obtain ⟨exponent, hexponent, rfl⟩ := readExponent?_eq_some_iff.1 hpower
      have hspells : Spells (sign ++ (mantissa ++ rest))
          ⟨(readSign text).1, whole, fraction, exponent⟩ := .mk hsign hmantissa hexponent
      rw [← hunsigned, ← htext] at hspells
      exact ⟨_, hspells, rfl⟩
    · rw [not_or, not_not, not_not] at hne
      simp [hne.1, hne.2] at h
  · rintro ⟨parts, ⟨hsign, hmantissa, hexponent⟩, rfl⟩
    have hpower := readExponent?_eq_some_iff.2 ⟨_, hexponent, rfl⟩
    have hne : ¬(parts.whole = [] ∧ parts.fraction = []) := fun hempty =>
      hmantissa.ne_nil.elim (· hempty.1) (· hempty.2)
    rw [hsign.readSign_append (hmantissa.not_sign _),
      hmantissa.readMantissa_append hexponent.head?]
    simp [hne, hpower, Parts.literal]

-- A point alone, an exponent alone and an exponent without digits are no literals.
example : parse? ['.'] = none ∧ parse? ['e', '5'] = none ∧ parse? ['1', 'e', '+'] = none := by
  decide

theorem Spells.parse?_eq (h : Spells text parts) : parse? text = some parts.literal :=
  parse?_eq_some_iff.2 ⟨parts, h, rfl⟩

theorem isSpelling_iff : IsSpelling text ↔ ∃ literal, parse? text = some literal := by
  constructor
  · rintro ⟨parts, hspells⟩
    exact ⟨parts.literal, hspells.parse?_eq⟩
  · rintro ⟨literal, hparse⟩
    obtain ⟨parts, hspells, -⟩ := parse?_eq_some_iff.1 hparse
    exact ⟨parts, hspells⟩

theorem isNumeric_of_isSpelling (h : IsSpelling text) : ∀ c ∈ text, IsNumeric c := by
  obtain ⟨literal, hparse⟩ := isSpelling_iff.1 h
  exact fun c => mem_of_parse? hparse

/-- The only letters of a literal are those of its exponent. -/
theorem eq_of_isNumeric {c : Char} (h : IsNumeric c) (hletter : isAlphabetic c = true) :
    c = 'e' ∨ c = 'E' := by
  rcases h with hdigit | hmark
  · rw [(Vocabulary.kind_of_isDigit hdigit).2] at hletter
    cases hletter
  · simp only [List.mem_cons, List.not_mem_nil, or_false] at hmark
    rcases hmark with rfl | rfl | rfl | rfl | rfl
    · revert hletter
      decide
    · revert hletter
      decide
    · revert hletter
      decide
    · exact .inl rfl
    · exact .inr rfl

end Literal

namespace Text

variable {text sign word : Text} {parts : Literal.Parts} {negative : Bool} {v : Binary64}

section Words

theorem eq_or_of_toLower {c d : Char} (h : c.toLower = d) : c = d ∨ c.toNat + 32 = d.toNat := by
  delta Char.toLower at h
  split at h
  · rename_i hupper
    have hle : c.toNat ≤ 90 := hupper.2
    right
    rw [← h]
    show c.toNat + 32 = (c.val + 32).toNat
    rw [UInt32.toNat_add]
    show c.toNat + 32 = (c.toNat + 32) % 2 ^ 32
    omega
  · exact .inl h

/-- The first letter of a word for infinity or for no number. -/
theorem letter_of_toLower {c : Char} (h : c.toLower = 'i' ∨ c.toLower = 'n') :
    isAlphabetic c = true ∧ ¬(c = 'e' ∨ c = 'E') := by
  have hmem : c ∈ ['i', 'I', 'n', 'N'] := by
    rcases h with h | h
    · rcases eq_or_of_toLower h with rfl | hupper
      · decide
      · have hc : c = 'I' := Char.toNat_inj.1 (Nat.add_right_cancel hupper)
        simp [hc]
    · rcases eq_or_of_toLower h with rfl | hupper
      · decide
      · have hc : c = 'N' := Char.toNat_inj.1 (Nat.add_right_cancel hupper)
        simp [hc]
  simp only [List.mem_cons, List.not_mem_nil, or_false] at hmem
  rcases hmem with rfl | rfl | rfl | rfl <;> decide

/-- There is a letter in such a word that is in no literal. -/
theorem exists_letter_of_mem_numberWords (h : word.map Char.toLower ∈ numberWords) :
    ∃ c ∈ sign ++ word, isAlphabetic c = true ∧ ¬(c = 'e' ∨ c = 'E') := by
  cases word with
  | nil => simp [numberWords, infinityWords] at h
  | cons c word =>
    have hfirst : c.toLower = 'i' ∨ c.toLower = 'n' := by
      simp only [numberWords, infinityWords, List.cons_append, List.nil_append, List.map_cons,
        List.mem_cons, List.cons.injEq, List.not_mem_nil, or_false] at h
      rcases h with h | h | h
      · exact .inl h.1
      · exact .inl h.1
      · exact .inr h.1
    exact ⟨c, by simp, letter_of_toLower hfirst⟩

theorem not_isSpelling_of_mem_numberWords (h : word.map Char.toLower ∈ numberWords) :
    ¬Literal.IsSpelling (sign ++ word) := by
  intro hspelling
  obtain ⟨c, hmem, hletter, hne⟩ := @exists_letter_of_mem_numberWords sign word h
  exact hne (Literal.eq_of_isNumeric (Literal.isNumeric_of_isSpelling hspelling c hmem) hletter)

end Words

/-- What is read is a literal, or one of the words behind an optional sign. -/
theorem ReadsAs.cases (h : ReadsAs text v) : Literal.IsSpelling text ∨
    ∃ negative sign word, Literal.IsSign negative sign ∧ text = sign ++ word ∧
      word.map Char.toLower ∈ numberWords := by
  cases h with
  | number hspells => exact .inl ⟨_, hspells⟩
  | infinity hsign hword => exact .inr ⟨_, _, _, hsign, rfl, List.mem_append_left _ hword⟩
  | notNumber hsign hword =>
    exact .inr ⟨_, _, _, hsign, rfl, List.mem_append_right _ (List.mem_singleton.2 hword)⟩

/-- Where the only letters are those of exponents, only literals are read. -/
theorem readsAs_iff_of_letters :
    (∀ c ∈ text, isAlphabetic c = true → c = 'e' ∨ c = 'E') ∧ ReadsAs text v ↔
      Literal.IsSpelling text ∧ ReadsAs text v := by
  constructor
  · rintro ⟨hletters, hreads⟩
    refine ⟨?_, hreads⟩
    rcases hreads.cases with hspelling | ⟨negative, sign, word, -, rfl, hword⟩
    · exact hspelling
    · obtain ⟨c, hmem, hletter, hne⟩ := @exists_letter_of_mem_numberWords sign word hword
      exact absurd (hletters c hmem hletter) hne
  · rintro ⟨hspelling, hreads⟩
    refine ⟨fun c hmem => ?_, hreads⟩
    exact Literal.eq_of_isNumeric (Literal.isNumeric_of_isSpelling hspelling c hmem)

/-- A literal is read as its value and as nothing else. -/
theorem readsAs_iff_of_spells (h : Literal.Spells text parts) :
    ReadsAs text v ↔ v = parts.literal.value := by
  constructor
  · intro hreads
    have hspelling : Literal.IsSpelling text := ⟨parts, h⟩
    cases hreads with
    | @number _ other m hspells hnearest =>
      have hsame : other.literal = parts.literal :=
        Option.some.inj (hspells.parse?_eq.symm.trans h.parse?_eq)
      have hnegative : other.negative = parts.negative := congrArg Literal.negative hsame
      rw [hsame] at hnearest
      rw [hnegative, hnearest.unique parts.literal.decimal.isNearest_nearest]
      rfl
    | infinity hsign hword =>
      exact absurd hspelling (not_isSpelling_of_mem_numberWords (List.mem_append_left _ hword))
    | notNumber hsign hword =>
      have hmem := List.mem_append_right infinityWords (List.mem_singleton.2 hword)
      exact absurd hspelling (not_isSpelling_of_mem_numberWords hmem)
  · rintro rfl
    exact .number h parts.literal.decimal.isNearest_nearest

theorem readsAs_iff_of_parse? {literal : Literal} (h : Literal.parse? text = some literal) :
    ReadsAs text v ↔ v = literal.value := by
  obtain ⟨parts, hspells, rfl⟩ := Literal.parse?_eq_some_iff.1 h
  exact readsAs_iff_of_spells hspells

theorem IsDigits.isSpelling (hne : text ≠ []) (h : text.IsDigits) : Literal.IsSpelling text := by
  have hspells : Literal.Spells ([] ++ (text ++ [])) ⟨false, text, [], none⟩ :=
    .mk .none (.whole hne h) .none
  rw [List.nil_append, List.append_nil] at hspells
  exact ⟨_, hspells⟩

end Text

namespace Binary64

theorem toRat_infinity : toRat infinityMagnitude = 2 ^ 1024 := by
  have hmagnitude : infinityMagnitude = 2045 * 2 ^ 52 + 2 ^ 53 := by decide
  have hunits := @units_shift 2045 (2 ^ 53) (.inr (by decide)) (Nat.le_refl _)
  rw [toRat, hmagnitude, hunits, Nat.cast_mul, Nat.cast_pow, Nat.cast_pow, Nat.cast_ofNat,
    ← pow_add, div_eq_iff (by positivity), ← pow_add]

theorem two_pow_le_ten_pow (n : Nat) : (2 : ℚ) ^ (3 * n) ≤ 10 ^ n := by
  rw [pow_mul]
  exact pow_le_pow_left₀ (by norm_num) (by norm_num) n

/-- A number with so great an exponent is infinite. -/
theorem isNearest_of_great {coefficient n : Nat} {power : Int} (hpos : 0 < coefficient)
    (hn : 1024 ≤ 3 * n) (hpower : n ≤ power) :
    IsNearest (coefficient * 10 ^ power) infinityMagnitude := by
  apply isNearest_infinity
  rw [toRat_infinity]
  have hone : (1 : ℚ) ≤ coefficient := by exact_mod_cast hpos
  calc (2 : ℚ) ^ 1024 ≤ 2 ^ (3 * n) := pow_le_pow_right₀ (by norm_num) hn
    _ ≤ 10 ^ n := two_pow_le_ten_pow n
    _ = 10 ^ (n : Int) := (zpow_natCast 10 n).symm
    _ ≤ 10 ^ power := zpow_le_zpow_right₀ (by norm_num) hpower
    _ ≤ coefficient * 10 ^ power := le_mul_of_one_le_left (by positivity) hone

/-- A number with so small an exponent is zero. -/
theorem isNearest_of_small {coefficient places n : Nat} {power : Int}
    (hlt : coefficient < 10 ^ places) (hn : 1074 + 2 ≤ 3 * n) (hpower : power + places ≤ -n) :
    IsNearest (coefficient * 10 ^ power) 0 := by
  apply isNearest_zero (by positivity)
  have hcast : (coefficient : ℚ) ≤ 10 ^ places := by exact_mod_cast hlt.le
  have hsmall : (coefficient : ℚ) * 10 ^ power ≤ 1 / 2 ^ (1074 + 2) := by
    calc (coefficient : ℚ) * 10 ^ power ≤ 10 ^ places * 10 ^ power :=
          mul_le_mul_of_nonneg_right hcast (by positivity)
      _ = 10 ^ (power + places) := by
        rw [zpow_add₀ (by norm_num), zpow_natCast, mul_comm]
      _ ≤ 10 ^ (-n : Int) := zpow_le_zpow_right₀ (by norm_num) hpower
      _ = 1 / 10 ^ n := by rw [zpow_neg, zpow_natCast, one_div]
      _ ≤ 1 / 2 ^ (3 * n) := one_div_le_one_div_of_le (by positivity) (two_pow_le_ten_pow n)
      _ ≤ 1 / 2 ^ (1074 + 2) :=
        one_div_le_one_div_of_le (by positivity) (pow_le_pow_right₀ (by norm_num) hn)
  have hone : toRat 1 = 1 / 2 ^ 1074 := by simp [toRat, units]
  rw [pow_add, ← div_div, ← hone] at hsmall
  have hpos : 0 < toRat 1 := by
    rw [hone]
    positivity
  linarith

end Binary64

namespace Literal

variable {text digits : Text} {parts : Parts}

theorem foldl_exponent_cases (digits : Text) {m n : Nat}
    (h : m = n ∨ exponentLimit ≤ m ∧ exponentLimit ≤ n) :
    let limited := digits.foldl
      (fun n c => if n < exponentLimit then n * 10 + digitValue c else n) m
    let full := digits.foldl (fun n c => n * 10 + digitValue c) n
    limited = full ∨ exponentLimit ≤ limited ∧ exponentLimit ≤ full := by
  induction digits generalizing m n with
  | nil => exact h
  | cons c digits ih =>
    apply ih
    by_cases hlt : m < exponentLimit
    · obtain rfl := h.resolve_right fun hle => absurd hle.1 (Nat.not_le_of_lt hlt)
      exact .inl (if_pos hlt)
    · have hle : exponentLimit ≤ m ∧ exponentLimit ≤ n := by omega
      simp only [if_neg hlt]
      omega

/-- An exponent is all of its digits or past the limit. -/
theorem exponentValue_cases (digits : Text) : exponentValue digits = digitsValue digits ∨
    exponentLimit ≤ exponentValue digits ∧ exponentLimit ≤ digitsValue digits :=
  foldl_exponent_cases digits (.inl rfl)

theorem digitsValue_lt (h : digits.IsDigits) : digitsValue digits < 10 ^ digits.length := by
  induction digits with
  | nil => decide
  | cons c digits ih =>
    obtain ⟨hc, hdigits⟩ := List.forall_mem_cons.1 h
    obtain ⟨n, hn, rfl⟩ := exists_digitChar_of_isDigit hc
    have hfirst : digitsValue [Nat.digitChar n] = n := by
      rw [digitsValue_eq, Nat.ofDigitChars_cons_digitChar_of_lt_ten hn]
      simp
    have happend := digitsValue_append [Nat.digitChar n] digits
    rw [List.singleton_append, hfirst] at happend
    have hlt := ih hdigits
    rw [happend, List.length_cons, Nat.pow_succ]
    have hmul : n * 10 ^ digits.length ≤ 9 * 10 ^ digits.length :=
      Nat.mul_le_mul_right _ (by omega)
    omega

/-- Past the limit, all powers of ten are very great or very small. -/
theorem powerOf_cases (exponent : Option (Bool × Text)) :
    powerOf exponentValue exponent = powerOf digitsValue exponent ∨
      (65536 ≤ powerOf exponentValue exponent ∧ 65536 ≤ powerOf digitsValue exponent) ∨
      (powerOf exponentValue exponent ≤ -65536 ∧ powerOf digitsValue exponent ≤ -65536) := by
  cases exponent with
  | none => exact .inl rfl
  | some exponent =>
    obtain ⟨negative, digits⟩ := exponent
    have hcases := exponentValue_cases digits
    rw [exponentLimit] at hcases
    cases negative with
    | false =>
      simp only [powerOf, Bool.false_eq_true, if_false]
      omega
    | true =>
      simp only [powerOf, if_true]
      omega

theorem IsMantissa.isDigits {whole fraction mantissa : Text}
    (h : IsMantissa whole fraction mantissa) : Text.IsDigits (whole ++ fraction) := by
  cases h with
  | whole hne hwhole => simpa using hwhole
  | pointBehind hne hwhole hfraction => exact List.forall_mem_append.2 ⟨hwhole, hfraction⟩
  | pointInFront hne hwhole hfraction => exact List.forall_mem_append.2 ⟨hwhole, hfraction⟩

theorem IsMantissa.length_le {whole fraction mantissa : Text}
    (h : IsMantissa whole fraction mantissa) :
    whole.length + fraction.length ≤ mantissa.length := by
  cases h with
  | whole hne hwhole => exact Nat.le_refl _
  | pointBehind hne hwhole hfraction => simp
  | pointInFront hne hwhole hfraction => simp

/-- The limit of exponents does not show in a literal that is not as long as the numbers are
past it. -/
theorem Spells.isNearest_toRat (h : Spells text parts) (hlength : text.length ≤ 65000) :
    Binary64.IsNearest parts.toRat parts.literal.decimal.nearest := by
  obtain ⟨hsign, hmantissa, hexponent⟩ := h
  have hplaces : parts.whole.length + parts.fraction.length ≤ 65000 := by
    have hle := hmantissa.length_le
    rw [List.length_append, List.length_append] at hlength
    omega
  have hlt := digitsValue_lt hmantissa.isDigits
  have hlimited := parts.literal.decimal.isNearest_nearest
  rcases powerOf_cases parts.exponent with hsame | hgreat | hsmall
  · have hvalue : parts.toRat = parts.literal.decimal.toRat := by
      rw [Parts.toRat, ← hsame]
      rfl
    rwa [hvalue]
  · by_cases hzero : digitsValue (parts.whole ++ parts.fraction) = 0
    · have hvalue : parts.toRat = parts.literal.decimal.toRat := by
        simp [Parts.toRat, Parts.literal, Decimal.toRat, hzero]
      rwa [hvalue]
    · have hpos := Nat.pos_of_ne_zero hzero
      have hinfinite := @Binary64.isNearest_of_great _ 536
        (powerOf exponentValue parts.exponent - parts.fraction.length) hpos (by decide) (by omega)
      rw [hlimited.unique hinfinite]
      exact Binary64.isNearest_of_great hpos (by decide : 1024 ≤ 3 * 536) (by omega)
  · rw [List.length_append] at hlt
    have hnothing := @Binary64.isNearest_of_small _ _ 536
      (powerOf exponentValue parts.exponent - parts.fraction.length) hlt (by decide) (by omega)
    rw [hlimited.unique hnothing]
    exact Binary64.isNearest_of_small hlt (by decide : 1074 + 2 ≤ 3 * 536) (by omega)

end Literal

end Lexing
