import Lexing.Proofs.Text.Utf8
import Mathlib.Order.Bounds.Basic

/-!
# Where bytes stop being a text

Bytes that are no text are refused with a place and, unless they end inside a character,
with a number of bytes. Neither depends on how they are read. The place is the end of the
longest text in front, and the number is the length of the longest beginning of a character
behind it, where a byte that begins none counts all the same.

## Main definitions

* `Utf8.IsBegun`: a beginning of a character.
* `Utf8.DecodingError.Describes`: what a refusal says about the bytes.

## Main results

* `Utf8.readCharacter_eq_truncated_iff`: the bytes end inside a character.
* `Utf8.isGreatest_of_malformed`: the length of the longest beginning of a character.
* `Utf8.decode_eq_error_iff`: bytes that are no text are refused with the one error that
  describes them.
-/

namespace Lexing.Utf8

/-- The bytes begin a character of which some bytes are missing. -/
def IsBegun (bytes : List UInt8) : Prop :=
  ∃ c missing, missing ≠ [] ∧ String.utf8EncodeChar c = bytes ++ missing

/-- The lengths of the texts in front. -/
def textLengths (bytes : List UInt8) : Set Nat :=
  {n | ∃ text, encode text <+: bytes ∧ (encode text).length = n}

/-- The lengths of the beginnings of a character in front. -/
def begunLengths (bytes : List UInt8) : Set Nat :=
  {n | ∃ front, front <+: bytes ∧ front.length = n ∧ IsBegun front}

/-- What a refusal says about the bytes. -/
structure DecodingError.Describes (error : DecodingError) (bytes : List UInt8) : Prop where
  /-- The text in front is as long as it can be. -/
  isGreatest_validUpTo : IsGreatest (textLengths bytes) error.validUpTo
  /-- No length is given if the bytes end in the middle of a character. -/
  errorLength_eq_none_iff : error.errorLength = none ↔ IsBegun (bytes.drop error.validUpTo)
  /-- The length is that of the longest beginning of a character, and one at least. -/
  exists_isGreatest : ∀ length, error.errorLength = some length →
    ∃ begun, IsGreatest (begunLengths (bytes.drop error.validUpTo)) begun ∧ length = max 1 begun

variable {value seen low high count n : Nat} {first : UInt8} {bytes rest more : List UInt8}
  {c : Char}

section Continuation

/-- The step if there are more bytes behind those that were read. -/
def Step.followedBy (more : List UInt8) : Step → Step
  | .character c rest => .character c (rest ++ more)
  | step => step

theorem readContinuation_append
    (h : readContinuation value seen low high count bytes ≠ .truncated) (more : List UInt8) :
    readContinuation value seen low high count (bytes ++ more) =
      (readContinuation value seen low high count bytes).followedBy more := by
  induction count generalizing value seen low high bytes with
  | zero => rfl
  | succ count ih =>
    cases bytes with
    | nil => exact absurd rfl h
    | cons byte bytes =>
      rw [readContinuation] at h
      rw [List.cons_append, readContinuation, readContinuation]
      by_cases hrange : low ≤ byte.toNat ∧ byte.toNat ≤ high
      · rw [if_pos hrange] at h ⊢
        rw [if_pos hrange]
        exact ih h
      · rw [if_neg hrange, if_neg hrange]
        rfl

/-- Whatever is in front, there are bytes that complete the character. -/
theorem exists_readContinuation_eq (hle : low ≤ high) (hhigh : high < 256) :
    ∃ missing c, missing.length = count ∧
      readContinuation value seen low high count missing = .character c [] := by
  induction count generalizing value seen low high with
  | zero => exact ⟨[], _, rfl, rfl⟩
  | succ count ih =>
    have hbyte : (UInt8.ofNat low).toNat = low :=
      UInt8.toNat_ofNat_of_lt' (Nat.lt_of_le_of_lt hle hhigh)
    obtain ⟨missing, c, hlength, hread⟩ :=
      @ih (value * 64 + low % 64) (seen + 1) 0x80 0xbf (by decide) (by decide)
    refine ⟨UInt8.ofNat low :: missing, c, by rw [List.length_cons, hlength], ?_⟩
    rw [readContinuation, hbyte, if_pos ⟨Nat.le_refl _, hle⟩]
    exact hread

theorem exists_append_of_truncated (hle : low ≤ high) (hhigh : high < 256)
    (h : readContinuation value seen low high count bytes = .truncated) :
    ∃ missing c, missing ≠ [] ∧
      readContinuation value seen low high count (bytes ++ missing) = .character c [] := by
  induction count generalizing value seen low high bytes with
  | zero => cases h
  | succ count ih =>
    cases bytes with
    | nil =>
      obtain ⟨missing, c, hlength, hread⟩ := exists_readContinuation_eq hle hhigh
      exact ⟨missing, c, List.ne_nil_of_length_eq_add_one hlength, hread⟩
    | cons byte bytes =>
      rw [readContinuation] at h
      split at h
      · rename_i hrange
        obtain ⟨missing, c, hne, hread⟩ := ih (by decide) (by decide) h
        refine ⟨missing, c, hne, ?_⟩
        rw [List.cons_append, readContinuation, if_pos hrange]
        exact hread
      · cases h

/-- A byte that cannot stand where it does is the first one of this sort. -/
theorem exists_of_malformed
    (h : readContinuation value seen low high count bytes = .malformed n) :
    ∃ front byte more, bytes = front ++ byte :: more ∧ n = seen + front.length ∧
      readContinuation value seen low high count front = .truncated ∧
      readContinuation value seen low high count (front ++ [byte]) = .malformed n := by
  induction count generalizing value seen low high bytes with
  | zero => cases h
  | succ count ih =>
    cases bytes with
    | nil => cases h
    | cons byte bytes =>
      rw [readContinuation] at h
      by_cases hrange : low ≤ byte.toNat ∧ byte.toNat ≤ high
      · rw [if_pos hrange] at h
        obtain ⟨front, wrong, more, rfl, hn, hfront, hwrong⟩ := ih h
        refine ⟨byte :: front, wrong, more, rfl, ?_, ?_, ?_⟩
        · rw [hn, List.length_cons]
          omega
        · rw [readContinuation, if_pos hrange]
          exact hfront
        · rw [List.cons_append, readContinuation, if_pos hrange]
          exact hwrong
      · rw [if_neg hrange] at h
        obtain rfl := Step.malformed.inj h
        refine ⟨[], byte, bytes, rfl, rfl, rfl, ?_⟩
        rw [List.nil_append, readContinuation, if_neg hrange]

end Continuation

section Character

/-- What a byte says about those that follow it. -/
inductive Leads (first : UInt8) : Prop
  | alone (c : Char) (h : ∀ bytes, readCharacter first bytes = .character c bytes)
  | nowhere (h : ∀ bytes, readCharacter first bytes = .malformed 1)
  | continued (value low high count : Nat) (hle : low ≤ high) (hhigh : high < 256)
      (h : ∀ bytes, readCharacter first bytes =
        readContinuation value 1 low high (count + 1) bytes)

theorem leads (first : UInt8) : Leads first := by
  by_cases hone : first.toNat ≤ 0x7f
  · refine .alone (Char.ofNat first.toNat) fun bytes => ?_
    simp only [readCharacter, if_pos hone]
  by_cases hstray : first.toNat < 0xc2
  · refine .nowhere fun bytes => ?_
    simp only [readCharacter, if_neg hone, if_pos hstray]
  by_cases htwo : first.toNat ≤ 0xdf
  · refine .continued (first.toNat % 32) 0x80 0xbf 0 (by decide) (by decide) fun bytes => ?_
    simp only [readCharacter, if_neg hone, if_neg hstray, if_pos htwo]
  by_cases hthree : first.toNat ≤ 0xef
  · refine .continued (first.toNat % 16) (if first.toNat = 0xe0 then 0xa0 else 0x80)
      (if first.toNat = 0xed then 0x9f else 0xbf) 1 ?_ ?_ fun bytes => ?_
    · split <;> split <;> omega
    · split <;> decide
    · simp only [readCharacter, if_neg hone, if_neg hstray, if_neg htwo, if_pos hthree]
  by_cases hfour : first.toNat ≤ 0xf4
  · refine .continued (first.toNat % 8) (if first.toNat = 0xf0 then 0x90 else 0x80)
      (if first.toNat = 0xf4 then 0x8f else 0xbf) 2 ?_ ?_ fun bytes => ?_
    · split <;> split <;> omega
    · split <;> decide
    · simp only [readCharacter, if_neg hone, if_neg hstray, if_neg htwo, if_neg hthree,
        if_pos hfour]
  · refine .nowhere fun bytes => ?_
    simp only [readCharacter, if_neg hone, if_neg hstray, if_neg htwo, if_neg hthree,
      if_neg hfour]

theorem readCharacter_append (h : readCharacter first bytes ≠ .truncated) (more : List UInt8) :
    readCharacter first (bytes ++ more) = (readCharacter first bytes).followedBy more := by
  cases leads first with
  | alone c hread =>
    rw [hread, hread]
    rfl
  | nowhere hread =>
    rw [hread, hread]
    rfl
  | continued value low high count hle hhigh hread =>
    rw [hread] at h
    rw [hread, hread]
    exact readContinuation_append h more

/-- The bytes end inside a character exactly if they begin one. -/
theorem readCharacter_eq_truncated_iff :
    readCharacter first bytes = .truncated ↔ IsBegun (first :: bytes) := by
  constructor
  · intro h
    cases leads first with
    | alone c hread =>
      rw [hread] at h
      cases h
    | nowhere hread =>
      rw [hread] at h
      cases h
    | continued value low high count hle hhigh hread =>
      rw [hread] at h
      obtain ⟨missing, c, hne, hcomplete⟩ := exists_append_of_truncated hle hhigh h
      rw [← hread] at hcomplete
      refine ⟨c, missing, hne, ?_⟩
      simpa using (encode_of_readCharacter hcomplete).symm
  · rintro ⟨c, missing, hne, hencode⟩
    by_contra h
    have hread : readCharacter first (bytes ++ missing) = .character c [] :=
      readCharacter_of_encode (by simp [hencode])
    rw [readCharacter_append h missing] at hread
    -- The character would end in front of the missing bytes.
    cases hshort : readCharacter first bytes with
    | character d rest =>
      rw [hshort, Step.followedBy, Step.character.injEq, List.append_eq_nil_iff] at hread
      exact hne hread.2.2
    | malformed n =>
      rw [hshort] at hread
      cases hread
    | truncated => exact h hshort

theorem isBegun_nil : IsBegun [] :=
  ⟨'a', String.utf8EncodeChar 'a', by simp, rfl⟩

theorem IsBegun.of_isPrefix (h : IsBegun bytes) {front : List UInt8} (hfront : front <+: bytes) :
    IsBegun front := by
  obtain ⟨c, missing, hne, hencode⟩ := h
  obtain ⟨more, rfl⟩ := hfront
  exact ⟨c, more ++ missing, by simp [hne], by rw [hencode, List.append_assoc]⟩

theorem isGreatest_of_malformed (h : readCharacter first bytes = .malformed n) :
    ∃ begun, IsGreatest (begunLengths (first :: bytes)) begun ∧ n = max 1 begun := by
  cases leads first with
  | alone c hread =>
    rw [hread] at h
    cases h
  | nowhere hread =>
    rw [hread] at h
    obtain rfl := Step.malformed.inj h
    refine ⟨0, ⟨⟨[], List.nil_prefix, rfl, isBegun_nil⟩, ?_⟩, rfl⟩
    rintro _ ⟨front, hfront, rfl, hbegun⟩
    cases front with
    | nil => exact Nat.le_refl _
    | cons byte front =>
      obtain ⟨rfl, -⟩ := List.cons_prefix_cons.1 hfront
      have htruncated := readCharacter_eq_truncated_iff.2 hbegun
      rw [hread] at htruncated
      cases htruncated
  | continued value low high count hle hhigh hread =>
    rw [hread] at h
    obtain ⟨front, wrong, more, rfl, rfl, hfront, hwrong⟩ := exists_of_malformed h
    rw [← hread] at hfront hwrong
    refine ⟨(first :: front).length, ⟨⟨first :: front, ?_, rfl, ?_⟩, ?_⟩, ?_⟩
    · exact ⟨wrong :: more, by simp⟩
    · exact readCharacter_eq_truncated_iff.1 hfront
    · rintro _ ⟨longer, hlonger, rfl, hbegun⟩
      -- A longer beginning would hold the byte that is wrong.
      by_contra hlt
      have hprefix : first :: (front ++ [wrong]) <+: longer :=
        List.prefix_of_prefix_length_le ⟨more, by simp⟩ hlonger (by
          rw [List.length_cons, List.length_append, List.length_singleton]
          rw [List.length_cons] at hlt
          omega)
      have htruncated := readCharacter_eq_truncated_iff.2 (hbegun.of_isPrefix hprefix)
      rw [hwrong] at htruncated
      cases htruncated
    · rw [List.length_cons]
      omega

end Character

section Text

variable {text other : Text}

theorem utf8EncodeChar_append_inj {d : Char}
    (h : String.utf8EncodeChar c ++ bytes = String.utf8EncodeChar d ++ more) :
    c = d ∧ bytes = more := by
  obtain ⟨first, front, hfront⟩ :=
    List.exists_cons_of_ne_nil (show String.utf8EncodeChar c ++ bytes ≠ [] by simp)
  have hc := readCharacter_of_encode hfront.symm
  have hd := readCharacter_of_encode (hfront.symm.trans h)
  exact Step.character.inj (hc.symm.trans hd)

/-- No text reaches beyond the place where no character starts. -/
theorem length_encode_le_of_isPrefix
    (hread : ∀ c rest, readCharacter first more ≠ .character c rest)
    (h : encode other <+: encode text ++ first :: more) :
    (encode other).length ≤ (encode text).length := by
  induction text generalizing other with
  | nil =>
    cases other with
    | nil => exact Nat.le_refl _
    | cons d other =>
      obtain ⟨tail, htail⟩ := h
      rw [encode_cons, List.append_assoc] at htail
      exact absurd (readCharacter_of_encode htail.symm) (hread d _)
  | cons c text ih =>
    cases other with
    | nil => exact Nat.zero_le _
    | cons d other =>
      obtain ⟨tail, htail⟩ := h
      rw [encode_cons, encode_cons, List.append_assoc, List.append_assoc] at htail
      obtain ⟨rfl, hrest⟩ := utf8EncodeChar_append_inj htail
      have hle := ih ⟨tail, hrest⟩
      rw [encode_cons, encode_cons, List.length_append, List.length_append]
      omega

/-- The step that is refused with a number of bytes, or without one. -/
def faultOf : Option Nat → Step
  | some length => .malformed length
  | none => .truncated

theorem exists_of_decodeFrom_eq_error {offset : Nat} {read : Text} {error : DecodingError}
    (h : decodeFrom offset read bytes = .error error) :
    ∃ text first more, bytes = encode text ++ first :: more ∧
      error.validUpTo = offset + (encode text).length ∧
      readCharacter first more = faultOf error.errorLength := by
  fun_induction decodeFrom offset read bytes with
  | case1 offset read => cases h
  | case2 offset read first bytes c rest hread hlength ih =>
    obtain ⟨text, fault, more, rfl, hoffset, hfault⟩ := ih h
    refine ⟨c :: text, fault, more, ?_, ?_, hfault⟩
    · rw [encode_of_readCharacter hread, encode_cons, List.append_assoc]
    · rw [hoffset, encode_cons, List.length_append, String.length_utf8EncodeChar, Nat.add_assoc]
  | case3 offset read first bytes length hread =>
    obtain rfl := Except.error.inj h
    exact ⟨[], first, bytes, rfl, rfl, hread⟩
  | case4 offset read first bytes hread =>
    obtain rfl := Except.error.inj h
    exact ⟨[], first, bytes, rfl, rfl, hread⟩

theorem describes_of_decode {error : DecodingError} (h : decode bytes = .error error) :
    error.Describes bytes := by
  obtain ⟨text, first, more, rfl, hvalid, hfault⟩ := exists_of_decodeFrom_eq_error h
  rw [Nat.zero_add] at hvalid
  have hdrop : (encode text ++ first :: more).drop error.validUpTo = first :: more := by
    rw [hvalid, List.drop_left]
  refine ⟨⟨?_, ?_⟩, ?_, ?_⟩
  · exact ⟨text, List.prefix_append _ _, hvalid.symm⟩
  · rintro _ ⟨other, hother, rfl⟩
    rw [hvalid]
    refine length_encode_le_of_isPrefix (fun c rest hread => ?_) hother
    rw [hfault] at hread
    cases hlength : error.errorLength <;> rw [hlength] at hread <;> cases hread
  · rw [hdrop, ← readCharacter_eq_truncated_iff, hfault]
    cases error.errorLength <;> simp [faultOf]
  · intro length hlength
    rw [hlength] at hfault
    rw [hdrop]
    exact isGreatest_of_malformed hfault

theorem DecodingError.Describes.unique {error other : DecodingError}
    (h : error.Describes bytes) (hother : other.Describes bytes) : error = other := by
  obtain ⟨place, length⟩ := error
  obtain ⟨place', length'⟩ := other
  obtain rfl : place = place' := h.isGreatest_validUpTo.unique hother.isGreatest_validUpTo
  have hnone := h.errorLength_eq_none_iff.trans hother.errorLength_eq_none_iff.symm
  simp only at hnone
  cases length with
  | none => rw [hnone.1 rfl]
  | some n =>
    cases length' with
    | none => cases hnone.2 rfl
    | some m =>
      obtain ⟨begun, hbegun, rfl⟩ := h.exists_isGreatest n rfl
      obtain ⟨begun', hbegun', rfl⟩ := hother.exists_isGreatest m rfl
      rw [hbegun.unique hbegun']

theorem decode_eq_error_iff {error : DecodingError} :
    decode bytes = .error error ↔ (∀ text, bytes ≠ encode text) ∧ error.Describes bytes := by
  constructor
  · intro h
    refine ⟨fun text htext => ?_, describes_of_decode h⟩
    rw [decode_eq_ok_iff.2 htext] at h
    cases h
  · rintro ⟨hnone, hdescribes⟩
    cases hdecode : decode bytes with
    | ok text => exact absurd (decode_eq_ok_iff.1 hdecode) (hnone text)
    | error found => rw [(describes_of_decode hdecode).unique hdescribes]

end Text

end Lexing.Utf8
