import Lexing.Text.Utf8
import Mathlib.Data.List.Basic

/-!
# Decoding what was encoded

The bytes that are read as a character are those that encode it, and no others: longer
forms, surrogates and what is behind the last code point have no encoding. So the bytes
that are decoded are those of a text, and the text can be told from them.

## Main definitions

* `Utf8.encode`: the bytes of a text.

## Main results

* `Utf8.decode_eq_ok_iff`: the bytes encode the text.
-/

namespace Lexing.Utf8

/-- The bytes of a text. -/
def encode (text : Text) : List UInt8 :=
  text.flatMap String.utf8EncodeChar

@[simp] theorem encode_nil : encode [] = [] := rfl

@[simp] theorem encode_cons (c : Char) (text : Text) :
    encode (c :: text) = String.utf8EncodeChar c ++ encode text := rfl

variable {value seen low high count : Nat} {first : UInt8} {bytes rest : List UInt8} {c : Char}

theorem readContinuation_zero_iff :
    readContinuation value seen low high 0 bytes = .character c rest ↔
      Char.ofNat value = c ∧ bytes = rest := by
  rw [readContinuation, Step.character.injEq]

theorem readContinuation_succ_iff :
    readContinuation value seen low high (count + 1) bytes = .character c rest ↔
      ∃ byte more, bytes = byte :: more ∧ (low ≤ byte.toNat ∧ byte.toNat ≤ high) ∧
        readContinuation (value * 64 + byte.toNat % 64) (seen + 1) 0x80 0xbf count more =
          .character c rest := by
  cases bytes with
  | nil => simp [readContinuation]
  | cons byte more =>
    rw [readContinuation]
    split
    · rename_i hrange
      simp [hrange]
    · rename_i hrange
      simp [hrange]

/-- The byte that continues a code point with the digit of `w` to the base 64. -/
theorem readContinuation_cons {w : Nat} (hlow : low ≤ w % 64 + 128) (hhigh : w % 64 + 128 ≤ high) :
    readContinuation value seen low high (count + 1) (UInt8.ofNat (w % 64 + 128) :: bytes) =
      readContinuation (value * 64 + w % 64) (seen + 1) 0x80 0xbf count bytes := by
  have hbyte : (UInt8.ofNat (w % 64 + 128)).toNat = w % 64 + 128 :=
    UInt8.toNat_ofNat_of_lt' (by rw [UInt8.size]; omega)
  have hdigit : (w % 64 + 128) % 64 = w % 64 := by omega
  rw [readContinuation, hbyte, if_pos ⟨hlow, hhigh⟩, hdigit]

/-- The encoding of a character is read as the character. -/
theorem readCharacter_of_encode (h : first :: bytes = String.utf8EncodeChar c ++ rest) :
    readCharacter first bytes = .character c rest := by
  have hvalid : c.toNat < 0xd800 ∨ 0xdfff < c.toNat ∧ c.toNat < 0x110000 := c.valid
  have hfirst {n : Nat} (hn : n < 256) : (UInt8.ofNat n).toNat = n := UInt8.toNat_ofNat_of_lt' hn
  obtain ⟨v, hv, rfl⟩ : ∃ v, c.toNat = v ∧ Char.ofNat v = c := ⟨_, rfl, Char.ofNat_toNat c⟩
  rw [hv] at hvalid
  simp only [String.utf8EncodeChar, Char.toNat_val, hv] at h
  -- One case for each length.
  split at h
  · simp only [List.cons_append, List.nil_append, List.cons.injEq] at h
    obtain ⟨rfl, rfl⟩ := h
    simp only [readCharacter, hfirst (show v < 256 by omega)]
    rw [if_pos (by omega)]
  · split at h
    · simp only [List.cons_append, List.nil_append, List.cons.injEq] at h
      obtain ⟨rfl, rfl⟩ := h
      simp only [readCharacter, hfirst (show v / 64 % 32 + 192 < 256 by omega)]
      rw [if_neg (by omega), if_neg (by omega), if_pos (by omega),
        readContinuation_cons (by omega) (by omega), readContinuation]
      congr 2
      omega
    · split at h
      · simp only [List.cons_append, List.nil_append, List.cons.injEq] at h
        obtain ⟨rfl, rfl⟩ := h
        simp only [readCharacter, hfirst (show v / 4096 % 16 + 224 < 256 by omega)]
        rw [if_neg (by omega), if_neg (by omega), if_neg (by omega), if_pos (by omega),
          readContinuation_cons (by split <;> omega) (by split <;> omega),
          readContinuation_cons (by omega) (by omega), readContinuation]
        congr 2
        omega
      · simp only [List.cons_append, List.nil_append, List.cons.injEq] at h
        obtain ⟨rfl, rfl⟩ := h
        simp only [readCharacter, hfirst (show v / 262144 % 8 + 240 < 256 by omega)]
        rw [if_neg (by omega), if_neg (by omega), if_neg (by omega), if_neg (by omega),
          if_pos (by omega), readContinuation_cons (by split <;> omega) (by split <;> omega),
          readContinuation_cons (by omega) (by omega),
          readContinuation_cons (by omega) (by omega), readContinuation]
        congr 2
        omega

/-- The encoding of a code point that is no surrogate and not behind the last one. -/
theorem utf8EncodeChar_ofNat {v : Nat} (h : v < 0xd800 ∨ 0xdfff < v ∧ v < 0x110000) :
    String.utf8EncodeChar (Char.ofNat v) =
      if v ≤ 0x7f then [UInt8.ofNat v]
      else if v ≤ 0x7ff then [UInt8.ofNat (v / 64 % 32 + 192), UInt8.ofNat (v % 64 + 128)]
      else if v ≤ 0xffff then
        [UInt8.ofNat (v / 4096 % 16 + 224), UInt8.ofNat (v / 64 % 64 + 128),
          UInt8.ofNat (v % 64 + 128)]
      else
        [UInt8.ofNat (v / 262144 % 8 + 240), UInt8.ofNat (v / 4096 % 64 + 128),
          UInt8.ofNat (v / 64 % 64 + 128), UInt8.ofNat (v % 64 + 128)] := by
  have hv : (Char.ofNat v).toNat = v := by
    rw [Char.ofNat, dif_pos h]
    rfl
  simp only [String.utf8EncodeChar, Char.toNat_val, hv]

theorem eq_ofNat (byte : UInt8) {n : Nat} (h : byte.toNat = n) : byte = UInt8.ofNat n := by
  rw [← h, UInt8.ofNat_toNat]

/-- Some first bytes narrow the range of the second one. -/
theorem second_range {b x lowest least highest greatest : Nat}
    (h : (if b = lowest then least else 0x80) ≤ x ∧ x ≤ if b = highest then greatest else 0xbf)
    (hleast : 0x80 ≤ least) (hgreatest : greatest ≤ 0xbf) :
    0x80 ≤ x ∧ x ≤ 0xbf ∧ (b = lowest → least ≤ x) ∧ (b = highest → x ≤ greatest) := by
  obtain ⟨hlow, hhigh⟩ := h
  split at hlow <;> split at hhigh <;> omega

theorem encode_of_readCharacter (h : readCharacter first bytes = .character c rest) :
    first :: bytes = String.utf8EncodeChar c ++ rest := by
  simp only [readCharacter] at h
  split at h
  · obtain ⟨rfl, rfl⟩ := Step.character.inj h
    rw [utf8EncodeChar_ofNat (by omega), if_pos (by omega), UInt8.ofNat_toNat]
    rfl
  · split at h
    · cases h
    · split at h
      · obtain ⟨byte, more, rfl, hbyte, h⟩ := readContinuation_succ_iff.1 h
        obtain ⟨rfl, rfl⟩ := readContinuation_zero_iff.1 h
        rw [utf8EncodeChar_ofNat (by omega), if_neg (by omega), if_pos (by omega),
          ← eq_ofNat first (by omega), ← eq_ofNat byte (by omega)]
        rfl
      · split at h
        · obtain ⟨second, more, rfl, hsecond, h⟩ := readContinuation_succ_iff.1 h
          obtain ⟨third, more, rfl, hthird, h⟩ := readContinuation_succ_iff.1 h
          obtain ⟨rfl, rfl⟩ := readContinuation_zero_iff.1 h
          have hrange := second_range hsecond (by decide) (by decide)
          rw [utf8EncodeChar_ofNat (by omega), if_neg (by omega), if_neg (by omega),
            if_pos (by omega), ← eq_ofNat first (by omega),
            ← eq_ofNat second (by omega), ← eq_ofNat third (by omega)]
          rfl
        · split at h
          · obtain ⟨second, more, rfl, hsecond, h⟩ := readContinuation_succ_iff.1 h
            obtain ⟨third, more, rfl, hthird, h⟩ := readContinuation_succ_iff.1 h
            obtain ⟨fourth, more, rfl, hfourth, h⟩ := readContinuation_succ_iff.1 h
            obtain ⟨rfl, rfl⟩ := readContinuation_zero_iff.1 h
            have hrange := second_range hsecond (by decide) (by decide)
            rw [utf8EncodeChar_ofNat (by omega), if_neg (by omega), if_neg (by omega),
              if_neg (by omega), ← eq_ofNat first (by omega),
              ← eq_ofNat second (by omega), ← eq_ofNat third (by omega),
              ← eq_ofNat fourth (by omega)]
            rfl
          · cases h

theorem cons_eq_encode_iff {text : Text} :
    first :: bytes = encode text ↔
      ∃ c more, text = c :: more ∧ readCharacter first bytes = .character c (encode more) := by
  constructor
  · intro h
    cases text with
    | nil => cases h
    | cons c more => exact ⟨c, more, rfl, readCharacter_of_encode h⟩
  · rintro ⟨c, more, rfl, hread⟩
    exact encode_of_readCharacter hread

/-- Behind the characters already read come those that the bytes encode. -/
theorem decodeFrom_eq_ok_iff {offset : Nat} {read text : Text} :
    decodeFrom offset read bytes = .ok text ↔
      ∃ more, text = read.reverse ++ more ∧ bytes = encode more := by
  fun_induction decodeFrom offset read bytes with
  | case1 offset read =>
    constructor
    · intro h
      exact ⟨[], by simpa using (Except.ok.inj h).symm, rfl⟩
    · rintro ⟨more, rfl, hbytes⟩
      cases more with
      | nil => simp
      | cons c more => simp at hbytes
  | case2 offset read first bytes c rest hread hlength ih =>
    simp only [ih, cons_eq_encode_iff, hread, Step.character.injEq]
    constructor
    · rintro ⟨more, rfl, rfl⟩
      exact ⟨c :: more, by simp, c, more, rfl, rfl, rfl⟩
    · rintro ⟨_, rfl, _, more, rfl, rfl, rfl⟩
      exact ⟨more, by simp, rfl⟩
  | case3 offset read first bytes length hread => simp [cons_eq_encode_iff, hread]
  | case4 offset read first bytes hread => simp [cons_eq_encode_iff, hread]

/-- The bytes are decoded exactly if they are those of a text, and then to this text. -/
theorem decode_eq_ok_iff {text : Text} : decode bytes = .ok text ↔ bytes = encode text := by
  rw [decode, decodeFrom_eq_ok_iff]
  simp

end Lexing.Utf8
