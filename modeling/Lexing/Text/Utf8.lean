import Lexing.Text.Offset

/-!
# Decoding UTF-8

A character takes one to four bytes. The first byte says how many more follow and,
for some first bytes, narrows the range of the second one, which keeps out longer
forms than needed, surrogates and code points behind the last one. All other bytes
that follow lie between 80 and BF (hexadecimal).

Bytes that are no text are refused at the first byte that starts no character. The
refusal tells how many bytes were looked at in vain, or that the bytes end inside
a character.

## Main definitions

* `Utf8.readCharacter`: the character at the front of some bytes.
* `Utf8.decode`: the text that some bytes encode, or the place of the first fault.
* `Utf8.DecodingError`: that place, and its wording.
-/

namespace Lexing.Utf8

/-- What the front of some bytes holds. -/
inductive Step where
  /-- A character, and the bytes behind it. -/
  | character (c : Char) (rest : List UInt8)
  /-- No character: the first `length` bytes start none, whatever follows. -/
  | malformed (length : Nat)
  /-- The bytes end inside a character. -/
  | truncated
  deriving DecidableEq, Repr

/-- The code point begun with `value` and continued by `count` more bytes, the first
of them between `low` and `high`; `seen` bytes are already read. -/
def readContinuation (value seen low high : Nat) : Nat → List UInt8 → Step
  | 0, rest => .character (Char.ofNat value) rest
  | _ + 1, [] => .truncated
  | count + 1, byte :: rest =>
    if low ≤ byte.toNat ∧ byte.toNat ≤ high then
      readContinuation (value * 64 + byte.toNat % 64) (seen + 1) 0x80 0xbf count rest
    else .malformed seen

/-- The character that starts with the byte `first`. -/
def readCharacter (first : UInt8) (rest : List UInt8) : Step :=
  let b := first.toNat
  if b ≤ 0x7f then .character (Char.ofNat b) rest
  else if b < 0xc2 then .malformed 1
  else if b ≤ 0xdf then readContinuation (b % 32) 1 0x80 0xbf 1 rest
  else if b ≤ 0xef then
    readContinuation (b % 16) 1 (if b = 0xe0 then 0xa0 else 0x80)
      (if b = 0xed then 0x9f else 0xbf) 2 rest
  else if b ≤ 0xf4 then
    readContinuation (b % 8) 1 (if b = 0xf0 then 0x90 else 0x80)
      (if b = 0xf4 then 0x8f else 0xbf) 3 rest
  else .malformed 1

/-- Continuation bytes are taken from the front. -/
theorem readContinuation_length_le {value seen low high count : Nat}
    {bytes : List UInt8} {c : Char} {rest : List UInt8}
    (h : readContinuation value seen low high count bytes = .character c rest) :
    rest.length ≤ bytes.length := by
  induction count generalizing value seen low high bytes with
  | zero =>
    simp only [readContinuation, Step.character.injEq] at h
    exact Nat.le_of_eq (congrArg List.length h.2.symm)
  | succ count ih =>
    cases bytes with
    | nil => simp [readContinuation] at h
    | cons byte bytes =>
      rw [readContinuation] at h
      split at h
      · exact Nat.le_succ_of_le (ih h)
      · cases h

/-- Reading a character leaves fewer bytes than there were. -/
theorem readCharacter_length_le {first : UInt8} {bytes : List UInt8} {c : Char}
    {rest : List UInt8} (h : readCharacter first bytes = .character c rest) :
    rest.length ≤ bytes.length := by
  simp only [readCharacter] at h
  split at h
  · simp only [Step.character.injEq] at h
    exact Nat.le_of_eq (congrArg List.length h.2.symm)
  · split at h
    · cases h
    · split at h
      · exact readContinuation_length_le h
      · split at h
        · exact readContinuation_length_le h
        · split at h
          · exact readContinuation_length_le h
          · cases h

/-- The place where bytes stop being a text. -/
structure DecodingError where
  /-- The number of bytes in front of the fault, which are a text. -/
  validUpTo : Nat
  /-- How many bytes were read before no character could be made of them; `none`
  if the bytes end before that. -/
  errorLength : Option Nat
  deriving DecidableEq, Repr

/-- The wording of a decoding error. -/
def DecodingError.message (error : DecodingError) : String :=
  match error.errorLength with
  | some length =>
    s!"invalid utf-8 sequence of {length} bytes from index {error.validUpTo}"
  | none => s!"incomplete utf-8 byte sequence from index {error.validUpTo}"

/-- Decodes `bytes`, which start at offset `offset`, behind the characters already
`read` (latest first). -/
def decodeFrom (offset : Nat) (read : Text) (bytes : List UInt8) :
    Except DecodingError Text :=
  match bytes with
  | [] => .ok read.reverse
  | first :: bytes =>
    match h : readCharacter first bytes with
    | .character c rest =>
      have := readCharacter_length_le h
      decodeFrom (offset + c.utf8Size) (c :: read) rest
    | .malformed length => .error ⟨offset, some length⟩
    | .truncated => .error ⟨offset, none⟩
termination_by bytes.length
decreasing_by exact Nat.lt_succ_of_le this

/-- The text that the bytes encode. -/
def decode (bytes : List UInt8) : Except DecodingError Text :=
  decodeFrom 0 [] bytes

end Lexing.Utf8
