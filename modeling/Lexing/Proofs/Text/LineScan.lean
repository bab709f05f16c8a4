import Lexing.Proofs.Text.LineSplit
import Lexing.Proofs.Text.Utf8

/-!
# Finding lines in bytes

The lines of a text can be found without its characters, by a loop over the bytes that looks
at one byte and the next one. It takes no byte of a longer character for a terminator, and it
comes to the ranges of the lines.

## Main definitions

* `Utf8.scanLines`: the loop over the bytes.

## Main results

* `Utf8.scanLines_encode`: it finds the lines of the text that the bytes encode.
-/

namespace Lexing

namespace Utf8

/-- The number of bytes of the terminator at an index, zero if there is none. -/
def terminatorSize (bytes : List UInt8) (index : Nat) : Nat :=
  match bytes[index]?, bytes[index + 1]? with
  | some 0x0d, some 0x0a => 2
  | some 0x0a, _ => 1
  | some 0x0d, _ => 1
  | _, _ => 0

/-- The ranges of the lines behind the index, the first of which begins at `start`. -/
def scanLines (bytes : List UInt8) (start index : Nat) : List ByteRange :=
  if index < bytes.length then
    match terminatorSize bytes index with
    | 0 => scanLines bytes start (index + 1)
    | size + 1 =>
      let stop := index + (size + 1)
      ⟨start, stop⟩ :: scanLines bytes stop stop
  else [⟨start, bytes.length⟩]
termination_by bytes.length - index

variable {bytes : List UInt8} {start : Nat} {rest body ending after : Text}

theorem length_encode (text : Text) : (encode text).length = text.byteLength := by
  induction text with
  | nil => rfl
  | cons c text ih =>
    rw [encode_cons, List.length_append, String.length_utf8EncodeChar, ih, Text.byteLength_cons]

theorem encode_append (left right : Text) : encode (left ++ right) = encode left ++ encode right :=
  List.flatMap_append

/-- A character of several bytes has no small byte. -/
theorem toNat_of_mem_utf8EncodeChar {byte : UInt8} {c : Char} (h : byte ∈ String.utf8EncodeChar c)
    (hbyte : byte.toNat < 128) : c.toNat = byte.toNat := by
  have hfirst {n : Nat} (hn : n < 256) : (UInt8.ofNat n).toNat = n := UInt8.toNat_ofNat_of_lt' hn
  obtain ⟨v, hv⟩ : ∃ v, c.toNat = v := ⟨_, rfl⟩
  rw [hv]
  simp only [String.utf8EncodeChar, Char.toNat_val, hv] at h
  split at h
  · rw [List.mem_singleton.1 h, hfirst (by omega)]
  · -- All bytes have their highest bit set.
    exfalso
    have hlarge : ∀ n, 128 ≤ n → n < 256 → byte ≠ UInt8.ofNat n := by
      rintro n hn hsize rfl
      rw [hfirst hsize] at hbyte
      omega
    split at h
    · simp only [List.mem_cons, List.not_mem_nil, or_false] at h
      rcases h with h | h <;> exact hlarge _ (by omega) (by omega) h
    · split at h
      · simp only [List.mem_cons, List.not_mem_nil, or_false] at h
        rcases h with h | h | h <;> exact hlarge _ (by omega) (by omega) h
      · simp only [List.mem_cons, List.not_mem_nil, or_false] at h
        rcases h with h | h | h | h <;> exact hlarge _ (by omega) (by omega) h

theorem eq_of_mem_utf8EncodeChar {c d : Char} (hd : d.toNat < 128)
    (h : UInt8.ofNat d.toNat ∈ String.utf8EncodeChar c) : c = d := by
  have hbyte : (UInt8.ofNat d.toNat).toNat = d.toNat := UInt8.toNat_ofNat_of_lt' (by
    rw [UInt8.size]
    omega)
  apply Char.toNat_inj.1
  rw [toNat_of_mem_utf8EncodeChar h (by omega), hbyte]

theorem terminatorSize_append (done bytes : List UInt8) :
    terminatorSize (done ++ bytes) done.length = terminatorSize bytes 0 := by
  simp only [terminatorSize, List.getElem?_append_right (Nat.le_refl _),
    List.getElem?_append_right (Nat.le_add_right _ _), Nat.sub_self, Nat.add_sub_cancel_left,
    Nat.zero_add]

theorem terminatorSize_of_ne {byte : UInt8} (h : byte ≠ 0x0a ∧ byte ≠ 0x0d) :
    terminatorSize (byte :: bytes) 0 = 0 := by
  unfold terminatorSize
  split <;> simp_all

/-- The loop goes over bytes that end no line. -/
theorem scanLines_append (done : List UInt8) (h : ∀ byte ∈ bytes, byte ≠ 0x0a ∧ byte ≠ 0x0d)
    (more : List UInt8) (start : Nat) :
    scanLines (done ++ (bytes ++ more)) start done.length =
      scanLines (done ++ bytes ++ more) start (done ++ bytes).length := by
  induction bytes generalizing done with
  | nil => simp
  | cons byte bytes ih =>
    obtain ⟨hbyte, hbytes⟩ := List.forall_mem_cons.1 h
    have hnone : terminatorSize (done ++ (byte :: bytes ++ more)) done.length = 0 := by
      rw [terminatorSize_append]
      exact terminatorSize_of_ne hbyte
    rw [scanLines, if_pos (by simp), hnone]
    have hstep := ih (done ++ [byte]) hbytes
    simpa using hstep

theorem ne_of_mem_encode (h : rest.IsUnbroken) :
    ∀ byte ∈ encode rest, byte ≠ 0x0a ∧ byte ≠ 0x0d := by
  intro byte hbyte
  obtain ⟨c, hc, hbyte⟩ := List.mem_flatMap.1 hbyte
  have hterminator := h c hc
  constructor
  · rintro rfl
    obtain rfl : c = '\n' := eq_of_mem_utf8EncodeChar (by decide) hbyte
    cases hterminator
  · rintro rfl
    obtain rfl : c = '\r' := eq_of_mem_utf8EncodeChar (by decide) hbyte
    cases hterminator

theorem head?_of_head?_encode (h : (encode after).head? = some 0x0a) :
    after.head? = some '\n' := by
  cases after with
  | nil => cases h
  | cons c after =>
    rw [encode_cons, List.head?_append_of_ne_nil _ (by simp)] at h
    obtain rfl : c = '\n' := eq_of_mem_utf8EncodeChar (by decide) (List.mem_of_mem_head? h)
    rfl

/-- The bytes of a terminator are found at its start. -/
theorem terminatorSize_encode (h : Text.IsEnding ending after) :
    terminatorSize (encode (ending ++ after)) 0 = ending.byteLength := by
  rcases h with rfl | rfl | ⟨rfl, hnext⟩
  · rfl
  · rfl
  · have hnot : (encode after).head? ≠ some 0x0a := mt head?_of_head?_encode hnext
    show terminatorSize (0x0d :: encode after) 0 = 1
    cases hbytes : encode after with
    | nil => rfl
    | cons byte bytes =>
      rw [hbytes, List.head?_cons, Ne, Option.some.injEq] at hnot
      unfold terminatorSize
      split <;> simp_all

/-- The loop comes to the end of a text without terminators. -/
theorem scanLines_last (done : List UInt8) (hrest : rest.IsUnbroken) :
    scanLines (done ++ encode rest) done.length done.length =
      [⟨done.length, done.length + rest.byteLength⟩] := by
  have hskip := scanLines_append done (ne_of_mem_encode hrest) [] done.length
  rw [List.append_nil, List.append_nil] at hskip
  rw [hskip, scanLines, if_neg (Nat.lt_irrefl _), List.length_append, length_encode]

/-- The loop finds the line that ends with the first terminator, and goes on behind it. -/
theorem scanLines_line (done : List UInt8) (hbody : body.IsUnbroken)
    (hending : Text.IsEnding ending after) :
    let stop := done.length + Text.byteLength (body ++ ending)
    scanLines (done ++ encode (body ++ ending ++ after)) done.length done.length =
      ⟨done.length, stop⟩ ::
        scanLines (done ++ encode (body ++ ending) ++ encode after) stop stop := by
  have hskip := scanLines_append done (ne_of_mem_encode hbody) (encode (ending ++ after))
    done.length
  have hsize := (terminatorSize_append (done ++ encode body) (encode (ending ++ after))).trans
    (terminatorSize_encode hending)
  obtain ⟨size, hending⟩ := Nat.exists_eq_add_one_of_ne_zero
    (mt Text.byteLength_eq_zero_iff.1 hending.ne_nil)
  have hlt : (done ++ encode body).length <
      (done ++ encode body ++ encode (ending ++ after)).length := by
    simp only [List.length_append, length_encode, Text.byteLength_append]
    omega
  have hstop : (done ++ encode body).length + (size + 1) =
      done.length + Text.byteLength (body ++ ending) := by
    rw [List.length_append, length_encode, ← hending, Text.byteLength_append, Nat.add_assoc]
  rw [List.append_assoc body, encode_append, hskip, scanLines, if_pos hlt, hsize, hending]
  simp only [hstop]
  simp [encode_append]

/-- The loop comes to the ranges of the lines behind the bytes that are done. -/
theorem scanLines_of_splitsFrom {ranges : List ByteRange} (h : Text.SplitsFrom start rest ranges)
    (done : List UInt8) (hdone : done.length = start) :
    scanLines (done ++ encode rest) start start = ranges := by
  induction h generalizing done with
  | last hrest =>
    subst hdone
    exact scanLines_last done hrest
  | @line start body ending after ranges hbody hending _ ih =>
    subst hdone
    have hmore := ih (done ++ encode (body ++ ending)) (by rw [List.length_append, length_encode])
    rw [scanLines_line done hbody hending, hmore]

/-- The loop over the bytes of a text comes to the ranges of its lines. -/
theorem scanLines_encode (text : Text) : scanLines (encode text) 0 0 = text.lineRanges :=
  scanLines_of_splitsFrom (Text.SplitsFrom.rangesFrom_lines 0 text) [] rfl

end Utf8

end Lexing
