import Lexing.Text.Offset

/-!
# The text behind an offset

A scanner knows its place in a text as a number of bytes, while its work is described
by the characters in front of it. `Text.GoesOn` ties the two together: it says which
text there is behind an offset. Slices and single characters that are named by their
offsets are read off it.

## Main definitions

* `Text.GoesOn`: the text behind an offset.
* `Text.slice?`: the part of a text between two offsets.
* `Text.charAt?`: the character that starts at an offset.
-/

namespace Lexing.Text

/-- Behind the first `offset` bytes of the text there is `rest`. -/
def GoesOn (text : Text) (offset : Nat) (rest : Text) : Prop :=
  ∃ before, text = before ++ rest ∧ byteLength before = offset

/-- The part of the text between two offsets; `none` if they are in the wrong order or
one of them does not fall between characters. -/
def slice? (text : Text) (start stop : Nat) : Option Text :=
  if start ≤ stop ∧ text.IsBoundary start ∧ text.IsBoundary stop then
    some (text.slice start stop)
  else none

/-- The character that starts at an offset; `none` at the end and where no character
starts. -/
def charAt? (text : Text) (offset : Nat) : Option Char :=
  (text.splitAt? offset).bind fun (_, rest) => rest.head?

variable {text rest : Text} {offset : Nat}

theorem goesOn_zero (text : Text) : text.GoesOn 0 text :=
  ⟨[], rfl, rfl⟩

namespace GoesOn

/-- Further on there is what is left of the text. -/
theorem append {passed : Text} (h : text.GoesOn offset (passed ++ rest)) :
    text.GoesOn (offset + passed.byteLength) rest := by
  obtain ⟨before, rfl, rfl⟩ := h
  refine ⟨before ++ passed, ?_, ?_⟩
  · rw [List.append_assoc]
  · rw [byteLength_append]

theorem cons {c : Char} (h : text.GoesOn offset (c :: rest)) :
    text.GoesOn (offset + c.utf8Size) rest := by
  have happend : text.GoesOn (offset + byteLength [c]) rest := append h
  rwa [byteLength_cons, byteLength_nil, Nat.add_zero] at happend

theorem isBoundary (h : text.GoesOn offset rest) : text.IsBoundary offset := by
  obtain ⟨before, htext, hoffset⟩ := h
  exact ⟨before, rest, htext, hoffset⟩

/-- The text behind an offset reaches to the end. -/
theorem add_byteLength (h : text.GoesOn offset rest) :
    offset + rest.byteLength = text.byteLength := by
  obtain ⟨before, rfl, rfl⟩ := h
  rw [byteLength_append]

theorem length_le (h : text.GoesOn offset rest) : rest.length ≤ text.byteLength := by
  have hlength : rest.length ≤ rest.byteLength := by
    clear h
    induction rest with
    | nil => exact Nat.le_refl _
    | cons c rest ih =>
      have hpos := Char.utf8Size_pos c
      rw [List.length_cons, byteLength_cons]
      omega
  have hsize := h.add_byteLength
  omega

theorem splitAt?_eq (h : text.GoesOn offset rest) :
    ∃ before, text.splitAt? offset = some (before, rest) := by
  obtain ⟨before, htext, hoffset⟩ := h
  exact ⟨before, splitAt?_eq_some_iff.2 ⟨htext, hoffset⟩⟩

theorem unique {other : Text} (h : text.GoesOn offset rest) (hother : text.GoesOn offset other) :
    rest = other := by
  obtain ⟨before, hsplit⟩ := h.splitAt?_eq
  obtain ⟨before', hsplit'⟩ := hother.splitAt?_eq
  rw [hsplit] at hsplit'
  exact (Prod.mk.inj (Option.some.inj hsplit')).2

/-- The front of the text behind an offset is a slice. -/
theorem slice_eq {inside : Text} (h : text.GoesOn offset (inside ++ rest)) :
    text.slice offset (offset + inside.byteLength) = inside := by
  obtain ⟨before, rfl, rfl⟩ := h
  rw [← List.append_assoc, slice_append]

theorem slice?_eq {inside : Text} (h : text.GoesOn offset (inside ++ rest)) :
    text.slice? offset (offset + inside.byteLength) = some inside := by
  have hvalid : offset ≤ offset + inside.byteLength ∧ text.IsBoundary offset ∧
      text.IsBoundary (offset + inside.byteLength) :=
    ⟨Nat.le_add_right _ _, h.isBoundary, h.append.isBoundary⟩
  rw [slice?, if_pos hvalid, h.slice_eq]

/-- Offsets count on from the place of the text behind an offset. -/
theorem add_iff (h : text.GoesOn offset rest) {n : Nat} {after : Text} :
    text.GoesOn (offset + n) after ↔ rest.GoesOn n after := by
  obtain ⟨before, rfl, rfl⟩ := h
  constructor
  · rintro ⟨before', htext, hoffset⟩
    rcases List.append_eq_append_iff.1 htext with ⟨passed, rfl, hrest⟩ | ⟨passed, rfl, hafter⟩
    · rw [byteLength_append] at hoffset
      exact ⟨passed, hrest, by omega⟩
    · -- The two places can only be one.
      rw [byteLength_append] at hoffset
      obtain rfl := byteLength_eq_zero_iff.1 (show byteLength passed = 0 by omega)
      have hn : n = 0 := by simpa using hoffset
      rw [hafter, hn]
      exact goesOn_zero rest
  · rintro ⟨passed, rfl, rfl⟩
    exact append ⟨before, rfl, rfl⟩

end GoesOn

/-- A character starts at an offset if it begins the text behind it. -/
theorem charAt?_eq_some_iff {c : Char} :
    text.charAt? offset = some c ↔ ∃ after, text.GoesOn offset (c :: after) := by
  constructor
  · intro h
    obtain ⟨⟨before, rest⟩, hsplit, hhead⟩ := Option.bind_eq_some_iff.1 h
    obtain ⟨htext, hoffset⟩ := splitAt?_eq_some_iff.1 hsplit
    obtain ⟨after, rfl⟩ := List.head?_eq_some_iff.1 hhead
    exact ⟨after, before, htext, hoffset⟩
  · rintro ⟨after, hgoesOn⟩
    obtain ⟨before, hsplit⟩ := hgoesOn.splitAt?_eq
    rw [charAt?, hsplit]
    rfl

namespace GoesOn

/-- The characters behind an offset are those that start there or later. -/
theorem mem_iff (h : text.GoesOn offset rest) {c : Char} :
    c ∈ rest ↔ ∃ n, offset ≤ n ∧ text.charAt? n = some c := by
  constructor
  · intro hmem
    obtain ⟨passed, after, rfl⟩ := List.append_of_mem hmem
    exact ⟨_, Nat.le_add_right _ _, charAt?_eq_some_iff.2 ⟨after, h.append⟩⟩
  · rintro ⟨n, hle, hchar⟩
    obtain ⟨after, hafter⟩ := charAt?_eq_some_iff.1 hchar
    obtain ⟨m, rfl⟩ := Nat.exists_eq_add_of_le hle
    obtain ⟨passed, rfl, -⟩ := h.add_iff.1 hafter
    simp

/-- The characters behind a character are those that start later. -/
theorem mem_tail_iff {c d : Char} (h : text.GoesOn offset (c :: rest)) :
    d ∈ rest ↔ ∃ n, offset < n ∧ text.charAt? n = some d := by
  have hsize := Char.utf8Size_pos c
  rw [h.cons.mem_iff]
  constructor
  · rintro ⟨n, hle, hchar⟩
    exact ⟨n, by omega, hchar⟩
  · rintro ⟨n, hlt, hchar⟩
    refine ⟨n, ?_, hchar⟩
    obtain ⟨after, hafter⟩ := charAt?_eq_some_iff.1 hchar
    obtain ⟨m, rfl⟩ := Nat.exists_eq_add_of_le (Nat.le_of_lt hlt)
    obtain ⟨passed, hpassed, rfl⟩ := h.add_iff.1 hafter
    -- No character starts inside `c`.
    cases passed with
    | nil => simp at hlt
    | cons e passed =>
      obtain ⟨rfl, -⟩ := List.cons.inj hpassed
      rw [byteLength_cons]
      omega

end GoesOn

end Lexing.Text
