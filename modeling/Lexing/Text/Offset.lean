/-!
# Byte offsets in a text

A text is a list of characters, and a place in it is named by the number of
UTF-8 bytes that come before it. Only some numbers name a place: those that fall
between two characters. `Text.splitAt?` cuts a text at such a place and answers
`none` elsewhere; `Text.splitAt?_eq_some_iff` says that this is all it does.

## Main definitions

* `Text.byteLength`: the number of bytes that a text takes.
* `Text.splitAt?`: the two parts of a text at a byte offset.
* `Text.IsBoundary`: the offsets that fall between characters.
* `Text.slice`: the part of a text between two offsets.
* `withOffsets`: a list of items, each with the place where it starts.
-/

namespace Lexing

/-- A text is read from left to right, one character after the other. -/
abbrev Text := List Char

/-- A string stands for its characters where a text is expected. -/
instance : Coe String Text := ⟨String.toList⟩

/-- Each item together with the place where it starts, when the first one starts
at `start` and an item takes as much room as `size` says. -/
def withOffsets {α : Type} (size : α → Nat) (start : Nat) (items : List α) :
    List (Nat × α) :=
  (items.foldl (fun placed item =>
    (placed.1 + size item, (placed.1, item) :: placed.2)) (start, [])).2.reverse

/-- What is already placed stays in front of what is placed later. -/
private theorem foldl_placed {α : Type} (size : α → Nat) (items : List α) :
    ∀ (start : Nat) (done : List (Nat × α)),
      (items.foldl (fun placed item =>
          (placed.1 + size item, (placed.1, item) :: placed.2)) (start, done)).2 =
        (items.foldl (fun placed item =>
          (placed.1 + size item, (placed.1, item) :: placed.2)) (start, [])).2 ++ done := by
  induction items with
  | nil => simp
  | cons item rest ih =>
    intro start done
    simp only [List.foldl_cons]
    rw [ih, ih _ [(start, item)]]
    simp

@[simp] theorem withOffsets_nil {α : Type} (size : α → Nat) (start : Nat) :
    withOffsets size start [] = [] := rfl

@[simp] theorem withOffsets_cons {α : Type} (size : α → Nat) (start : Nat)
    (item : α) (rest : List α) :
    withOffsets size start (item :: rest) =
      (start, item) :: withOffsets size (start + size item) rest := by
  simp only [withOffsets, List.foldl_cons]
  rw [foldl_placed]
  simp

namespace Text

/-- The number of bytes that the text takes in UTF-8. -/
def byteLength (text : Text) : Nat :=
  text.foldl (fun total c => total + c.utf8Size) 0

/-- A running total only shifts the sum. -/
private theorem foldl_utf8Size (text : Text) :
    ∀ total, text.foldl (fun total c => total + c.utf8Size) total =
      total + text.foldl (fun total c => total + c.utf8Size) 0 := by
  induction text with
  | nil => simp
  | cons c rest ih =>
    intro total
    simp only [List.foldl_cons]
    rw [ih, ih (0 + c.utf8Size)]
    omega

@[simp] theorem byteLength_nil : byteLength [] = 0 := rfl

@[simp] theorem byteLength_cons (c : Char) (rest : Text) :
    byteLength (c :: rest) = c.utf8Size + byteLength rest := by
  simp only [byteLength, List.foldl_cons]
  rw [foldl_utf8Size]
  omega

@[simp] theorem byteLength_append (left right : Text) :
    byteLength (left ++ right) = byteLength left + byteLength right := by
  induction left with
  | nil => simp
  | cons c rest ih =>
    rw [List.cons_append, byteLength_cons, byteLength_cons, ih]
    omega

/-- Every character takes at least one byte. -/
theorem byteLength_eq_zero_iff {text : Text} : byteLength text = 0 ↔ text = [] := by
  cases text with
  | nil => simp
  | cons c rest =>
    have := Char.utf8Size_pos c
    simp
    omega

/-- Moves characters from the front of `rest` behind those already `passed`
(latest first) until `n` bytes have been moved. -/
def splitFrom (passed : Text) : Text → Nat → Option (Text × Text)
  | rest, 0 => some (passed.reverse, rest)
  | [], _ + 1 => none
  | c :: rest, n + 1 =>
    if c.utf8Size ≤ n + 1 then splitFrom (c :: passed) rest (n + 1 - c.utf8Size) else none

/-- The parts of the text before and after byte offset `n`; `none` if the offset
is past the end or inside a character. -/
def splitAt? (text : Text) (n : Nat) : Option (Text × Text) :=
  splitFrom [] text n

private theorem splitFrom_eq_some_iff {rest : Text} :
    ∀ {passed : Text} {n : Nat} {before after : Text},
      splitFrom passed rest n = some (before, after) ↔
        ∃ moved, before = passed.reverse ++ moved ∧ rest = moved ++ after ∧
          byteLength moved = n := by
  induction rest with
  | nil =>
    intro passed n before after
    cases n with
    | zero =>
      simp only [splitFrom, Option.some.injEq, Prod.mk.injEq]
      constructor
      · rintro ⟨rfl, rfl⟩
        exact ⟨[], by simp⟩
      · rintro ⟨moved, rfl, hrest, -⟩
        obtain ⟨rfl, rfl⟩ := List.nil_eq_append_iff.1 hrest
        simp
    | succ n =>
      simp only [splitFrom]
      constructor
      · rintro ⟨⟩
      · rintro ⟨moved, -, hrest, hlen⟩
        obtain ⟨rfl, rfl⟩ := List.nil_eq_append_iff.1 hrest
        simp at hlen
  | cons c rest ih =>
    intro passed n before after
    have hc := Char.utf8Size_pos c
    cases n with
    | zero =>
      simp only [splitFrom, Option.some.injEq, Prod.mk.injEq]
      constructor
      · rintro ⟨rfl, rfl⟩
        exact ⟨[], by simp⟩
      · rintro ⟨moved, rfl, hrest, hlen⟩
        obtain rfl := byteLength_eq_zero_iff.1 hlen
        simpa using hrest
    | succ n =>
      simp only [splitFrom]
      split
      · rename_i hle
        rw [ih]
        constructor
        · rintro ⟨moved, rfl, rfl, hlen⟩
          exact ⟨c :: moved, by simp, by simp, by rw [byteLength_cons]; omega⟩
        · rintro ⟨moved, rfl, hrest, hlen⟩
          cases moved with
          | nil => simp at hlen
          | cons d moved =>
            obtain ⟨rfl, rfl⟩ := List.cons.inj hrest
            exact ⟨moved, by simp, rfl, by rw [byteLength_cons] at hlen; omega⟩
      · rename_i hle
        constructor
        · rintro ⟨⟩
        · rintro ⟨moved, rfl, hrest, hlen⟩
          cases moved with
          | nil => simp at hlen
          | cons d moved =>
            obtain ⟨rfl, rfl⟩ := List.cons.inj hrest
            rw [byteLength_cons] at hlen
            omega

/-- Cutting at an offset answers the one division of the text whose first part
takes that many bytes. -/
theorem splitAt?_eq_some_iff {text : Text} {n : Nat} {before after : Text} :
    splitAt? text n = some (before, after) ↔
      text = before ++ after ∧ byteLength before = n := by
  rw [splitAt?, splitFrom_eq_some_iff]
  simp

/-- An offset between two characters, or at either end of the text. -/
def IsBoundary (text : Text) (n : Nat) : Prop :=
  ∃ before after, text = before ++ after ∧ byteLength before = n

theorem isBoundary_iff_isSome {text : Text} {n : Nat} :
    text.IsBoundary n ↔ (splitAt? text n).isSome := by
  constructor
  · rintro ⟨before, after, htext, hlen⟩
    rw [splitAt?_eq_some_iff.2 ⟨htext, hlen⟩]
    rfl
  · intro h
    obtain ⟨⟨before, after⟩, hsplit⟩ := Option.isSome_iff_exists.1 h
    obtain ⟨htext, hlen⟩ := splitAt?_eq_some_iff.1 hsplit
    exact ⟨before, after, htext, hlen⟩

instance (text : Text) (n : Nat) : Decidable (text.IsBoundary n) :=
  decidable_of_iff _ isBoundary_iff_isSome.symm

theorem IsBoundary.le_byteLength {text : Text} {n : Nat} (h : text.IsBoundary n) :
    n ≤ byteLength text := by
  obtain ⟨before, after, rfl, rfl⟩ := h
  simp

theorem isBoundary_byteLength (text : Text) : text.IsBoundary (byteLength text) :=
  ⟨text, [], by simp, rfl⟩

/-- The part of the text from offset `start` to offset `stop`; nothing if one of
them is no boundary. -/
def slice (text : Text) (start stop : Nat) : Text :=
  match splitAt? text start with
  | none => []
  | some (_, rest) =>
    match splitAt? rest (stop - start) with
    | none => []
    | some (inside, _) => inside

/-- The slice between two boundaries is what lies between the parts before and
after them. -/
theorem slice_append (before inside after : Text) :
    slice (before ++ inside ++ after) (byteLength before)
      (byteLength before + byteLength inside) = inside := by
  have hstart : splitAt? (before ++ inside ++ after) (byteLength before) =
      some (before, inside ++ after) :=
    splitAt?_eq_some_iff.2 ⟨by simp, rfl⟩
  have hstop : splitAt? (inside ++ after) (byteLength inside) = some (inside, after) :=
    splitAt?_eq_some_iff.2 ⟨rfl, rfl⟩
  simp only [slice, hstart, Nat.add_sub_cancel_left, hstop]

end Text

end Lexing
