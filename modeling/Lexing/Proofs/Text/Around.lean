import Lexing.Proofs.Text.Lines
import Lexing.Proofs.Text.Place

/-!
# The lines around a part of a text

A part of a text lies in some lines: it begins behind the front of the first of them and ends
in front of the back of the last. Where it begins and where its last character stands is
counted from the start of the text. In between counting leaves out no line, since one
character leads at most to the next line; so the lines around a part are those of its
characters.

## Main definitions

* `Text.IsAround`: the lines around a part of a text.

## Main results

* `Text.exists_isAround`: there are such lines.
* `Text.IsAround.exists_charAt?_iff`: they are the lines of the characters of the part.
-/

namespace Lexing

namespace Location

variable {passed rest : Text} {n : Nat}

theorem line_le_walk (place : Location) (passed rest : Text) :
    place.line ≤ (place.walk passed rest).line := by
  by_cases hpassed : passed = []
  · rw [hpassed]
    exact Nat.le_refl _
  · rcases place.before_walk hpassed rest with hlt | ⟨heq, -⟩
    · exact Nat.le_of_lt hlt
    · exact Nat.le_of_eq heq

theorem line_behind_le (place : Location) (c : Char) (next : Option Char) :
    (place.behind c next).line ≤ place.line + 1 := by
  unfold behind
  split
  · exact Nat.le_refl _
  · exact Nat.le_succ _

/-- Counting comes to all lines up to the last one. -/
theorem exists_line_walk_eq {place : Location} (hle : place.line ≤ n)
    (hn : n ≤ (place.walk passed rest).line) :
    ∃ front back, passed = front ++ back ∧ (place.walk front (back ++ rest)).line = n := by
  induction passed generalizing place with
  | nil => exact ⟨[], [], rfl, Nat.le_antisymm hle hn⟩
  | cons c passed ih =>
    by_cases hfirst : place.line = n
    · exact ⟨[], c :: passed, rfl, hfirst⟩
    · have hstep := place.line_behind_le c (passed ++ rest).head?
      obtain ⟨front, back, rfl, hline⟩ := ih (by omega) hn
      refine ⟨c :: front, back, rfl, ?_⟩
      rw [walk, ← List.append_assoc]
      exact hline

end Location

namespace Text

/-- The part `inside` of a text, between `before` and `after`, lies in the lines `inner`. It
begins in the first of them behind `left`, and it ends in the last one in front of `right`. -/
structure IsAround (before inside after : Text) (done inner more : List Text)
    (left right : Text) : Prop where
  lines_eq : (before ++ (inside ++ after)).lines = done ++ inner ++ more
  before_eq : before = done.flatten ++ left
  flatten_eq : inner.flatten = left ++ (inside ++ right)
  first_eq : Location.first.walk before (inside ++ after) = ⟨done.length + 1, left.length + 1⟩
  -- The last character of the part is in the last one of the lines.
  last_line_eq : ((before ++ (inside ++ after)).countedLocation
    (before.byteLength + byteLength inside.dropLast)).line = done.length + inner.length
  eq_nil : inside ++ right = [] → more = []

variable {before inside after part rest left right : Text} {done inner more : List Text}

theorem exists_isInLine_first (before after : Text) :
    ∃ done part rest more, IsInLine before after done part rest more ∧
      Location.first.walk before after = ⟨done.length + 1, part.length + 1⟩ := by
  obtain ⟨done, part, rest, more, hline, hwalk⟩ := exists_isInLine before after
  refine ⟨done, part, rest, more, hline, ?_⟩
  rw [hwalk]
  by_cases hdone : done = [] <;> simp [hdone, Location.first] <;> omega

/-- An empty part lies in the line around its place. -/
theorem exists_isAround_nil (before after : Text) :
    ∃ done inner more left right, IsAround before [] after done inner more left right := by
  obtain ⟨done, part, rest, more, hline, hfirst⟩ := exists_isInLine_first before after
  refine ⟨done, [part ++ rest], more, part, rest, ?_, hline.before_eq, ?_, hfirst, ?_, ?_⟩
  · rw [List.append_assoc]
    exact hline.lines_eq
  · simp
  · rw [List.nil_append, List.dropLast_nil, byteLength_nil, Nat.add_zero,
      countedLocation_append, hfirst]
    rfl
  · exact hline.eq_nil

/-- Any other part lies in the lines from that of its first to that of its last character. -/
theorem exists_isAround_append (before front : Text) (c : Char) (after : Text) :
    ∃ done inner more left right,
      IsAround before (front ++ [c]) after done inner more left right := by
  obtain ⟨done, left, rest, behind, hstart, hfirst⟩ :=
    exists_isInLine_first before (front ++ [c] ++ after)
  obtain ⟨upTo, part, back, more, hlast, hend⟩ :=
    exists_isInLine_first (before ++ front) (c :: after)
  have htext : before ++ (front ++ [c] ++ after) = before ++ front ++ c :: after := by simp
  -- Behind the first character comes no earlier line.
  have hle : done.length ≤ upTo.length := by
    have hwalk := Location.first.walk_append before front (c :: after)
    have hsame : front ++ c :: after = front ++ [c] ++ after := by simp
    rw [hsame, hend, hfirst] at hwalk
    have hline := Location.line_le_walk ⟨done.length + 1, left.length + 1⟩ front (c :: after)
    rw [← hwalk] at hline
    exact Nat.le_of_succ_le_succ hline
  have hlines := hstart.lines_eq
  rw [htext, hlast.lines_eq] at hlines
  obtain ⟨inner, rfl⟩ : done <+: upTo :=
    List.prefix_of_prefix_length_le ⟨_, hlines.symm⟩ ⟨_, rfl⟩ hle
  have hbetween : left ++ front = inner.flatten ++ part := by
    have hbefore := hlast.before_eq
    rw [hstart.before_eq, List.flatten_append] at hbefore
    simpa using hbefore
  obtain ⟨right, rfl⟩ : ∃ right, back = c :: right := by
    have hafter := hlast.after_eq
    cases back with
    | nil => exact absurd rfl (hlast.rest_ne_nil (List.cons_ne_nil c after))
    | cons d right => exact ⟨right, by rw [(List.cons.inj hafter).1]⟩
  refine ⟨done, inner ++ [part ++ c :: right], more, left, right, ?_, hstart.before_eq, ?_,
    hfirst, ?_, by simp⟩
  · rw [htext, hlast.lines_eq]
    simp
  · rw [List.flatten_append, List.flatten_singleton, ← List.append_assoc, ← hbetween]
    simp
  · rw [List.dropLast_concat, htext, ← byteLength_append, countedLocation_append, hend]
    simp [Nat.add_assoc]

theorem exists_isAround (before inside after : Text) :
    ∃ done inner more left right, IsAround before inside after done inner more left right := by
  rcases List.eq_nil_or_concat inside with rfl | ⟨front, c, rfl⟩
  · exact exists_isAround_nil before after
  · rw [List.concat_eq_append]
    exact exists_isAround_append before front c after

/-- The place of a character of a part: some of the part is in front of it, and its last
character is not. -/
theorem exists_append_of_charAt? {text front : Text} {start n : Nat} {c d : Char}
    (hinside : text.GoesOn start (front ++ [d] ++ after)) (hle : start ≤ n)
    (hlt : n < start + byteLength (front ++ [d])) (hchar : text.charAt? n = some c) :
    ∃ passed coming, front = passed ++ coming ∧ n = start + passed.byteLength := by
  obtain ⟨m, rfl⟩ := Nat.exists_eq_add_of_le hle
  obtain ⟨tail, htail⟩ := charAt?_eq_some_iff.1 hchar
  obtain ⟨passed, hpassed, rfl⟩ := hinside.add_iff.1 htail
  have hshort : passed.byteLength < byteLength (front ++ [d]) := by omega
  rcases List.append_eq_append_iff.1 hpassed with ⟨beyond, rfl, -⟩ | ⟨coming, hfront, -⟩
  · rw [byteLength_append] at hshort
    omega
  · rcases List.eq_nil_or_concat coming with rfl | ⟨coming, e, rfl⟩
    · rw [List.append_nil] at hfront
      rw [hfront] at hshort
      omega
    · rw [List.concat_eq_append, ← List.append_assoc] at hfront
      obtain ⟨rfl, -⟩ := List.append_inj' hfront rfl
      exact ⟨passed, coming, rfl, rfl⟩

/-- Counting goes on from the start of a part. -/
theorem countedLocation_inside (before passed coming : Text) (d : Char) (after : Text) :
    (before ++ (passed ++ coming ++ [d] ++ after)).countedLocation
        (before.byteLength + passed.byteLength) =
      (Location.first.walk before (passed ++ coming ++ [d] ++ after)).walk passed
        (coming ++ d :: after) := by
  have hcount := countedLocation_append (before ++ passed) (coming ++ d :: after)
  rw [byteLength_append, Location.walk_append] at hcount
  simpa using hcount

namespace IsAround

variable {front : Text} {d : Char} {n : Nat}

/-- Counting from the first character of a part to the last one. -/
theorem last_line_walk (h : IsAround before (front ++ [d]) after done inner more left right) :
    (Location.walk ⟨done.length + 1, left.length + 1⟩ front (d :: after)).line =
      done.length + inner.length := by
  have hlast := h.last_line_eq
  have hcount := countedLocation_inside before front [] d after
  rw [List.append_nil, h.first_eq] at hcount
  rw [List.dropLast_concat, hcount] at hlast
  exact hlast

/-- There is a line around each part, even an empty one. -/
theorem inner_ne_nil (h : IsAround before inside after done inner more left right) :
    inner ≠ [] := by
  rintro rfl
  rcases List.eq_nil_or_concat inside with rfl | ⟨front, d, rfl⟩
  · have hlast := h.last_line_eq
    rw [List.dropLast_nil, byteLength_nil, Nat.add_zero, countedLocation_append, h.first_eq]
      at hlast
    simp at hlast
  · rw [List.concat_eq_append] at h
    have hlast := h.last_line_walk
    have hle := Location.line_le_walk ⟨done.length + 1, left.length + 1⟩ front (d :: after)
    rw [hlast] at hle
    exact Nat.not_succ_le_self _ hle

/-- The characters of a part are in the lines around it. -/
theorem mem_lines_of_charAt? (h : IsAround before (front ++ [d]) after done inner more left right)
    {i : Nat} {c : Char} (hchar : (before ++ (front ++ [d] ++ after)).charAt? i = some c)
    (hle : before.byteLength ≤ i) (hlt : i < before.byteLength + byteLength (front ++ [d])) :
    let place := (before ++ (front ++ [d] ++ after)).countedLocation i
    done.length + 1 ≤ place.line ∧ place.line ≤ done.length + inner.length := by
  intro place
  have hinside : (before ++ (front ++ [d] ++ after)).GoesOn before.byteLength
      (front ++ [d] ++ after) := ⟨before, rfl, rfl⟩
  obtain ⟨passed, coming, rfl, rfl⟩ := exists_append_of_charAt? hinside hle hlt hchar
  have hplace : place = Location.walk ⟨done.length + 1, left.length + 1⟩ passed
      (coming ++ d :: after) := by
    rw [← h.first_eq]
    exact countedLocation_inside before passed coming d after
  have hlast := h.last_line_walk
  rw [Location.walk_append, ← hplace] at hlast
  constructor
  · rw [hplace]
    exact Location.line_le_walk ⟨done.length + 1, left.length + 1⟩ passed _
  · rw [← hlast]
    exact place.line_le_walk coming (d :: after)

/-- There is a character of a part in each of the lines around it. -/
theorem exists_charAt?_of_mem_lines
    (h : IsAround before (front ++ [d]) after done inner more left right)
    (hle : done.length + 1 ≤ n) (hn : n ≤ done.length + inner.length) :
    ∃ i c, (before ++ (front ++ [d] ++ after)).charAt? i = some c ∧ before.byteLength ≤ i ∧
      i < before.byteLength + byteLength (front ++ [d]) ∧
      ((before ++ (front ++ [d] ++ after)).countedLocation i).line = n := by
  have hstart : (⟨done.length + 1, left.length + 1⟩ : Location).line ≤ n := hle
  rw [← h.last_line_walk] at hn
  obtain ⟨passed, coming, rfl, hline⟩ := Location.exists_line_walk_eq hstart hn
  obtain ⟨c, tail, htail⟩ :=
    List.exists_cons_of_ne_nil (show coming ++ d :: after ≠ [] by simp)
  have hgoesOn : (before ++ (passed ++ coming ++ [d] ++ after)).GoesOn
      (before.byteLength + passed.byteLength) (c :: tail) :=
    ⟨before ++ passed, by simp [← htail], byteLength_append before passed⟩
  refine ⟨before.byteLength + passed.byteLength, c, charAt?_eq_some_iff.2 ⟨tail, hgoesOn⟩,
    Nat.le_add_right _ _, ?_, ?_⟩
  · have hpos := Char.utf8Size_pos d
    rw [byteLength_append, byteLength_append, byteLength_cons]
    omega
  · rw [countedLocation_inside, h.first_eq]
    exact hline

/-- The lines around a part are those in which there is a character of it. -/
theorem exists_charAt?_iff (h : IsAround before inside after done inner more left right)
    (hne : inside ≠ []) :
    (∃ i c, (before ++ (inside ++ after)).charAt? i = some c ∧ before.byteLength ≤ i ∧
        i < before.byteLength + inside.byteLength ∧
        ((before ++ (inside ++ after)).countedLocation i).line = n) ↔
      done.length + 1 ≤ n ∧ n ≤ done.length + inner.length := by
  obtain ⟨front, d, rfl⟩ := (List.eq_nil_or_concat inside).resolve_left hne
  rw [List.concat_eq_append] at h ⊢
  constructor
  · rintro ⟨i, c, hchar, hle, hlt, rfl⟩
    exact h.mem_lines_of_charAt? hchar hle hlt
  · rintro ⟨hle, hn⟩
    exact h.exists_charAt?_of_mem_lines hle hn

end IsAround

end Text

end Lexing
