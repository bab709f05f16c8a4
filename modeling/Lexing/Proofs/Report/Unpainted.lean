import Lexing.Proofs.Report.Rows
import Mathlib.Data.List.TakeWhile

/-!
# Reports without their escape sequences

A report is printed with escape sequences in it. They can be taken out again without
knowing how the report was made: a sequence begins with an escape character and a bracket,
and ends with the `m` behind some digits. What is left of a painted piece is its text,
unless that has an escape character itself. A line feed is no part of a sequence, so that
the lines of a report stay apart.

## Main definitions

* `Text.unpainted`: a text without its escape sequences.

## Main results

* `Text.unpainted_append_feed`: the lines of a text are unpainted one by one.
* `Row.unpainted_render_append`: what is left of painted pieces.
-/

namespace Lexing

namespace Text

/-- What follows the escape sequence with which the text begins; `none` if it begins with
something else. -/
def afterSequence? : Text → Option Text
  | '\x1b' :: '[' :: rest =>
    match rest.dropWhile Char.isDigit with
    | 'm' :: after => some after
    | _ => none
  | _ => none

variable {text front after rest code : Text} {c : Char}

theorem afterSequence?_sequence (h : ∀ c ∈ code, c.isDigit = true) (rest : Text) :
    afterSequence? (Painter.sequence code ++ rest) = some rest := by
  have hdrop : (code ++ 'm' :: rest).dropWhile Char.isDigit = 'm' :: rest := by
    rw [List.dropWhile_append_of_pos h]
    rfl
  have hsequence : Painter.sequence code ++ rest = '\x1b' :: '[' :: (code ++ 'm' :: rest) := by
    simp [Painter.sequence]
  rw [hsequence, afterSequence?, hdrop]
  rfl

theorem afterSequence?_eq_some_iff : afterSequence? text = some after ↔
    ∃ code, (∀ c ∈ code, c.isDigit = true) ∧ text = Painter.sequence code ++ after := by
  constructor
  · intro h
    unfold afterSequence? at h
    split at h
    · rename_i rest
      split at h
      · rename_i hdrop
        cases h
        refine ⟨rest.takeWhile Char.isDigit, fun c hmem => List.mem_takeWhile_imp hmem, ?_⟩
        have hrest := List.takeWhile_append_dropWhile (p := Char.isDigit) (l := rest)
        rw [hdrop] at hrest
        rw [Painter.sequence, List.cons_append, List.cons_append, List.append_assoc]
        exact congrArg (fun rest => '\x1b' :: '[' :: rest) hrest.symm
      · cases h
    · cases h
  · rintro ⟨code, hcode, rfl⟩
    exact afterSequence?_sequence hcode after

theorem length_lt_of_afterSequence? (h : afterSequence? text = some after) :
    after.length < text.length := by
  obtain ⟨code, -, rfl⟩ := afterSequence?_eq_some_iff.1 h
  simp [Painter.sequence]
  omega

/-- The text without its escape sequences. -/
def unpainted : Text → Text
  | [] => []
  | c :: rest =>
    match h : afterSequence? (c :: rest) with
    | some after =>
      have := length_lt_of_afterSequence? h
      unpainted after
    | none => c :: unpainted rest
termination_by text => text.length
decreasing_by
  · exact this
  · exact Nat.lt_succ_self _

@[simp] theorem unpainted_nil : unpainted [] = [] := by
  rw [unpainted]

theorem unpainted_of_some (h : afterSequence? text = some after) :
    unpainted text = unpainted after := by
  cases text with
  | nil => cases h
  | cons c rest =>
    rw [unpainted]
    split
    · rename_i hafter
      rw [h] at hafter
      cases hafter
      rfl
    · rename_i hafter
      rw [h] at hafter
      cases hafter

theorem unpainted_of_none (h : afterSequence? (c :: rest) = none) :
    unpainted (c :: rest) = c :: unpainted rest := by
  rw [unpainted]
  split
  · rename_i hafter
    rw [h] at hafter
    cases hafter
  · rfl

@[simp] theorem unpainted_sequence_append (h : ∀ c ∈ code, c.isDigit = true) (rest : Text) :
    unpainted (Painter.sequence code ++ rest) = unpainted rest :=
  unpainted_of_some (afterSequence?_sequence h rest)

theorem unpainted_cons_of_ne (h : c ≠ '\x1b') (rest : Text) :
    unpainted (c :: rest) = c :: unpainted rest := by
  apply unpainted_of_none
  apply Option.eq_none_iff_forall_ne_some.2
  intro after hafter
  obtain ⟨code, -, hsequence⟩ := afterSequence?_eq_some_iff.1 hafter
  exact h (List.cons.inj hsequence).1

theorem unpainted_append_of_notMem (h : '\x1b' ∉ front) (rest : Text) :
    unpainted (front ++ rest) = front ++ unpainted rest := by
  induction front with
  | nil => rfl
  | cons c front ih =>
    rw [List.mem_cons, not_or] at h
    rw [List.cons_append, unpainted_cons_of_ne (Ne.symm h.1), ih h.2, List.cons_append]

theorem feed_notMem_sequence (h : ∀ c ∈ code, c.isDigit = true) :
    '\n' ∉ Painter.sequence code := by
  have hcode : '\n' ∉ code := by
    intro hmem
    cases h _ hmem
  simp [Painter.sequence, hcode]

/-- A sequence does not go over the end of a line. -/
theorem sequence_prefix_of_append_feed (hcode : ∀ c ∈ code, c.isDigit = true)
    (h : text ++ '\n' :: rest = Painter.sequence code ++ after) :
    Painter.sequence code <+: text := by
  rcases List.append_eq_append_iff.1 h with ⟨more, hmore, hfeed⟩ | ⟨more, rfl, -⟩
  · cases more with
    | nil =>
      rw [List.append_nil] at hmore
      exact hmore ▸ List.prefix_rfl
    | cons c more =>
      -- The line feed would be one of the characters of the sequence.
      obtain ⟨rfl, -⟩ := List.cons.inj hfeed
      have hmem : '\n' ∈ Painter.sequence code := by
        rw [hmore]
        simp
      exact absurd hmem (feed_notMem_sequence hcode)
  · exact List.prefix_append _ _

theorem afterSequence?_append_feed (text rest : Text) :
    afterSequence? (text ++ '\n' :: rest) =
      (afterSequence? text).map (· ++ '\n' :: rest) := by
  cases htext : afterSequence? text with
  | some after =>
    obtain ⟨code, hcode, rfl⟩ := afterSequence?_eq_some_iff.1 htext
    rw [List.append_assoc, afterSequence?_sequence hcode, Option.map_some]
  | none =>
    apply Option.eq_none_iff_forall_ne_some.2
    intro after hafter
    obtain ⟨code, hcode, hsequence⟩ := afterSequence?_eq_some_iff.1 hafter
    obtain ⟨more, rfl⟩ := sequence_prefix_of_append_feed hcode hsequence
    rw [afterSequence?_sequence hcode] at htext
    cases htext

/-- Each line of a text is unpainted by itself. -/
theorem unpainted_append_feed (text rest : Text) :
    unpainted (text ++ '\n' :: rest) = unpainted text ++ '\n' :: unpainted rest := by
  fun_induction unpainted text with
  | case1 => exact unpainted_cons_of_ne (by decide) rest
  | case2 c text after hafter hlt ih =>
    have hlonger := afterSequence?_append_feed (c :: text) rest
    rw [hafter, Option.map_some] at hlonger
    rw [unpainted_of_some hlonger, ih]
  | case3 c text hnone ih =>
    have hlonger := afterSequence?_append_feed (c :: text) rest
    rw [hnone, Option.map_none, List.cons_append] at hlonger
    rw [List.cons_append, unpainted_of_none hlonger, ih, List.cons_append]

theorem unpainted_sublist (text : Text) : (unpainted text).Sublist text := by
  fun_induction unpainted text with
  | case1 => exact .slnil
  | case2 c text after hafter hlt ih =>
    obtain ⟨code, -, htext⟩ := afterSequence?_eq_some_iff.1 hafter
    rw [htext]
    exact ih.trans (List.sublist_append_right _ _)
  | case3 c text hnone ih => exact ih.cons_cons c

end Text

theorem Painter.isDigit_of_mem_code (painter : Painter) :
    ∀ c ∈ painter.code, c.isDigit = true := by
  cases painter <;> simp [code]

namespace Piece

variable {piece : Piece}

/-- The sequences of all painters of a piece are taken out. -/
theorem unpainted_render_append (h : '\x1b' ∉ piece.text) (rest : Text) :
    Text.unpainted (piece.render ++ rest) = piece.text ++ rest.unpainted := by
  rw [render]
  induction piece.painters generalizing rest with
  | nil => exact Text.unpainted_append_of_notMem h rest
  | cons painter painters ih =>
    have hend : ∀ c ∈ ['0'], c.isDigit = true := by simp
    rw [List.foldr_cons, Painter.paint, List.append_assoc, List.append_assoc,
      Text.unpainted_sequence_append painter.isDigit_of_mem_code, ih,
      Text.unpainted_sequence_append hend]

theorem feed_notMem_render (h : '\n' ∉ piece.text) : '\n' ∉ piece.render := by
  rw [render]
  induction piece.painters with
  | nil => exact h
  | cons painter painters ih =>
    have hbegin := Text.feed_notMem_sequence painter.isDigit_of_mem_code
    have hend : '\n' ∉ Painter.sequence ['0'] := by decide
    rw [List.foldr_cons, Painter.paint]
    simp [hbegin, hend, ih]

end Piece

namespace Row

variable {row : Row}

theorem unpainted_render_append (h : '\x1b' ∉ row.text) (rest : Text) :
    Text.unpainted (row.render ++ rest) = row.text ++ rest.unpainted := by
  induction row with
  | nil => rfl
  | cons piece row ih =>
    rw [text_cons, List.mem_append, not_or] at h
    rw [render, List.flatMap_cons, List.append_assoc, Piece.unpainted_render_append h.1,
      ← render, ih h.2, text_cons, List.append_assoc]

theorem unpainted_render (h : '\x1b' ∉ row.text) : row.render.unpainted = row.text := by
  have hrender := unpainted_render_append h []
  rwa [List.append_nil, Text.unpainted_nil, List.append_nil] at hrender

theorem feed_notMem_render (h : '\n' ∉ row.text) : '\n' ∉ row.render := by
  induction row with
  | nil => exact h
  | cons piece row ih =>
    rw [text_cons, List.mem_append, not_or] at h
    rw [render, List.flatMap_cons, List.mem_append, not_or]
    exact ⟨Piece.feed_notMem_render h.1, ih h.2⟩

theorem feed_notMem_unpainted_render (h : '\n' ∉ row.text) : '\n' ∉ row.render.unpainted :=
  fun hmem => feed_notMem_render h ((Text.unpainted_sublist row.render).subset hmem)

/-- A printed list of rows is unpainted row by row. -/
theorem unpainted_flatMap_render (rows : List Row) :
    Text.unpainted (rows.flatMap fun row => row.render ++ ['\n']) =
      rows.flatMap fun row => row.render.unpainted ++ ['\n'] := by
  induction rows with
  | nil => exact Text.unpainted_nil
  | cons row rows ih =>
    rw [List.flatMap_cons, List.append_assoc, List.singleton_append,
      Text.unpainted_append_feed, ih, List.flatMap_cons, List.append_assoc,
      List.singleton_append]

end Row

end Lexing
