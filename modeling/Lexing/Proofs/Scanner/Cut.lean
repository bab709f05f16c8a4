import Lexing.Scanner.Lexeme
import Mathlib.Data.List.TakeWhile

/-!
# The first lexeme of a text

`Lexeme.cut?` works on a text with runs of characters. Here its answer is described
without them: a lexeme together with the text behind it is *whole* if nothing behind
it still belongs to it (`Lexeme.Precedes`), and cutting a text finds the one way to
write it as blanks, a lexeme and a rest that the lexeme precedes.

## Main results

* `Lexeme.cut?_eq_some_iff`: what is cut off a text.
* `Lexeme.cut?_eq_none_iff`: only blanks have no lexeme.
-/

namespace Lexing

/-- A run of blanks, which may be empty. -/
def IsGap (text : Text) : Prop :=
  ∀ c ∈ text, isBlank c = true

/-- A text that begins with a blank or is empty, so that a bare lexeme in front of it
is over. -/
def StartsWithBlank (text : Text) : Prop :=
  ∀ c ∈ text.head?, isBlank c = true

/-- A text that can stand bare: there is something in it, none of it is blank, and it
does not begin with a quotation mark. -/
structure IsBare (text : Text) : Prop where
  ne_nil : text ≠ []
  head?_ne : text.head? ≠ some '"'
  not_blank : ∀ c ∈ text, isBlank c = false

instance (text : Text) : Decidable (IsGap text) :=
  decidable_of_iff (text.all isBlank = true) List.all_eq_true

instance (text : Text) : Decidable (IsBare text) :=
  decidable_of_iff
    (text ≠ [] ∧ text.head? ≠ some '"' ∧ (text.all fun c => !isBlank c) = true) <| by
      simp only [List.all_eq_true, Bool.not_eq_true']
      exact ⟨fun ⟨hne, hhead, hblank⟩ => ⟨hne, hhead, hblank⟩,
        fun ⟨hne, hhead, hblank⟩ => ⟨hne, hhead, hblank⟩⟩

namespace IsGap

@[simp] theorem nil : IsGap [] := by
  simp [IsGap]

@[simp] theorem cons_iff {c : Char} {text : Text} :
    IsGap (c :: text) ↔ isBlank c = true ∧ IsGap text := by
  simp [IsGap]

@[simp] theorem append_iff {left right : Text} :
    IsGap (left ++ right) ↔ IsGap left ∧ IsGap right := by
  simp [IsGap, or_imp, forall_and]

theorem startsWithBlank {gap : Text} (h : IsGap gap) : StartsWithBlank gap := by
  cases gap with
  | nil => simp [StartsWithBlank]
  | cons c gap => simpa [StartsWithBlank] using (cons_iff.1 h).1

theorem startsWithBlank_append {gap : Text} (h : IsGap gap) (hne : gap ≠ []) (rest : Text) :
    StartsWithBlank (gap ++ rest) := by
  cases gap with
  | nil => exact absurd rfl hne
  | cons c gap => simpa [StartsWithBlank] using (cons_iff.1 h).1

end IsGap

namespace Lexeme

/-- Nothing of `rest` belongs to the lexeme in front of it. -/
def Precedes : Lexeme → Text → Prop
  | bare text, rest => IsBare text ∧ StartsWithBlank rest
  | quoted content, _ => '"' ∉ content
  | unclosed content, rest => '"' ∉ content ∧ rest = []

/-- A run of characters with a property ends where a character without it begins. -/
theorem takeWhile_append_of_head? {p : Char → Bool} {run rest : Text}
    (hrun : ∀ c ∈ run, p c = true) (hrest : ∀ c ∈ rest.head?, p c = false) :
    (run ++ rest).takeWhile p = run := by
  rw [List.takeWhile_append_of_pos hrun]
  cases rest with
  | nil => simp
  | cons c rest =>
    have hc : p c = false := hrest c rfl
    rw [List.takeWhile_cons_of_neg (by simp [hc]), List.append_nil]

theorem dropWhile_append_of_head? {p : Char → Bool} {run rest : Text}
    (hrun : ∀ c ∈ run, p c = true) (hrest : ∀ c ∈ rest.head?, p c = false) :
    (run ++ rest).dropWhile p = rest := by
  rw [List.dropWhile_append_of_pos hrun]
  cases rest with
  | nil => simp
  | cons c rest =>
    have hc : p c = false := hrest c rfl
    rw [List.dropWhile_cons_of_neg (by simp [hc])]

theorem head?_dropWhile {p : Char → Bool} (text : Text) :
    ∀ c ∈ (text.dropWhile p).head?, p c = false := by
  intro c hc
  have hnot := List.head?_dropWhile_not p text
  rw [Option.mem_def.1 hc] at hnot
  exact hnot

theorem written_eq_cons_of_precedes {lexeme : Lexeme} {rest : Text}
    (h : lexeme.Precedes rest) : ∃ c tail, lexeme.written = c :: tail ∧ isBlank c = false := by
  cases lexeme with
  | bare text =>
    obtain ⟨⟨hne, -, hblank⟩, -⟩ := h
    cases text with
    | nil => exact absurd rfl hne
    | cons c body => exact ⟨c, body, rfl, hblank c (by simp)⟩
  | quoted content => exact ⟨'"', content ++ ['"'], rfl, by decide⟩
  | unclosed content => exact ⟨'"', content, rfl, by decide⟩

theorem isContent_of_notMem {content : Text} (h : '"' ∉ content) :
    ∀ c ∈ content, isContent c = true := by
  intro c hc
  have hne : c ≠ '"' := fun heq => h (heq ▸ hc)
  simpa [isContent] using hne

theorem notMem_takeWhile_isContent (text : Text) : '"' ∉ text.takeWhile isContent := by
  intro hmem
  have hquote := List.mem_takeWhile_imp hmem
  simp [isContent] at hquote

/-- A lexeme is found at the front of any rest that it precedes. -/
theorem first?_of_precedes {lexeme : Lexeme} {rest : Text} (h : lexeme.Precedes rest) :
    first? (lexeme.written ++ rest) = some (lexeme, rest) := by
  cases lexeme with
  | bare text =>
    obtain ⟨⟨hne, hhead, hblank⟩, hrest⟩ := h
    cases text with
    | nil => exact absurd rfl hne
    | cons c body =>
      have hquote : c ≠ '"' := fun heq => hhead (by rw [heq]; rfl)
      have hmark : ∀ d ∈ body, isMark d = true := fun d hd => by
        simp [isMark, hblank d (List.mem_cons_of_mem c hd)]
      have hstop : ∀ d ∈ rest.head?, isMark d = false := fun d hd => by
        simp [isMark, hrest d hd]
      simp only [written, List.cons_append, first?]
      rw [takeWhile_append_of_head? hmark hstop, dropWhile_append_of_head? hmark hstop]
  | quoted content =>
    have hcontent := isContent_of_notMem h
    have hstop : ∀ d ∈ ('"' :: rest).head?, isContent d = false := by simp [isContent]
    have htake := takeWhile_append_of_head? hcontent hstop
    have hdrop := dropWhile_append_of_head? hcontent hstop
    simp [written, first?, htake, hdrop]
  | unclosed content =>
    obtain ⟨hquote, rfl⟩ := h
    have hdrop : content.dropWhile isContent = [] :=
      List.dropWhile_eq_nil_iff.2 (isContent_of_notMem hquote)
    simp [written, first?, hdrop]

/-- What is found at the front of a text that does not begin with a blank precedes the
rest. -/
theorem precedes_of_first? {text rest : Text} {lexeme : Lexeme}
    (hstart : ∀ c ∈ text.head?, isBlank c = false) (h : first? text = some (lexeme, rest)) :
    lexeme.Precedes rest := by
  unfold first? at h
  split at h
  · cases h
  · rename_i body
    split at h
    · rename_i hdrop
      cases h
      have hcontent := List.dropWhile_eq_nil_iff.1 hdrop
      refine ⟨fun hmem => ?_, rfl⟩
      have hquote := hcontent _ hmem
      simp [isContent] at hquote
    · cases h
      exact notMem_takeWhile_isContent body
  · rename_i c body hquote
    cases h
    refine ⟨⟨by simp, fun heq => hquote (by simpa using heq), ?_⟩, ?_⟩
    · intro d hd
      rcases List.mem_cons.1 hd with rfl | hd
      · exact hstart d rfl
      · have hmark := List.mem_takeWhile_imp hd
        simpa [isMark] using hmark
    · intro d hd
      have hstop := head?_dropWhile (p := isMark) body d hd
      simpa [isMark] using hstop

theorem first?_eq_none_iff {text : Text} : first? text = none ↔ text = [] := by
  constructor
  · intro h
    unfold first? at h
    split at h
    · rfl
    · split at h <;> cases h
    · cases h
  · rintro rfl
    rfl

/-- Cutting a text finds the blanks at its front, the lexeme behind them, and the rest
that the lexeme precedes. -/
theorem cut?_eq_some_iff {text : Text} {cut : Cut} :
    cut? text = some cut ↔
      text = cut.gap ++ (cut.lexeme.written ++ cut.rest) ∧ IsGap cut.gap ∧
        cut.lexeme.Precedes cut.rest := by
  constructor
  · intro h
    refine ⟨(append_of_cut? h).symm, ?_⟩
    obtain ⟨⟨lexeme, rest⟩, hfirst, rfl⟩ := Option.map_eq_some_iff.1 h
    refine ⟨fun c hc => List.mem_takeWhile_imp hc, ?_⟩
    exact precedes_of_first? (head?_dropWhile text) hfirst
  · obtain ⟨gap, lexeme, rest⟩ := cut
    rintro ⟨rfl, hgap, hlexeme⟩
    have hstop : ∀ c ∈ (lexeme.written ++ rest).head?, isBlank c = false := by
      obtain ⟨c, tail, hwritten, hc⟩ := written_eq_cons_of_precedes hlexeme
      simpa [hwritten] using hc
    rw [cut?, takeWhile_append_of_head? hgap hstop, dropWhile_append_of_head? hgap hstop,
      first?_of_precedes hlexeme]
    rfl

/-- Nothing can be cut off exactly if there are only blanks. -/
theorem cut?_eq_none_iff {text : Text} : cut? text = none ↔ IsGap text := by
  rw [cut?, Option.map_eq_none_iff, first?_eq_none_iff, List.dropWhile_eq_nil_iff, IsGap]

end Lexeme

end Lexing
