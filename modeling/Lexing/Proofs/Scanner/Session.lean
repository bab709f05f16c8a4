import Lexing.Proofs.Scanner.Scan
import Mathlib.Logic.Function.Iterate

/-!
# Sessions with a scanner

In a session a scanner is asked for tokens in one way or the other, gets other
vocabularies, is copied, and is replaced by copies made before. Whatever is done, the
scanner and its copies stay placed in the one source of the session.

## Main definitions

* `Scanner.Call`, `Scanner.afterCalls`: what can be asked of a scanner.
* `Scanner.afterScans`: the scanner after a number of scans.
* `Session.run`: a scanner and its copies after any steps.

## Main results

* `Session.placedIn_scannerAfter`: the scanner of a session stays placed.
* `Scanner.PlacedIn.exists_scans_finished`: scanning again and again comes to the end.
-/

namespace Lexing

namespace Scanner

/-- What can be asked of a scanner. -/
inductive Call where
  /-- The next token, behind errors too. -/
  | scan
  /-- The next token up to the first error. -/
  | next
  /-- To use another vocabulary from now on. -/
  | withVocabulary (vocabulary : Vocabulary)
  deriving DecidableEq, Repr

/-- The scanner after a call. -/
def after (scanner : Scanner) : Call → Scanner
  | .scan => scanner.scan.2
  | .next => scanner.next.2
  | .withVocabulary vocabulary => scanner.withVocabulary vocabulary

/-- The scanner after some calls, the first of them first. -/
def afterCalls (scanner : Scanner) (calls : List Call) : Scanner :=
  calls.foldl after scanner

/-- The scanner after `n` scans. -/
def afterScans (n : Nat) (scanner : Scanner) : Scanner :=
  (fun s => s.scan.2)^[n] scanner

/-- The scanner stands somewhere in the source. -/
structure PlacedIn (source : Source) (scanner : Scanner) : Prop where
  source_eq : scanner.source = source
  isPlaced : scanner.IsPlaced

variable {source : Source} {scanner : Scanner}

theorem afterScans_succ (n : Nat) (scanner : Scanner) :
    afterScans (n + 1) scanner = (afterScans n scanner).scan.2 :=
  Function.iterate_succ_apply' _ n scanner

/-- `next` does nothing, or it scans and may halt. -/
theorem next_snd_cases (scanner : Scanner) :
    scanner.next.2 = scanner ∨ ∃ halted, scanner.next.2 = { scanner.scan.2 with halted } := by
  unfold next
  split
  · exact .inl rfl
  · split
    · rename_i hscan
      exact .inr ⟨true, by rw [hscan]⟩
    · rename_i hscan
      exact .inr ⟨_, by rw [hscan]⟩
    · rename_i hscan
      exact .inr ⟨true, by rw [hscan]⟩

theorem scan_fst_of_next_fst {error : LexicalError}
    (h : scanner.next.1 = some (.error error)) : scanner.scan.1 = .error error := by
  unfold next at h
  split at h
  · cases h
  · split at h
    · cases h
    · cases h
    · rename_i hscan
      rw [hscan]
      cases h
      rfl

namespace PlacedIn

theorem ofSource (source : Source) : (Scanner.ofSource source).PlacedIn source :=
  ⟨rfl, isPlaced_ofSource source⟩

theorem scan (h : scanner.PlacedIn source) : scanner.scan.2.PlacedIn source := by
  have hscans := scans_scan h.isPlaced
  exact ⟨hscans.source_eq.trans h.source_eq, hscans.isPlaced h.isPlaced⟩

theorem after (h : scanner.PlacedIn source) (call : Call) :
    (scanner.after call).PlacedIn source := by
  cases call with
  | scan => exact h.scan
  | next =>
    rcases next_snd_cases scanner with heq | ⟨halted, heq⟩
    · rw [Scanner.after, heq]
      exact h
    · rw [Scanner.after, heq]
      exact ⟨h.scan.source_eq, h.scan.isPlaced⟩
  | withVocabulary vocabulary => exact ⟨h.source_eq, h.isPlaced⟩

theorem afterScans (h : scanner.PlacedIn source) (n : Nat) :
    (Scanner.afterScans n scanner).PlacedIn source := by
  induction n with
  | zero => exact h
  | succ n ih =>
    rw [afterScans_succ]
    exact ih.scan

theorem cursor_afterScans_le (h : scanner.PlacedIn source) {m n : Nat} (hle : m ≤ n) :
    (Scanner.afterScans m scanner).cursor ≤ (Scanner.afterScans n scanner).cursor := by
  induction n, hle using Nat.le_induction with
  | base => exact Nat.le_refl _
  | succ n _ ih =>
    have hscans := scans_scan (h.afterScans n).isPlaced
    rw [afterScans_succ]
    exact ih.trans hscans.cursor_le

end PlacedIn

section Finished

/-- Behind the end no call finds anything in front or moves the cursor. -/
theorem after_of_rest_eq_nil (h : scanner.rest = []) (call : Call) :
    (scanner.after call).rest = [] ∧ (scanner.after call).cursor = scanner.cursor := by
  have hscan := scan_of_isGap (show IsGap scanner.rest from h ▸ .nil)
  cases call with
  | scan => rw [after, hscan]; simp [h]
  | next =>
    rcases next_snd_cases scanner with heq | ⟨halted, heq⟩
    · rw [after, heq]
      exact ⟨h, rfl⟩
    · rw [after, heq, hscan]
      simp [h]
  | withVocabulary vocabulary => exact ⟨h, rfl⟩

theorem afterCalls_of_rest_eq_nil (h : scanner.rest = []) (calls : List Call) :
    (scanner.afterCalls calls).rest = [] ∧
      (scanner.afterCalls calls).cursor = scanner.cursor := by
  induction calls generalizing scanner with
  | nil => exact ⟨h, rfl⟩
  | cons call calls ih =>
    obtain ⟨hrest, hcursor⟩ := after_of_rest_eq_nil h call
    obtain ⟨hrests, hcursors⟩ := ih hrest
    exact ⟨hrests, hcursors.trans hcursor⟩

theorem isGap_afterScans (h : IsGap scanner.rest) (n : Nat) :
    IsGap (afterScans n scanner).rest := by
  induction n with
  | zero => exact h
  | succ n ih =>
    rw [afterScans_succ, scan_of_isGap ih]
    exact .nil

/-- Scanning again and again comes to the end, after at most as many tokens and errors
as there are characters in front, and it stays there. -/
theorem PlacedIn.exists_scans_finished (h : scanner.PlacedIn source) :
    ∃ k ≤ scanner.rest.length, ∀ n, (Scanner.afterScans n scanner).scan.1 = .ok none ↔ k ≤ n := by
  -- Each token and each error leaves less text in front.
  induction hlength : scanner.rest.length using Nat.strong_induction_on generalizing scanner with
  | _ length ih =>
    by_cases hend : scanner.scan.1 = .ok none
    · refine ⟨0, Nat.zero_le _, fun n => ?_⟩
      have hgap := isGap_afterScans (scan_fst_eq_ok_none_iff.1 hend) n
      simp [scan_fst_eq_ok_none_iff.2 hgap]
    · have hlt := (scans_scan h.isPlaced).length_lt hend
      obtain ⟨k, hk, hfinished⟩ := ih _ (hlength ▸ hlt) h.scan rfl
      refine ⟨k + 1, by omega, fun n => ?_⟩
      cases n with
      | zero => simpa [Scanner.afterScans] using hend
      | succ n =>
        rw [Scanner.afterScans, Function.iterate_succ_apply, Nat.add_le_add_iff_right]
        exact hfinished n

end Finished

end Scanner

/-- A scanner, and the copies that were made of it. -/
structure Session where
  /-- The scanner in use. -/
  scanner : Scanner
  /-- The copies, the latest first. -/
  copies : List Scanner
  deriving DecidableEq, Repr

namespace Session

/-- What can be done in a session. -/
inductive Step where
  /-- Something is asked of the scanner. -/
  | call (call : Scanner.Call)
  /-- The scanner is copied. -/
  | copy
  /-- A copy takes the place of the scanner. -/
  | restore (i : Nat)
  deriving DecidableEq, Repr

/-- The session after a step. Nothing happens if there is no copy to restore. -/
def step (session : Session) : Step → Session
  | .call call => { session with scanner := session.scanner.after call }
  | .copy => { session with copies := session.scanner :: session.copies }
  | .restore i => { session with scanner := session.copies[i]?.getD session.scanner }

/-- The session after some steps, the first of them first. -/
def run (session : Session) (steps : List Step) : Session :=
  steps.foldl step session

/-- The scanner after some steps from the start of a source. -/
def scannerAfter (source : Source) (steps : List Step) : Scanner :=
  (run ⟨.ofSource source, []⟩ steps).scanner

/-- The scanner and all copies stand somewhere in the source. -/
structure PlacedIn (source : Source) (session : Session) : Prop where
  scanner : session.scanner.PlacedIn source
  copies : ∀ copy ∈ session.copies, copy.PlacedIn source

variable {source : Source} {session : Session}

theorem PlacedIn.step (h : session.PlacedIn source) (step : Step) :
    (session.step step).PlacedIn source := by
  cases step with
  | call call => exact ⟨h.scanner.after call, h.copies⟩
  | copy => exact ⟨h.scanner, List.forall_mem_cons.2 ⟨h.scanner, h.copies⟩⟩
  | restore i =>
    refine ⟨?_, h.copies⟩
    show (session.copies[i]?.getD session.scanner).PlacedIn source
    cases hcopy : session.copies[i]? with
    | none => exact h.scanner
    | some copy => exact h.copies copy (List.mem_of_getElem? hcopy)

theorem PlacedIn.run (h : session.PlacedIn source) (steps : List Step) :
    (session.run steps).PlacedIn source := by
  -- One step keeps the session placed, so all of them do.
  induction steps generalizing session with
  | nil => exact h
  | cons step steps ih => exact ih (h.step step)

/-- Whatever is done in a session, the scanner stays placed in its source. -/
theorem placedIn_scannerAfter (source : Source) (steps : List Step) :
    (scannerAfter source steps).PlacedIn source := by
  have hstart : PlacedIn source ⟨.ofSource source, []⟩ := ⟨.ofSource source, by simp⟩
  exact (hstart.run steps).scanner

end Session

end Lexing
