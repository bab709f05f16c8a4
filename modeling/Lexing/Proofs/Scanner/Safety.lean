import Lexing.Proofs.Scanner.Bytewise
import Lexing.Proofs.Scanner.Session

/-!
# Safety and progress of a scanner

What can be relied on whatever has been done with a scanner before: it never leaves its
text, no call crashes or loses the cursor, and each call gets further or is at the end.

## Main definitions

* `Scanner.IsSafe`: what can be relied on.

## Main results

* `Session.isSafe_scannerAfter`: the scanner of a session is safe after any steps.
-/

namespace Lexing

namespace Scanner

/-- What can be relied on in a scanner. -/
structure IsSafe (scanner : Scanner) : Prop where
  /-- The cursor falls between two characters of the text or is at one of its ends. -/
  isBoundary : scanner.source.content.IsBoundary scanner.cursor
  /-- The cursor is not behind the end. -/
  cursor_le : scanner.cursor ≤ scanner.source.size
  /-- Read byte by byte from the cursor, the next token is found without a crash, however
  many more rounds than bytes the loops may take. -/
  runAt_nextToken : ∀ rounds, scanner.source.size < rounds →
    (Walk.nextToken rounds scanner.source scanner.vocabulary).runAt scanner.cursor =
      some (scanner.scan.1, scanner.scan.2.cursor)
  /-- No scan finds the cursor lost. -/
  scan_ne_cursorLost : ∀ offset, scanner.scan.1 ≠ .error (.cursorLost offset)
  /-- Nor does `next`. -/
  next_ne_cursorLost : ∀ offset, scanner.next.1 ≠ some (.error (.cursorLost offset))
  /-- A token or an error moves the cursor forward. -/
  cursor_lt : scanner.scan.1 ≠ .ok none → scanner.cursor < scanner.scan.2.cursor
  /-- The end is found at the end of the text, and found there again whatever is called
  in between. -/
  finished : scanner.scan.1 = .ok none →
    scanner.scan.2.cursor = scanner.source.size ∧
      ∀ calls, let later := scanner.scan.2.afterCalls calls
        later.scan.1 = .ok none ∧ later.cursor = scanner.source.size ∧
          later.scan.2.cursor = scanner.source.size
  /-- Scanning again and again comes to the end, after at most as many tokens and errors
  as the text has characters. -/
  exists_scans_finished :
    ∃ k ≤ scanner.source.content.length,
      ∀ n, (afterScans n scanner).scan.1 = .ok none ↔ k ≤ n

variable {source : Source} {scanner : Scanner}

theorem PlacedIn.finished (h : scanner.PlacedIn source) (hend : scanner.scan.1 = .ok none) :
    scanner.scan.2.cursor = source.size ∧
      ∀ calls, let later := scanner.scan.2.afterCalls calls
        later.scan.1 = .ok none ∧ later.cursor = source.size ∧
          later.scan.2.cursor = source.size := by
  have hscan := scan_of_isGap (scan_fst_eq_ok_none_iff.1 hend)
  have hnil : scanner.scan.2.rest = [] := by rw [hscan, passing_rest]
  have hcursor : scanner.scan.2.cursor = source.size := by
    have hsize : scanner.cursor + scanner.rest.byteLength = scanner.source.size :=
      h.isPlaced.add_byteLength
    rw [hscan, passing_cursor, hsize, h.source_eq]
  refine ⟨hcursor, fun calls => ?_⟩
  intro later
  obtain ⟨hrest, hlater⟩ := afterCalls_of_rest_eq_nil hnil calls
  have hgap : IsGap later.rest := hrest ▸ .nil
  have hagain := after_of_rest_eq_nil hrest .scan
  refine ⟨scan_fst_eq_ok_none_iff.2 hgap, hlater.trans hcursor, ?_⟩
  exact hagain.2.trans (hlater.trans hcursor)

theorem PlacedIn.isSafe (h : scanner.PlacedIn source) : scanner.IsSafe := by
  have hplaced : scanner.source.content.GoesOn scanner.cursor scanner.rest := h.isPlaced
  have hscans := scans_scan h.isPlaced
  obtain rfl := h.source_eq
  refine
    { isBoundary := hplaced.isBoundary
      cursor_le := hplaced.isBoundary.le_byteLength
      runAt_nextToken := fun rounds hrounds => Walk.runAt_nextToken h.isPlaced hrounds
      scan_ne_cursorLost := hscans.ne_cursorLost
      next_ne_cursorLost := fun offset hnext =>
        hscans.ne_cursorLost offset (scan_fst_of_next_fst hnext)
      cursor_lt := hscans.cursor_lt
      finished := h.finished
      exists_scans_finished := ?_ }
  obtain ⟨k, hk, hfinished⟩ := h.exists_scans_finished
  refine ⟨k, ?_, hfinished⟩
  -- What is in front is a part of the whole text.
  obtain ⟨before, hcontent, -⟩ := hplaced
  rw [hcontent, List.length_append]
  omega

end Scanner

/-- Whatever is done in a session, its scanner stays in its source and is safe. -/
theorem Session.isSafe_scannerAfter (source : Source) (steps : List Step) :
    (scannerAfter source steps).source = source ∧ (scannerAfter source steps).IsSafe := by
  have hplaced := placedIn_scannerAfter source steps
  exact ⟨hplaced.source_eq, hplaced.isSafe⟩

end Lexing
