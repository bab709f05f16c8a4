import Lexing.Proofs.Scanner.Results

/-!
# Scanners that have halted

Once `next` has come to the end or to an error, the scanner has halted. From then on
`next` does nothing at all, whatever else is asked of the scanner in between, while `scan`
takes no notice: it goes on as in a session in which nobody ever asked for `next`.

## Main definitions

* `Scanner.afterNexts`: the scanner after a number of calls of `next`.
* `Results.throughError`: the results up to the first error.
* `Scanner.unhalted`: the scanner as if it had not halted.
* `Session.Uniterated`: a scanner of which nobody has asked for `next`.

## Main results

* `Scanner.next_afterNexts`: what `next` gives, one call after the other.
* `Scanner.next_afterCalls`: a halted scanner stays halted.
* `Session.uniterated_unhalted`: each scanner has a twin that was never asked for `next`.
* `Session.Uniterated.scan_eq`: the twin scans alike.
-/

namespace Lexing

/-- The results up to the first error, which is the last one of them. -/
def Results.throughError {α : Type} : Results α → Results α
  | [] => []
  | .ok token :: more => .ok token :: throughError more
  | .error error :: _ => [.error error]

namespace Scanner

/-- The scanner after `n` calls of `next`. -/
def afterNexts (n : Nat) (scanner : Scanner) : Scanner :=
  (fun s => s.next.2)^[n] scanner

/-- The scanner at the same place, as if it had not halted. -/
def unhalted (scanner : Scanner) : Scanner :=
  { scanner with halted := false }

variable {scanner : Scanner} {source : Source}

theorem scan_of_halted (scanner : Scanner) (halted : Bool) :
    { scanner with halted }.scan = (scanner.scan.1, { scanner.scan.2 with halted }) := by
  simp only [scan]
  cases Lexeme.cut? scanner.rest <;> rfl

theorem next_of_halted (h : scanner.halted = true) : scanner.next = (none, scanner) := by
  rw [next, if_pos h]

theorem next_of_item?_ok {token : Token} (hhalted : scanner.halted = false)
    (h : scanner.item? = some (.ok token)) :
    scanner.next = (some (.ok token), scanner.scan.2) := by
  have hscan := item?_eq_some_iff.1 h
  unfold next
  rw [if_neg (by simp [hhalted])]
  split <;> simp_all [Except.map]

theorem next_of_item?_ne_ok (hhalted : scanner.halted = false)
    (h : ∀ token, scanner.item? ≠ some (.ok token)) :
    scanner.next = (scanner.item?, { scanner.scan.2 with halted := true }) := by
  unfold next
  unfold item? at *
  rw [if_neg (by simp [hhalted])]
  split <;> simp_all

theorem halted_next (h : ∀ token, scanner.next.1 ≠ some (.ok token)) :
    scanner.next.2.halted = true := by
  cases hhalted : scanner.halted with
  | true => rwa [next_of_halted hhalted]
  | false =>
    by_cases hitem : ∃ token, scanner.item? = some (.ok token)
    · obtain ⟨token, hitem⟩ := hitem
      rw [next_of_item?_ok hhalted hitem] at h
      exact absurd rfl (h token)
    · rw [next_of_item?_ne_ok hhalted (not_exists.1 hitem)]

theorem throughError_of_item?_ok {token : Token} (h : scanner.item? = some (.ok token)) :
    scanner.results.throughError = .ok token :: scanner.scan.2.results.throughError := by
  rw [results_of_item? h]
  rfl

theorem throughError_of_item?_ne_ok (h : ∀ token, scanner.item? ≠ some (.ok token)) :
    scanner.results.throughError = scanner.item?.toList := by
  cases hitem : scanner.item? with
  | none => rw [results_of_isGap (item?_eq_none_iff.1 hitem)]; rfl
  | some result =>
    rw [results_of_item? hitem]
    cases result with
    | ok token => exact absurd hitem (h token)
    | error error => rfl

theorem afterNexts_of_halted (h : scanner.halted = true) (n : Nat) :
    afterNexts n scanner = scanner :=
  Function.iterate_fixed (by rw [next_of_halted h]) n

/-- The calls of `next` give the results up to the first error, and nothing more. -/
theorem next_afterNexts (hhalted : scanner.halted = false) (n : Nat) :
    (afterNexts n scanner).next.1 = scanner.results.throughError[n]? := by
  induction n generalizing scanner with
  | zero =>
    show scanner.next.1 = _
    by_cases hok : ∃ token, scanner.item? = some (.ok token)
    · obtain ⟨token, hitem⟩ := hok
      rw [next_of_item?_ok hhalted hitem, throughError_of_item?_ok hitem]
      rfl
    · rw [next_of_item?_ne_ok hhalted (not_exists.1 hok),
        throughError_of_item?_ne_ok (not_exists.1 hok)]
      cases scanner.item? <;> rfl
  | succ n ih =>
    rw [afterNexts, Function.iterate_succ_apply, ← afterNexts]
    by_cases hok : ∃ token, scanner.item? = some (.ok token)
    · obtain ⟨token, hitem⟩ := hok
      rw [next_of_item?_ok hhalted hitem, throughError_of_item?_ok hitem,
        List.getElem?_cons_succ]
      exact ih (halted_scan.trans hhalted)
    · -- The first call has halted the scanner, and there is one result at most.
      rw [next_of_item?_ne_ok hhalted (not_exists.1 hok), afterNexts_of_halted rfl,
        next_of_halted rfl, throughError_of_item?_ne_ok (not_exists.1 hok)]
      cases scanner.item? <;> rfl

theorem halted_after (h : scanner.halted = true) (call : Call) :
    (scanner.after call).halted = true := by
  cases call with
  | scan => exact halted_scan.trans h
  | next => rwa [after, next_of_halted h]
  | withVocabulary vocabulary => exact h

theorem halted_afterCalls (h : scanner.halted = true) (calls : List Call) :
    (scanner.afterCalls calls).halted = true := by
  induction calls generalizing scanner with
  | nil => exact h
  | cons call calls ih => exact ih (halted_after h call)

/-- A halted scanner stays so: `next` gives nothing, and it leaves the scanner alone. -/
theorem next_afterCalls (h : scanner.halted = true) (calls : List Call) :
    (scanner.afterCalls calls).next = (none, scanner.afterCalls calls) :=
  next_of_halted (halted_afterCalls h calls)

/-- Placed scanners of one source with one cursor have the same text in front. -/
theorem PlacedIn.rest_eq {other : Scanner} (h : scanner.PlacedIn source)
    (hother : other.PlacedIn source) (hcursor : other.cursor = scanner.cursor) :
    other.rest = scanner.rest := by
  have hscanner : source.content.GoesOn scanner.cursor scanner.rest := h.source_eq ▸ h.isPlaced
  have hrest : source.content.GoesOn other.cursor other.rest :=
    hother.source_eq ▸ hother.isPlaced
  exact (hcursor ▸ hrest).unique hscanner

end Scanner

namespace Session

variable {source : Source} {session : Session}

theorem run_append (session : Session) (first later : List Step) :
    session.run (first ++ later) = (session.run first).run later :=
  List.foldl_append

theorem run_calls (session : Session) (calls : List Scanner.Call) :
    (session.run (calls.map .call)).scanner = session.scanner.afterCalls calls := by
  induction calls generalizing session with
  | nil => rfl
  | cons call calls ih => exact ih (session.step (.call call))

theorem scannerAfter_append_calls (source : Source) (steps : List Step)
    (calls : List Scanner.Call) :
    scannerAfter source (steps ++ calls.map .call) =
      (scannerAfter source steps).afterCalls calls := by
  rw [scannerAfter, run_append, run_calls]
  rfl

/-- The scanner comes from a session with the source in which nobody asked for `next`. -/
def Uniterated (source : Source) (scanner : Scanner) : Prop :=
  ∃ steps, .call .next ∉ steps ∧ scanner = scannerAfter source steps

theorem Uniterated.placedIn {scanner : Scanner} (h : Uniterated source scanner) :
    scanner.PlacedIn source := by
  obtain ⟨steps, -, rfl⟩ := h
  exact placedIn_scannerAfter source steps

/-- The scanner and its copies, as if none of them had halted. -/
def unhalted (session : Session) : Session :=
  ⟨session.scanner.unhalted, session.copies.map Scanner.unhalted⟩

/-- What a step does, a step without `next` or none at all does to scanners that have not
halted. -/
theorem exists_step_unhalted (session : Session) (step : Step) :
    ∃ others, .call .next ∉ others ∧
      session.unhalted.run others = (session.step step).unhalted := by
  cases step with
  | call call =>
    cases call with
    | scan =>
      refine ⟨[.call .scan], by simp, ?_⟩
      show Session.mk (session.scanner.unhalted.scan.2) _ = _
      rw [Scanner.unhalted, Scanner.scan_of_halted]
      rfl
    | next =>
      rcases Scanner.next_snd_cases session.scanner with hsame | ⟨halted, hscan⟩
      · refine ⟨[], by simp, ?_⟩
        show session.unhalted = unhalted ⟨session.scanner.next.2, session.copies⟩
        rw [hsame]
      · refine ⟨[.call .scan], by simp, ?_⟩
        show Session.mk (session.scanner.unhalted.scan.2) _ =
          unhalted ⟨session.scanner.next.2, session.copies⟩
        rw [hscan, Scanner.unhalted, Scanner.scan_of_halted]
        rfl
    | withVocabulary vocabulary => exact ⟨[.call (.withVocabulary vocabulary)], by simp, rfl⟩
  | copy => exact ⟨[.copy], by simp, rfl⟩
  | restore i =>
    refine ⟨[.restore i], by simp, ?_⟩
    show Session.mk ((session.copies.map Scanner.unhalted)[i]?.getD session.scanner.unhalted) _ =
      unhalted ⟨session.copies[i]?.getD session.scanner, session.copies⟩
    rw [List.getElem?_map, Option.getD_map]
    rfl

theorem exists_run_unhalted (session : Session) (steps : List Step) :
    ∃ others, .call .next ∉ others ∧
      session.unhalted.run others = (session.run steps).unhalted := by
  induction steps generalizing session with
  | nil => exact ⟨[], by simp, rfl⟩
  | cons step steps ih =>
    obtain ⟨first, hfirst, hrun⟩ := exists_step_unhalted session step
    obtain ⟨others, hothers, hruns⟩ := ih (session.step step)
    refine ⟨first ++ others, by simp [hfirst, hothers], ?_⟩
    rw [run_append, hrun]
    exact hruns

/-- Each scanner has a twin at the same place that was never asked for `next`. -/
theorem uniterated_unhalted (source : Source) (steps : List Step) :
    Uniterated source (scannerAfter source steps).unhalted := by
  obtain ⟨others, hothers, hrun⟩ := exists_run_unhalted ⟨.ofSource source, []⟩ steps
  exact ⟨others, hothers, (congrArg Session.scanner hrun).symm⟩

/-- Scanning depends on nothing but the place and the vocabulary. -/
theorem Uniterated.scan_eq {scanner fresh : Scanner} (h : Uniterated source fresh)
    (hplaced : scanner.PlacedIn source) (hcursor : fresh.cursor = scanner.cursor)
    (hvocabulary : fresh.vocabulary = scanner.vocabulary) :
    scanner.scan = (fresh.scan.1, { fresh.scan.2 with halted := scanner.halted }) := by
  have hrest := hplaced.rest_eq h.placedIn hcursor
  have hsource := h.placedIn.source_eq.trans hplaced.source_eq.symm
  have hsame : scanner = { fresh with halted := scanner.halted } := by
    obtain ⟨source', vocabulary, cursor, rest, halted⟩ := fresh
    simp only at hcursor hvocabulary hrest hsource
    rw [hcursor, hvocabulary, hrest, hsource]
  rw [← Scanner.scan_of_halted fresh, ← hsame]

end Session

end Lexing
