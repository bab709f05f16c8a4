import Lexing.Proofs.Scanner.Reads
import Lexing.Proofs.Scanner.Session

/-!
# The results of scanning a source

Whoever scans a source to its end, behind errors too, gets a list of tokens and errors.
What the other ways to read a source give can be told from this list: a token stream, or
the error in its place, is a matter of the first error in it.

## Main definitions

* `Results`: tokens and errors in the order in which they are found.
* `Scanner.results`: the results of scanning again and again, up to the end.
* `Source.scanner`: a scanner at the start of a source.
* `Source.results`: the results of scanning a whole source.

## Main results

* `Scanner.getElem?_results`: the results are those of the first scan, of the second one
  and so on.
* `Scanner.results_map_eq_of_step`: scanners that run along with each other have results in
  common.
* `TokenStream.ofSource_eq`: what a token stream has to do with them.
-/

namespace Lexing

/-- Tokens, or something else in their places, and errors. -/
abbrev Results (α : Type) := List (Except LexicalError α)

namespace Results

variable {α β : Type}

/-- The first error, if there is one. -/
def firstError? : Results α → Option LexicalError
  | [] => none
  | .ok _ :: more => firstError? more
  | .error error :: _ => some error

/-- The tokens, without the errors. -/
def tokens : Results α → List α
  | [] => []
  | .ok token :: more => token :: tokens more
  | .error _ :: more => tokens more

/-- The first error is the one behind nothing but tokens. -/
theorem firstError?_eq_some_iff {results : Results α} {error : LexicalError} :
    results.firstError? = some error ↔
      ∃ (tokens : List α) (more : Results α),
        results = tokens.map .ok ++ .error error :: more := by
  induction results with
  | nil => simp [firstError?]
  | cons result results ih =>
    cases result with
    | ok token =>
      rw [firstError?, ih]
      constructor
      · rintro ⟨tokens, more, rfl⟩
        exact ⟨token :: tokens, more, rfl⟩
      · rintro ⟨tokens, more, h⟩
        cases tokens with
        | nil => cases h
        | cons _ tokens => exact ⟨tokens, more, (List.cons.inj h).2⟩
    | error other =>
      constructor
      · intro h
        obtain rfl := Option.some.inj h
        exact ⟨[], results, rfl⟩
      · rintro ⟨tokens, more, h⟩
        cases tokens with
        | nil =>
          cases h
          rfl
        | cons => cases h

section Map

variable (g : Except LexicalError α → Except LexicalError β) {f : α → β}
  {move : LexicalError → LexicalError}

theorem firstError?_map (hok : ∀ token, g (.ok token) = .ok (f token))
    (herror : ∀ error, g (.error error) = .error (move error)) (results : Results α) :
    firstError? (results.map g) = results.firstError?.map move := by
  induction results with
  | nil => rfl
  | cons result results ih =>
    cases result with
    | ok token => rw [List.map_cons, hok]; exact ih
    | error error => rw [List.map_cons, herror]; rfl

theorem tokens_map (hok : ∀ token, g (.ok token) = .ok (f token))
    (herror : ∀ error, g (.error error) = .error (move error)) (results : Results α) :
    tokens (results.map g) = results.tokens.map f := by
  induction results with
  | nil => rfl
  | cons result results ih =>
    cases result with
    | ok token => rw [List.map_cons, hok]; exact congrArg (f token :: ·) ih
    | error error => rw [List.map_cons, herror]; exact ih

end Map

end Results

namespace Scanner

/-- What a scan finds; `none` at the end. -/
def item? (scanner : Scanner) : Option (Except LexicalError Token) :=
  match scanner.scan.1 with
  | .ok none => none
  | .ok (some token) => some (.ok token)
  | .error error => some (.error error)

variable {scanner : Scanner} {result : Except LexicalError Token}

theorem item?_eq_some_iff : scanner.item? = some result ↔ scanner.scan.1 = result.map some := by
  unfold item?
  cases result <;> split <;> simp_all [Except.map]

theorem item?_eq_none_iff : scanner.item? = none ↔ IsGap scanner.rest := by
  rw [← scan_fst_eq_ok_none_iff]
  unfold item?
  split <;> simp_all

theorem rest_length_lt_of_item? (h : scanner.item? = some result) :
    scanner.scan.2.rest.length < scanner.rest.length := by
  cases hcut : Lexeme.cut? scanner.rest with
  | none =>
    rw [item?_eq_none_iff.2 (Lexeme.cut?_eq_none_iff.1 hcut)] at h
    cases h
  | some cut =>
    have hbehind : scanner.scan.2.rest = cut.rest := by simp [scan, hcut]
    rw [hbehind]
    exact Lexeme.length_lt_of_cut? hcut

/-- What one scan after the other finds, up to the end. -/
def results (scanner : Scanner) : Results Token :=
  match h : scanner.item? with
  | none => []
  | some result =>
    have := rest_length_lt_of_item? h
    result :: scanner.scan.2.results
termination_by scanner.rest.length

theorem results_of_isGap (h : IsGap scanner.rest) : scanner.results = [] := by
  rw [results]
  split
  · rfl
  · rename_i hitem
    rw [item?_eq_none_iff.2 h] at hitem
    cases hitem

theorem results_of_item? (h : scanner.item? = some result) :
    scanner.results = result :: scanner.scan.2.results := by
  rw [results]
  split
  · rename_i hitem
    rw [hitem] at h
    cases h
  · rename_i hitem
    rw [hitem] at h
    obtain rfl := Option.some.inj h
    rfl

/-- The results are what the first scan finds, what the second one finds, and so on. -/
theorem getElem?_results (n : Nat) :
    scanner.results[n]? = (afterScans n scanner).item? := by
  induction n generalizing scanner with
  | zero =>
    cases hitem : scanner.item? with
    | none => rw [results_of_isGap (item?_eq_none_iff.1 hitem)]; exact hitem.symm
    | some result => rw [results_of_item? hitem]; exact hitem.symm
  | succ n ih =>
    rw [afterScans, Function.iterate_succ_apply]
    cases hitem : scanner.item? with
    | none =>
      have hgap := item?_eq_none_iff.1 hitem
      have hbehind : IsGap scanner.scan.2.rest := by
        rw [scan_of_isGap hgap]
        exact .nil
      rw [results_of_isGap hgap, ← afterScans, item?_eq_none_iff.2 (isGap_afterScans hbehind n)]
      rfl
    | some result =>
      rw [results_of_item? hitem, List.getElem?_cons_succ, ih]
      rfl

/-- Scanners that scan alike have the same results. -/
theorem results_congr {other : Scanner} (h : scanner.scan = other.scan) :
    scanner.results = other.results := by
  have hitem : scanner.item? = other.item? := by rw [item?, h, item?]
  cases hother : other.item? with
  | none =>
    rw [results_of_isGap (item?_eq_none_iff.1 (hitem.trans hother)),
      results_of_isGap (item?_eq_none_iff.1 hother)]
  | some result => rw [results_of_item? (hitem.trans hother), results_of_item? hother, h]

/-- What two scanners that run along with each other have in common in each scan, they have
in common in all results. -/
theorem results_map_eq_of_step {α : Type} {f g : Except LexicalError Token → α}
    {Along : Scanner → Scanner → Prop}
    (hstep : ∀ {one other : Scanner}, Along one other →
      one.item?.map f = other.item?.map g ∧ Along one.scan.2 other.scan.2)
    {one other : Scanner} (h : Along one other) :
    one.results.map f = other.results.map g := by
  induction one using results.induct generalizing other with
  | case1 one hitem =>
    obtain ⟨hsame, -⟩ := hstep h
    rw [hitem, Option.map_none, eq_comm, Option.map_eq_none_iff] at hsame
    rw [results_of_isGap (item?_eq_none_iff.1 hitem), results_of_isGap (item?_eq_none_iff.1 hsame)]
    rfl
  | case2 one result hitem _ ih =>
    obtain ⟨hsame, hbehind⟩ := hstep h
    rw [hitem, Option.map_some, eq_comm, Option.map_eq_some_iff] at hsame
    obtain ⟨result', hitem', hresult⟩ := hsame
    rw [results_of_item? hitem, results_of_item? hitem', List.map_cons, List.map_cons, hresult,
      ih hbehind]

/-- The tokens are collected unless there is an error among the results. -/
theorem collectFrom_eq (hhalted : scanner.halted = false) (read : List Token) :
    (collectFrom read scanner).1 =
      match scanner.results.firstError? with
      | none => .ok (read.reverse ++ scanner.results.tokens)
      | some error => .error error := by
  induction scanner using results.induct generalizing read with
  | case1 scanner hitem =>
    rw [results_of_isGap (item?_eq_none_iff.1 hitem), collectFrom_fst hhalted,
      scan_fst_eq_ok_none_iff.2 (item?_eq_none_iff.1 hitem)]
    simp [Results.firstError?, Results.tokens]
  | case2 scanner result hitem _ ih =>
    rw [results_of_item? hitem, collectFrom_fst hhalted, item?_eq_some_iff.1 hitem]
    cases result with
    | ok token =>
      simp only [Except.map, Results.firstError?, Results.tokens]
      rw [ih (halted_scan.trans hhalted)]
      simp
    | error error => simp [Except.map, Results.firstError?]

end Scanner

/-- A scanner with a vocabulary, at the start of the source. -/
def Source.scanner (source : Source) (vocabulary : Vocabulary) : Scanner :=
  (Scanner.ofSource source).withVocabulary vocabulary

/-- The results of scanning a whole source. -/
def Source.results (source : Source) (vocabulary : Vocabulary) : Results Token :=
  (source.scanner vocabulary).results

theorem Source.isPlaced_scanner (source : Source) (vocabulary : Vocabulary) :
    (source.scanner vocabulary).IsPlaced :=
  Scanner.isPlaced_ofSource source

/-- A source has all its tokens as its stream, and the receiver is left alone, if there is
no error among the results. Else the receiver gets the first error, and there is no
stream. -/
theorem TokenStream.ofSource_eq {σ : Type} (source : Source) (vocabulary : Vocabulary)
    (receiver : Receiver σ LexicalError) (kept : σ) :
    ofSource source vocabulary receiver kept =
      match (source.results vocabulary).firstError? with
      | none => (some ⟨(source.results vocabulary).tokens⟩, kept)
      | some error => (none, receiver.receive kept error) := by
  have hcollect : (source.scanner vocabulary).collect.1 = _ := Scanner.collectFrom_eq rfl []
  rw [ofSource, ← Source.scanner, hcollect, ← Source.results]
  cases (source.results vocabulary).firstError? <;> rfl

end Lexing
