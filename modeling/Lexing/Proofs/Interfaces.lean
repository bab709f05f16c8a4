import Lexing.Proofs.Scanner.Halting

/-!
# The ways to read a source

There are three of them: one scan after the other, one `next` after the other, and a token
stream. All that they give can be told from the results of scanning the whole source.
`next` gives them up to the first error and then nothing more. A token stream has all
tokens, unless there is an error; then the first one is all that the receiver ever gets.

## Main definitions

* `Scanner.HasEnded`: what holds of a scanner once `next` has come to its end.
* `Source.InterfacesAgree`: what each way to read a source gives.
* `Use`: what a receiver that keeps diagnostics is used for.

## Main results

* `Source.interfacesAgree`: the ways to read a source agree.
-/

namespace Lexing

/-- Nothing more comes of `next`, whatever is done with the scanner, and scanning takes no
notice of it. -/
structure Scanner.HasEnded (source : Source) (scanner : Scanner) : Prop where
  /-- `next` gives nothing and does not move the scanner. -/
  next_eq : ∀ calls, (scanner.afterCalls calls).next = (none, scanner.afterCalls calls)
  /-- There is a scanner with the same cursor and vocabulary that was never asked for
  `next`. -/
  exists_uniterated : ∀ calls, ∃ fresh, Session.Uniterated source fresh ∧
    fresh.cursor = (scanner.afterCalls calls).cursor ∧
    fresh.vocabulary = (scanner.afterCalls calls).vocabulary
  /-- Every scanner of that sort scans alike. -/
  scan_eq : ∀ calls fresh, Session.Uniterated source fresh →
    fresh.cursor = (scanner.afterCalls calls).cursor →
    fresh.vocabulary = (scanner.afterCalls calls).vocabulary →
    (scanner.afterCalls calls).scan = (fresh.scan.1, { fresh.scan.2 with halted := true })

/-- What each way to read a source gives, said by the results of scanning it. -/
structure Source.InterfacesAgree (source : Source) (vocabulary : Vocabulary) : Prop where
  /-- One `next` after the other gives the results up to the first error. -/
  next_eq : ∀ n, (Scanner.afterNexts n (source.scanner vocabulary)).next.1 =
    (source.results vocabulary).throughError[n]?
  /-- In whatever session it happens, `next` ends with the first error or when it gives
  nothing. -/
  hasEnded_of_next : ∀ steps, let scanner := Session.scannerAfter source steps
    (scanner.next.1 = none ∨ ∃ error, scanner.next.1 = some (.error error)) →
      scanner.next.2.HasEnded source
  /-- A token stream has all tokens, and nothing is received. If there is an error, the
  first one is received, and there is no stream. -/
  ofSource_eq : ∀ (σ : Type) (receiver : Receiver σ LexicalError) (kept : σ),
    TokenStream.ofSource source vocabulary receiver kept =
      match (source.results vocabulary).firstError? with
      | none => (some ⟨(source.results vocabulary).tokens⟩, kept)
      | some error => (none, receiver.receive kept error)
  /-- The stream does not depend on who receives the error. -/
  ofSource_fst_eq : ∀ (σ τ : Type) (receiver : Receiver σ LexicalError) (kept : σ)
      (other : Receiver τ LexicalError) (kept' : τ),
    (TokenStream.ofSource source vocabulary receiver kept).1 =
      (TokenStream.ofSource source vocabulary other kept').1

/-- What a receiver that keeps diagnostics of type `τ` is used for. -/
inductive Use (τ : Type) where
  /-- It receives a diagnostic. -/
  | receive (diagnostic : τ)
  /-- It receives the error, if there is one, when the tokens of a source are asked for. -/
  | stream (source : Source) (vocabulary : Vocabulary)

namespace Use

variable {τ : Type}

/-- What is kept after the receiver was used; errors are kept in the form that `convert`
gives them. -/
def keptAfter (convert : LexicalError → τ) (kept : List τ) : Use τ → List τ
  | .receive diagnostic => Receiver.keeping.receive kept diagnostic
  | .stream source vocabulary =>
    (TokenStream.ofSource source vocabulary (Receiver.keepingAs convert) kept).2

/-- What the use adds: a diagnostic, or the first error of a source that has one. -/
def added (convert : LexicalError → τ) : Use τ → List τ
  | .receive diagnostic => [diagnostic]
  | .stream source vocabulary =>
    ((source.results vocabulary).firstError?.map convert).toList

theorem keptAfter_eq (convert : LexicalError → τ) (kept : List τ) (use : Use τ) :
    use.keptAfter convert kept = kept ++ use.added convert := by
  cases use with
  | receive diagnostic => rfl
  | stream source vocabulary =>
    rw [keptAfter, TokenStream.ofSource_eq, added]
    cases (source.results vocabulary).firstError? with
    | none => exact (List.append_nil kept).symm
    | some error => rfl

/-- What is added is kept in the order of the uses, behind what was kept before. -/
theorem foldl_keptAfter (convert : LexicalError → τ) (uses : List (Use τ)) (kept : List τ) :
    uses.foldl (fun kept use => use.keptAfter convert kept) kept =
      kept ++ uses.flatMap (added convert) := by
  induction uses generalizing kept with
  | nil => exact (List.append_nil kept).symm
  | cons use uses ih =>
    rw [List.foldl_cons, ih, keptAfter_eq, List.append_assoc, List.flatMap_cons]

end Use

namespace Session

variable {source : Source}

/-- Where `next` gives no token, it has ended. -/
theorem hasEnded_next (steps : List Step)
    (h : ∀ token, (scannerAfter source steps).next.1 ≠ some (.ok token)) :
    (scannerAfter source steps).next.2.HasEnded source := by
  have hhalted := Scanner.halted_next h
  have hlater : ∀ calls, (scannerAfter source steps).next.2.afterCalls calls =
      scannerAfter source (steps ++ (.next :: calls).map .call) :=
    fun calls => (scannerAfter_append_calls source steps (.next :: calls)).symm
  refine ⟨Scanner.next_afterCalls hhalted, fun calls => ?_, fun calls fresh hfresh => ?_⟩
  · rw [hlater]
    exact ⟨_, uniterated_unhalted source _, rfl, rfl⟩
  · rw [← Scanner.halted_afterCalls hhalted calls, hlater]
    exact hfresh.scan_eq (placedIn_scannerAfter source _)

end Session

/-- The ways to read a source agree. A receiver that keeps diagnostics gets one for each
source that has no token stream, whatever else it receives. -/
theorem Source.interfacesAgree (source : Source) (vocabulary : Vocabulary) :
    source.InterfacesAgree vocabulary ∧
      ∀ (τ : Type) (convert : LexicalError → τ) (uses : List (Use τ)) (kept : List τ),
        uses.foldl (fun kept use => use.keptAfter convert kept) kept =
          kept ++ uses.flatMap (Use.added convert) := by
  refine ⟨⟨?_, ?_, ?_, ?_⟩, fun τ => Use.foldl_keptAfter⟩
  · exact Scanner.next_afterNexts rfl
  · intro steps scanner hend
    apply Session.hasEnded_next
    intro token htoken
    rcases hend with hnone | ⟨error, herror⟩
    · rw [hnone] at htoken
      cases htoken
    · rw [herror] at htoken
      cases htoken
  · intro σ receiver kept
    exact TokenStream.ofSource_eq source vocabulary receiver kept
  · intro σ τ receiver kept other kept'
    rw [TokenStream.ofSource_eq, TokenStream.ofSource_eq]
    cases (source.results vocabulary).firstError? <;> rfl

end Lexing
