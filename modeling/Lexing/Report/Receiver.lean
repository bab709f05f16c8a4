/-!
# Receivers of diagnostics

A receiver says what becomes of the diagnostics that arise: it turns what was kept so
far, and the next diagnostic, into what is kept then.

## Main definitions

* `Receiver`: what is done with a diagnostic.
* `Receiver.keeping`: keeps every diagnostic in the order of arrival.
* `Receiver.ignoring`: keeps none.
-/

namespace Lexing

/-- What is done with diagnostics of type `ε`, where `σ` is what is kept of them. -/
structure Receiver (σ ε : Type) where
  /-- What is kept after one more diagnostic. -/
  receive : σ → ε → σ

namespace Receiver

/-- Keeps every diagnostic, the latest one last, in the form that `convert` gives it. -/
def keepingAs {ε τ : Type} (convert : ε → τ) : Receiver (List τ) ε :=
  ⟨fun kept diagnostic => kept ++ [convert diagnostic]⟩

/-- Keeps every diagnostic, the latest one last. -/
def keeping {ε : Type} : Receiver (List ε) ε :=
  keepingAs id

/-- Keeps no diagnostic. -/
def ignoring {σ ε : Type} : Receiver σ ε :=
  ⟨fun kept _ => kept⟩

end Receiver

end Lexing
