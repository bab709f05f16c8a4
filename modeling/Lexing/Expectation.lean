import Lexing.Text.Offset

/-!
# Expectations

An expectation knows what an input should lead to and compares it with what it did lead
to. Expectations of single things extend to things that may be missing and to lists.

## Main definitions

* `Expectation`: compares an input with an outcome; says what differs if they do not
  comply.
* `Expectation.optional`, `Expectation.list`: the extensions.
* `Expectation.sameText`: the input and the outcome are equal texts.
-/

namespace Lexing

/-- Compares an input of type `ι` with an outcome of type `ο`; the error says why they
do not comply. -/
abbrev Expectation (ι ο : Type) := ι → ο → Except Text Unit

namespace Expectation

/-- The outcome is the input itself. -/
def sameText : Expectation Text Text := fun input outcome =>
  if input = outcome then .ok ()
  else .error (input ++ (" != " : Text) ++ outcome)

/-- Both are missing, or both are there and comply. -/
def optional {ι ο : Type} (expectation : Expectation ι ο) :
    Expectation (Option ι) (Option ο)
  | some input, some outcome => expectation input outcome
  | none, none => .ok ()
  | some _, none => .error ("expected Some, found None" : Text)
  | none, some _ => .error ("expected None, found Some" : Text)

/-- Each pair complies; the error is that of the first one that does not. -/
def pairs {ι ο : Type} (expectation : Expectation ι ο) : List (ι × ο) → Except Text Unit
  | [] => .ok ()
  | (input, outcome) :: rest =>
    match expectation input outcome with
    | .ok () => pairs expectation rest
    | .error reason => .error reason

/-- There are as many outcomes as inputs, and each one complies with its input. -/
def list {ι ο : Type} (expectation : Expectation ι ο) : Expectation (List ι) (List ο) :=
  fun inputs outcomes =>
    if inputs.length = outcomes.length then pairs expectation (inputs.zip outcomes)
    else .error ("input and output lengths differ" : Text)

end Expectation

end Lexing
