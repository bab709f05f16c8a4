import Lexing.Proofs.LineRanges
import Lexing.Proofs.Text.DecodingFaults

/-!
# Loading a source

A source is loaded from the bytes of a file or made of a text in memory. Both ways lead to
the same source if the bytes encode the text. All other bytes are refused, and the refusal
tells where their first fault is.

## Main definitions

* `Source.ofText`: a source made of a text in memory.
* `Source.LoadsExactly`: what can be relied on when bytes are loaded.

## Main results

* `Source.loadsExactly`: this holds of all bytes.
-/

namespace Lexing

namespace Source

/-- The source with a text that is held in memory. -/
def ofText (number : Nat) (path : Text) (text : Text) : Source :=
  ⟨number, path, text⟩

/-- What can be relied on when bytes are loaded. -/
structure LoadsExactly (number : Nat) (path : Text) (bytes : List UInt8) : Prop where
  /-- The bytes of a text are loaded, and they give the source that the text gives. -/
  load_eq_ok_iff : ∀ source, load number path bytes = .ok source ↔
    ∃ text, bytes = Utf8.encode text ∧ source = ofText number path text
  /-- There is only one such text. -/
  eq_of_encode : ∀ text other, bytes = Utf8.encode text → bytes = Utf8.encode other → text = other
  /-- The lines found among the bytes are those of the text. -/
  scanLines_eq : ∀ source, load number path bytes = .ok source →
    Utf8.scanLines bytes 0 0 = source.content.lineRanges
  /-- All other bytes are refused, with their first fault. -/
  load_eq_error_iff : ∀ error, load number path bytes = .error error ↔
    (∀ text, bytes ≠ Utf8.encode text) ∧ error.Describes bytes

variable {number : Nat} {path : Text} {bytes : List UInt8}

theorem load_eq_ok_iff {source : Source} : load number path bytes = .ok source ↔
    ∃ text, bytes = Utf8.encode text ∧ source = ofText number path text := by
  simp only [← Utf8.decode_eq_ok_iff, load, ofText]
  cases Utf8.decode bytes with
  | error error => simp [Except.map]
  | ok text => simp [Except.map, eq_comm]

theorem load_eq_error_iff {error : Utf8.DecodingError} : load number path bytes = .error error ↔
    (∀ text, bytes ≠ Utf8.encode text) ∧ error.Describes bytes := by
  rw [← Utf8.decode_eq_error_iff, load]
  cases Utf8.decode bytes with
  | error found => simp [Except.map]
  | ok text => simp [Except.map]

theorem eq_of_encode {text other : Text} (htext : bytes = Utf8.encode text)
    (hother : bytes = Utf8.encode other) : text = other :=
  Except.ok.inj ((Utf8.decode_eq_ok_iff.2 htext).symm.trans (Utf8.decode_eq_ok_iff.2 hother))

/-- Loading bytes is holding their text in memory, or telling where they stop being a text. -/
theorem loadsExactly (number : Nat) (path : Text) (bytes : List UInt8) :
    LoadsExactly number path bytes where
  load_eq_ok_iff _ := load_eq_ok_iff
  eq_of_encode _ _ := eq_of_encode
  scanLines_eq source hload := by
    obtain ⟨text, rfl, rfl⟩ := load_eq_ok_iff.1 hload
    exact Utf8.scanLines_encode text
  load_eq_error_iff _ := load_eq_error_iff

-- An empty file is loaded. A character that is cut off has no length of a fault, and one that
-- goes on in a wrong way has.
example : load 0 [] [] = .ok ⟨0, [], []⟩ ∧ load 0 [] [0x61, 0xe2, 0x82] = .error ⟨1, none⟩ ∧
    load 0 [] [0x61, 0xe2, 0x82, 0x41] = .error ⟨1, some 2⟩ := by cbv

end Source

end Lexing
