/-!
# Sets of characters given by ranges of code points

A property of characters that a standard lists is kept as its ranges of code
points in increasing order. Looking a character up stops at the first range that
starts behind it.

## Main definitions

* `CharacterSet`: increasing ranges of code points.
* `CharacterSet.contains`: whether a character is in the set.

## Main results

* `CharacterSet.contains_iff`: a character is in the set if one of the ranges holds it.
-/

namespace Lexing

/-- Whether the ranges are in increasing order and none is empty, the first of
them starting at `bound` or behind it. -/
def CharacterSet.increasingFrom (bound : Nat) : List (Nat × Nat) → Bool
  | [] => true
  | (first, last) :: rest =>
    decide (bound ≤ first) && decide (first ≤ last) && increasingFrom (last + 1) rest

/-- A set of characters: the first and the last code point of each of its ranges,
in increasing order. -/
structure CharacterSet where
  /-- The first and last code point of each range. -/
  ranges : List (Nat × Nat)
  /-- No range is empty, and each starts behind the one in front of it. -/
  increasing : CharacterSet.increasingFrom 0 ranges = true

namespace CharacterSet

/-- Whether a code point lies in one of the increasing ranges. -/
def inRanges (codePoint : Nat) : List (Nat × Nat) → Bool
  | [] => false
  | (first, last) :: rest =>
    decide (first ≤ codePoint) && (decide (codePoint ≤ last) || inRanges codePoint rest)

/-- Whether the character is in the set. -/
def contains (set : CharacterSet) (c : Char) : Bool :=
  inRanges c.toNat set.ranges

/-- No code point in front of increasing ranges is in them. -/
theorem not_inRanges_of_lt {codePoint : Nat} :
    ∀ {bound : Nat} {ranges : List (Nat × Nat)}, increasingFrom bound ranges = true →
      codePoint < bound → inRanges codePoint ranges = false := by
  intro bound ranges hinc hlt
  cases ranges with
  | nil => rfl
  | cons range rest =>
    obtain ⟨first, last⟩ := range
    simp only [increasingFrom, Bool.and_eq_true, decide_eq_true_eq] at hinc
    have : ¬ first ≤ codePoint := by omega
    simp [inRanges, this]

/-- Looking up in increasing ranges finds exactly the code points that one of the
ranges holds. -/
theorem inRanges_iff {codePoint : Nat} :
    ∀ {bound : Nat} {ranges : List (Nat × Nat)}, increasingFrom bound ranges = true →
      (inRanges codePoint ranges = true ↔
        ∃ range ∈ ranges, range.1 ≤ codePoint ∧ codePoint ≤ range.2) := by
  intro bound ranges
  induction ranges generalizing bound with
  | nil => simp [inRanges]
  | cons range rest ih =>
    obtain ⟨first, last⟩ := range
    intro hinc
    simp only [increasingFrom, Bool.and_eq_true, decide_eq_true_eq] at hinc
    have hrest := ih hinc.2
    simp only [inRanges, Bool.and_eq_true, Bool.or_eq_true, decide_eq_true_eq,
      List.mem_cons, exists_eq_or_imp]
    constructor
    · rintro ⟨hfirst, hlast | hin⟩
      · exact Or.inl ⟨hfirst, hlast⟩
      · exact Or.inr (hrest.1 hin)
    · rintro (⟨hfirst, hlast⟩ | hin)
      · exact ⟨hfirst, Or.inl hlast⟩
      · have hin' := hrest.2 hin
        refine ⟨?_, Or.inr hin'⟩
        by_cases hlt : codePoint < last + 1
        · rw [not_inRanges_of_lt hinc.2 hlt] at hin'
          cases hin'
        · omega

/-- Looking up stops early, but finds each character that is in a range. -/
theorem contains_iff {set : CharacterSet} {c : Char} :
    set.contains c = true ↔ ∃ range ∈ set.ranges, range.1 ≤ c.toNat ∧ c.toNat ≤ range.2 :=
  inRanges_iff set.increasing

end CharacterSet

end Lexing
