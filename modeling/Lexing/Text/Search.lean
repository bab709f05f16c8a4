/-!
# Binary search

Where all items with some property come first in a list, their number is its partition
point. It is found by halving the part of the list in which it can be.

## Main definitions

* `partitionPoint`: the number of items in front that have a property.

## Main results

* `partitionPoint_append`: the search finds the place where the property ends.
-/

namespace Lexing

variable {α : Type}

/-- Searches for the partition point from `low` to `high`. -/
def partitionPointBetween (p : α → Bool) (items : List α) (low high : Nat) : Nat :=
  if low < high then
    let middle := low + (high - low) / 2
    if items[middle]?.any p then partitionPointBetween p items (middle + 1) high
    else partitionPointBetween p items low middle
  else low
termination_by high - low

/-- The number of items in front that have the property, if none behind them has it. -/
def partitionPoint (p : α → Bool) (items : List α) : Nat :=
  partitionPointBetween p items 0 items.length

theorem partitionPointBetween_append {p : α → Bool} {left right : List α}
    (hleft : ∀ item ∈ left, p item = true) (hright : ∀ item ∈ right, p item = false)
    {low high : Nat} (hlow : low ≤ left.length) (hhigh : left.length ≤ high) :
    partitionPointBetween p (left ++ right) low high = left.length := by
  -- The place where the property ends stays between the two bounds.
  fun_induction partitionPointBetween p (left ++ right) low high with
  | case1 low high hlt middle hmiddle ih =>
    refine ih (Nat.succ_le_of_lt (Nat.lt_of_not_le fun hle => ?_)) hhigh
    rw [List.getElem?_append_right hle, Option.any_eq_true] at hmiddle
    obtain ⟨item, hitem, hp⟩ := hmiddle
    rw [hright item (List.mem_of_getElem? hitem)] at hp
    cases hp
  | case2 low high hlt middle hmiddle ih =>
    refine ih hlow (Nat.le_of_not_lt fun hlt => hmiddle ?_)
    rw [List.getElem?_append_left hlt, List.getElem?_eq_getElem hlt, Option.any_some]
    exact hleft _ (List.getElem_mem hlt)
  | case3 low high hlt => omega

/-- The search finds the place where the property ends. -/
theorem partitionPoint_append {p : α → Bool} {left right : List α}
    (hleft : ∀ item ∈ left, p item = true) (hright : ∀ item ∈ right, p item = false) :
    partitionPoint p (left ++ right) = left.length :=
  partitionPointBetween_append hleft hright (Nat.zero_le _) (by simp)

end Lexing
