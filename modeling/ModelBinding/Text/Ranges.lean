/-!
# Sets of characters as ranges

The character classes of the Unicode standard are given as lists of ranges of code
points. A range holds both of its ends.
-/

namespace ModelBinding.Text

/-- Whether a code point lies in one of the ranges, ends included. -/
def inRanges (ranges : List (Nat × Nat)) (code : Nat) : Bool :=
  ranges.any fun r => r.1 ≤ code && code ≤ r.2

/-- A code point is in the set of the ranges exactly when one of them holds it. -/
theorem inRanges_iff (ranges : List (Nat × Nat)) (code : Nat) :
    inRanges ranges code = true ↔ ∃ r ∈ ranges, r.1 ≤ code ∧ code ≤ r.2 := by
  simp [inRanges]

end ModelBinding.Text
