/-!
# Sets of characters given by code point ranges

A character property is a list of ranges of code points, ends included.  Membership
(`CharRanges.contains`) is a test of every range, so no order of the ranges is assumed.
-/

namespace PolySql.Text

/-- Ranges of code points, first and last included. -/
abbrev CharRanges := List (Nat × Nat)

/-- Some range holds the character's code point. -/
def CharRanges.contains (ranges : CharRanges) (c : Char) : Bool :=
  ranges.any fun range => decide (range.1 ≤ c.toNat) && decide (c.toNat ≤ range.2)

theorem CharRanges.contains_iff {ranges : CharRanges} {c : Char} :
    ranges.contains c = true ↔ ∃ range ∈ ranges, range.1 ≤ c.toNat ∧ c.toNat ≤ range.2 := by
  simp [contains]

end PolySql.Text
