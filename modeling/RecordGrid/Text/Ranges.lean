/-
**Sets of characters given by ranges.**

The properties of characters that the library needs are stored as lists of ranges of character
numbers, both ends included.

Main definitions:

* `RecordGrid.Text.inRanges` — whether a character lies in one of the ranges.
-/

set_option relaxedAutoImplicit false
set_option autoImplicit false

namespace RecordGrid.Text

/-- Whether the number of a character lies in one of the ranges. -/
def inRanges (rs : List (Nat × Nat)) (c : Char) : Bool :=
  rs.any fun r => r.1 ≤ c.toNat && c.toNat ≤ r.2

theorem inRanges_iff {rs : List (Nat × Nat)} {c : Char} :
    inRanges rs c = true ↔ ∃ r ∈ rs, r.1 ≤ c.toNat ∧ c.toNat ≤ r.2 := by
  simp [inRanges]

end RecordGrid.Text
