/-
**White space.**

The characters with the property `White_Space`, and texts without them at their ends.

Main definitions:

* `RecordGrid.Text.isWhite` — the twenty-five characters with the property;
* `RecordGrid.Text.trim` — drops them from both ends.

Main results:

* `RecordGrid.Text.isWhite_eq_false_of_isDigit` — no digit is white space.
-/

set_option relaxedAutoImplicit false
set_option autoImplicit false

namespace RecordGrid.Text

/-- Whether a character has the property `White_Space`. -/
def isWhite (c : Char) : Bool :=
  let n := c.toNat
  (0x09 ≤ n && n ≤ 0x0d) || n == 0x20 || n == 0x85 || n == 0xa0 || n == 0x1680
    || (0x2000 ≤ n && n ≤ 0x200a) || n == 0x2028 || n == 0x2029 || n == 0x202f
    || n == 0x205f || n == 0x3000

/-- The characters without white space at either end. -/
def trim (cs : List Char) : List Char :=
  ((cs.dropWhile isWhite).reverse.dropWhile isWhite).reverse

/-- The digits are the characters from number 48 up to number 57. -/
theorem isDigit_iff_toNat {c : Char} : c.isDigit = true ↔ 48 ≤ c.toNat ∧ c.toNat ≤ 57 := by
  simp only [Char.isDigit, Bool.and_eq_true, decide_eq_true_eq]
  exact and_congr UInt32.le_iff_toNat_le UInt32.le_iff_toNat_le

/-- No digit is white space. -/
theorem isWhite_eq_false_of_isDigit {c : Char} (h : c.isDigit = true) : isWhite c = false := by
  have hbounds := isDigit_iff_toNat.1 h
  simp only [isWhite, Bool.or_eq_false_iff, Bool.and_eq_false_iff, decide_eq_false_iff_not,
    beq_eq_false_iff_ne]
  omega

end RecordGrid.Text
