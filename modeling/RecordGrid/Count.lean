/-
**Counts.**

Pages, page sizes, totals and widths are whole numbers of 64 bits.  Pages and page sizes start at
one; a zero that comes in from outside is read as one.

Main definitions:

* `RecordGrid.Count` — whole numbers of 64 bits;
* `RecordGrid.Count.positive` — the least count from one on that is not below a count.

Main results:

* `RecordGrid.Count.one_le_positive`, `positive_eq_self_iff` — what it does to zero and to others.
-/

set_option relaxedAutoImplicit false
set_option autoImplicit false

namespace RecordGrid

/-- Whole numbers of 64 bits. -/
abbrev Count := UInt64

namespace Count

/-- Reads zero as one and every other count as itself. -/
def positive (n : Count) : Count :=
  if n = 0 then 1 else n

@[simp] theorem positive_zero : positive 0 = 1 := rfl

@[simp] theorem positive_one : positive 1 = 1 := rfl

theorem positive_eq_self_iff {n : Count} : positive n = n ↔ 1 ≤ n.toNat := by
  unfold positive
  split
  · next h => subst h; decide
  · next h =>
      have : n.toNat ≠ 0 := fun e => h (UInt64.toNat_inj.1 (by simpa using e))
      simp only [true_iff]
      omega

theorem one_le_positive (n : Count) : 1 ≤ (positive n).toNat := by
  unfold positive
  split
  · decide
  · next h =>
      have : n.toNat ≠ 0 := fun e => h (UInt64.toNat_inj.1 (by simpa using e))
      omega

theorem positive_le {n : Count} {m : Nat} (hn : n.toNat ≤ m) (hm : 1 ≤ m) :
    (positive n).toNat ≤ m := by
  unfold positive
  split
  · exact hm
  · exact hn

theorem positive_eq_one_iff {n : Count} : positive n = 1 ↔ n.toNat ≤ 1 := by
  unfold positive
  split
  · next h => subst h; decide
  · next h =>
      have hne : n.toNat ≠ 0 := fun e => h (UInt64.toNat_inj.1 (by simpa using e))
      rw [← UInt64.toNat_inj]
      show n.toNat = 1 ↔ n.toNat ≤ 1
      omega

@[simp] theorem positive_positive (n : Count) : positive (positive n) = positive n :=
  positive_eq_self_iff.2 (one_le_positive n)

end Count

end RecordGrid
