/-
**Numbers that are written to the address bar are read back.**

A page or page size is written in decimal digits, and read with white space around it, a plus sign
before it and leading zeros.  Reading stops at the greatest signed 64-bit number although counts go
twice as far, so a count beyond it is written as a number that nobody reads.

Main results:

* `RecordGrid.naturalOf?_toString` — the decimal digits of a number stand for it;
* `RecordGrid.positiveOf?_toString` — **a count is read back exactly when it is positive and fits a
  signed number**;
* `RecordGrid.bounds_of_positiveOf?` — nothing else is ever read.
-/

import RecordGrid.Url.Paging

set_option relaxedAutoImplicit false
set_option autoImplicit false

namespace RecordGrid

namespace Text

/-- A text without white space is left as it is. -/
theorem trim_eq_self {cs : List Char} (h : ∀ c ∈ cs, isWhite c = false) : trim cs = cs := by
  have hdrop : ∀ ds : List Char, (∀ c ∈ ds, isWhite c = false) → ds.dropWhile isWhite = ds := by
    intro ds hds
    cases ds with
    | nil => rfl
    | cons d ds => simp [hds d (List.mem_cons_self ..)]
  rw [trim, hdrop cs h, hdrop cs.reverse (by simpa using h), List.reverse_reverse]

end Text

/-- Every character of a number in decimal is a digit. -/
theorem isDigit_of_mem_toString {n : Nat} {c : Char} (h : c ∈ (toString n).toList) :
    c.isDigit = true := by
  rw [Nat.toString_eq_repr, Nat.toList_repr] at h
  exact Nat.isDigit_of_mem_toDigits (by decide) (by decide) h

/-- **The decimal digits of a number stand for it.** -/
theorem naturalOf?_toString (n : Nat) : naturalOf? (toString n).toList = some n := by
  have hall : (toString n).toList.all Char.isDigit = true :=
    List.all_eq_true.2 fun c hc => isDigit_of_mem_toString hc
  have hval : (toString n).toList.foldl (fun n c => 10 * n + (c.toNat - '0'.toNat)) 0 = n := by
    rw [Nat.toString_eq_repr, Nat.toList_repr, ← Nat.ofDigitChars_eq_foldl]
    exact Nat.ofDigitChars_ten_toDigits
  rw [naturalOf?, hall, hval]
  simp

/-- **A count is read back exactly when it is positive and fits a signed number.** -/
theorem positiveOf?_toString (n : Count) :
    positiveOf? (toString n.toNat) =
      if 1 ≤ n.toNat ∧ n.toNat < 0x8000000000000000 then some n else none := by
  have hdigit : ∀ c ∈ (toString n.toNat).toList, c.isDigit = true :=
    fun c hc => isDigit_of_mem_toString hc
  have htrim : Text.trim (toString n.toNat).toList = (toString n.toNat).toList :=
    Text.trim_eq_self fun c hc => Text.isWhite_eq_false_of_isDigit (hdigit c hc)
  have hplus : (toString n.toNat).toList.head? ≠ some '+' := by
    intro h
    exact absurd (hdigit '+' (List.mem_of_mem_head? h)) (by decide)
  rw [positiveOf?, htrim, if_neg hplus, naturalOf?_toString]
  simp

/-- A parameter that is read at all holds a positive number that fits a signed one. -/
theorem bounds_of_positiveOf? {text : String} {n : Count} (h : positiveOf? text = some n) :
    1 ≤ n.toNat ∧ n.toNat < 0x8000000000000000 := by
  simp only [positiveOf?, Option.bind_eq_bind, Option.bind_eq_some_iff] at h
  obtain ⟨k, -, hk⟩ := h
  split at hk
  · next hb =>
      obtain rfl : UInt64.ofNat k = n := Option.some.inj hk
      rw [UInt64.toNat_ofNat_of_lt' (Nat.lt_of_lt_of_le hb.2 (by decide))]
      exact hb
  · cases hk

end RecordGrid
