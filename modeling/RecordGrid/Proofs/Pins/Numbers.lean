/-
**Numbers in names, by value.**

Numbers are compared without computing them: leading zeros are dropped, then the longer one is
greater, and of two numbers with the same length the first differing digit decides.  For digits of
any number this is the order of what they denote.

Main definitions:

* `RecordGrid.NaturalOrder.value` — the number that some digits denote;
* `RecordGrid.NaturalOrder.AllDigits` — nothing but digits.

Main results:

* `RecordGrid.NaturalOrder.compare_of_length_eq` — digits of one length are in the order of their
  values;
* `RecordGrid.NaturalOrder.compareNumbers_dropZeros` — **numbers are compared by value**.
-/

import Mathlib.Algebra.Group.Nat.Defs
import RecordGrid.Proofs.Pins.NaturalOrder

set_option relaxedAutoImplicit false
set_option autoImplicit false

namespace RecordGrid.NaturalOrder

/-- The number that some digits denote. -/
def value (ds : List Char) : Nat := Nat.ofDigitChars 10 ds 0

/-- Nothing but digits. -/
def AllDigits (ds : List Char) : Prop := ∀ c ∈ ds, c.isDigit = true

theorem allDigits_cons {d : Char} {ds : List Char} :
    AllDigits (d :: ds) ↔ d.isDigit = true ∧ AllDigits ds := List.forall_mem_cons

theorem value_cons (d : Char) (ds : List Char) :
    value (d :: ds) = 10 ^ ds.length * (d.toNat - 48) + value ds := by
  rw [value, Nat.ofDigitChars_cons, Nat.ofDigitChars_eq_ofDigitChars_zero, Nat.mul_zero,
    Nat.zero_add]
  rfl

theorem value_lt {ds : List Char} (h : AllDigits ds) : value ds < 10 ^ ds.length := by
  induction ds with
  | nil => exact Nat.one_pos
  | cons d ds ih =>
      obtain ⟨hd, hds⟩ := allDigits_cons.1 h
      have hlast := ih hds
      have hdigit : d.toNat - 48 ≤ 9 := by
        have := (Text.isDigit_iff_toNat.1 hd).2
        omega
      have hfirst : 10 ^ ds.length * (d.toNat - 48) ≤ 10 ^ ds.length * 9 :=
        Nat.mul_le_mul_left _ hdigit
      rw [value_cons, List.length_cons, Nat.pow_succ]
      omega

/-! ### Digits of one length -/

/-- The first differing digit decides. -/
theorem value_cons_lt {d e : Char} {ds es : List Char} (hd : d.isDigit = true)
    (hds : AllDigits ds) (hlen : ds.length = es.length) (hlt : d.toNat < e.toNat) :
    value (d :: ds) < value (e :: es) := by
  have hlow := (Text.isDigit_iff_toNat.1 hd).1
  have hrest := value_lt hds
  have hfirst : 10 ^ ds.length * (d.toNat - 48 + 1) ≤ 10 ^ ds.length * (e.toNat - 48) :=
    Nat.mul_le_mul_left _ (by omega)
  rw [value_cons, value_cons, ← hlen]
  rw [Nat.mul_succ] at hfirst
  omega

/-- Digits of one length are in the order of their values. -/
theorem compare_of_length_eq {ds es : List Char} (hds : AllDigits ds) (hes : AllDigits es)
    (hlen : ds.length = es.length) : compare ds es = compare (value ds) (value es) := by
  induction ds generalizing es with
  | nil =>
      obtain rfl : es = [] := List.length_eq_zero_iff.1 hlen.symm
      rfl
  | cons d ds ih =>
      cases es with
      | nil => cases hlen
      | cons e es =>
          obtain ⟨hd, hdtail⟩ := allDigits_cons.1 hds
          obtain ⟨he, hetail⟩ := allDigits_cons.1 hes
          have hrest : ds.length = es.length := Nat.succ.inj hlen
          rw [List.compare_cons_cons]
          -- a greater first digit outweighs all digits behind it
          rcases Nat.lt_trichotomy d.toNat e.toNat with hlt | heq | hgt
          · have hvalue := value_cons_lt hd hdtail hrest hlt
            rw [compare_char_eq_lt hlt, Nat.compare_eq_lt.2 hvalue]
            rfl
          · obtain rfl : d = e := Char.toNat_inj.1 heq
            have hcancel : compare (value (d :: ds)) (value (d :: es)) =
                compare (value ds) (value es) := by
              rw [value_cons, value_cons, hrest]
              simp only [Nat.compare_eq_ite_lt, Nat.add_lt_add_iff_left]
            have hsame : compare d d = .eq := Std.ReflCmp.compare_self
            rw [hcancel, ← ih hdtail hetail hrest, hsame]
            rfl
          · have hvalue := value_cons_lt he hetail hrest.symm hgt
            have hchars : compare d e = .gt := Std.OrientedCmp.gt_iff_lt.2 (compare_char_eq_lt hgt)
            rw [hchars, Nat.compare_eq_gt.2 hvalue]
            rfl

/-! ### Leading zeros -/

/-- Without a leading zero a number is no smaller than its length makes it. -/
theorem le_value_cons {d : Char} (hd : d.isDigit = true) (hne : d ≠ '0') (ds : List Char) :
    10 ^ ds.length ≤ value (d :: ds) := by
  have hpos : 1 ≤ d.toNat - 48 := by
    have hlow := (Text.isDigit_iff_toNat.1 hd).1
    have hzero : d.toNat ≠ 48 := fun h => hne (Char.toNat_inj.1 h)
    omega
  have hfirst : 10 ^ ds.length * 1 ≤ 10 ^ ds.length * (d.toNat - 48) :=
    Nat.mul_le_mul_left _ hpos
  rw [value_cons]
  omega

/-- Without leading zeros the longer number is greater. -/
theorem value_lt_of_length_lt {ds es : List Char} (hds : AllDigits ds) (hes : AllDigits es)
    (hzero : es.head? ≠ some '0') (hlt : ds.length < es.length) : value ds < value es := by
  cases es with
  | nil => cases hlt
  | cons e es =>
      have he := (allDigits_cons.1 hes).1
      have hne : e ≠ '0' := fun h => hzero (congrArg some h)
      calc value ds < 10 ^ ds.length := value_lt hds
        _ ≤ 10 ^ es.length := Nat.pow_le_pow_right (by decide) (Nat.le_of_lt_succ hlt)
        _ ≤ value (e :: es) := le_value_cons he hne es

theorem compareNumbers_of_head? {ds es : List Char} (hds : AllDigits ds) (hes : AllDigits es)
    (hdzero : ds.head? ≠ some '0') (hezero : es.head? ≠ some '0') :
    compareNumbers ds es = compare (value ds) (value es) := by
  unfold compareNumbers
  rcases Nat.lt_trichotomy ds.length es.length with hlt | heq | hgt
  · have hvalue := value_lt_of_length_lt hds hes hezero hlt
    rw [Nat.compare_eq_lt.2 hlt, Nat.compare_eq_lt.2 hvalue]
    rfl
  · rw [Nat.compare_eq_eq.2 heq, compare_of_length_eq hds hes heq]
    rfl
  · have hvalue := value_lt_of_length_lt hes hds hdzero hgt
    rw [Nat.compare_eq_gt.2 hgt, Nat.compare_eq_gt.2 hvalue]
    rfl

/-- Some digits without leading zeros. -/
def dropZeros (ds : List Char) : List Char := ds.dropWhile (· = '0')

theorem value_dropZeros (ds : List Char) : value (dropZeros ds) = value ds := by
  induction ds with
  | nil => rfl
  | cons d ds ih =>
      by_cases hzero : d = '0'
      · have hdrop : dropZeros (d :: ds) = dropZeros ds :=
          List.dropWhile_cons_of_pos (decide_eq_true hzero)
        rw [hdrop, ih, value_cons, hzero]
        exact (Nat.zero_add _).symm
      · have hkeep : dropZeros (d :: ds) = d :: ds :=
          List.dropWhile_cons_of_neg (by simpa using hzero)
        rw [hkeep]

theorem AllDigits.dropZeros {ds : List Char} (h : AllDigits ds) : AllDigits (dropZeros ds) :=
  fun c hc => h c ((List.dropWhile_sublist _).subset hc)

theorem head?_dropZeros (ds : List Char) : (dropZeros ds).head? ≠ some '0' := by
  intro h
  have hnot := List.head?_dropWhile_not (· = '0') ds
  rw [dropZeros] at h
  rw [h] at hnot
  simp at hnot

/-- **Numbers are compared by value**, however many digits and leading zeros they have. -/
theorem compareNumbers_dropZeros {ds es : List Char} (hds : AllDigits ds) (hes : AllDigits es) :
    compareNumbers (dropZeros ds) (dropZeros es) = compare (value ds) (value es) := by
  rw [compareNumbers_of_head? hds.dropZeros hes.dropZeros (head?_dropZeros ds) (head?_dropZeros es),
    value_dropZeros, value_dropZeros]

end RecordGrid.NaturalOrder
