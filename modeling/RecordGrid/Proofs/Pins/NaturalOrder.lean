/-
**The natural order of names is a total order.**

Two names are compared by reading them side by side, and what is compared at one place depends on
both of them: two numbers, or two characters one of which may be a digit.  Such an order need not be
transitive.  This one is, because each name can be cut into parts on its own: reading two names side
by side is comparing their parts one after the other, where a number stands among the letters at the
place of a digit.  That works because no letter has a lower-case form that begins with a digit, so a
number and a letter always differ, and in the same way whichever digit the number begins with.

Main definitions:

* `RecordGrid.NaturalOrder.Part`, `RecordGrid.NaturalOrder.parts` — numbers and letters, and those
  of a name;
* `RecordGrid.NaturalOrder.Part.compare` — the order of parts.

Main results:

* `RecordGrid.NaturalOrder.scan_eq_compareLex` — **reading side by side is comparing part by part**;
* `RecordGrid.NaturalOrder.compareNames_total` — **the order is total**.
-/

import RecordGrid.Pins.NaturalOrder

set_option relaxedAutoImplicit false
set_option autoImplicit false

namespace RecordGrid.NaturalOrder

/-! ### Parts -/

/-- A part of a name that is compared as a whole. -/
inductive Part where
  /-- The digits of a number, without leading zeros. -/
  | number (ds : List Char)
  /-- Any other character. -/
  | letter (c : Char)

namespace Part

/-- What a part has in common with letters: any number stands where the digit zero does. -/
def lead : Part → List Char
  | number _ => ['0']
  | letter c => Text.lower c

/-- The digits of a part. -/
def digits : Part → List Char
  | number ds => ds
  | letter _ => []

/-- The order of parts: by what they have in common with letters, and numbers by value. -/
def compare : Part → Part → Ordering :=
  compareLex (compareOn lead) (compareLex (compareOn (·.digits.length)) (compareOn digits))

instance : Std.TransCmp compare := by
  unfold compare
  infer_instance

theorem compare_letter (a b : Char) :
    (letter a).compare (letter b) = Ord.compare (Text.lower a) (Text.lower b) := by
  show (Ord.compare (Text.lower a) (Text.lower b)).then .eq = _
  exact Ordering.then_eq

end Part

/-- The parts of a name. -/
def parts : List Char → List Part
  | [] => []
  | c :: cs =>
      if c.isDigit then .number (number (c :: cs)) :: parts (cs.dropWhile Char.isDigit)
      else .letter c :: parts cs
termination_by cs => cs.length
decreasing_by
  · exact Nat.lt_succ_of_le (List.dropWhile_sublist _).length_le
  · exact Nat.lt_succ_self _

@[simp] theorem parts_nil : parts [] = [] := by rw [parts]

theorem parts_of_isDigit {c : Char} (h : c.isDigit = true) (cs : List Char) :
    parts (c :: cs) = .number (number (c :: cs)) :: parts (cs.dropWhile Char.isDigit) := by
  rw [parts, if_pos h]

theorem parts_of_not_isDigit {c : Char} (h : c.isDigit = false) (cs : List Char) :
    parts (c :: cs) = .letter c :: parts cs := by
  rw [parts, if_neg (by simp [h])]

/-! ### Reading side by side -/

/-- After a difference nothing counts. -/
theorem then_of_ne_eq {o : Ordering} (h : o ≠ .eq) (p : Ordering) : o.then p = o := by
  cases o with
  | eq => exact absurd rfl h
  | lt => rfl
  | gt => rfl

theorem compare_char_eq_lt {a b : Char} (h : a.toNat < b.toNat) : compare a b = .lt :=
  compareOfLessAndEq_eq_lt.2 (UInt32.lt_iff_toNat_lt.2 h)

/-- A digit differs from every other character, and all digits do so in the same way. -/
theorem compare_isDigit {a x : Char} (ha : a.isDigit = true) (hx : x.isDigit = false) :
    compare a x = compare '0' x ∧ compare a x ≠ .eq := by
  have hbounds := Text.isDigit_iff_toNat.1 ha
  have hout : ¬(48 ≤ x.toNat ∧ x.toNat ≤ 57) := by
    rw [← Text.isDigit_iff_toNat, hx]
    exact Bool.false_ne_true
  rcases Nat.lt_or_ge x.toNat 48 with hlt | hge
  · have hgt : ∀ d : Char, 48 ≤ d.toNat → compare d x = .gt := fun d hd =>
      Std.OrientedCmp.gt_iff_lt.2 (compare_char_eq_lt (by omega))
    rw [hgt a hbounds.1, hgt '0' (by decide)]
    exact ⟨rfl, by decide⟩
  · have hlt : ∀ d : Char, d.toNat ≤ 57 → compare d x = .lt := fun d hd =>
      compare_char_eq_lt (by omega)
    rw [hlt a hbounds.2, hlt '0' (by decide)]
    exact ⟨rfl, by decide⟩

/-- Where a digit meets a letter, their lower-case forms differ, and the number that the digit
begins stands to the letter as the digit does. -/
theorem compare_digit_letter {a b : Char} (ha : a.isDigit = true) (hb : b.isDigit = false)
    (ds : List Char) :
    (Part.number ds).compare (.letter b) = compare (Text.lower a) (Text.lower b) ∧
      compare (Text.lower a) (Text.lower b) ≠ .eq := by
  obtain ⟨x, xs, hlower, hx⟩ := Text.exists_lower_eq_cons b
  have hx' : x.isDigit = false := by
    rw [← Bool.not_eq_true, hx, hb]
    exact Bool.false_ne_true
  obtain ⟨hzero, hne⟩ := compare_isDigit ha hx'
  have hpart : (Part.number ds).compare (.letter b) =
      ((compare '0' x).then (compare [] xs)).then
        ((compare ds.length 0).then (compare ds [])) := by
    show (compare ['0'] (Text.lower b)).then _ = _
    rw [hlower, List.compare_cons_cons]
    rfl
  rw [hpart, Text.lower_of_isDigit ha, hlower, List.compare_cons_cons, ← hzero]
  -- the first characters differ, so that nothing behind them counts
  rw [then_of_ne_eq hne, then_of_ne_eq hne]
  exact ⟨rfl, hne⟩

/-- Where a letter meets a digit, their lower-case forms differ, and the letter stands to the number
that the digit begins as it does to the digit. -/
theorem compare_letter_digit {a b : Char} (ha : a.isDigit = false) (hb : b.isDigit = true)
    (es : List Char) :
    (Part.letter a).compare (.number es) = compare (Text.lower a) (Text.lower b) ∧
      compare (Text.lower a) (Text.lower b) ≠ .eq := by
  obtain ⟨hparts, hne⟩ := compare_digit_letter hb ha es
  have hswap : compare (Text.lower a) (Text.lower b) =
      (compare (Text.lower b) (Text.lower a)).swap := Std.OrientedCmp.eq_swap
  constructor
  · rw [hswap, ← hparts]
    exact Std.OrientedCmp.eq_swap
  · rw [hswap]
    exact fun h => hne (Ordering.swap_eq_eq.1 h)

/-- **Reading side by side is comparing part by part.** -/
theorem scan_eq_compareLex (as bs : List Char) :
    scan as bs = List.compareLex Part.compare (parts as) (parts bs) := by
  have hcons : ∀ c cs, ∃ p ps, parts (c :: cs) = p :: ps := by
    intro c cs
    cases hc : c.isDigit with
    | true => exact ⟨_, _, parts_of_isDigit hc cs⟩
    | false => exact ⟨_, _, parts_of_not_isDigit hc cs⟩
  fun_induction scan as bs with
  | case1 => rw [parts_nil, List.compareLex_nil_nil]
  | case2 b bs =>
      obtain ⟨q, qs, hq⟩ := hcons b bs
      rw [parts_nil, hq, List.compareLex_nil_cons]
  | case3 a as =>
      obtain ⟨p, ps, hp⟩ := hcons a as
      rw [parts_nil, hp, List.compareLex_cons_nil]
  | case4 a as b bs h ih =>
      obtain ⟨ha, hb⟩ := Bool.and_eq_true_iff.1 h
      rw [parts_of_isDigit ha, parts_of_isDigit hb, List.compareLex_cons_cons, ← ih]
      rfl
  | case5 a as b bs h ih =>
      cases ha : a.isDigit with
      | true =>
          have hb : b.isDigit = false := by simpa [ha] using h
          obtain ⟨hparts, hne⟩ := compare_digit_letter ha hb (number (a :: as))
          rw [parts_of_isDigit ha, parts_of_not_isDigit hb, List.compareLex_cons_cons, hparts,
            then_of_ne_eq hne, then_of_ne_eq hne]
      | false =>
          cases hb : b.isDigit with
          | true =>
              obtain ⟨hparts, hne⟩ := compare_letter_digit ha hb (number (b :: bs))
              rw [parts_of_not_isDigit ha, parts_of_isDigit hb, List.compareLex_cons_cons, hparts,
                then_of_ne_eq hne, then_of_ne_eq hne]
          | false =>
              rw [parts_of_not_isDigit ha, parts_of_not_isDigit hb, List.compareLex_cons_cons,
                Part.compare_letter, ih]

/-! ### The order of names -/

/-- The order of names, by the parts first and by the plain order last. -/
theorem compareNames_eq_compareLex :
    compareNames =
      compareLex (fun a b => List.compareLex Part.compare (parts a.toList) (parts b.toList))
        (fun a b => compare b a) := by
  funext a b
  rw [compareNames, scan_eq_compareLex]
  rfl

instance : Std.TransCmp compareNames := by
  have hparts : Std.TransCmp fun a b : String =>
      List.compareLex Part.compare (parts a.toList) (parts b.toList) :=
    { eq_swap := Std.OrientedCmp.eq_swap, isLE_trans := Std.TransCmp.isLE_trans }
  have hplain : Std.TransCmp fun a b : String => compare b a := Std.TransCmp.opposite
  rw [compareNames_eq_compareLex]
  infer_instance

instance : Std.LawfulEqCmp compareNames where
  compare_self := Std.ReflCmp.compare_self
  eq_of_compare h := (Std.LawfulEqCmp.eq_of_compare (Ordering.then_eq_eq.1 h).2).symm

/-- **The order of names is total**: only equal names compare equal, and of two others one comes
first, and names that come one after the other stay in order when one between them is left out. -/
theorem compareNames_total (a b c : String) :
    (compareNames a b = .eq ↔ a = b) ∧ compareNames b a = (compareNames a b).swap ∧
      (compareNames a b ≠ .gt → compareNames b c ≠ .gt → compareNames a c ≠ .gt) := by
  refine ⟨Std.LawfulEqCmp.compare_eq_iff_eq, Std.OrientedCmp.eq_swap, fun hab hbc => ?_⟩
  have hle : (compareNames a c).isLE = true :=
    Std.TransCmp.isLE_trans (Ordering.isLE_iff_ne_gt.2 hab) (Ordering.isLE_iff_ne_gt.2 hbc)
  exact Ordering.isLE_iff_ne_gt.1 hle

/-- Leading zeros, case, a letter whose lower-case form has two characters, and a number between
letters. -/
theorem compareNames_total_mixed :
    compareNames "v007" "v7a" ≠ .gt ∧ compareNames "v7a" "vİ" ≠ .gt ∧
      compareNames "v007" "vİ" ≠ .gt := by
  have hnumber : compareNames "v007" "v7a" = .lt := by decide +kernel
  have hletter : compareNames "v7a" "vİ" = .lt := by decide +kernel
  have hab : compareNames "v007" "v7a" ≠ .gt := by simp [hnumber]
  have hbc : compareNames "v7a" "vİ" ≠ .gt := by simp [hletter]
  exact ⟨hab, hbc, (compareNames_total "v007" "v7a" "vİ").2.2 hab hbc⟩

end RecordGrid.NaturalOrder
