/-
**Names that differ in case and in leading zeros.**

The order of names reads digits as numbers and letters without regard to case.  Names that then
show no difference are *alike*: number stands against number with the same digits behind the leading
zeros, and letter against letter with the same lower-case form.  Only alike names are put in order
by the characters as they are written, so how a name is written never counts against a name that it
is not alike.

Main definitions:

* `RecordGrid.NaturalOrder.IsNumber` — digits that no further digit follows;
* `RecordGrid.NaturalOrder.Alike` — the same up to case and leading zeros.

Main results:

* `RecordGrid.NaturalOrder.scan_eq_eq_iff` — **reading side by side finds no difference exactly in
  alike names**;
* `RecordGrid.NaturalOrder.scan_append` — alike beginnings do not count;
* `RecordGrid.NaturalOrder.compareNames_by_value_and_case` — numbers count by value, case counts
  only between alike names, and there a lower-case letter comes first.
-/

import RecordGrid.Proofs.Pins.Numbers

set_option relaxedAutoImplicit false
set_option autoImplicit false

namespace RecordGrid.NaturalOrder

/-! ### Numbers in a text -/

/-- Digits that make up a whole number in front of `rest`: there is one, and none follows. -/
structure IsNumber (ds rest : List Char) : Prop where
  /-- There is a digit. -/
  ne_nil : ds ≠ []
  /-- There are only digits. -/
  digits : AllDigits ds
  /-- No digit follows. -/
  whole : rest.head?.any Char.isDigit = false

variable {ds es as bs : List Char}

theorem dropWhile_of_head? (h : as.head?.any Char.isDigit = false) :
    as.dropWhile Char.isDigit = as := by
  cases as with
  | nil => rfl
  | cons c cs => exact List.dropWhile_cons_of_neg (by simpa using h)

theorem takeWhile_of_head? (h : as.head?.any Char.isDigit = false) :
    as.takeWhile Char.isDigit = [] := by
  cases as with
  | nil => rfl
  | cons c cs => exact List.takeWhile_cons_of_neg (by simpa using h)

theorem IsNumber.dropWhile (h : IsNumber ds as) : (ds ++ as).dropWhile Char.isDigit = as := by
  rw [List.dropWhile_append_of_pos h.digits, dropWhile_of_head? h.whole]

theorem IsNumber.number (h : IsNumber ds as) : number (ds ++ as) = dropZeros ds := by
  rw [NaturalOrder.number, List.takeWhile_append_of_pos h.digits, takeWhile_of_head? h.whole,
    List.append_nil]
  rfl

/-- A text that begins with a digit begins with a number. -/
theorem exists_isNumber {c : Char} (hc : c.isDigit = true) (cs : List Char) :
    ∃ ds, IsNumber ds ((c :: cs).dropWhile Char.isDigit) ∧
      c :: cs = ds ++ (c :: cs).dropWhile Char.isDigit := by
  refine ⟨(c :: cs).takeWhile Char.isDigit, ⟨?_, ?_, ?_⟩, List.takeWhile_append_dropWhile.symm⟩
  · rw [List.takeWhile_cons_of_pos hc]
    exact List.cons_ne_nil _ _
  · intro d hd
    exact List.all_eq_true.1 (List.all_takeWhile (p := Char.isDigit)) d hd
  · have hnot := List.head?_dropWhile_not Char.isDigit (c :: cs)
    cases hhead : ((c :: cs).dropWhile Char.isDigit).head? with
    | none => rfl
    | some d => simpa [hhead] using hnot

/-- Two texts that begin with numbers are compared by these, and then by what follows. -/
theorem scan_number (hd : IsNumber ds as) (he : IsNumber es bs) :
    scan (ds ++ as) (es ++ bs) =
      (compareNumbers (dropZeros ds) (dropZeros es)).then (scan as bs) := by
  rw [← hd.number, ← he.number]
  have hdrest := hd.dropWhile
  have herest := he.dropWhile
  obtain ⟨d, ds', rfl⟩ := List.exists_cons_of_ne_nil hd.ne_nil
  obtain ⟨e, es', rfl⟩ := List.exists_cons_of_ne_nil he.ne_nil
  have hdd : d.isDigit = true := (allDigits_cons.1 hd.digits).1
  have hed : e.isDigit = true := (allDigits_cons.1 he.digits).1
  rw [List.cons_append, List.dropWhile_cons_of_pos hdd] at hdrest
  rw [List.cons_append, List.dropWhile_cons_of_pos hed] at herest
  rw [List.cons_append, List.cons_append, scan, if_pos (by simp [hdd, hed]), hdrest, herest]

/-- Where one of two texts does not go on with a digit, the next characters are compared. -/
theorem scan_letter {a b : Char} (h : (a.isDigit && b.isDigit) = false) :
    scan (a :: as) (b :: bs) = (compare (Text.lower a) (Text.lower b)).then (scan as bs) := by
  rw [scan, if_neg (by simp [h])]

/-! ### Alike names -/

/-- Two texts are the same up to case and the leading zeros of their numbers. -/
inductive Alike : List Char → List Char → Prop where
  /-- Two texts that have ended. -/
  | nil : Alike [] []
  /-- Two letters with the same lower-case form. -/
  | letter {a b : Char} {as bs : List Char} : a.isDigit = false → b.isDigit = false →
      Text.lower a = Text.lower b → Alike as bs → Alike (a :: as) (b :: bs)
  /-- Two numbers with the same digits behind their leading zeros. -/
  | number {ds es as bs : List Char} : IsNumber ds as → IsNumber es bs →
      dropZeros ds = dropZeros es → Alike as bs → Alike (ds ++ as) (es ++ bs)

theorem compareNumbers_eq_eq_iff {ds es : List Char} : compareNumbers ds es = .eq ↔ ds = es := by
  constructor
  · intro h
    exact Std.LawfulEqCmp.eq_of_compare (Ordering.then_eq_eq.1 h).2
  · rintro rfl
    exact Ordering.then_eq_eq.2 ⟨Std.ReflCmp.compare_self, Std.ReflCmp.compare_self⟩

/-- A digit and a letter have different lower-case forms. -/
theorem isDigit_eq_of_lower_eq {a b : Char} (h : Text.lower a = Text.lower b) :
    a.isDigit = b.isDigit := by
  obtain ⟨c, cs, ha, hca⟩ := Text.exists_lower_eq_cons a
  obtain ⟨d, ds, hb, hdb⟩ := Text.exists_lower_eq_cons b
  rw [ha, hb] at h
  obtain rfl : c = d := (List.cons.inj h).1
  exact Bool.eq_iff_iff.2 (hca.symm.trans hdb)

/-- **Reading side by side finds no difference exactly in alike names.** -/
theorem scan_eq_eq_iff {as bs : List Char} : scan as bs = .eq ↔ Alike as bs := by
  constructor
  · intro h
    -- along the reading: where it goes on, what stands at this place is one constructor
    fun_induction scan as bs with
    | case1 => exact .nil
    | case2 b bs => cases h
    | case3 a as => cases h
    | case4 a as b bs hdigits ih =>
        obtain ⟨ha, hb⟩ := Bool.and_eq_true_iff.1 hdigits
        obtain ⟨hnumbers, hrest⟩ := Ordering.then_eq_eq.1 h
        obtain ⟨ds, hds, has⟩ := exists_isNumber ha as
        obtain ⟨es, hes, hbs⟩ := exists_isNumber hb bs
        rw [has, hbs, hds.number, hes.number] at hnumbers
        rw [List.dropWhile_cons_of_pos ha] at has hds
        rw [List.dropWhile_cons_of_pos hb] at hbs hes
        rw [has, hbs]
        exact .number hds hes (compareNumbers_eq_eq_iff.1 hnumbers) (ih hrest)
    | case5 a as b bs hdigits ih =>
        obtain ⟨hletters, hrest⟩ := Ordering.then_eq_eq.1 h
        have hlower : Text.lower a = Text.lower b := Std.LawfulEqCmp.eq_of_compare hletters
        have hsame := isDigit_eq_of_lower_eq hlower
        have hb : b.isDigit = false := by simpa [hsame] using hdigits
        exact .letter (hsame.trans hb) hb hlower (ih hrest)
  · intro h
    induction h with
    | nil => rw [scan]
    | letter ha hb hlower _ ih =>
        rw [scan_letter (by simp [ha]), hlower, ih]
        exact Ordering.then_eq_eq.2 ⟨Std.ReflCmp.compare_self, rfl⟩
    | number hd he hzeros _ ih =>
        rw [scan_number hd he, ih]
        exact Ordering.then_eq_eq.2 ⟨compareNumbers_eq_eq_iff.2 hzeros, rfl⟩

instance (as bs : List Char) : Decidable (Alike as bs) := decidable_of_iff _ scan_eq_eq_iff

instance : Std.TransCmp scan := by
  have hparts : scan = fun as bs => List.compareLex Part.compare (parts as) (parts bs) :=
    funext fun as => funext fun bs => scan_eq_compareLex as bs
  rw [hparts]
  exact { eq_swap := Std.OrientedCmp.eq_swap, isLE_trans := Std.TransCmp.isLE_trans }

/-! ### Alike beginnings -/

theorem getLast?_any_of_append (xs : List Char) {ps : List Char}
    (h : (xs ++ ps).getLast?.any Char.isDigit = false) : ps.getLast?.any Char.isDigit = false := by
  cases hlast : ps.getLast? with
  | none => rfl
  | some c => simpa [List.getLast?_append, hlast] using h

/-- A number remains one when something is added to a text that does not end with it. -/
theorem IsNumber.append {ds ps : List Char} (h : IsNumber ds ps)
    (hlast : (ds ++ ps).getLast?.any Char.isDigit = false) (as : List Char) :
    IsNumber ds (ps ++ as) := by
  refine ⟨h.ne_nil, h.digits, ?_⟩
  cases ps with
  | nil =>
      have hdigit := h.digits _ (List.getLast_mem h.ne_nil)
      rw [List.append_nil, List.getLast?_eq_some_getLast h.ne_nil, Option.any_some, hdigit] at hlast
      cases hlast
  | cons p ps => exact h.whole

/-- Alike beginnings do not count, where neither ends within a number. -/
theorem scan_append {ps qs : List Char} (h : Alike ps qs)
    (hp : ps.getLast?.any Char.isDigit = false) (hq : qs.getLast?.any Char.isDigit = false)
    (as bs : List Char) : scan (ps ++ as) (qs ++ bs) = scan as bs := by
  induction h with
  | nil => rfl
  | @letter a b ps qs ha _ hlower _ ih =>
      have hrest := ih (getLast?_any_of_append [a] hp) (getLast?_any_of_append [b] hq)
      have hself : compare (Text.lower b) (Text.lower b) = .eq := Std.ReflCmp.compare_self
      rw [List.cons_append, List.cons_append, scan_letter (by simp [ha]), hlower, hrest, hself]
      rfl
  | @number ds es ps qs hd he hzeros _ ih =>
      have hrest := ih (getLast?_any_of_append ds hp) (getLast?_any_of_append es hq)
      rw [List.append_assoc, List.append_assoc, scan_number (hd.append hp as) (he.append hq bs),
        compareNumbers_eq_eq_iff.2 hzeros, hrest]
      rfl

/-! ### Case -/

theorem takeWhile_eq_of_map_lower_eq {as bs : List Char}
    (h : as.map Text.lower = bs.map Text.lower) :
    as.takeWhile Char.isDigit = bs.takeWhile Char.isDigit ∧
      (as.dropWhile Char.isDigit).map Text.lower = (bs.dropWhile Char.isDigit).map Text.lower := by
  induction as generalizing bs with
  | nil =>
      obtain rfl : bs = [] := List.map_eq_nil_iff.1 h.symm
      exact ⟨rfl, rfl⟩
  | cons a as ih =>
      cases bs with
      | nil => cases h
      | cons b bs =>
          obtain ⟨hlower, hrest⟩ := List.cons.inj h
          have hsame := isDigit_eq_of_lower_eq hlower
          cases hb : b.isDigit with
          | true =>
              have ha := hsame.trans hb
              rw [Text.lower_of_isDigit ha, Text.lower_of_isDigit hb] at hlower
              obtain ⟨htake, hdrop⟩ := ih hrest
              simp only [List.takeWhile_cons, List.dropWhile_cons, ha, hb, if_pos]
              exact ⟨List.cons_eq_cons.2 ⟨(List.cons.inj hlower).1, htake⟩, hdrop⟩
          | false =>
              have ha := hsame.trans hb
              simp only [List.takeWhile_cons, List.dropWhile_cons, ha, hb, Bool.false_eq_true,
                if_false]
              exact ⟨trivial, h⟩

/-- Texts that agree up to case are alike. -/
theorem alike_of_map_lower_eq {as bs : List Char} (h : as.map Text.lower = bs.map Text.lower) :
    Alike as bs := by
  rw [← scan_eq_eq_iff]
  fun_induction scan as bs with
  | case1 => rfl
  | case2 b bs => cases h
  | case3 a as => cases h
  | case4 a as b bs hdigits ih =>
      obtain ⟨ha, hb⟩ := Bool.and_eq_true_iff.1 hdigits
      obtain ⟨htake, hdrop⟩ := takeWhile_eq_of_map_lower_eq h
      rw [List.dropWhile_cons_of_pos ha, List.dropWhile_cons_of_pos hb] at hdrop
      refine Ordering.then_eq_eq.2 ⟨compareNumbers_eq_eq_iff.2 ?_, ih hdrop⟩
      rw [number, number, htake]
  | case5 a as b bs _ ih =>
      obtain ⟨hlower, hrest⟩ := List.cons.inj h
      rw [hlower]
      exact Ordering.then_eq_eq.2 ⟨Std.ReflCmp.compare_self, ih hrest⟩

/-! ### Case of ASCII letters -/

/-- A character stays as it is, or is a letter of upper case that becomes one of lower case with a
greater number. -/
theorem toLower_cases (c : Char) :
    c.toLower = c ∨
      c.isUpper = true ∧ c.toLower.isLower = true ∧ c.toLower.toNat = c.toNat + 32 := by
  by_cases h : c.val ≥ 'A'.val ∧ c.val ≤ 'Z'.val
  · have hlow : 65 ≤ c.toNat := UInt32.le_iff_toNat_le.1 h.1
    have hhigh : c.toNat ≤ 90 := UInt32.le_iff_toNat_le.1 h.2
    have hnumber : c.toLower.toNat = c.toNat + 32 := by
      have hlower : c.toLower = ⟨c.val + 32, _⟩ := dif_pos h
      rw [hlower, Char.toNat, UInt32.toNat_add]
      exact Nat.mod_eq_of_lt (by show c.toNat + 32 < 2 ^ 32; omega)
    refine Or.inr ⟨decide_eq_true h, ?_, hnumber⟩
    have hbounds : 97 ≤ c.toLower.toNat ∧ c.toLower.toNat ≤ 122 := by omega
    exact Bool.and_eq_true_iff.2 ⟨decide_eq_true (UInt32.le_iff_toNat_le.2 hbounds.1),
      decide_eq_true (UInt32.le_iff_toNat_le.2 hbounds.2)⟩
  · exact Or.inl (dif_neg h)

/-- The lower-case form of a character does not depend on its case. -/
theorem lower_toLower (c : Char) : Text.lower c.toLower = Text.lower c := by
  rcases toLower_cases c with hsame | ⟨hupper, -, -⟩
  · rw [hsame]
  · have hletters : ∀ n < 26,
        Text.lower (Char.ofNat (65 + n)).toLower = Text.lower (Char.ofNat (65 + n)) := by
      decide +kernel
    have hbounds : c.val ≥ 'A'.val ∧ c.val ≤ 'Z'.val := of_decide_eq_true hupper
    have hlow : 65 ≤ c.toNat := UInt32.le_iff_toNat_le.1 hbounds.1
    have hhigh : c.toNat ≤ 90 := UInt32.le_iff_toNat_le.1 hbounds.2
    have hc := hletters (c.toNat - 65) (by omega)
    rw [Nat.add_sub_cancel' hlow, Char.ofNat_toNat] at hc
    exact hc

theorem map_lower_eq_of_toLower {as bs : List Char}
    (h : as.map Char.toLower = bs.map Char.toLower) : as.map Text.lower = bs.map Text.lower := by
  have hmap := congrArg (List.map Text.lower) h
  simpa only [List.map_map, Function.comp_def, lower_toLower] using hmap

/-- Of two characters that differ only in case, the one in upper case has the smaller number. -/
theorem cases_of_toLower_eq {x y : Char} (h : x.toLower = y.toLower) (hne : x ≠ y) :
    (x.isLower = true ∧ y.isUpper = true ∧ y.toNat < x.toNat) ∨
      (x.isUpper = true ∧ y.isLower = true ∧ x.toNat < y.toNat) := by
  rcases toLower_cases x with hx | ⟨hupper, hlower, hnumber⟩
  · rcases toLower_cases y with hy | ⟨hupper, hlower, hnumber⟩
    · exact absurd (hx.symm.trans (h.trans hy)) hne
    · rw [← h, hx] at hlower hnumber
      exact Or.inl ⟨hlower, hupper, by omega⟩
  · rcases toLower_cases y with hy | ⟨-, -, hynumber⟩
    · rw [h, hy] at hlower hnumber
      exact Or.inr ⟨hupper, hlower, by omega⟩
    · rw [← h] at hynumber
      exact absurd (Char.toNat_inj.1 (by omega)) hne

/-! ### The order of names -/

/-- Of two names that go on with numbers, the one with the smaller number comes first. -/
theorem compareNames_of_value_lt {p d s e t : String}
    (hp : p.toList.getLast?.any Char.isDigit = false) (hd : IsNumber d.toList s.toList)
    (he : IsNumber e.toList t.toList) (hlt : value d.toList < value e.toList) :
    compareNames (p ++ d ++ s) (p ++ e ++ t) = .lt := by
  have hself : Alike p.toList p.toList := alike_of_map_lower_eq rfl
  rw [compareNames, String.append_assoc, String.append_assoc]
  simp only [String.toList_append]
  rw [scan_append hself hp hp, scan_number hd he, compareNumbers_dropZeros hd.digits he.digits,
    Nat.compare_eq_lt.2 hlt]
  rfl

theorem compareNames_of_not_alike {a b : String} (h : ¬Alike a.toList b.toList) :
    compareNames a b = scan a.toList b.toList :=
  then_of_ne_eq (fun heq => h (scan_eq_eq_iff.1 heq)) _

theorem compareNames_of_alike {a b : String} (h : Alike a.toList b.toList) :
    compareNames a b = compare b a := by
  rw [compareNames, scan_eq_eq_iff.2 h]
  rfl

/-- Against a name that it is not alike, a name stands as it does in any other case. -/
theorem compareNames_congr_case {a a' b : String}
    (hcase : a.toList.map Text.lower = a'.toList.map Text.lower)
    (h : ¬Alike a.toList b.toList) : compareNames a b = compareNames a' b := by
  have hscan : scan a.toList b.toList = scan a'.toList b.toList :=
    Std.TransCmp.congr_left (scan_eq_eq_iff.2 (alike_of_map_lower_eq hcase))
  have h' : ¬Alike a'.toList b.toList := by
    rw [← scan_eq_eq_iff, ← hscan, scan_eq_eq_iff]
    exact h
  rw [compareNames_of_not_alike h, compareNames_of_not_alike h', hscan]

/-- The first character that differs decides the plain order. -/
theorem compare_string_eq_lt {a b : String} {ps s t : List Char} {x y : Char}
    (ha : a.toList = ps ++ x :: s) (hb : b.toList = ps ++ y :: t) (hlt : x.toNat < y.toNat) :
    compare a b = .lt := by
  refine compareOfLessAndEq_eq_lt.2 ?_
  show a.toList < b.toList
  rw [ha, hb]
  exact List.append_left_lt (List.cons_lt_cons_iff.2 (Or.inl (UInt32.lt_iff_toNat_lt.2 hlt)))

/-- Of two names that differ only in the case of ASCII letters, the one with the letter of lower
case at the first difference comes first. -/
theorem compareNames_of_toLower_eq {a b : String} {ps s t : List Char} {x y : Char}
    (hcase : a.toList.map Char.toLower = b.toList.map Char.toLower)
    (ha : a.toList = ps ++ x :: s) (hb : b.toList = ps ++ y :: t) (hne : x ≠ y) :
    (x.isLower = true ∧ y.isUpper = true ∧ compareNames a b = .lt) ∨
      (x.isUpper = true ∧ y.isLower = true ∧ compareNames a b = .gt) := by
  have hplain := compareNames_of_alike (alike_of_map_lower_eq (map_lower_eq_of_toLower hcase))
  have hxy : x.toLower = y.toLower := by
    rw [ha, hb, List.map_append, List.map_append] at hcase
    exact (List.cons.inj (List.append_cancel_left hcase)).1
  rcases cases_of_toLower_eq hxy hne with ⟨hx, hy, hlt⟩ | ⟨hx, hy, hlt⟩
  · exact Or.inl ⟨hx, hy, hplain.trans (compare_string_eq_lt hb ha hlt)⟩
  · have hgt := Std.OrientedCmp.gt_iff_lt.2 (compare_string_eq_lt ha hb hlt)
    exact Or.inr ⟨hx, hy, hplain.trans hgt⟩

/-- **Numbers count by value, and case only between alike names.**  Of two names that go on with
numbers after the same beginning, the one with the smaller number comes first, however many digits
and leading zeros there are.  Names that agree up to case stand in the same way to every name that
they are not alike; names that are alike are in the reverse of their plain order, which puts the
letter of lower case first. -/
theorem compareNames_by_value_and_case :
    (∀ p d s e t : String, p.toList.getLast?.any Char.isDigit = false →
      IsNumber d.toList s.toList → IsNumber e.toList t.toList →
      value d.toList < value e.toList → compareNames (p ++ d ++ s) (p ++ e ++ t) = .lt) ∧
    (∀ a a' b : String, a.toList.map Text.lower = a'.toList.map Text.lower →
      ¬Alike a.toList b.toList → compareNames a b = compareNames a' b) ∧
    (∀ a b : String, Alike a.toList b.toList → compareNames a b = compare b a) ∧
    ∀ (a b : String) (ps s t : List Char) (x y : Char),
      a.toList.map Char.toLower = b.toList.map Char.toLower →
      a.toList = ps ++ x :: s → b.toList = ps ++ y :: t → x ≠ y →
      (x.isLower = true ∧ y.isUpper = true ∧ compareNames a b = .lt) ∨
        (x.isUpper = true ∧ y.isLower = true ∧ compareNames a b = .gt) :=
  ⟨fun _ _ _ _ _ hp hd he hlt => compareNames_of_value_lt hp hd he hlt,
    fun _ _ _ hcase h => compareNames_congr_case hcase h,
    fun _ _ h => compareNames_of_alike h,
    fun _ _ _ _ _ _ _ hcase ha hb hne => compareNames_of_toLower_eq hcase ha hb hne⟩

/-- Leading zeros against a number of two digits, a kelvin sign for a letter, and names that differ
only in case. -/
theorem compareNames_by_value_and_case_mixed :
    compareNames ("v" ++ "007" ++ "b") ("v" ++ "10" ++ "a") = .lt ∧
      compareNames "5K" "5l" = compareNames "5k" "5l" ∧
      compareNames "N07" "n7" = compare "n7" "N07" ∧
      compareNames "Node aB" "Node AB" = .lt := by
  obtain ⟨hvalue, hcase, halike, hascii⟩ := compareNames_by_value_and_case
  have hseven : IsNumber "007".toList "b".toList := ⟨by decide, by simp [AllDigits], rfl⟩
  have hten : IsNumber "10".toList "a".toList := ⟨by decide, by simp [AllDigits], rfl⟩
  refine ⟨hvalue "v" "007" "b" "10" "a" rfl hseven hten (by decide),
    hcase "5K" "5k" "5l" (by decide +kernel) (by decide +kernel),
    halike "N07" "n7" (by decide +kernel), ?_⟩
  rcases hascii "Node aB" "Node AB" "Node ".toList ['B'] ['B'] 'a' 'A' (by decide) rfl rfl
    (by decide) with h | h
  · exact h.2.2
  · exact absurd h.1 (by decide)

end RecordGrid.NaturalOrder
