/-
**Pagination is read back from the address bar.**

Writing removes both pagination parameters and puts the new ones behind all other pairs, unless
they hold their defaults.  What is written therefore depends on the other pairs and on the new
numbers only, and what is read afterwards on the new numbers only.

When the parameters have different names, page and page size are read back exactly when both can be
read at all: the page has to fit a signed number, and so has the page size unless it is the default
one.  Numbers that were read from an address are always read back, even if both parameters have the
same name.

Main definitions:

* `RecordGrid.UrlPagingConfig.others` — the pairs of a query that have nothing to do with
  pagination;
* `RecordGrid.UrlPaging.readPairs` — the page and page size of a query.

Main results:

* `RecordGrid.UrlPaging.writeAddress_writeAddress` — the last pagination written is the one that
  stands there;
* `RecordGrid.UrlPaging.readAddress_writeAddress_eq_iff` — **when page and page size are read
  back**;
* `RecordGrid.UrlPaging.readAddress_writeAddress_readAddress` — **what was read is read back**,
  whatever the names of the parameters.
-/

import RecordGrid.Proofs.Url.Numeral

set_option relaxedAutoImplicit false
set_option autoImplicit false

namespace RecordGrid

/-! ### Pairs -/

namespace Pairs

theorem value?_append (k : String) (ps qs : List (String × String)) :
    value? k (ps ++ qs) = (value? k ps).or (value? k qs) := by
  induction ps with
  | nil => simp [value?]
  | cons p ps ih =>
      obtain ⟨j, w⟩ := p
      by_cases h : j = k <;> simp [value?, h, ih]

theorem value?_eq_none {k : String} {ps : List (String × String)} (h : ∀ p ∈ ps, p.1 ≠ k) :
    value? k ps = none := by
  induction ps with
  | nil => rfl
  | cons p ps ih =>
      rw [value?, if_neg (h p (List.mem_cons_self ..))]
      exact ih fun q hq => h q (List.mem_cons_of_mem _ hq)

end Pairs

namespace UrlPagingConfig

/-- The pairs of a query that have nothing to do with pagination. -/
def others (c : UrlPagingConfig) (ps : List (String × String)) : List (String × String) :=
  ps.filter fun p => p.1 ≠ c.pageParam ∧ p.1 ≠ c.sizeParam

@[simp] theorem others_append (c : UrlPagingConfig) (ps qs : List (String × String)) :
    c.others (ps ++ qs) = c.others ps ++ c.others qs := List.filter_append ..

@[simp] theorem others_others (c : UrlPagingConfig) (ps : List (String × String)) :
    c.others (c.others ps) = c.others ps := by
  simp [others, List.filter_filter]

theorem remove_remove_eq_others (c : UrlPagingConfig) (ps : List (String × String)) :
    Pairs.remove c.sizeParam (Pairs.remove c.pageParam ps) = c.others ps := by
  simp only [Pairs.remove, others, List.filter_filter]
  refine List.filter_congr fun p _ => ?_
  simp [Bool.and_comm]

end UrlPagingConfig

namespace UrlPaging

variable (c : UrlPagingConfig)

/-! ### Writing -/

@[simp] theorem others_pagePairs (page : Option Count) : c.others (pagePairs c page) = [] := by
  cases page with
  | none => rfl
  | some p => unfold pagePairs; split <;> simp [UrlPagingConfig.others]

@[simp] theorem others_sizePairs (size : Option Count) : c.others (sizePairs c size) = [] := by
  cases size with
  | none => rfl
  | some s => unfold sizePairs; split <;> simp [UrlPagingConfig.others]

theorem query_writeAddress (a : Address) (page size : Option Count) :
    (writeAddress c a page size).query =
      c.others a.query ++ (pagePairs c page ++ sizePairs c size) := by
  rw [← c.remove_remove_eq_others, ← List.append_assoc]
  rfl

@[simp] theorem others_writeAddress (a : Address) (page size : Option Count) :
    c.others (writeAddress c a page size).query = c.others a.query := by
  simp [query_writeAddress]

theorem writeAddress_eq (a : Address) (page size : Option Count) :
    writeAddress c a page size = { a with query := (writeAddress c a page size).query } := rfl

/-- **The last pagination written is the one that stands there.** -/
theorem writeAddress_writeAddress (a : Address) (page size page' size' : Option Count) :
    writeAddress c (writeAddress c a page size) page' size' = writeAddress c a page' size' := by
  rw [writeAddress_eq c (writeAddress c a page size), writeAddress_eq c a page' size',
    query_writeAddress, query_writeAddress c a page', others_writeAddress]
  rfl

/-! ### Reading -/

/-- The page and page size of a query. -/
def readPairs (ps : List (String × String)) : Count × Count :=
  (((Pairs.value? c.pageParam ps).bind positiveOf?).getD 1,
    ((Pairs.value? c.sizeParam ps).bind positiveOf?).getD c.defaultSize.positive)

theorem readAddress_eq_readPairs (a : Address) : readAddress c a = readPairs c a.query := rfl

/-- What is read after writing depends on the new pairs only. -/
theorem readAddress_writeAddress (a : Address) (page size : Option Count) :
    readAddress c (writeAddress c a page size) =
      readPairs c (pagePairs c page ++ sizePairs c size) := by
  have hpage : Pairs.value? c.pageParam (c.others a.query) = none :=
    Pairs.value?_eq_none fun p hp => (by simpa using (List.mem_filter.1 hp).2 : _ ∧ _).1
  have hsize : Pairs.value? c.sizeParam (c.others a.query) = none :=
    Pairs.value?_eq_none fun p hp => (by simpa using (List.mem_filter.1 hp).2 : _ ∧ _).2
  rw [readAddress_eq_readPairs, query_writeAddress]
  simp only [readPairs, Pairs.value?_append c.pageParam (c.others a.query),
    Pairs.value?_append c.sizeParam (c.others a.query), hpage, hsize, Option.none_or]

theorem value?_pagePairs (p : Count) :
    Pairs.value? c.pageParam (pagePairs c (some p)) =
      if 1 < p then some (toString p.toNat) else none := by
  by_cases h : 1 < p <;> simp [pagePairs, Pairs.value?, h]

theorem value?_sizePairs (s : Count) :
    Pairs.value? c.sizeParam (sizePairs c (some s)) =
      if s = c.defaultSize then none else some (toString s.toNat) := by
  by_cases h : s = c.defaultSize <;> simp [sizePairs, Pairs.value?, h]

theorem value?_pagePairs_of_ne {k : String} (h : c.pageParam ≠ k) (p : Count) :
    Pairs.value? k (pagePairs c (some p)) = none := by
  by_cases hp : 1 < p <;> simp [pagePairs, Pairs.value?, h, hp]

theorem value?_sizePairs_of_ne {k : String} (h : c.sizeParam ≠ k) (s : Count) :
    Pairs.value? k (sizePairs c (some s)) = none := by
  by_cases hs : s = c.defaultSize <;> simp [sizePairs, Pairs.value?, h, hs]

/-! ### Reading back -/

/-- The page that is read where the page `p` was written. -/
def pageReadBack (p : Count) : Count := if p.toNat < 0x8000000000000000 then p else 1

/-- The page size that is read where the page size `s` was written. -/
def sizeReadBack (s : Count) : Count :=
  if s = c.defaultSize ∨ s.toNat < 0x8000000000000000 then s else c.defaultSize.positive

/-- A page that is not written is the first one. -/
theorem eq_one_of_not_lt {p : Count} (hp : 1 ≤ p.toNat) (h : ¬ 1 < p) : p = 1 := by
  rw [UInt64.lt_iff_toNat_lt, UInt64.toNat_one] at h
  refine UInt64.toNat_inj.1 ?_
  rw [UInt64.toNat_one]
  omega

/-- A page is read back if it fits, and otherwise nothing is read. -/
theorem getD_pageText {p : Count} (hp : 1 ≤ p.toNat) :
    ((if 1 < p then some (toString p.toNat) else none).bind positiveOf?).getD 1 =
      pageReadBack p := by
  by_cases hlt : 1 < p
  · rw [if_pos hlt, Option.bind_some, positiveOf?_toString, pageReadBack]
    by_cases hfit : p.toNat < 0x8000000000000000
    · rw [if_pos ⟨hp, hfit⟩, if_pos hfit, Option.getD_some]
    · rw [if_neg fun h => hfit h.2, if_neg hfit, Option.getD_none]
  · obtain rfl := eq_one_of_not_lt hp hlt
    rfl

/-- A page size is read back if it is the default one or fits, and otherwise nothing is read. -/
theorem getD_sizeText {s : Count} (hs : 1 ≤ s.toNat) :
    ((if s = c.defaultSize then none else some (toString s.toNat)).bind positiveOf?).getD
      c.defaultSize.positive = sizeReadBack c s := by
  by_cases hd : s = c.defaultSize
  · rw [if_pos hd, sizeReadBack, if_pos (Or.inl hd), ← hd]
    exact Count.positive_eq_self_iff.2 hs
  · rw [if_neg hd, Option.bind_some, positiveOf?_toString, sizeReadBack]
    by_cases hfit : s.toNat < 0x8000000000000000
    · rw [if_pos ⟨hs, hfit⟩, if_pos (Or.inr hfit), Option.getD_some]
    · rw [if_neg fun h => hfit h.2, if_neg fun h => h.elim hd hfit, Option.getD_none]

/-- With different names, page and page size are read apart from each other. -/
theorem readAddress_writeAddress_of_ne (h : c.pageParam ≠ c.sizeParam) (a : Address) {p s : Count}
    (hp : 1 ≤ p.toNat) (hs : 1 ≤ s.toNat) :
    readAddress c (writeAddress c a (some p) (some s)) = (pageReadBack p, sizeReadBack c s) := by
  rw [readAddress_writeAddress, readPairs, Pairs.value?_append, Pairs.value?_append,
    value?_pagePairs, value?_sizePairs, value?_sizePairs_of_ne c (Ne.symm h),
    value?_pagePairs_of_ne c h, Option.or_none, Option.none_or, getD_pageText hp,
    getD_sizeText c hs]

theorem pageReadBack_eq_iff {p : Count} : pageReadBack p = p ↔ p.toNat < 0x8000000000000000 := by
  unfold pageReadBack
  split
  · next h => exact iff_of_true rfl h
  · next h =>
      refine iff_of_false (fun he => h ?_) h
      rw [← he]
      decide

theorem sizeReadBack_eq_iff {s : Count} :
    sizeReadBack c s = s ↔ s = c.defaultSize ∨ s.toNat < 0x8000000000000000 := by
  unfold sizeReadBack
  split
  · next h => exact iff_of_true rfl h
  · next h =>
      refine iff_of_false (fun he => h ?_) h
      -- the default is read as itself unless it is zero, and then as one, which fits
      by_cases hd : c.defaultSize = 0
      · rw [← he, hd]
        decide
      · rw [Count.positive, if_neg hd] at he
        exact Or.inl he.symm

/-- **When page and page size are read back.** -/
theorem readAddress_writeAddress_eq_iff (h : c.pageParam ≠ c.sizeParam) (a : Address) {p s : Count}
    (hp : 1 ≤ p.toNat) (hs : 1 ≤ s.toNat) :
    readAddress c (writeAddress c a (some p) (some s)) = (p, s) ↔
      p.toNat < 0x8000000000000000 ∧ (s = c.defaultSize ∨ s.toNat < 0x8000000000000000) := by
  rw [readAddress_writeAddress_of_ne c h a hp hs, Prod.mk.injEq, pageReadBack_eq_iff,
    sizeReadBack_eq_iff c]

/-! ### Reading, writing and reading again -/

/-- What a parameter stands for is its default, or a positive number that fits a signed one. -/
theorem getD_positiveOf?_cases (text : Option String) (d : Count) :
    (text.bind positiveOf?).getD d = d ∨
      1 ≤ ((text.bind positiveOf?).getD d).toNat ∧
        ((text.bind positiveOf?).getD d).toNat < 0x8000000000000000 := by
  cases h : text.bind positiveOf? with
  | none => exact Or.inl rfl
  | some n =>
      obtain ⟨t, -, hn⟩ := Option.bind_eq_some_iff.1 h
      exact Or.inr (bounds_of_positiveOf? hn)

/-- A page that is read is positive and can be read back. -/
theorem bounds_page_readAddress (a : Address) :
    1 ≤ (readAddress c a).1.toNat ∧ (readAddress c a).1.toNat < 0x8000000000000000 := by
  rcases getD_positiveOf?_cases (a.value? c.pageParam) 1 with h | h
  · rw [show (readAddress c a).1 = 1 from h]
    decide
  · exact h

/-- A page size that is read is positive and can be read back. -/
theorem bounds_size_readAddress (a : Address) :
    1 ≤ (readAddress c a).2.toNat ∧
      ((readAddress c a).2 = c.defaultSize ∨ (readAddress c a).2.toNat < 0x8000000000000000) := by
  rcases getD_positiveOf?_cases (a.value? c.sizeParam) c.defaultSize.positive with h | h
  · rw [show (readAddress c a).2 = c.defaultSize.positive from h]
    refine ⟨Count.one_le_positive _, ?_⟩
    unfold Count.positive
    split
    · exact Or.inr (by decide)
    · exact Or.inl rfl
  · exact ⟨h.1, Or.inr h.2⟩

/-- With one name for both parameters, a page beyond the first hides the page size. -/
theorem value?_pairs_of_eq (h : c.pageParam = c.sizeParam) (p s : Count) :
    Pairs.value? c.pageParam (pagePairs c (some p) ++ sizePairs c (some s)) =
      if 1 < p then some (toString p.toNat)
      else if s = c.defaultSize then none else some (toString s.toNat) := by
  rw [Pairs.value?_append, value?_pagePairs, h, value?_sizePairs]
  split <;> rfl

/-- With one name for both parameters, one text stands for the page and the page size. -/
theorem readPairs_of_eq (h : c.pageParam = c.sizeParam) (ps : List (String × String)) :
    readPairs c ps =
      (((Pairs.value? c.pageParam ps).bind positiveOf?).getD 1,
        ((Pairs.value? c.pageParam ps).bind positiveOf?).getD c.defaultSize.positive) := by
  rw [readPairs, ← h]

/-- With one name for both parameters, a number that is the page and the page size is read back. -/
theorem readAddress_writeAddress_same (h : c.pageParam = c.sizeParam) (a : Address) {n : Count}
    (hn : 1 ≤ n.toNat) (hfit : n.toNat < 0x8000000000000000) :
    readAddress c (writeAddress c a (some n) (some n)) = (n, n) := by
  have hread : positiveOf? (toString n.toNat) = some n := by
    rw [positiveOf?_toString, if_pos ⟨hn, hfit⟩]
  rw [readAddress_writeAddress, readPairs_of_eq c h, value?_pairs_of_eq c h]
  by_cases hlt : 1 < n
  · rw [if_pos hlt, Option.bind_some, hread]
    rfl
  · rw [if_neg hlt]
    by_cases hd : n = c.defaultSize
    · -- nothing is written: the number is the first page and the default page size
      obtain rfl := eq_one_of_not_lt hn hlt
      rw [if_pos hd, ← hd]
      rfl
    · rw [if_neg hd, Option.bind_some, hread]
      rfl

/-- With one name for both parameters, the defaults are read back. -/
theorem readAddress_writeAddress_defaults (h : c.pageParam = c.sizeParam) (a : Address) :
    readAddress c (writeAddress c a (some 1) (some c.defaultSize.positive)) =
      (1, c.defaultSize.positive) := by
  by_cases hd : c.defaultSize = 0
  · rw [hd]
    exact readAddress_writeAddress_same c h a (by decide) (by decide)
  · have hpos : c.defaultSize.positive = c.defaultSize := by rw [Count.positive, if_neg hd]
    rw [readAddress_writeAddress, readPairs_of_eq c h, value?_pairs_of_eq c h,
      if_neg (by decide), if_pos hpos]
    rfl

theorem readAddress_writeAddress_readAddress_of_eq (h : c.pageParam = c.sizeParam)
    (a a' : Address) :
    readAddress c (writeAddress c a' (some (readAddress c a).1) (some (readAddress c a).2)) =
      readAddress c a := by
  rw [readAddress_eq_readPairs c a, readPairs_of_eq c h]
  cases hv : (Pairs.value? c.pageParam a.query).bind positiveOf? with
  | none => exact readAddress_writeAddress_defaults c h a'
  | some n =>
      obtain ⟨text, -, hn⟩ := Option.bind_eq_some_iff.1 hv
      obtain ⟨hone, hfit⟩ := bounds_of_positiveOf? hn
      exact readAddress_writeAddress_same c h a' hone hfit

/-- **What was read is read back**, from any address it is written to and whatever the names of
the parameters. -/
theorem readAddress_writeAddress_readAddress (a a' : Address) :
    readAddress c (writeAddress c a' (some (readAddress c a).1) (some (readAddress c a).2)) =
      readAddress c a := by
  by_cases h : c.pageParam = c.sizeParam
  · exact readAddress_writeAddress_readAddress_of_eq c h a a'
  · exact (readAddress_writeAddress_eq_iff c h a' (bounds_page_readAddress c a).1
      (bounds_size_readAddress c a).1).2
        ⟨(bounds_page_readAddress c a).2, (bounds_size_readAddress c a).2⟩

end UrlPaging

end RecordGrid
