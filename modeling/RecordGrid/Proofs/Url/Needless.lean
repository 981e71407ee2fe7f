/-
**Parameters that stand in the address bar without need.**

A page or page size that is read without its parameter as well need not be written.  What is read
without the parameter is the default, and for a page size that is at least one, whatever the
configuration says.  Writing compares with the configured default as it is, so where that is zero a
page size of one is written although it is the default in effect.  A number beyond the greatest
signed one is written as well, and it stands for nothing but the default when it is read.  There is
no other parameter without need.

Main definitions:

* `RecordGrid.UrlPaging.Needless` — a parameter that could be removed from an address.

Main results:

* `RecordGrid.UrlPaging.remove_pageParam_writeAddress`, `remove_sizeParam_writeAddress` — without
  its parameter, a number might as well not have been written;
* `RecordGrid.UrlPaging.needless_pageParam_iff`, `needless_sizeParam_iff` — which of the parameters
  of an address are needless;
* `RecordGrid.UrlPaging.needless_after_paginate_iff` — **which parameters a change of the
  pagination writes without need**;
* `RecordGrid.UrlPaging.zero_default_writes_one` — the default in effect may be written.
-/

import RecordGrid.Proofs.Request.Synced
import RecordGrid.Proofs.Url.Trail
import RecordGrid.Url.Wire

set_option relaxedAutoImplicit false
set_option autoImplicit false

namespace RecordGrid

namespace UrlPaging

/-- A parameter stands in an address without need: the same is read when it is removed. -/
def Needless (c : UrlPagingConfig) (a : Address) (key : String) : Prop :=
  (a.value? key).isSome ∧ readAddress c (a.remove key) = readAddress c a

instance (c : UrlPagingConfig) (a : Address) (key : String) : Decidable (Needless c a key) :=
  inferInstanceAs (Decidable (_ ∧ _))

variable {c : UrlPagingConfig}

/-! ### Without a parameter -/

theorem remove_eq_self {k : String} {ps : List (String × String)} (h : ∀ p ∈ ps, p.1 ≠ k) :
    Pairs.remove k ps = ps := by
  rw [Pairs.remove, List.filter_eq_self]
  intro p hp
  simpa using h p hp

theorem remove_append (k : String) (ps qs : List (String × String)) :
    Pairs.remove k (ps ++ qs) = Pairs.remove k ps ++ Pairs.remove k qs := List.filter_append ..

theorem fst_of_mem_pagePairs {page : Option Count} {p : String × String}
    (h : p ∈ pagePairs c page) : p.1 = c.pageParam := by
  cases page with
  | none => simp [pagePairs] at h
  | some n =>
      by_cases hn : 1 < n
      · rw [pagePairs, if_pos hn, List.mem_singleton] at h
        rw [h]
      · simp [pagePairs, hn] at h

theorem fst_of_mem_sizePairs {size : Option Count} {p : String × String}
    (h : p ∈ sizePairs c size) : p.1 = c.sizeParam := by
  cases size with
  | none => simp [sizePairs] at h
  | some n =>
      by_cases hn : n = c.defaultSize
      · simp [sizePairs, hn] at h
      · rw [sizePairs, if_neg hn, List.mem_singleton] at h
        rw [h]

theorem remove_pagePairs (c : UrlPagingConfig) (page : Option Count) :
    Pairs.remove c.pageParam (pagePairs c page) = [] := by
  rw [Pairs.remove, List.filter_eq_nil_iff]
  intro p hp
  simp [fst_of_mem_pagePairs hp]

theorem remove_sizePairs (c : UrlPagingConfig) (size : Option Count) :
    Pairs.remove c.sizeParam (sizePairs c size) = [] := by
  rw [Pairs.remove, List.filter_eq_nil_iff]
  intro p hp
  simp [fst_of_mem_sizePairs hp]

theorem fst_ne_of_mem_others {ps : List (String × String)} {p : String × String}
    (h : p ∈ c.others ps) : p.1 ≠ c.pageParam ∧ p.1 ≠ c.sizeParam := by
  simpa using (List.mem_filter.1 h).2

/-- Without its parameter, the page might as well not have been written. -/
theorem remove_pageParam_writeAddress (h : c.pageParam ≠ c.sizeParam) (a : Address)
    (page size : Option Count) :
    (writeAddress c a page size).remove c.pageParam = writeAddress c a none size := by
  have hothers : Pairs.remove c.pageParam (c.others a.query) = c.others a.query :=
    remove_eq_self fun p hp => (fst_ne_of_mem_others hp).1
  have hsize : Pairs.remove c.pageParam (sizePairs c size) = sizePairs c size := by
    refine remove_eq_self fun p hp => ?_
    rw [fst_of_mem_sizePairs hp]
    exact h.symm
  rw [Address.remove, query_writeAddress, remove_append, remove_append, remove_pagePairs, hothers,
    hsize, writeAddress_eq c a none, query_writeAddress]
  rfl

/-- Without its parameter, the page size might as well not have been written. -/
theorem remove_sizeParam_writeAddress (h : c.pageParam ≠ c.sizeParam) (a : Address)
    (page size : Option Count) :
    (writeAddress c a page size).remove c.sizeParam = writeAddress c a page none := by
  have hothers : Pairs.remove c.sizeParam (c.others a.query) = c.others a.query :=
    remove_eq_self fun p hp => (fst_ne_of_mem_others hp).2
  have hpage : Pairs.remove c.sizeParam (pagePairs c page) = pagePairs c page := by
    refine remove_eq_self fun p hp => ?_
    rw [fst_of_mem_pagePairs hp]
    exact h
  rw [Address.remove, query_writeAddress, remove_append, remove_append, remove_sizePairs, hothers,
    hpage, writeAddress_eq c a page none, query_writeAddress]
  rfl

/-! ### Needless parameters -/

section Written

variable {p s : Count}

/-- A parameter of pagination is found among the pairs that were written. -/
theorem value?_writeAddress {k : String} (hk : k = c.pageParam ∨ k = c.sizeParam) (a : Address)
    (page size : Option Count) :
    (writeAddress c a page size).value? k =
      (Pairs.value? k (pagePairs c page)).or (Pairs.value? k (sizePairs c size)) := by
  have hothers : Pairs.value? k (c.others a.query) = none := by
    refine Pairs.value?_eq_none fun p hp => ?_
    rcases hk with rfl | rfl
    · exact (fst_ne_of_mem_others hp).1
    · exact (fst_ne_of_mem_others hp).2
  rw [Address.value?, query_writeAddress, Pairs.value?_append, Pairs.value?_append, hothers,
    Option.none_or]

theorem isSome_value?_pageParam (h : c.pageParam ≠ c.sizeParam) (a : Address) :
    ((writeAddress c a (some p) (some s)).value? c.pageParam).isSome ↔ 1 < p := by
  rw [value?_writeAddress (.inl rfl), value?_pagePairs, value?_sizePairs_of_ne c h.symm,
    Option.or_none]
  split <;> simp_all

theorem isSome_value?_sizeParam (h : c.pageParam ≠ c.sizeParam) (a : Address) :
    ((writeAddress c a (some p) (some s)).value? c.sizeParam).isSome ↔ s ≠ c.defaultSize := by
  rw [value?_writeAddress (.inr rfl), value?_pagePairs_of_ne c h, value?_sizePairs,
    Option.none_or]
  split <;> simp_all

/-- A page size alone is read with the first page. -/
theorem readAddress_writeAddress_size (h : c.pageParam ≠ c.sizeParam) (a : Address)
    (hs : 1 ≤ s.toNat) :
    readAddress c (writeAddress c a none (some s)) = (1, sizeReadBack c s) := by
  rw [readAddress_writeAddress, readPairs, pagePairs, List.nil_append, value?_sizePairs,
    value?_sizePairs_of_ne c h.symm, getD_sizeText c hs]
  rfl

/-- A page alone is read with the default page size. -/
theorem readAddress_writeAddress_page (h : c.pageParam ≠ c.sizeParam) (a : Address)
    (hp : 1 ≤ p.toNat) :
    readAddress c (writeAddress c a (some p) none) = (pageReadBack p, c.defaultSize.positive) := by
  rw [readAddress_writeAddress, readPairs, sizePairs, List.append_nil, value?_pagePairs,
    value?_pagePairs_of_ne c h, getD_pageText hp]
  rfl

/-- A page stands in an address without need exactly when it is too great to be read. -/
theorem needless_pageParam_iff (h : c.pageParam ≠ c.sizeParam) (a : Address) (hp : 1 ≤ p.toNat)
    (hs : 1 ≤ s.toNat) :
    Needless c (writeAddress c a (some p) (some s)) c.pageParam ↔
      0x8000000000000000 ≤ p.toNat := by
  rw [Needless, isSome_value?_pageParam h, remove_pageParam_writeAddress h,
    readAddress_writeAddress_size h a hs, readAddress_writeAddress_of_ne c h a hp hs,
    UInt64.lt_iff_toNat_lt, UInt64.toNat_one]
  simp only [Prod.mk.injEq, and_true]
  constructor
  · rintro ⟨hlt, hread⟩
    rcases Nat.lt_or_ge p.toNat 0x8000000000000000 with hfit | hgreat
    · rw [pageReadBack, if_pos hfit] at hread
      rw [← hread, UInt64.toNat_one] at hlt
      omega
    · exact hgreat
  · intro hgreat
    refine ⟨by omega, ?_⟩
    rw [pageReadBack, if_neg (by omega)]

/-- A page size stands in an address without need exactly when it is one where the configured
default is zero, or is not the default and too great to be read. -/
theorem needless_sizeParam_iff (h : c.pageParam ≠ c.sizeParam) (a : Address) (hp : 1 ≤ p.toNat)
    (hs : 1 ≤ s.toNat) :
    Needless c (writeAddress c a (some p) (some s)) c.sizeParam ↔
      (c.defaultSize = 0 ∧ s = 1) ∨ (s ≠ c.defaultSize ∧ 0x8000000000000000 ≤ s.toNat) := by
  rw [Needless, isSome_value?_sizeParam h, remove_sizeParam_writeAddress h,
    readAddress_writeAddress_page h a hp, readAddress_writeAddress_of_ne c h a hp hs]
  simp only [Prod.mk.injEq, true_and]
  constructor
  · rintro ⟨hwritten, hread⟩
    by_cases hfit : s.toNat < 0x8000000000000000
    · rw [sizeReadBack, if_pos (.inr hfit)] at hread
      -- the default in effect is another one than the configured one, so that one is zero
      by_cases hzero : c.defaultSize = 0
      · rw [hzero, Count.positive_zero] at hread
        exact .inl ⟨hzero, hread.symm⟩
      · rw [Count.positive, if_neg hzero] at hread
        exact absurd hread.symm hwritten
    · exact .inr ⟨hwritten, by omega⟩
  · rintro (⟨hzero, rfl⟩ | ⟨hwritten, hgreat⟩)
    · refine ⟨by simp [hzero], ?_⟩
      rw [sizeReadBack, if_pos (.inr (by simp)), hzero, Count.positive_zero]
    · refine ⟨hwritten, ?_⟩
      rw [sizeReadBack, if_neg]
      rintro (heq | hfit)
      · exact hwritten heq
      · omega

end Written

/-! ### Changing the pagination -/

/-- **Which parameters a change of the pagination writes without need.**  Let the parameters have
different names.  Wherever the address bar stood at first, and whatever has happened since then, a
change of the pagination leaves there

* no page without need, unless it is too great to be read;
* no page size without need, unless it is one where the configured default is zero, or is not the
  default and too great to be read. -/
theorem needless_after_paginate_iff {config : UrlPagingConfig}
    (hne : config.pageParam ≠ config.sizeParam) (h : History) (before : List Store.Change)
    (page size : Option Count) :
    let u := ((UrlPaging.ofHistory config h).changes before).paginate page size
    (Needless config u.history.current config.pageParam ↔ 0x8000000000000000 ≤ u.page.toNat) ∧
      (Needless config u.history.current config.sizeParam ↔
        (config.defaultSize = 0 ∧ u.size = 1) ∨
          (u.size ≠ config.defaultSize ∧ 0x8000000000000000 ≤ u.size.toNat)) := by
  intro u
  have hpos : u.Positive := ((Positive.ofHistory config h).changes before).paginate page size
  have hconfig : ((UrlPaging.ofHistory config h).changes before).config = config := by
    rw [config_changes]
    rfl
  have hcurrent : u.history.current =
      writeAddress config ((UrlPaging.ofHistory config h).changes before).history.current
        (some u.page) (some u.size) := by
    show (paginate _ page size).history.current = _
    rw [history_paginate, hconfig]
  rw [hcurrent]
  exact ⟨needless_pageParam_iff hne _ hpos.page hpos.size,
    needless_sizeParam_iff hne _ hpos.page hpos.size⟩

/-- A list of people, on the fourth page. -/
def fourthPage : History :=
  .ofAddress { path := "/people", query := [("page", "4"), ("q", "x"), ("page", "5")] }

/-- That list after the pagination was changed. -/
def turned (page size : Option Count) : UrlPaging :=
  ((UrlPaging.ofHistory {} fourthPage).changes []).paginate page size

/-- Of a page that was turned both parameters are needed, and a page that is too great is not. -/
theorem needless_after_paginate_turned :
    ({} : UrlPagingConfig).pageParam ≠ ({} : UrlPagingConfig).sizeParam ∧
      ¬ Needless {} (turned (some 3) (some 50)).history.current "page" ∧
      ¬ Needless {} (turned (some 3) (some 50)).history.current "pageSize" ∧
      Needless {} (turned (some 0x8000000000000000) none).history.current "page" := by
  have hne : ({} : UrlPagingConfig).pageParam ≠ ({} : UrlPagingConfig).sizeParam := by decide
  obtain ⟨hpage, hsize⟩ := needless_after_paginate_iff hne fourthPage [] (some 3) (some 50)
  obtain ⟨hgreat, -⟩ :=
    needless_after_paginate_iff hne fourthPage [] (some 0x8000000000000000) none
  refine ⟨hne, ?_, ?_, hgreat.2 (by decide)⟩
  · intro h
    exact absurd (hpage.1 h) (by decide)
  · intro h
    exact absurd (hsize.1 h) (by decide)

/-- A configuration with a default page size of zero. -/
def zeroDefault : UrlPagingConfig := { defaultSize := 0 }

/-- A list at its first page, with one row on it. -/
def singleRows : UrlPaging :=
  (UrlPaging.ofHistory zeroDefault (.ofAddress (.ofPath "/list"))).paginate (some 1) (some 1)

/-- **The default in effect may be written.**  A default page size of zero can be read from a file,
and a page size of one is then the default in effect.  It is written all the same, and without the
parameter the same is read. -/
theorem zero_default_writes_one :
    UrlPagingConfig.decode? (.value (.object [("default_page_size", .ofCount 0)])) =
        some zeroDefault ∧
      zeroDefault.pageParam ≠ zeroDefault.sizeParam ∧
      singleRows.history.current.query = [("pageSize", "1")] ∧
      singleRows.readUrl = (1, 1) ∧
      readAddress zeroDefault (singleRows.history.current.remove "pageSize") = (1, 1) ∧
      Needless zeroDefault singleRows.history.current zeroDefault.sizeParam := by
  decide

end UrlPaging

end RecordGrid
