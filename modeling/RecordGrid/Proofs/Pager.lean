/-
**Pages cut the rows into windows.**

The number of pages is a division that rounds up, and the offset of a page is a product that is cut
off at the greatest count.  The two fit together because of one fact: there is another page behind
the first `n` exactly if these do not hold all the rows yet.  Hence the offset of a page that there
is lies below the total and is not cut off, every row lies in the window of one page, and a page
that there is not begins behind all the rows, cut off or not.

Main definitions:

* `RecordGrid.Pager.InWindow` — a row lies in the window of the current page.

Main results:

* `RecordGrid.Pager.lt_pages_iff` — **when there is another page**;
* `RecordGrid.Pager.one_le_pages` — there is a page, unless the total is divided by zero;
* `RecordGrid.Pager.offset_of_le`, `total_le_offset` — where pages begin;
* `RecordGrid.Pager.existsUnique_inWindow` — every row is shown on one page;
* `RecordGrid.Pager.windows_tile` — **no row is skipped and none is shown twice**.
-/

import Mathlib.Logic.ExistsUnique
import RecordGrid.Pager

set_option relaxedAutoImplicit false
set_option autoImplicit false

namespace RecordGrid.Pager

variable {p : Pager}

/-! ### The number of pages -/

/-- Rows that do not fill a page take one more, and there is a count for it. -/
theorem toNat_pages_of_partial (h : 1 ≤ p.size.toNat)
    (hmod : p.total.toNat % p.size.toNat ≠ 0) :
    p.pages.toNat = p.total.toNat / p.size.toNat + 1 := by
  have htotal : p.total ≠ 0 := fun hzero => hmod (by rw [hzero]; exact Nat.zero_mod _)
  have hrest : ¬ p.total % p.size = 0 := fun hzero => hmod (congrArg UInt64.toNat hzero)
  have hroom : p.total.toNat / p.size.toNat < p.total.toNat := by
    -- a page size of one leaves no rest
    have hsize : 1 < p.size.toNat :=
      Nat.lt_of_le_of_ne h fun hone => hmod (by rw [← hone]; exact Nat.mod_one _)
    exact Nat.div_lt_self (Nat.pos_of_ne_zero fun hzero => htotal (UInt64.toNat_inj.1 hzero)) hsize
  have hbound : p.total.toNat < 2 ^ 64 := p.total.toNat_lt
  rw [pages, if_neg htotal, if_neg hrest, UInt64.toNat_add, UInt64.toNat_div, UInt64.toNat_one,
    Nat.mod_eq_of_lt (by omega)]

/-- Rows that fill their pages take no more. -/
theorem toNat_pages_of_full (htotal : p.total ≠ 0) (hmod : p.total.toNat % p.size.toNat = 0) :
    p.pages.toNat = p.total.toNat / p.size.toNat := by
  have hrest : p.total % p.size = 0 := UInt64.toNat_inj.1 hmod
  rw [pages, if_neg htotal, if_pos hrest, UInt64.toNat_div]

/-- **There is another page** behind the first `n` exactly if these do not hold all the rows.  The
first page is there even without rows. -/
theorem lt_pages_iff (h : 1 ≤ p.size.toNat) {n : Nat} :
    n < p.pages.toNat ↔ n = 0 ∨ n * p.size.toNat < p.total.toNat := by
  by_cases htotal : p.total = 0
  · have hpages : p.pages.toNat = 1 := by rw [pages, if_pos htotal]; rfl
    rw [hpages, htotal, UInt64.toNat_zero]
    omega
  · have hpos : 0 < p.total.toNat :=
      Nat.pos_of_ne_zero fun hzero => htotal (UInt64.toNat_inj.1 hzero)
    -- with rows the first page is no exception
    have hfirst : n = 0 ∨ n * p.size.toNat < p.total.toNat ↔ n * p.size.toNat < p.total.toNat :=
      or_iff_right_of_imp fun hzero => by rwa [hzero, Nat.zero_mul]
    rw [hfirst]
    by_cases hmod : p.total.toNat % p.size.toNat = 0
    · rw [toNat_pages_of_full htotal hmod]
      exact Nat.lt_div_iff_mul_lt_of_dvd (Nat.ne_of_gt h) (Nat.dvd_of_mod_eq_zero hmod)
    · have hne : n * p.size.toNat ≠ p.total.toNat := fun he =>
        hmod (by rw [← he, Nat.mul_mod_left])
      rw [toNat_pages_of_partial h hmod, Nat.lt_succ_iff, Nat.le_div_iff_mul_le h]
      omega

/-- **There is a page**, unless the total is divided by zero. -/
theorem one_le_pages (h : 1 ≤ p.size.toNat) : 1 ≤ p.pages.toNat :=
  (lt_pages_iff h).2 (Or.inl rfl)

/-- All pages together hold all the rows. -/
theorem total_le_pages_mul_size (h : 1 ≤ p.size.toNat) :
    p.total.toNat ≤ p.pages.toNat * p.size.toNat :=
  Nat.not_lt.1 fun hlt => Nat.lt_irrefl _ ((lt_pages_iff h).2 (Or.inr hlt))

/-- And without the last page they do not. -/
theorem pages_sub_one_mul_size_lt (h : 1 ≤ p.size.toNat) (htotal : 0 < p.total.toNat) :
    (p.pages.toNat - 1) * p.size.toNat < p.total.toNat := by
  have hlast : p.pages.toNat - 1 < p.pages.toNat := Nat.sub_one_lt_of_lt (one_le_pages h)
  rcases (lt_pages_iff h).1 hlast with hzero | hlt
  · rwa [hzero, Nat.zero_mul]
  · exact hlt

/-! ### Offsets -/

/-- Page zero is read as the first page, which has no page before it either. -/
theorem toNat_positive_sub_one (n : Count) : n.positive.toNat - 1 = n.toNat - 1 := by
  rw [Count.positive]
  split
  · next hzero => rw [hzero]; rfl
  · rfl

/-- The offset of a page is the number of rows on full pages before it.  One that no count holds is
cut off at the greatest count. -/
theorem toNat_offset_setCurrent (p : Pager) (page : Count) :
    (p.setCurrent page).offset.toNat = min ((page.toNat - 1) * p.size.toNat) (UInt64.size - 1) := by
  rw [← toNat_positive_sub_one page, offset,
    UInt64.toNat_ofNat_of_lt' (Nat.lt_of_le_of_lt (Nat.min_le_right _ _) (by decide))]
  rfl

variable {page : Count}

/-- The offset of a page that there is, is not cut off. -/
theorem offset_of_le (h : 1 ≤ p.size.toNat) (hone : 1 ≤ page.toNat) (hle : page ≤ p.pages) :
    (p.setCurrent page).offset.toNat = (page.toNat - 1) * p.size.toNat := by
  have hbound : p.total.toNat < UInt64.size := p.total.toNat_lt
  have hle' : page.toNat ≤ p.pages.toNat := UInt64.le_iff_toNat_le.1 hle
  have hfits : (page.toNat - 1) * p.size.toNat ≤ UInt64.size - 1 := by
    rcases (lt_pages_iff h).1 (show page.toNat - 1 < p.pages.toNat by omega) with hzero | hlt
    · rw [hzero, Nat.zero_mul]
      exact Nat.zero_le _
    · omega
  rw [toNat_offset_setCurrent, Nat.min_eq_left hfits]

/-- A page that there is not begins behind all the rows, cut off or not. -/
theorem total_le_offset (h : 1 ≤ p.size.toNat) (hgt : p.pages < page) :
    p.total.toNat ≤ (p.setCurrent page).offset.toNat := by
  have hbound : p.total.toNat < UInt64.size := p.total.toNat_lt
  have hbehind : p.total.toNat ≤ (page.toNat - 1) * p.size.toNat :=
    Nat.le_trans (total_le_pages_mul_size h)
      (Nat.mul_le_mul_right _ (Nat.le_sub_one_of_lt (UInt64.lt_iff_toNat_lt.1 hgt)))
  rw [toNat_offset_setCurrent]
  omega

/-- Later pages do not begin earlier. -/
theorem offset_mono (p : Pager) {page' : Count} (hle : page ≤ page') :
    (p.setCurrent page).offset ≤ (p.setCurrent page').offset := by
  have hbefore : (page.toNat - 1) * p.size.toNat ≤ (page'.toNat - 1) * p.size.toNat :=
    Nat.mul_le_mul_right _ (Nat.sub_le_sub_right (UInt64.le_iff_toNat_le.1 hle) 1)
  rw [UInt64.le_iff_toNat_le, toNat_offset_setCurrent, toNat_offset_setCurrent]
  omega

/-! ### Windows -/

/-- A row lies in the window of the current page. -/
def InWindow (p : Pager) (row : Nat) : Prop :=
  p.offset.toNat ≤ row ∧ row < p.offset.toNat + p.size.toNat

/-- A page that there is shows the rows that have as many full pages before them as it has pages
before it. -/
theorem inWindow_iff (h : 1 ≤ p.size.toNat) (hone : 1 ≤ page.toNat) (hle : page ≤ p.pages)
    {row : Nat} : (p.setCurrent page).InWindow row ↔ row / p.size.toNat + 1 = page.toNat := by
  have hdiv := Nat.div_eq_iff (x := row) (y := page.toNat - 1) h
  rw [InWindow, offset_of_le h hone hle]
  show _ ∧ row < _ + p.size.toNat ↔ _
  omega

/-- **Every row is shown on one page**: the one with as many pages before it as there are full pages
before the row. -/
theorem existsUnique_inWindow (h : 1 ≤ p.size.toNat) {row : Nat} (hrow : row < p.total.toNat) :
    ∃! page : Count, (1 ≤ page.toNat ∧ page ≤ p.pages) ∧ (p.setCurrent page).InWindow row := by
  have hlt : row / p.size.toNat < p.pages.toNat :=
    (lt_pages_iff h).2 (Or.inr (Nat.lt_of_le_of_lt (Nat.div_mul_le_self _ _) hrow))
  -- so the number of that page is a count
  have hpage : (UInt64.ofNat (row / p.size.toNat + 1)).toNat = row / p.size.toNat + 1 :=
    UInt64.toNat_ofNat_of_lt' (Nat.lt_of_le_of_lt hlt p.pages.toNat_lt)
  have hone : 1 ≤ (UInt64.ofNat (row / p.size.toNat + 1)).toNat := by
    rw [hpage]
    exact Nat.le_add_left ..
  have hle : UInt64.ofNat (row / p.size.toNat + 1) ≤ p.pages := by
    rw [UInt64.le_iff_toNat_le, hpage]
    exact hlt
  refine ⟨UInt64.ofNat (row / p.size.toNat + 1), ⟨⟨hone, hle⟩, ?_⟩, ?_⟩
  · exact (inWindow_iff h hone hle).2 hpage.symm
  · rintro page ⟨⟨hone', hle'⟩, hwindow⟩
    refine UInt64.toNat_inj.1 ?_
    rw [hpage, (inWindow_iff h hone' hle').1 hwindow]

/-- **No row is skipped and none is shown twice.**  For every total and every page size from one on,
in numbers of 64 bits:

* all pages together hold the rows, and without the last page they do not;
* the offset of a page that there is, is the number of rows before it, and nothing is cut off;
* every row lies in the window of exactly one of these pages;
* a page beyond the last one, up to the greatest count, begins behind all the rows, and later ones
  do not begin earlier, although offsets are cut off there. -/
theorem windows_tile (h : 1 ≤ p.size.toNat) :
    (0 < p.total.toNat →
      (p.pages.toNat - 1) * p.size.toNat < p.total.toNat ∧
        p.total.toNat ≤ p.pages.toNat * p.size.toNat) ∧
    (∀ page : Count, 1 ≤ page.toNat → page ≤ p.pages →
      (p.setCurrent page).offset.toNat = (page.toNat - 1) * p.size.toNat) ∧
    (∀ row < p.total.toNat, ∃! page : Count,
      (1 ≤ page.toNat ∧ page ≤ p.pages) ∧ (p.setCurrent page).InWindow row) ∧
    ∀ page : Count, p.pages < page →
      p.total.toNat ≤ (p.setCurrent page).offset.toNat ∧
        ∀ page', page ≤ page' → (p.setCurrent page).offset ≤ (p.setCurrent page').offset :=
  ⟨fun htotal => ⟨pages_sub_one_mul_size_lt h htotal, total_le_pages_mul_size h⟩,
    fun _ hone hle => offset_of_le h hone hle,
    fun _ hrow => existsUnique_inWindow h hrow,
    fun _ hgt => ⟨total_le_offset h hgt, fun _ hle => p.offset_mono hle⟩⟩

/-- As many rows as can be counted, on pages of more than half of them. -/
def crowded : Pager := { size := 0x8000000000000001, total := 0xFFFFFFFFFFFFFFFF }

/-- The last row is on the second page, and the offset of the third page is cut off at the total. -/
theorem windows_tile_crowded :
    1 ≤ crowded.size.toNat ∧ crowded.pages = 2 ∧
      (crowded.setCurrent 2).offset.toNat = 0x8000000000000001 ∧
      (∃! page : Count, (1 ≤ page.toNat ∧ page ≤ crowded.pages) ∧
        (crowded.setCurrent page).InWindow 0xFFFFFFFFFFFFFFFE) ∧
      crowded.total.toNat ≤ (crowded.setCurrent 3).offset.toNat ∧
      (crowded.setCurrent 3).offset ≤ (crowded.setCurrent 0xFFFFFFFFFFFFFFFF).offset := by
  have hsize : 1 ≤ crowded.size.toNat := by decide
  have hpages : crowded.pages = 2 := by decide
  obtain ⟨-, hoffset, hrows, hbeyond⟩ := windows_tile hsize
  obtain ⟨hbehind, hlater⟩ := hbeyond 3 (by rw [hpages]; decide)
  exact ⟨hsize, hpages, hoffset 2 (by decide) (by rw [hpages]; decide), hrows _ (by decide),
    hbehind, hlater _ (by decide)⟩

end RecordGrid.Pager
