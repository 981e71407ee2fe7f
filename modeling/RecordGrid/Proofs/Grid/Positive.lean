/-
**Pages count from one.**

Zero may come in from everywhere: from the settings, from the address bar, in patches, as a page to
turn to, in requests that are read from text, from a hook, and from the server.  It is read as one
wherever it comes in, each time at the place where it is taken over, so the request, the address
bar, the pager and everything that is asked for count from one at all times.  That is also what the
pager relies on when it divides the total by the page size.

Main definitions:

* `RecordGrid.Pager.Positive` — page and page size of a pager count from one.

Main results:

* `RecordGrid.Request.Made.positive`, `RecordGrid.UrlPaging.Made.positive`,
  `RecordGrid.Pager.Made.positive` — what can come about counts from one;
* `RecordGrid.Grid.Reachable.counts_from_one` — **every grid that can come about counts from
  one**.
-/

import RecordGrid.Proofs.Grid.Reachable
import RecordGrid.Proofs.Pager

set_option relaxedAutoImplicit false
set_option autoImplicit false

namespace RecordGrid

/-! ### What can come about counts from one -/

theorem Request.Made.positive {r : Request} (h : r.Made) : r.Positive := by
  induction h with
  | ofPage page size => exact Positive.ofPage page size
  | edit _ e ih => exact ih.edit e
  | decoded h =>
      simp only [decode?, Option.bind_eq_bind, Option.bind_eq_some_iff] at h
      obtain ⟨⟨page, size, params⟩, -, page', -, size', -, h⟩ := h
      cases h
      exact ⟨Count.one_le_positive page', Count.one_le_positive size'⟩

theorem UrlPaging.Made.positive {u : UrlPaging} (h : u.Made) : u.Positive := by
  induction h with
  | ofHistory config history => exact Positive.ofHistory config history
  | paginate _ page size ih => exact ih.paginate page size
  | navigate _ move ih => exact ih.change (.navigate move)

namespace Pager

/-- Page and page size count from one. -/
structure Positive (p : Pager) : Prop where
  current : 1 ≤ p.current.toNat
  size : 1 ≤ p.size.toNat

theorem Made.positive {p : Pager} (h : p.Made) : p.Positive := by
  induction h with
  | new => exact ⟨by decide, by decide⟩
  | setCurrent _ page ih => exact ⟨Count.one_le_positive page, ih.size⟩
  | setSize _ size ih => exact ⟨ih.current, Count.one_le_positive size⟩
  | setTotal _ total ih => exact ⟨ih.current, ih.size⟩
  | restyle _ style activeDot inactiveDot keys ih => exact ⟨ih.current, ih.size⟩

end Pager

namespace Grid

/-- **Every grid that can come about counts from one.**  Whatever the settings, the address bar, the
patches, the hooks and the server say,

* page and page size of the request count from one, and so do those in the address bar and in the
  pager;
* so do those of every request that anything done to the grid sends, and an arrival sends none;
* the pager never divides by zero, and there is a page. -/
theorem Reachable.counts_from_one {g : Grid} (h : g.Reachable) :
    g.request.Positive ∧ (∀ u, g.coordinator.store.paging = some u → u.Positive) ∧
      g.pager.Positive ∧
      (∀ o, ∀ f ∈ (g.operate o).2.fetch, f.request.Positive) ∧
      (∀ a, (g.receive a).2.fetch = none) ∧
      g.pager.size ≠ 0 ∧ 1 ≤ g.pager.pages.toNat := by
  have hparts := h.coordinator_made.parts
  have hpager : g.pager.Positive := hparts.pager.positive
  refine ⟨hparts.store.parts.request.positive, fun u hu => ?_, hpager, fun o f hf => ?_,
    fun a => ?_, fun hzero => ?_, Pager.one_le_pages hpager.size⟩
  · exact (hparts.store.parts.bar u hu).positive
  · exact ((Makes.operate h.coordinator_made o).request f hf).positive
  · rw [effect_receive]
  · have hsize := hpager.size
    rw [hzero] at hsize
    exact absurd hsize (by decide)

/-- Settings that give zero for every page size. -/
def zeroText : String :=
  "\x7b\"default_page_size\": 0, \"url_sync\": \x7b\"default_page_size\": 0\x7d\x7d"

/-- A hook that asks for page zero instead. -/
def zeroHook (r : Request) : Request :=
  (Request.read? "\x7b\"page\": 0, \"page_size\": 0\x7d").getD r

theorem made_zeroHook {r : Request} (h : r.Made) : (zeroHook r).Made := by
  unfold zeroHook Request.read?
  cases hdraft : Json.draft? "\x7b\"page\": 0, \"page_size\": 0\x7d" with
  | none => exact h
  | some d =>
      rw [Option.bind_some]
      cases hr : Request.decode? d with
      | none => exact h
      | some r' => exact .decoded hr

def zeroConfig : GridConfig := { defaultSize := 0, urlPaging := some { defaultSize := 0 } }

/-- A grid with these settings and that hook, at an address that names page zero. -/
def zeroGrid : Grid :=
  let g := (ofSchema 0 zeroConfig []).connect (.ofText "/list?page=0&pageSize=-5")
  { g with coordinator := { g.coordinator with canFetch := true, prepare := zeroHook } }

/-- Page zero is asked for in many ways, and served. -/
def zeroRun : List Happening :=
  [.operate (.call (.changePage 0)), .operate (.call (.changePageSize 0)),
    .operate (.call (.sort { page := some 0, size := some 0 })), .operate .urlChanged,
    .receive
      { owner := 0, seq := 2, outcome := .ok { page := some 0, size := some 0, total := some 7 } },
    .operate (.writeUrl (some 0) (some 0))]

theorem counts_from_one_zeroRun :
    (Json.draft? zeroText).bind GridConfig.decode? = some zeroConfig ∧
      (zeroGrid.happenings zeroRun).Reachable ∧
      (zeroGrid.happenings zeroRun).request.Positive ∧
      (zeroGrid.happenings zeroRun).pager.size ≠ 0 ∧
      (zeroGrid.happenings zeroRun).pager.pages = 7 ∧
      ∃ f, ((zeroGrid.happenings zeroRun).operate .reload).2.fetch = some f ∧
        f.request.Positive := by
  have hconnected := (Reachable.ofSchema 0 zeroConfig []).connect
    (.ofText "/list?page=0&pageSize=-5")
  have hsettings := hconnected.coordinator_made.settings true .ok .lastResponse "id" "Summary"
    none false
  have hzero : zeroGrid.Reachable :=
    hconnected.withMade (hsettings.prepare fun r hr => made_zeroHook hr)
  have hrun := hzero.happenings zeroRun
  obtain ⟨hrequest, -, -, hfetch, -, hsize, -⟩ := hrun.counts_from_one
  have hsent : ((zeroGrid.happenings zeroRun).operate .reload).2.fetch.isSome := by
    decide +kernel
  obtain ⟨f, hf⟩ := Option.isSome_iff_exists.1 hsent
  exact ⟨by decide +kernel, hrun, hrequest, hsize, by decide +kernel, f, hf,
    hfetch .reload f hf⟩

end Grid

end RecordGrid
