/-
**The past does not filter the list.**

A grid takes patches over into its request and never takes a parameter out.  A filter that was
cleared would go on restricting the list if the form left it out; since the form says `null` for it
instead, the request has under each field what the form says now, whatever has happened before.  Two
grids with the same filters and the same values therefore ask for the same, and after a reset they
ask for what a new grid asks for first.

Main definitions:

* `RecordGrid.Grid.Offers` — a grid has some filters, and something to fetch with;
* `RecordGrid.Grid.filterValue` — the value of a filter in the form of a grid.

Main results:

* `RecordGrid.Grid.Offers.happen`, `RecordGrid.Grid.Offers.happenings` — a grid keeps its filters;
* `RecordGrid.Grid.filters_forget_past` — **under the fields of the filters only their present
  values count**.
-/

import RecordGrid.Proofs.Filter.Editing
import RecordGrid.Proofs.Grid.Cursor
import RecordGrid.Proofs.Grid.Outcomes
import RecordGrid.Proofs.Request.Overwrite

set_option relaxedAutoImplicit false
set_option autoImplicit false

namespace RecordGrid

namespace Grid

variable {g : Grid} {items : List FilterItem}

/-- What a load with a patch leaves under a key. -/
theorem get?_load (hf : g.coordinator.canFetch = true) (p : Patch) (events : List GridEvent)
    (key : String) :
    (g.load (some p) events).1.request.get? key = (p.get? key).or (g.request.get? key) := by
  rw [load_of_canFetch hf]
  show (g.coordinator.mergeShown p).store.request.get? key = _
  rw [Coordinator.store_mergeShown]
  exact g.coordinator.store.get?_merge p key

/-! ### The filters of a grid -/

/-- The grid has some filters, and something to fetch with. -/
structure Offers (g : Grid) (items : List FilterItem) : Prop where
  canFetch : g.coordinator.canFetch = true
  items : g.filters.map (·.items) = some items

/-- The value of a filter in the form of a grid. -/
def filterValue (g : Grid) (item : FilterItem) : FilterValue :=
  (g.filters.map (·.current item)).getD .empty

namespace Offers

theorem exists_form (h : g.Offers items) : ∃ form, g.filters = some form ∧ form.items = items :=
  Option.map_eq_some_iff.1 h.items

theorem load (h : g.Offers items) (patch : Option Patch) (events : List GridEvent) :
    (g.load patch events).1.Offers items :=
  ⟨(g.canFetch_load patch events).trans h.canFetch, h.items⟩

/-- Putting a form back and turning the pager leave the filters as they are. -/
theorem readied (h : g.Offers items) {g' : Grid} (hg : g.Readied g') : g'.Offers items := by
  cases hg with
  | same => exact h
  | reset hform =>
      refine ⟨h.canFetch, ?_⟩
      rw [← h.items, hform]
      rfl
  | turned page => exact ⟨h.canFetch, h.items⟩
  | resized size => exact ⟨h.canFetch, h.items⟩

theorem amounts (h : g.Offers items) {r : Grid × Effect} (hr : g.Amounts r) :
    r.1.Offers items := by
  cases hr with
  | nothing => exact h
  | load hg patch events => exact (h.readied hg).load patch events
  | turn page size events => exact ⟨h.canFetch, h.items⟩

theorem press (h : g.Offers items) (k : KeyPress) : (g.press k).1.Offers items := by
  rcases g.press_amounts k with hk | ⟨cursor, hk⟩ | ⟨row, key, hk⟩
  · exact h.amounts hk
  · rw [hk]
    exact ⟨h.canFetch, h.items⟩
  · rw [hk.press_eq]
    exact ⟨h.canFetch, h.items⟩

theorem operate (h : g.Offers items) (o : Operation) : (g.operate o).1.Offers items := by
  cases o with
  | start => exact h.amounts g.amounts_start
  | load patch => exact h.load patch []
  | call c => exact h.amounts (g.amounts_call c)
  | edit field value =>
      rw [Grid.operate, edit_eq]
      refine ⟨h.canFetch, ?_⟩
      obtain ⟨form, hform, rfl⟩ := h.exists_form
      simp [hform]
  | urlChanged => exact h.amounts g.amounts_urlChanged
  | press k => exact h.press k
  | _ => exact ⟨h.canFetch, h.items⟩

/-- **A grid keeps its filters**, and what it fetches with, whatever happens to it. -/
theorem happen (h : g.Offers items) (e : Happening) : (g.happen e).Offers items := by
  cases e with
  | operate o => exact h.operate o
  | receive a =>
      refine ⟨?_, ?_⟩
      · rw [Grid.happen, coordinator_receive, Coordinator.coordinator_receive_eq]
        exact h.canFetch
      · rw [Grid.happen, filters_receive]
        exact h.items

theorem happenings (h : g.Offers items) (es : List Happening) :
    (g.happenings es).Offers items := by
  induction es generalizing g with
  | nil => exact h
  | cons e es ih => exact ih (h.happen e)

/-! ### What the form leaves in the request -/

/-- **The request has under each field what the form says**, whatever it had there before. -/
theorem get?_filter (h : g.Offers items) (hplain : FilterForm.Plain items)
    (value : FilterItem → FilterValue) {item : FilterItem} (hitem : item ∈ items) :
    (g.filter (FilterForm.patchOf items value)).1.request.get? item.field =
      some (item.param (value item)) := by
  have hsaid := FilterForm.get?_patchOf hplain value hitem
  rw [Grid.filter, get?_load h.canFetch]
  show ((FilterForm.patchOf items value).get? item.field).or _ = _
  rw [hsaid, Option.some_or]

theorem get?_applyFilters (h : g.Offers items) (hplain : FilterForm.Plain items)
    {item : FilterItem} (hitem : item ∈ items) :
    g.applyFilters.1.request.get? item.field = some (item.param (g.filterValue item)) := by
  obtain ⟨form, hform, rfl⟩ := h.exists_form
  rw [applyFilters, filterValue, hform]
  exact h.get?_filter hplain form.current hitem

/-- After a reset the form says the defaults. -/
theorem filterValue_resetFilters (h : g.Offers items) (hplain : FilterForm.Plain items)
    {item : FilterItem} (hitem : item ∈ items) :
    g.resetFilters.1.filterValue item = item.default := by
  obtain ⟨form, hform, rfl⟩ := h.exists_form
  rw [Grid.resetFilters, hform]
  exact FilterForm.current_reset hplain.distinct hitem

theorem get?_resetFilters (h : g.Offers items) (hplain : FilterForm.Plain items)
    {item : FilterItem} (hitem : item ∈ items) :
    g.resetFilters.1.request.get? item.field = some (item.param item.default) := by
  obtain ⟨form, hform, rfl⟩ := h.exists_form
  have hreset : Offers { g with filters := some form.reset } form.items := ⟨h.canFetch, rfl⟩
  rw [Grid.resetFilters, hform]
  refine (hreset.get?_filter hplain form.reset.current hitem).trans ?_
  rw [FilterForm.current_reset hplain.distinct hitem]

/-- The first load takes the defaults, whatever the form says meanwhile, and it goes out. -/
theorem start_eq (h : g.Offers items) (hauto : g.config.autoLoad = true) :
    g.start =
      g.load (some (FilterForm.patchOf items (·.default)))
        [.filterReady (FilterForm.patchOf items (·.default))] := by
  obtain ⟨form, hform, rfl⟩ := h.exists_form
  rw [Grid.start, hauto, hform]
  rfl

theorem get?_start (h : g.Offers items) (hplain : FilterForm.Plain items)
    (hauto : g.config.autoLoad = true) {item : FilterItem} (hitem : item ∈ items) :
    g.start.1.request.get? item.field = some (item.param item.default) := by
  rw [h.start_eq hauto, get?_load h.canFetch, FilterForm.get?_patchOf hplain _ hitem,
    Option.some_or]

/-- The first load sends what the request has become, as it is prepared for sending. -/
theorem fetch_start (h : g.Offers items) (hauto : g.config.autoLoad = true) :
    ∃ f, g.start.2.fetch = some f ∧ f.request = g.coordinator.prepare g.start.1.request := by
  rw [h.start_eq hauto, load_of_canFetch h.canFetch]
  refine ⟨_, rfl, ?_⟩
  rw [Coordinator.mergeShown_eq]
  rfl

end Offers

/-- **Under the fields of the filters only their present values count.**  Let two grids have the
same filters, of which none has a mapping of its own, no two have the same field, and none writes
the pagination; and let anything happen to both: searches, edits, applications of the filters,
arrivals, moves in the address bar, and so on.

* When the filters are applied, the request has under each field what the filter makes of its
  present value, which is `null` exactly when there is nothing to filter by.
* If the values are equal at that moment, the requests agree under all fields.
* When the filters are reset instead, every filter is back at its default, and the request has under
  each field what a new grid with these filters has there after its first load, which sends it. -/
theorem filters_forget_past {g h : Grid} {items : List FilterItem}
    (hplain : FilterForm.Plain items) (hg : g.Offers items) (hh : h.Offers items)
    (es fs : List Happening) :
    (∀ item ∈ items,
      (g.happenings es).applyFilters.1.request.get? item.field =
          some (item.param ((g.happenings es).filterValue item)) ∧
        ((g.happenings es).applyFilters.1.request.get? item.field = some .null ↔
          ((g.happenings es).filterValue item).isEmpty = true)) ∧
    ((∀ item ∈ items, (g.happenings es).filterValue item = (h.happenings fs).filterValue item) →
      ∀ item ∈ items,
        (g.happenings es).applyFilters.1.request.get? item.field =
          (h.happenings fs).applyFilters.1.request.get? item.field) ∧
    (∀ item ∈ items, (g.happenings es).resetFilters.1.filterValue item = item.default) ∧
    ∀ new : Grid, new.Offers items → new.config.autoLoad = true →
      (∃ f, new.start.2.fetch = some f ∧
        f.request = new.coordinator.prepare new.start.1.request) ∧
      ∀ item ∈ items,
        (g.happenings es).resetFilters.1.request.get? item.field =
          new.start.1.request.get? item.field := by
  have hges := hg.happenings es
  have hhfs := hh.happenings fs
  refine ⟨fun item hitem => ?_, fun hsame item hitem => ?_, fun item hitem => ?_,
    fun new hnew hauto => ⟨hnew.fetch_start hauto, fun item hitem => ?_⟩⟩
  · have happlied := hges.get?_applyFilters hplain hitem
    refine ⟨happlied, ?_⟩
    rw [happlied, Option.some.injEq]
    exact item.param_eq_null_iff _
  · rw [hges.get?_applyFilters hplain hitem, hhfs.get?_applyFilters hplain hitem,
      hsame item hitem]
  · exact hges.filterValue_resetFilters hplain hitem
  · rw [hges.get?_resetFilters hplain hitem, hnew.get?_start hplain hauto hitem]

/-- A text and a choice that starts with one of its options. -/
def lampFilters : List FilterItem :=
  [{ field := "name", label := "Name", kind := .input },
    { field := "status", label := "Status", kind := .select ["on", "off"] false
      default := .choice ["on"] }]

/-- A grid with these filters. -/
def lampGrid : Grid :=
  { ofSchema 0 {} [] with
    coordinator := { Coordinator.ofStore 0 (.ofPage 1 20) with canFetch := true }
    filters := some (.ofItems lampFilters) }

/-- The same in the address bar. -/
def barGrid : Grid :=
  { lampGrid with
    coordinator :=
      { Coordinator.ofStore 1 (.ofPaging (.ofHistory {} (.ofAddress (.ofPath "/lamps")))) with
        canFetch := true } }

/-- A name is looked for among the lamps that are off, and cleared again. -/
def lampSearch : List Happening :=
  [.operate (.edit "name" (.text "desk")), .operate (.edit "status" (.choice ["off"])),
    .operate (.call .applyFilters), .operate (.call (.search "brass")),
    .receive { owner := 0, seq := 1, outcome := .error (.request "timeout") },
    .operate (.edit "name" .empty)]

/-- Only the lamps that are off are asked for. -/
def lampsOff : List Happening := [.operate .start, .operate (.edit "status" (.choice ["off"]))]

/-- The name that was looked for leaves nothing behind. -/
theorem filters_forget_past_lampSearch :
    FilterForm.Plain lampFilters ∧ lampGrid.Offers lampFilters ∧ barGrid.Offers lampFilters ∧
      (lampGrid.happenings lampSearch).request.get? "name" = some (.string "desk") ∧
      (lampGrid.happenings lampSearch).applyFilters.1.request.get? "name" = some .null ∧
      (∀ item ∈ lampFilters,
        (lampGrid.happenings lampSearch).applyFilters.1.request.get? item.field =
          (barGrid.happenings lampsOff).applyFilters.1.request.get? item.field) ∧
      ∀ item ∈ lampFilters,
        (lampGrid.happenings lampSearch).resetFilters.1.request.get? item.field =
          barGrid.start.1.request.get? item.field := by
  have hplain : FilterForm.Plain lampFilters :=
    ⟨by decide, by decide, by simp [lampFilters]⟩
  have hlamp : lampGrid.Offers lampFilters := ⟨rfl, rfl⟩
  have hbar : barGrid.Offers lampFilters := ⟨rfl, rfl⟩
  obtain ⟨happlied, hsame, -, hreset⟩ :=
    filters_forget_past hplain hlamp hbar lampSearch lampsOff
  have hname := (happlied _ List.mem_cons_self).2.2 (by decide +kernel)
  refine ⟨hplain, hlamp, hbar, by decide +kernel, hname, hsame (by decide +kernel), ?_⟩
  exact (hreset barGrid hbar rfl).2

end Grid

end RecordGrid
