/-
**The first load of a grid.**

The first load brings together what the setup has left in three places: the page and the page size
that stand in the address bar, the parameters that were merged into the request, and the defaults of
the filters.  The defaults go into the request as a patch, and a load with a patch goes out even
while the host is loading.  As long as no patch names a page or a page size, nothing is written to
the address bar on the way, so whatever stands there is read once and left as it is.

A grid is set up in steps that may come in any order, some of them several times.  What counts in
the end are all the patches in their order, and of everything else the last word.

Main definitions:

* `RecordGrid.Grid.SetupStep`, `RecordGrid.Grid.setUp` — the steps of a setup, and what they do;
* `RecordGrid.Grid.SetUpBy` — what is known of a grid after some of them.

Main results:

* `RecordGrid.Grid.SetUpBy.step`, `RecordGrid.Grid.SetUpBy.run` — it is known after every setup that
  leaves the pagination alone;
* `RecordGrid.Grid.Offers.store_start` — the store after the first load;
* `RecordGrid.Grid.first_load_from_url` — **what the first load asks for, and what it leaves as it
  is**.
-/

import RecordGrid.Proofs.Grid.Filters
import RecordGrid.Proofs.Grid.Setup

set_option relaxedAutoImplicit false
set_option autoImplicit false

namespace RecordGrid.Grid

/-! ### Steps of a setup -/

/-- What can be done to a grid before it starts. -/
inductive SetupStep where
  /-- Fixed parameters are merged into the request. -/
  | params (p : Patch)
  | connect (history : History)
  | filters (items : List FilterItem)
  | edit (field : String) (value : FilterValue)
  /-- The grid gets something to fetch with. -/
  | fetcher
  /-- The grid is told what to do to a request before it is sent. -/
  | prepare (hook : Request → Request)
  /-- The grid is told what to do to a listing before it is handed back. -/
  | finish (hook : Listing → Outcome)
  /-- The host says whether it is loading, or stops saying so. -/
  | external (loading : Option Bool)

namespace SetupStep

/-- The fixed parameters of a step. -/
def patch? : SetupStep → Option Patch
  | .params p => some p
  | _ => none

/-- The history that a step connects to. -/
def history? : SetupStep → Option History
  | .connect history => some history
  | _ => none

/-- The filters that a step brings. -/
def items? : SetupStep → Option (List FilterItem)
  | .filters items => some items
  | _ => none

end SetupStep

/-- What a step does. -/
def setUpStep (g : Grid) : SetupStep → Grid
  | .params p => g.withParams p
  | .connect history => g.connect history
  | .filters items => g.withFilters items
  | .edit field value => g.edit field value
  | .fetcher => g.withCoordinator fun c => { c with canFetch := true }
  | .prepare hook => g.withCoordinator fun c => { c with prepare := hook }
  | .finish hook => g.withCoordinator fun c => { c with finish := hook }
  | .external loading => g.withCoordinator fun c => { c with external := loading }

/-- A grid after the steps of a setup. -/
def setUp (g : Grid) (steps : List SetupStep) : Grid := steps.foldl setUpStep g

@[simp] theorem setUp_nil (g : Grid) : g.setUp [] = g := rfl

@[simp] theorem setUp_cons (g : Grid) (c : SetupStep) (steps : List SetupStep) :
    g.setUp (c :: steps) = (g.setUpStep c).setUp steps := rfl

/-! ### What is known after a setup -/

/-- **What is known of a grid after the steps `past`**, if they leave the pagination alone: its
parameters are those of all the patches, and its filters and its address bar are those that came
last. -/
structure SetUpBy (g : Grid) (url : UrlPagingConfig) (past : List SetupStep) : Prop where
  /-- The grid is to load when it starts. -/
  autoLoad : g.config.autoLoad = true
  /-- The pagination is to be kept in the address bar. -/
  urlPaging : g.config.urlPaging = some url
  /-- The parameters are those of all the patches. -/
  params : g.request.params = Patch.gathered (past.filterMap SetupStep.patch?)
  /-- There is something to fetch with as soon as it was given. -/
  canFetch : .fetcher ∈ past → g.coordinator.canFetch = true
  /-- The filters are those given last. -/
  items : g.filters.map (·.items) = (past.filterMap SetupStep.items?).getLast?
  /-- Request and pager show the address bar connected last. -/
  shows : ∀ history, (past.filterMap SetupStep.history?).getLast? = some history →
    g.ShowsUrl (.ofHistory url history)

namespace SetUpBy

variable {g : Grid} {url : UrlPagingConfig} {past : List SetupStep}

theorem nil {id : Nat} {config : GridConfig} {schema : List Column}
    (hauto : config.autoLoad = true) (hurl : config.urlPaging = some url) :
    (ofSchema id config schema).SetUpBy url [] where
  autoLoad := hauto
  urlPaging := hurl
  params := rfl
  canFetch := nofun
  items := rfl
  shows := nofun

/-- A step that brings no patch, filters or history keeps what is known, if it changes none of what
these have led to. -/
theorem quiet (h : g.SetUpBy url past) {c : SetupStep} {g' : Grid}
    (hconfig : g'.config = g.config) (hstore : g'.coordinator.store = g.coordinator.store)
    (hpager : g'.coordinator.pager = g.coordinator.pager)
    (hitems : g'.filters.map (·.items) = g.filters.map (·.items))
    (hfetch : c = .fetcher ∨ g.coordinator.canFetch = true → g'.coordinator.canFetch = true)
    (hpatch : c.patch? = none) (hhistory : c.history? = none) (hnew : c.items? = none) :
    g'.SetUpBy url (past ++ [c]) := by
  have hrequest : g'.request = g.request := congrArg Store.request hstore
  refine ⟨hconfig ▸ h.autoLoad, hconfig ▸ h.urlPaging, ?_, fun hm => hfetch ?_, ?_,
    fun history hlast => ?_⟩
  · simpa [hrequest, hpatch] using h.params
  · rcases List.mem_append.1 hm with hm | hm
    · exact Or.inr (h.canFetch hm)
    · exact Or.inl (List.mem_singleton.1 hm).symm
  · simpa [hitems, hnew] using h.items
  · have hshows := h.shows history (by simpa [hhistory] using hlast)
    exact ⟨hstore ▸ hshows.store, by rw [Grid.pager, hpager]; exact hshows.pager⟩

/-- Fixed parameters join the others, and leave the address bar alone. -/
theorem withParams (h : g.SetUpBy url past) {p : Patch} (hp : p.touchesPagination = false) :
    (g.withParams p).SetUpBy url (past ++ [.params p]) := by
  refine ⟨h.autoLoad, h.urlPaging, ?_, fun hm => h.canFetch (by simpa using hm), ?_,
    fun history hlast => ?_⟩
  · rw [params_withParams, h.params, List.filterMap_append, Patch.gathered_append]
    exact congrArg _ (KeyMap.union_empty _).symm
  · show g.filters.map (·.items) = _
    simpa [SetupStep.items?] using h.items
  · have hshows := (h.shows history (by simpa [SetupStep.history?] using hlast)).withParams p
    -- a patch that leaves the pagination alone does not reach the address bar
    have hstays : (UrlPaging.ofHistory url history).change (.merge p) =
        .ofHistory url history := by
      simp [UrlPaging.change, hp]
    rwa [hstays] at hshows

/-- A connection carries the parameters over, and shows its own address bar. -/
theorem connect (h : g.SetUpBy url past)
    (hmade : ∀ p ∈ past.filterMap SetupStep.patch?, p.Made) (history : History) :
    (g.connect history).SetUpBy url (past ++ [.connect history]) := by
  -- no parameter that is carried over is taken for a page or a page size
  have hfree : Unreserved g.request.params := by
    rw [h.params]
    exact Patch.unreserved_gathered hmade
  have hparams : (g.connect history).request.params = g.request.params := by
    rw [Grid.request, Coordinator.request, store_connect h.urlPaging hfree]
  refine ⟨?_, ?_, ?_, fun hm => ?_, ?_, fun history' hlast => ?_⟩
  · rw [connect_eq h.urlPaging]
    exact h.autoLoad
  · rw [connect_eq h.urlPaging]
    exact h.urlPaging
  · simpa [hparams, List.filterMap_cons, SetupStep.patch?] using h.params
  · rw [connect_eq h.urlPaging]
    exact h.canFetch (by simpa using hm)
  · rw [connect_eq h.urlPaging]
    simpa [SetupStep.items?] using h.items
  · obtain rfl : history = history' := by simpa [SetupStep.history?] using hlast
    exact ShowsUrl.connect h.urlPaging hfree history

/-- New filters take the place of the old ones. -/
theorem withFilters (h : g.SetUpBy url past) (items : List FilterItem) :
    (g.withFilters items).SetUpBy url (past ++ [.filters items]) := by
  refine ⟨h.autoLoad, h.urlPaging, ?_, fun hm => h.canFetch (by simpa using hm), ?_,
    fun history hlast => ?_⟩
  · show g.request.params = _
    simpa [List.filterMap_cons, SetupStep.patch?] using h.params
  · show some items = _
    simp [SetupStep.items?]
  · have hshows := h.shows history (by simpa [SetupStep.history?] using hlast)
    exact ⟨hshows.store, hshows.pager⟩

/-- **One step keeps what is known**, if it leaves the pagination alone. -/
theorem step (h : g.SetUpBy url past) {c : SetupStep}
    (hmade : ∀ p ∈ past.filterMap SetupStep.patch?, p.Made)
    (hkeep : ∀ p, c.patch? = some p → p.touchesPagination = false) :
    (g.setUpStep c).SetUpBy url (past ++ [c]) := by
  cases c with
  | params p => exact h.withParams (hkeep p rfl)
  | connect history => exact h.connect hmade history
  | filters items => exact h.withFilters items
  | edit field value =>
      rw [setUpStep, edit_eq]
      refine h.quiet rfl rfl rfl ?_ (fun hf => hf.resolve_left nofun) rfl rfl rfl
      simp only [Option.map_map, Function.comp_def, FilterForm.items_edit]
  | fetcher => exact h.quiet rfl rfl rfl rfl (fun _ => rfl) rfl rfl rfl
  | prepare hook => exact h.quiet rfl rfl rfl rfl (fun hf => hf.resolve_left nofun) rfl rfl rfl
  | finish hook => exact h.quiet rfl rfl rfl rfl (fun hf => hf.resolve_left nofun) rfl rfl rfl
  | external loading =>
      exact h.quiet rfl rfl rfl rfl (fun hf => hf.resolve_left nofun) rfl rfl rfl

/-- **It is known after every setup** that leaves the pagination alone. -/
theorem run (h : g.SetUpBy url past) {steps : List SetupStep}
    (hmade : ∀ p ∈ (past ++ steps).filterMap SetupStep.patch?, p.Made)
    (hkeep : ∀ p ∈ steps.filterMap SetupStep.patch?, p.touchesPagination = false) :
    (g.setUp steps).SetUpBy url (past ++ steps) := by
  induction steps generalizing g past with
  | nil => simpa using h
  | cons c steps ih =>
      have hstep : (g.setUpStep c).SetUpBy url (past ++ [c]) := by
        refine h.step (fun p hp => hmade p ?_) fun p hp => hkeep p ?_
        · rw [List.filterMap_append]
          exact List.mem_append_left _ hp
        · rw [List.filterMap_cons_some hp]
          exact List.mem_cons_self ..
      have hrest : ∀ p ∈ steps.filterMap SetupStep.patch?, p.touchesPagination = false := by
        intro p hp
        refine hkeep p ?_
        rw [← List.singleton_append, List.filterMap_append]
        exact List.mem_append_right _ hp
      simpa using ih hstep (by simpa using hmade) hrest

end SetUpBy

/-! ### The first load -/

/-- The store after the first load: the defaults of the filters are merged. -/
theorem Offers.store_start {g : Grid} {items : List FilterItem} (h : g.Offers items)
    (hauto : g.config.autoLoad = true) :
    g.start.1.coordinator.store =
      g.coordinator.store.merge (FilterForm.ofItems items).defaultPatch := by
  rw [h.start_eq hauto, load_of_canFetch h.canFetch]
  exact g.coordinator.store_mergeShown _

/-- **The first load asks for the page of the address bar, and leaves the address bar alone.**  Set
up a grid that loads when it starts and keeps its pagination in the address bar: connect it to a
history, give it filters and something to fetch with, and in between and in any order merge fixed
parameters, edit values of the filter form, set hooks, and let the host say whether it is loading.
Let neither the fixed parameters nor the defaults of the filters name a page or a page size.

Then the first load goes out, even if the host is loading.  Before it is prepared for sending, its
request has the page and the page size that are read from the address bar, whatever stands there,
and as parameters those of all the patches in their order, with those of the defaults in their
place.  The history is the one that the grid was connected to last, before the first load and after
it. -/
theorem first_load_from_url {id : Nat} {config : GridConfig} {schema : List Column}
    {url : UrlPagingConfig} (hurl : config.urlPaging = some url) (hauto : config.autoLoad = true)
    {steps : List SetupStep} {history : History} {items : List FilterItem}
    (hfetch : .fetcher ∈ steps)
    (hhistory : (steps.filterMap SetupStep.history?).getLast? = some history)
    (hitems : (steps.filterMap SetupStep.items?).getLast? = some items)
    (hmade : ∀ p ∈ steps.filterMap SetupStep.patch?, p.Made)
    (hkeep : ∀ p ∈ steps.filterMap SetupStep.patch?, p.touchesPagination = false)
    (hdefaults : (FilterForm.ofItems items).defaultPatch.touchesPagination = false)
    {g : Grid} (hg : g = (ofSchema id config schema).setUp steps) :
    (∃ f, g.start.2.fetch = some f ∧ f.request = g.coordinator.prepare g.start.1.request) ∧
      (g.start.1.request.page, g.start.1.request.size) =
        UrlPaging.readAddress url history.current ∧
      g.start.1.request.params =
        (Patch.gathered (steps.filterMap SetupStep.patch?)).union
          (FilterForm.ofItems items).defaultPatch.params ∧
      g.coordinator.store.history? = some history ∧
      g.start.1.coordinator.store.history? = some history := by
  have h : g.SetUpBy url steps := hg ▸ (SetUpBy.nil hauto hurl).run hmade hkeep
  have hoffers : g.Offers items := ⟨h.canFetch hfetch, h.items.trans hitems⟩
  have hshows : g.ShowsUrl (.ofHistory url history) := h.shows history hhistory
  -- the defaults are merged without going through the address bar
  have hstore : g.start.1.coordinator.store =
      { g.coordinator.store with
        request := Store.setParams g.request (FilterForm.ofItems items).defaultPatch } := by
    rw [hoffers.store_start h.autoLoad, Store.merge_of_not_touches hdefaults]
    rfl
  refine ⟨hoffers.fetch_start h.autoLoad, ?_, ?_, ?_, ?_⟩
  · rw [Grid.request, Coordinator.request, hstore]
    exact hshows.store.request
  · rw [Grid.request, Coordinator.request, hstore, ← h.params]
    rfl
  · rw [Store.history?, hshows.store.paging]
    rfl
  · rw [Store.history?, hstore, hshows.store.paging]
    rfl

/-- An address that nobody would write this way, after another one. -/
def untidyHistory : History :=
  { current :=
      { path := "/disks",
        query := [("page", " +3"), ("q", "x"), ("pageSize", "0"), ("page", "9")] }
    earlier := [.ofPath "/"] }

/-- A text that starts with a value, and a filter that asks for one kind whatever its value is. -/
def diskFilters : List FilterItem :=
  [{ field := "state", label := "State", kind := .input, default := .text "on" },
    { field := "kind", label := "Kind", kind := .custom
      mapping := some fun _ => .ofPairs [("kind", .string "nvme")] }]

/-- A grid of disks is set up while the host is loading. -/
def diskSetup : List SetupStep :=
  [.external (some true), .params (.ofPairs [("kind", .string "ssd"), ("sort", .string "name")]),
    .filters diskFilters, .connect untidyHistory, .edit "state" (.text "off"), .fetcher,
    .prepare (·.set "via" (.string "grid")), .params (.search "web")]

/-- The third page is asked for, of fifty disks each, and the filters have the last word. -/
theorem first_load_from_url_disks :
    (∀ p ∈ diskSetup.filterMap SetupStep.patch?, p.Made ∧ p.touchesPagination = false) ∧
      (FilterForm.ofItems diskFilters).defaultPatch.touchesPagination = false ∧
      ∃ g f, g = (ofSchema 1 { urlPaging := some { defaultSize := 50 } } []).setUp diskSetup ∧
        g.loading = true ∧ g.start.2.fetch = some f ∧
        (f.request.page, f.request.size) = (3, 50) ∧
        f.request.params = .ofList
          [("kind", .string "nvme"), ("search", .string "web"), ("sort", .string "name"),
            ("state", .string "on"), ("via", .string "grid")] ∧
        g.start.1.coordinator.store.history? = some untidyHistory := by
  have hmade : ∀ p ∈ diskSetup.filterMap SetupStep.patch?, p.Made := by
    intro p hp
    rcases List.mem_pair.1 hp with rfl | rfl
    · exact .ofPairs _
    · exact .search _
  have hkeep : ∀ p ∈ diskSetup.filterMap SetupStep.patch?, p.touchesPagination = false := by
    decide
  have hdefaults : (FilterForm.ofItems diskFilters).defaultPatch.touchesPagination = false := by
    decide
  obtain ⟨⟨f, hf, hsent⟩, hread, hparams, -, hafter⟩ :=
    @first_load_from_url 1 { urlPaging := some { defaultSize := 50 } } [] _ rfl rfl diskSetup
      untidyHistory diskFilters (by simp [diskSetup]) rfl rfl hmade hkeep hdefaults _ rfl
  refine ⟨fun p hp => ⟨hmade p hp, hkeep p hp⟩, hdefaults, _, f, rfl, rfl, hf, ?_, ?_, hafter⟩
  · rw [hsent]
    exact hread.trans (by decide)
  · rw [hsent]
    show KeyMap.insert _ "via" (Json.string "grid") = _
    rw [hparams]
    decide

end RecordGrid.Grid
