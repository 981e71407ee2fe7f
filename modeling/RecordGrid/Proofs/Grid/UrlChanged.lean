/-
**A grid that follows the address bar comes to rest.**

When the host reports that the address bar has changed, a grid loads the page that stands there,
and to do so it rewrites the very parameters that it has just read.  The rewrite is a normal form:
it reads as the same page and page size, and rewriting it again changes nothing.  A host that
reports every change of the address bar, the grid's own included, is therefore answered with the
same fetch each time and sees no further change.

Main definitions:

* `RecordGrid.UrlPaging.follow`, `RecordGrid.Store.follow` — takes over what stands in the address
  bar, and writes it back;
* `RecordGrid.Grid.Report`, `RecordGrid.Grid.reports` — what a host hands to a grid, and a grid
  after a list of that;
* `RecordGrid.Grid.AtRest` — following the address bar would change nothing.

Main results:

* `RecordGrid.UrlPaging.follow_follow`, `RecordGrid.Store.follow_follow` — **following the address
  bar twice is following it once**;
* `RecordGrid.Grid.urlChanged_of_paging` — what a report amounts to;
* `RecordGrid.Grid.urlChanged_comes_to_rest` — **one rewrite is enough**.
-/

import RecordGrid.Grid.Actions
import RecordGrid.Proofs.Fetch.Basic
import RecordGrid.Proofs.Request.Synced

set_option relaxedAutoImplicit false
set_option autoImplicit false

namespace RecordGrid

/-! ### Following the address bar -/

namespace UrlPaging

/-- Takes over the page and page size that stand in the address bar, and writes them back. -/
def follow (u : UrlPaging) : UrlPaging := u.paginate (some u.readUrl.1) (some u.readUrl.2)

/-- The patch that asks for the page and page size that stand in the address bar. -/
def readPatch (u : UrlPaging) : Patch := (Patch.ofPage u.readUrl.1).withSize u.readUrl.2

@[simp] theorem config_follow (u : UrlPaging) : u.follow.config = u.config := rfl

theorem positive_readUrl (u : UrlPaging) :
    u.readUrl.1.positive = u.readUrl.1 ∧ u.readUrl.2.positive = u.readUrl.2 :=
  ⟨Count.positive_eq_self_iff.2 (bounds_page_readAddress u.config u.history.current).1,
    Count.positive_eq_self_iff.2 (bounds_size_readAddress u.config u.history.current).1⟩

/-- Following the address bar, in one equation. -/
theorem follow_eq (u : UrlPaging) :
    u.follow =
      { config := u.config
        history :=
          { u.history with
            current :=
              writeAddress u.config u.history.current (some u.readUrl.1) (some u.readUrl.2) }
        page := u.readUrl.1
        size := u.readUrl.2 } := by
  obtain ⟨hpage, hsize⟩ := u.positive_readUrl
  simp only [follow, paginate, nextPage, nextSize, hpage, hsize]
  rfl

@[simp] theorem pagination_follow (u : UrlPaging) : u.follow.pagination = u.readUrl := by
  rw [follow_eq]
  rfl

theorem history_follow (u : UrlPaging) :
    u.follow.history =
      { u.history with
        current :=
          writeAddress u.config u.history.current (some u.readUrl.1) (some u.readUrl.2) } := by
  rw [follow_eq]

/-- **What is written reads as before.** -/
@[simp] theorem readUrl_follow (u : UrlPaging) : u.follow.readUrl = u.readUrl := by
  rw [readUrl, config_follow, history_follow]
  exact readAddress_writeAddress_readAddress u.config u.history.current u.history.current

@[simp] theorem others_follow (u : UrlPaging) :
    u.config.others u.follow.history.current.query =
      u.config.others u.history.current.query := by
  rw [history_follow]
  exact others_writeAddress u.config u.history.current _ _

/-- **Following the address bar twice is following it once.** -/
theorem follow_follow (u : UrlPaging) : u.follow.follow = u.follow := by
  rw [follow_eq u.follow, readUrl_follow, config_follow, history_follow, writeAddress_writeAddress,
    follow_eq u]

end UrlPaging

namespace Store

/-- Takes over the page and page size that stand in the address bar, and writes them back. -/
def follow (s : Store) : Store :=
  match s.paging with
  | none => s
  | some u => { request := s.request.setPagination u.readUrl, paging := some u.follow }

theorem follow_of_paging {s : Store} {u : UrlPaging} (h : s.paging = some u) :
    s.follow = { request := s.request.setPagination u.readUrl, paging := some u.follow } := by
  rw [follow, h]

/-- **Following the address bar twice is following it once.** -/
theorem follow_follow (s : Store) : s.follow.follow = s.follow := by
  cases h : s.paging with
  | none =>
      have hs : s.follow = s := by rw [follow, h]
      rw [hs, hs]
  | some u =>
      rw [follow_of_paging h, follow_of_paging (u := u.follow) rfl, UrlPaging.readUrl_follow,
        UrlPaging.follow_follow]
      rfl

theorem request_follow {s : Store} {u : UrlPaging} (h : s.paging = some u) :
    s.follow.request.page = u.readUrl.1 ∧ s.follow.request.size = u.readUrl.2 := by
  rw [follow_of_paging h]
  exact u.positive_readUrl

/-- Merging what stands in the address bar is following it. -/
theorem merge_readPatch {s : Store} {u : UrlPaging} (h : s.paging = some u) :
    s.merge u.readPatch = s.follow := by
  rw [merge_of_touches h rfl, follow_of_paging h, ← UrlPaging.pagination_follow]
  rfl

end Store

/-! ### Reports -/

namespace Grid

/-- **What a report of the address bar amounts to**: the page that stands there is asked for, and
fetched. -/
theorem urlChanged_of_paging {g : Grid} {u : UrlPaging} (hf : g.coordinator.canFetch = true)
    (hu : g.coordinator.store.paging = some u) :
    g.urlChanged =
      ({ g with coordinator := (g.coordinator.mergeShown u.readPatch).issue.1 },
        { fetch := some (g.coordinator.mergeShown u.readPatch).issue.2 }) := by
  rw [urlChanged, hu]
  show g.load (some u.readPatch) [] = _
  rw [load, Coordinator.load_some _ _ hf]

/-- The store follows the address bar, a fetch is issued, and the pager may move. -/
theorem coordinator_urlChanged {g : Grid} {u : UrlPaging} (hf : g.coordinator.canFetch = true)
    (hu : g.coordinator.store.paging = some u) :
    g.urlChanged.1.coordinator =
      { g.coordinator with
        store := g.coordinator.store.follow
        pager := (g.coordinator.mergeShown u.readPatch).pager
        fetching := true
        issued := g.coordinator.issued + 1 } := by
  -- merging what was read from the address bar is what following it does to the store
  have hmerge := g.coordinator.mergeShown_eq u.readPatch
  rw [Store.merge_readPatch hu] at hmerge
  rw [urlChanged_of_paging hf hu]
  show (g.coordinator.mergeShown u.readPatch).issue.1 = _
  rw [hmerge]
  rfl

theorem fetch_urlChanged {g : Grid} {u : UrlPaging} (hf : g.coordinator.canFetch = true)
    (hu : g.coordinator.store.paging = some u) :
    ∃ f, g.urlChanged.2.fetch = some f ∧
      f.request = g.coordinator.prepare g.coordinator.store.follow.request := by
  refine ⟨_, by rw [urlChanged_of_paging hf hu], ?_⟩
  rw [← Store.merge_readPatch hu, ← Coordinator.store_mergeShown, Coordinator.mergeShown_eq]
  rfl

theorem pager_urlChanged {g : Grid} {u : UrlPaging} (hf : g.coordinator.canFetch = true)
    (hu : g.coordinator.store.paging = some u) :
    (g.urlChanged.1.pager.current, g.urlChanged.1.pager.size) = u.readUrl := by
  obtain ⟨hpage, hsize⟩ := Store.request_follow hu
  have hpager : g.urlChanged.1.pager =
      (g.coordinator.pager.setCurrent u.readUrl.1).setSize u.readUrl.2 := by
    rw [urlChanged_of_paging hf hu]
    show (g.coordinator.mergeShown u.readPatch).pager = _
    rw [Coordinator.pager_mergeShown, Store.merge_readPatch hu, hpage, hsize]
    rfl
  rw [hpager]
  exact Prod.ext u.positive_readUrl.1 u.positive_readUrl.2

theorem coordinator_receive (g : Grid) (a : Arrival) :
    (g.receive a).1.coordinator = (g.coordinator.receive a).coordinator := by
  by_cases ho : a.owner = g.coordinator.id
  · simp [receive, Coordinator.consumed_receive_iff.2 ho]
  · simp [receive, Coordinator.receive_foreign ho]

/-- What a host hands to a grid that follows the address bar. -/
inductive Report where
  /-- The address bar has changed. -/
  | urlChanged
  /-- A fetch has ended. -/
  | receive (a : Arrival)

/-- A grid after a report. -/
def report (g : Grid) : Report → Grid
  | .urlChanged => g.urlChanged.1
  | .receive a => (g.receive a).1

/-- A grid after a list of reports. -/
def reports (g : Grid) (rs : List Report) : Grid := rs.foldl report g

@[simp] theorem reports_nil (g : Grid) : g.reports [] = g := rfl

@[simp] theorem reports_cons (g : Grid) (r : Report) (rs : List Report) :
    g.reports (r :: rs) = (g.report r).reports rs := rfl

/-- Following the address bar would change nothing. -/
structure AtRest (g : Grid) : Prop where
  /-- There is something to fetch with. -/
  canFetch : g.coordinator.canFetch = true
  /-- The pagination is kept in the address bar. -/
  synced : ∃ u, g.coordinator.store.paging = some u
  /-- The address bar says what the store holds. -/
  follow : g.coordinator.store.follow = g.coordinator.store

namespace AtRest

/-- A report to a grid at rest changes what is shown and what is under way, and nothing else. -/
theorem coordinator_report {g : Grid} (h : g.AtRest) (r : Report) :
    (g.report r).coordinator =
      { g.coordinator with
        rows := (g.report r).coordinator.rows
        summary := (g.report r).coordinator.summary
        pager := (g.report r).coordinator.pager
        fetching := (g.report r).coordinator.fetching
        issued := (g.report r).coordinator.issued } := by
  cases r with
  | urlChanged =>
      obtain ⟨u, hu⟩ := h.synced
      -- the only part of the equation that a grid at rest does not have already is the store
      simp only [Grid.report, coordinator_urlChanged h.canFetch hu, h.follow]
  | receive a =>
      rw [report, coordinator_receive, Coordinator.coordinator_receive_eq]

theorem report {g : Grid} (h : g.AtRest) (r : Report) : (g.report r).AtRest := by
  have hr := h.coordinator_report r
  constructor
  · rw [hr]
    exact h.canFetch
  · rw [hr]
    exact h.synced
  · rw [hr]
    exact h.follow

/-- **A grid at rest stays at rest**, with the same store and the same requests. -/
theorem reports {g : Grid} (h : g.AtRest) (rs : List Report) :
    (g.reports rs).AtRest ∧ (g.reports rs).coordinator.store = g.coordinator.store ∧
      (g.reports rs).coordinator.prepare = g.coordinator.prepare := by
  induction rs generalizing g with
  | nil => exact ⟨h, rfl, rfl⟩
  | cons r rs ih =>
      obtain ⟨hrest, hstore, hprepare⟩ := ih (h.report r)
      rw [h.coordinator_report r] at hstore hprepare
      exact ⟨hrest, hstore, hprepare⟩

end AtRest

theorem atRest_urlChanged {g : Grid} {u : UrlPaging} (hf : g.coordinator.canFetch = true)
    (hu : g.coordinator.store.paging = some u) : g.urlChanged.1.AtRest := by
  have hg := coordinator_urlChanged hf hu
  refine ⟨?_, ⟨u.follow, ?_⟩, ?_⟩
  · rw [hg]
    exact hf
  · rw [hg, Store.follow_of_paging hu]
  · rw [hg]
    exact g.coordinator.store.follow_follow

/-- **One rewrite is enough.**  When a grid with pagination in the address bar is told that the
address bar has changed, then

* it fetches, and its request, the numbers beside the history and the pager all hold the page and
  page size that stood in the address bar;
* the address bar is read as before, and the pairs that have nothing to do with pagination have kept
  their order;
* whatever else comes back, and however often the address bar is reported again, the history stays
  as it is and every further report fetches the same request. -/
theorem urlChanged_comes_to_rest {g : Grid} {u : UrlPaging} (hf : g.coordinator.canFetch = true)
    (hu : g.coordinator.store.paging = some u) :
    ∃ u' f, g.urlChanged.2.fetch = some f ∧ g.urlChanged.1.coordinator.store.paging = some u' ∧
      (g.urlChanged.1.request.page, g.urlChanged.1.request.size) = u.readUrl ∧
      u'.pagination = u.readUrl ∧
      (g.urlChanged.1.pager.current, g.urlChanged.1.pager.size) = u.readUrl ∧
      u'.config = u.config ∧ u'.readUrl = u.readUrl ∧
      u.config.others u'.history.current.query = u.config.others u.history.current.query ∧
      ∀ rs, (g.urlChanged.1.reports rs).coordinator.store = g.urlChanged.1.coordinator.store ∧
        ∃ f', (g.urlChanged.1.reports rs).urlChanged.2.fetch = some f' ∧
          f'.request = f.request := by
  obtain ⟨f, hfetch, hrequest⟩ := fetch_urlChanged hf hu
  have hg := coordinator_urlChanged hf hu
  have hpaging : g.urlChanged.1.coordinator.store.paging = some u.follow := by
    rw [hg, Store.follow_of_paging hu]
  have hpair : (g.urlChanged.1.request.page, g.urlChanged.1.request.size) = u.readUrl := by
    rw [request, Coordinator.request, hg]
    exact Prod.ext (Store.request_follow hu).1 (Store.request_follow hu).2
  refine ⟨u.follow, f, hfetch, hpaging, hpair, u.pagination_follow, pager_urlChanged hf hu, rfl,
    u.readUrl_follow, u.others_follow, fun rs => ?_⟩
  obtain ⟨hrest, hsame, hprepare⟩ := (atRest_urlChanged hf hu).reports rs
  obtain ⟨v, hv⟩ := hrest.synced
  obtain ⟨f', hfetch', hrequest'⟩ := fetch_urlChanged hrest.canFetch hv
  refine ⟨hsame, f', hfetch', ?_⟩
  rw [hrequest', hrequest, hrest.follow, hsame, hprepare, hg]

/-- One parameter for the page and the page size, with a default page size of zero. -/
def oneParam : UrlPagingConfig := { pageParam := "p", sizeParam := "p", defaultSize := 0 }

/-- An address that gives the parameter twice, and not the way it would be written. -/
def oddAddress : Address :=
  { path := "/list", query := [("p", " +05"), ("tab", "a"), ("p", "x"), ("q", "")] }

/-- A grid at that address. -/
def oddGrid : Grid :=
  { ofSchema 0 {} [] with
    coordinator :=
      { Coordinator.ofStore 0 (.ofPaging (.ofHistory oneParam (.ofAddress oddAddress))) with
        canFetch := true } }

/-- The odd address is rewritten once. -/
theorem urlChanged_comes_to_rest_oddGrid :
    oddGrid.coordinator.canFetch = true ∧
      ∃ u', oddGrid.urlChanged.1.coordinator.store.paging = some u' ∧ u'.readUrl = (5, 5) ∧
        oneParam.others u'.history.current.query = [("tab", "a"), ("q", "")] ∧
        (oddGrid.urlChanged.1.reports [.urlChanged]).coordinator.store.paging = some u' := by
  have hu : oddGrid.coordinator.store.paging =
      some (.ofHistory oneParam (.ofAddress oddAddress)) := rfl
  have hread : (UrlPaging.ofHistory oneParam (.ofAddress oddAddress)).readUrl = (5, 5) := by decide
  obtain ⟨u', f, -, hpaging, -, -, -, -, hread', hothers, hrest⟩ :=
    urlChanged_comes_to_rest (g := oddGrid) rfl hu
  refine ⟨rfl, u', hpaging, hread'.trans hread, hothers, ?_⟩
  rw [(hrest [.urlChanged]).1, hpaging]

end Grid

end RecordGrid
