/-
**Parameters and the address bar in the setup of a grid.**

A grid is set up step by step: fixed parameters are merged into its request, and at some point it is
connected to a history.  Connecting puts another store in place of the one that is there; the
parameters are carried over as a patch, and the pagination is not, since it is read from the address
bar.  So where the connection stands among the parameters does not matter to them, only to the
pagination that they name: what is named before the connection is forgotten, and what is named after
it goes through the address bar.

Main definitions:

* `RecordGrid.Patch.gathered` — the parameters that some patches come to;
* `RecordGrid.Grid.withAll` — a grid with fixed parameters merged one after the other;
* `RecordGrid.Grid.ShowsUrl` — request, address bar and pager agree.

Main results:

* `RecordGrid.Patch.ofMap_of_unreserved` — parameters that are carried over stay what they are;
* `RecordGrid.Grid.store_connect` — what a connection comes to;
* `RecordGrid.Grid.ShowsUrl.connect`, `RecordGrid.Grid.ShowsUrl.withAll` — they agree after the
  connection, and after every patch that follows;
* `RecordGrid.Grid.connect_among_params` — **what a setup comes to, wherever the connection
  stands**.
-/

import Mathlib.Data.List.Basic
import RecordGrid.Proofs.Request.Overwrite
import RecordGrid.Proofs.Request.Readers
import RecordGrid.Proofs.Request.Wire

set_option relaxedAutoImplicit false
set_option autoImplicit false

namespace RecordGrid

/-! ### Parameters -/

namespace Patch

/-- The parameters that some patches come to: those of the first one, and those of all later ones in
their place. -/
def gathered : List Patch → KeyMap Json
  | [] => .empty
  | p :: ps => p.params.union (gathered ps)

theorem gathered_append (ps qs : List Patch) :
    gathered (ps ++ qs) = (gathered ps).union (gathered qs) := by
  induction ps with
  | nil => rw [List.nil_append, gathered, KeyMap.empty_union]
  | cons p ps ih => rw [List.cons_append, gathered, ih, gathered, KeyMap.union_assoc]

theorem unreserved_gathered {ps : List Patch} (h : ∀ p ∈ ps, p.Made) :
    Unreserved (gathered ps) := by
  induction ps with
  | nil => exact Unreserved.empty
  | cons p ps ih =>
      have hp : p.Made := h p (List.mem_cons_self ..)
      exact hp.unreserved.union (ih fun q hq => h q (List.mem_cons_of_mem p hq))

/-- **Parameters that are carried over stay what they are.** -/
theorem ofMap_of_unreserved {params : KeyMap Json} (h : Unreserved params) :
    ofMap params = { params } := by
  have hkeys : ∀ e ∈ params.entries, e.1 ∉ paginationKeys := by
    rw [← Unreserved.ofList_iff, KeyMap.ofList_entries]
    exact h
  have hall : paramsOf params.entries = params.entries := by
    rw [paramsOf, List.filter_eq_self]
    intro e he
    exact decide_eq_true (hkeys e he)
  rw [ofMap_eq, h.1, h.2, hall, KeyMap.ofList_entries]
  rfl

end Patch

/-! ### Setting up a grid -/

namespace Grid

/-- The grid with fixed parameters merged one patch after the other. -/
def withAll (g : Grid) (ps : List Patch) : Grid := ps.foldl withParams g

@[simp] theorem withAll_nil (g : Grid) : g.withAll [] = g := rfl

@[simp] theorem withAll_cons (g : Grid) (p : Patch) (ps : List Patch) :
    g.withAll (p :: ps) = (g.withParams p).withAll ps := rfl

@[simp] theorem config_withAll (g : Grid) (ps : List Patch) : (g.withAll ps).config = g.config := by
  induction ps generalizing g with
  | nil => rfl
  | cons p ps ih => exact ih (g.withParams p)

theorem params_withParams (g : Grid) (p : Patch) :
    (g.withParams p).request.params = g.request.params.union p.params :=
  g.coordinator.store.params_merge p

/-- Patches leave their parameters over those that were there. -/
theorem params_withAll (g : Grid) (ps : List Patch) :
    (g.withAll ps).request.params = g.request.params.union (Patch.gathered ps) := by
  induction ps generalizing g with
  | nil => simp [Patch.gathered]
  | cons p ps ih =>
      rw [withAll_cons, ih, params_withParams, KeyMap.union_assoc, Patch.gathered]

/-- A connection puts another store in place of the one that is there, and shows it in the pager. -/
theorem connect_eq {g : Grid} {config : UrlPagingConfig}
    (hc : g.config.urlPaging = some config) (history : History) :
    g.connect history =
      { g with
        coordinator :=
          { g.coordinator with store := (g.connect history).coordinator.store }.syncPager } := by
  rw [connect, hc]
  rfl

/-- **What a connection comes to**: the store begins where the address bar is, with the parameters
that were there before. -/
theorem store_connect {g : Grid} {config : UrlPagingConfig}
    (hc : g.config.urlPaging = some config) (hfree : Unreserved g.request.params)
    (history : History) :
    (g.connect history).coordinator.store =
      { request :=
          { Request.ofPage (UrlPaging.readAddress config history.current).1
              (UrlPaging.readAddress config history.current).2 with
            params := g.request.params }
        paging := some (.ofHistory config history) } := by
  have hstore : (g.connect history).coordinator.store =
      (Store.ofPaging (.ofHistory config history)).merge (.ofMap g.request.params) := by
    rw [connect, hc]
    rfl
  rw [hstore, Patch.ofMap_of_unreserved hfree, Store.merge_of_not_touches rfl, Store.setParams]
  show Store.mk { Request.ofPage _ _ with params := KeyMap.empty.union g.request.params } _ = _
  rw [KeyMap.empty_union]
  rfl

/-! ### Request, address bar and pager -/

/-- Request, address bar and pager hold the same page and page size. -/
structure ShowsUrl (g : Grid) (u : UrlPaging) : Prop where
  /-- The request holds what the address bar does. -/
  store : g.coordinator.store.InStep u
  /-- The pager shows it. -/
  pager : (g.pager.current, g.pager.size) = u.pagination

namespace ShowsUrl

variable {g : Grid} {u : UrlPaging}

/-- A coordinator that shows its request in the pager shows the address bar there. -/
theorem of_syncPager {c : Coordinator} (h : c.store.InStep u) (hg : g.coordinator = c.syncPager) :
    g.ShowsUrl u := by
  obtain ⟨hpage, hsize⟩ := Prod.mk.inj h.request
  constructor
  · rw [hg]
    exact h
  · rw [Grid.pager, hg]
    refine Prod.ext ?_ ?_
    · show c.store.request.page.positive = u.page
      rw [hpage]
      exact Count.positive_eq_self_iff.2 h.positive.page
    · show c.store.request.size.positive = u.size
      rw [hsize]
      exact Count.positive_eq_self_iff.2 h.positive.size

/-- **They agree after the connection**, on what stands in the address bar. -/
theorem connect {config : UrlPagingConfig} (hc : g.config.urlPaging = some config)
    (hfree : Unreserved g.request.params) (history : History) :
    (g.connect history).ShowsUrl (.ofHistory config history) := by
  have hpos : (UrlPaging.ofHistory config history).Positive := .ofHistory config history
  refine of_syncPager ?_ (congrArg Grid.coordinator (connect_eq hc history))
  show (g.connect history).coordinator.store.InStep _
  rw [store_connect hc hfree]
  exact ⟨rfl, (Store.InStep.ofPaging hpos).request, hpos⟩

/-- **They agree after a patch**, which goes through the address bar if it names a page or a page
size. -/
theorem withParams (h : g.ShowsUrl u) (p : Patch) :
    (g.withParams p).ShowsUrl (u.change (.merge p)) :=
  of_syncPager (c := g.coordinator.merge p) (h.store.step (.merge p)) rfl

theorem withAll (h : g.ShowsUrl u) (ps : List Patch) :
    (g.withAll ps).ShowsUrl (u.changes (ps.map .merge)) := by
  induction ps generalizing g u with
  | nil => exact h
  | cons p ps ih => exact ih (h.withParams p)

end ShowsUrl

/-! ### The connection among the parameters -/

/-- **What a setup comes to, wherever the connection stands.**  Take a grid that is to keep its
pagination in the address bar, and let fixed parameters be merged into its request before and after
it is connected to a history, by patches made in any way.

* The parameters of the request are those that all the patches come to, in their order.
* The connection leaves the history as it is, and request and pager hold what is read there,
  whatever was asked for before.
* The patches after it go through the address bar, and at the end request, address bar and pager
  hold the same page and page size. -/
theorem connect_among_params {id : Nat} {config : GridConfig} {schema : List Column}
    {url : UrlPagingConfig} (hurl : config.urlPaging = some url) (history : History)
    {before : List Patch} (hbefore : ∀ p ∈ before, p.Made) (after : List Patch) :
    ∃ connected done u,
      connected = ((ofSchema id config schema).withAll before).connect history ∧
      done = connected.withAll after ∧
      done.request.params = Patch.gathered (before ++ after) ∧
      connected.coordinator.store.history? = some history ∧
      (connected.request.page, connected.request.size) =
        UrlPaging.readAddress url history.current ∧
      (connected.pager.current, connected.pager.size) =
        UrlPaging.readAddress url history.current ∧
      u = (UrlPaging.ofHistory url history).changes (after.map .merge) ∧
      done.coordinator.store.paging = some u ∧
      (done.request.page, done.request.size) = u.pagination ∧
      (done.pager.current, done.pager.size) = u.pagination := by
  have hparams : ((ofSchema id config schema).withAll before).request.params =
      Patch.gathered before := by
    rw [params_withAll]
    exact KeyMap.empty_union _
  have hfree : Unreserved ((ofSchema id config schema).withAll before).request.params := by
    rw [hparams]
    exact Patch.unreserved_gathered hbefore
  have hc : ((ofSchema id config schema).withAll before).config.urlPaging = some url := by
    rw [config_withAll]
    exact hurl
  have hconnected := ShowsUrl.connect hc hfree history
  have hdone := hconnected.withAll after
  refine ⟨_, _, _, rfl, rfl, ?_, ?_, hconnected.store.request, hconnected.pager, rfl,
    hdone.store.paging, hdone.store.request, hdone.pager⟩
  · rw [params_withAll, Grid.request, Coordinator.request, store_connect hc hfree]
    show KeyMap.union _ _ = _
    rw [hparams, Patch.gathered_append]
  · rw [Store.history?, hconnected.store.paging]
    rfl

/-- A list of people, on the fourth page. -/
def peopleHistory : History :=
  .ofAddress { path := "/people", query := [("page", "4"), ("q", "x")] }

/-- Parameters of that list, and a page that is forgotten. -/
def peopleFirst : List Patch :=
  [.ofPairs [("kind", .string "staff"), ("page", .ofCount 7)], .search "ann"]

/-- Parameters that are merged later, and a page size for the address bar. -/
def peopleThen : List Patch := [.search "bob", .withSize (.ofPairs [("team", .string "red")]) 50]

/-- The page is the one of the address bar, the page size the one asked for, and the later search
counts. -/
theorem connect_among_params_people :
    ({ urlPaging := some {} } : GridConfig).urlPaging = some {} ∧ (∀ p ∈ peopleFirst, p.Made) ∧
      ∃ connected done,
        connected = ((ofSchema 1 { urlPaging := some {} } []).withAll peopleFirst).connect
          peopleHistory ∧
        done = connected.withAll peopleThen ∧
        (connected.request.page, connected.request.size) = (4, 20) ∧
        (done.request.page, done.request.size) = (1, 50) ∧
        done.request.params = .ofList
          [("kind", .string "staff"), ("search", .string "bob"), ("team", .string "red")] := by
  have hurl : ({ urlPaging := some {} } : GridConfig).urlPaging = some {} := rfl
  have hmade : ∀ p ∈ peopleFirst, p.Made := by
    intro p hp
    rcases List.mem_pair.1 hp with rfl | rfl
    · exact .ofPairs _
    · exact .search _
  obtain ⟨connected, done, u, hconnected, hdone, hparams, -, hread, -, hu, -, hrequest, -⟩ :=
    @connect_among_params 1 _ [] {} hurl peopleHistory _ hmade peopleThen
  refine ⟨hurl, hmade, connected, done, hconnected, hdone, hread.trans (by decide), ?_, ?_⟩
  · rw [hrequest, hu]
    decide
  · rw [hparams]
    decide

end Grid

end RecordGrid
