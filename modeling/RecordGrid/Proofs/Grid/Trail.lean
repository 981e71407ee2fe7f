/-
**The trail of a grid.**

A grid over the address bar writes to the history of its host with almost everything that it does:
with merges, with calls that load, with calls that only turn pages, and when it follows the address
bar.  This module says of each of these what page and page size it writes, if any.  That is all the
history gets to see: the entries are those of the host, and the address bar is the host's address
with the pagination behind it.

Main definitions:

* `RecordGrid.Grid.Change` — what can happen to a grid and to the history behind it;
* `RecordGrid.Grid.change`, `RecordGrid.Grid.changes` — a grid after one change, and after a list;
* `RecordGrid.Grid.Change.pushed?`, `RecordGrid.Grid.Change.written?` — the address that a change
  pushes, and the page and page size that it writes.

Main results:

* `RecordGrid.Grid.paging_change` — **every change is a push, a turn or nothing**;
* `RecordGrid.Grid.changes_trail` — **what a run leaves behind in the history**.
-/

import RecordGrid.Proofs.Grid.Calls
import RecordGrid.Proofs.Url.Trail

set_option relaxedAutoImplicit false
set_option autoImplicit false

namespace RecordGrid

open UrlPaging (Turn)

/-- The page and page size that a patch names, if it names one of them. -/
def Patch.turn? (p : Patch) : Option Turn :=
  if p.touchesPagination then some (p.page, p.size) else none

/-- A merge turns to what the patch names. -/
theorem Store.paging_merge {s : Store} {u : UrlPaging} (hu : s.paging = some u) (p : Patch) :
    (s.merge p).paging = some (u.turn p.turn?) := by
  cases hp : p.touchesPagination with
  | false =>
      rw [merge_of_not_touches hp, Patch.turn?, if_neg (by simp [hp]), UrlPaging.turn_none]
      exact hu
  | true =>
      rw [merge_of_touches hu hp, Patch.turn?, if_pos hp]
      rfl

namespace Grid

/-! ### Changes -/

/-- What can happen to a grid over the address bar, and to the history behind it. -/
inductive Change where
  /-- A patch is merged into the request, and nothing is loaded. -/
  | merge (p : Patch)
  /-- The page or the page size is changed, and nothing is loaded. -/
  | paginate (page size : Option Count)
  /-- A call of the host. -/
  | call (c : Call)
  /-- The defaults of the filters have become known, and are not to be loaded. -/
  | filtersKnown (p : Patch)
  /-- A value is set in the filter form. -/
  | edit (field : String) (value : FilterValue)
  /-- A fetch comes back. -/
  | receive (a : Arrival)
  /-- The host reports that the address bar has changed. -/
  | urlChanged
  /-- The host navigates to an address. -/
  | push (a : Address)

/-- The grid with another store. -/
def withStore (g : Grid) (store : Store) : Grid :=
  { g with coordinator := { g.coordinator with store } }

/-- The grid after a change. -/
def change (g : Grid) : Change → Grid
  | .merge p => g.withStore (g.coordinator.store.merge p)
  | .paginate page size => g.withStore (g.coordinator.store.paginate page size)
  | .call c => (g.call c).1
  | .filtersKnown p => (g.filtersReady p false).1
  | .edit field value => g.edit field value
  | .receive a => (g.receive a).1
  | .urlChanged => g.urlChanged.1
  | .push a => g.withStore (g.coordinator.store.push a)

/-- The grid after a list of changes. -/
def changes (g : Grid) (cs : List Change) : Grid := cs.foldl change g

@[simp] theorem changes_nil (g : Grid) : g.changes [] = g := rfl

@[simp] theorem changes_cons (g : Grid) (c : Change) (cs : List Change) :
    g.changes (c :: cs) = (g.change c).changes cs := rfl

theorem changes_append (g : Grid) (cs ds : List Change) :
    g.changes (cs ++ ds) = (g.changes cs).changes ds := List.foldl_append

/-! ### What a change writes -/

/-- The page and page size that a load with a patch writes. -/
def loadTurn? (g : Grid) (patch : Option Patch) : Option Turn :=
  if g.coordinator.canFetch then patch.bind Patch.turn? else none

@[simp] theorem loadTurn?_none (g : Grid) : g.loadTurn? none = none := by
  unfold loadTurn?
  split <;> rfl

/-- The page and page size that a call writes.  Turning pages writes them whether or not there is
anything to fetch with. -/
def callTurn? (g : Grid) : Call → Option Turn
  | .search text => g.loadTurn? (some ((Patch.search text).withPage 1))
  | .sort p => g.loadTurn? (some p)
  | .filter p | .filtersReady p => g.loadTurn? (some (p.withPage 1))
  | .applyFilters => g.loadTurn? (g.filters.map (·.patch.withPage 1))
  | .resetFilters => g.loadTurn? (g.filters.map (·.reset.patch.withPage 1))
  | .changePage page => some (some page, none)
  | .changePageSize size => some (some 1, some size)

namespace Change

/-- The address that a change pushes. -/
def pushed? : Change → Option Address
  | push a => some a
  | _ => none

/-- The page and page size that a change writes to the address bar. -/
def written? (g : Grid) : Change → Option Turn
  | merge p => p.turn?
  | paginate page size => some (page, size)
  | call c => g.callTurn? c
  | urlChanged => g.loadTurn? (g.coordinator.store.paging.map (·.readPatch))
  | filtersKnown _ | edit .. | receive _ | push _ => none

end Change

section Steps

variable {g : Grid} {u : UrlPaging}

theorem paging_load (hu : g.coordinator.store.paging = some u) (patch : Option Patch)
    (events : List GridEvent) :
    (g.load patch events).1.coordinator.store.paging = some (u.turn (g.loadTurn? patch)) := by
  show (g.coordinator.load patch).1.store.paging = _
  rw [Coordinator.load_eq]
  cases hf : g.coordinator.canFetch with
  | false =>
      rw [loadTurn?, hf, Coordinator.goesOut, hf]
      exact hu
  | true =>
      rw [loadTurn?, hf]
      cases patch with
      | none =>
          split
          · exact hu
          · exact hu
      | some p =>
          rw [Coordinator.goesOut, hf, Coordinator.patched_some]
          show (g.coordinator.mergeShown p).store.paging = _
          rw [Coordinator.store_mergeShown]
          exact Store.paging_merge hu p

theorem paging_paginate (hu : g.coordinator.store.paging = some u) (page size : Option Count) :
    (g.paginate page size).coordinator.store.paging = some (u.turn (some (page, size))) := by
  show (g.coordinator.store.paginate page size).paging = _
  rw [Store.paginate_of_paging hu]
  rfl

theorem paging_call (hu : g.coordinator.store.paging = some u) (c : Call) :
    (g.call c).1.coordinator.store.paging = some (u.turn (g.callTurn? c)) := by
  cases c with
  | search text => exact paging_load hu _ _
  | sort p => exact paging_load hu _ _
  | filter p => exact paging_load hu _ _
  | filtersReady p =>
      rw [call, filtersReady, if_pos rfl]
      exact paging_load hu _ _
  | applyFilters =>
      rw [call, applyFilters, callTurn?]
      cases hform : g.filters with
      | none =>
          rw [Option.map_none, loadTurn?_none]
          exact hu
      | some form => exact paging_load hu _ _
  | resetFilters =>
      rw [call, resetFilters, callTurn?]
      cases hform : g.filters with
      | none =>
          rw [Option.map_none, loadTurn?_none]
          exact hu
      | some form => exact paging_load (g := { g with filters := some form.reset }) hu _ _
  | changePage page =>
      rw [call, changePage_of_paging hu]
      exact paging_paginate hu _ _
  | changePageSize size =>
      rw [call, changePageSize_of_paging hu]
      exact paging_paginate hu _ _

/-- **Every change that is no push is a turn, or nothing.** -/
theorem paging_change (hu : g.coordinator.store.paging = some u) {c : Change}
    (hc : c.pushed? = none) :
    (g.change c).coordinator.store.paging = some (u.turn (c.written? g)) := by
  cases c with
  | merge p => exact Store.paging_merge hu p
  | paginate page size => exact paging_paginate hu page size
  | call c => exact paging_call hu c
  | filtersKnown p => exact hu
  | edit field value =>
      rw [change, edit_eq]
      exact hu
  | receive a =>
      rw [change, coordinator_receive, Coordinator.coordinator_receive_eq]
      exact hu
  | urlChanged =>
      rw [change, urlChanged, Change.written?, hu]
      exact paging_load hu _ _
  | push a => cases hc

theorem paging_push (hu : g.coordinator.store.paging = some u) (a : Address) :
    (g.change (.push a)).coordinator.store.paging = some (u.push a) := by
  show (g.coordinator.store.push a).paging = _
  rw [Store.push, hu]
  rfl

/-- A change pushes an address or turns. -/
theorem leadsTo_change (hu : g.coordinator.store.paging = some u) (c : Change) :
    ∃ v, (g.change c).coordinator.store.paging = some v ∧ u.LeadsTo c.pushed?.toList v := by
  cases hc : c.pushed? with
  | none => exact ⟨_, paging_change hu hc, .turn u _⟩
  | some a =>
      cases c with
      | push b =>
          obtain rfl : b = a := Option.some.inj hc
          exact ⟨_, paging_push hu b, .push u b⟩
      | _ => cases hc

/-- **A run leads to what its pushes lead to**, with turns in between. -/
theorem leadsTo_changes (hu : g.coordinator.store.paging = some u) (cs : List Change) :
    ∃ v, (g.changes cs).coordinator.store.paging = some v ∧
      u.LeadsTo (cs.filterMap Change.pushed?) v := by
  induction cs generalizing g u with
  | nil => exact ⟨u, hu, .refl u⟩
  | cons c cs ih =>
      obtain ⟨v, hv, huv⟩ := leadsTo_change hu c
      obtain ⟨w, hw, hvw⟩ := ih hv
      refine ⟨w, hw, ?_⟩
      have huw := huv.trans hvw
      cases hc : c.pushed? with
      | none =>
          rw [hc] at huw
          rw [List.filterMap_cons_none hc]
          exact huw
      | some a =>
          rw [hc] at huw
          rw [List.filterMap_cons_some hc]
          exact huw

end Steps

/-- **What a run leaves behind in the history.**  Let `a` be the address that was pushed last, or
the one that the grid began at.  After any run of a grid over the address bar:

* the history has grown by the number of pushes, and at every point of the run the entries below the
  top, and with the next push the top as well, were what they still are;
* the top has the path, the name and the path parameters of `a`, and in the order of `a` the pairs
  that have nothing to do with pagination;
* a further change that writes page or page size leaves the other entries as they are, and on top
  `a` with these pairs, behind them the page unless it is the first one, and behind that the page
  size unless it is the default one;
* a further change that neither pushes nor writes leaves the history as it is. -/
theorem changes_trail {g : Grid} {u : UrlPaging} {cs : List Change} {a : Address}
    (hu : g.coordinator.store.paging = some u)
    (ha : (cs.filterMap Change.pushed?).getLast?.getD u.history.current = a) :
    ∃ v, (g.changes cs).coordinator.store.paging = some v ∧ v.config = u.config ∧
      v.history.length = u.history.length + (cs.filterMap Change.pushed?).length ∧
      (∀ past rest, cs = past ++ rest →
        ∃ w, (g.changes past).coordinator.store.paging = some w ∧
          w.history.earlier <:+ v.history.earlier ∧
          ∀ b, rest.head? = some (.push b) →
            w.history.current :: w.history.earlier <:+ v.history.earlier) ∧
      v.history.current.path = a.path ∧ v.history.current.name = a.name ∧
      v.history.current.pathParams = a.pathParams ∧
      u.config.others v.history.current.query = u.config.others a.query ∧
      (∀ c t, c.written? (g.changes cs) = some t →
        ∃ w, ((g.changes cs).change c).coordinator.store.paging = some w ∧
          w.history.earlier = v.history.earlier ∧
          w.history.current =
            { a with
              query :=
                u.config.others a.query ++
                    (if 1 < w.page then [(u.config.pageParam, toString w.page.toNat)] else []) ++
                  (if w.size = u.config.defaultSize then []
                    else [(u.config.sizeParam, toString w.size.toNat)]) }) ∧
      ∀ c, c.pushed? = none → c.written? (g.changes cs) = none →
        ((g.changes cs).change c).coordinator.store.paging = some v := by
  obtain ⟨v, hv, huv⟩ := leadsTo_changes hu cs
  have hplace := huv.place
  rw [ha] at hplace
  have hrest := hplace.rest
  refine ⟨v, hv, huv.config, huv.length, ?_, ?_, ?_, ?_, hplace.others, ?_, ?_⟩
  · rintro past rest rfl
    obtain ⟨w, hw, -⟩ := leadsTo_changes hu past
    rw [changes_append] at hv
    obtain ⟨v', hv', hwv⟩ := leadsTo_changes hw rest
    obtain rfl : v' = v := Option.some.inj (hv'.symm.trans hv)
    refine ⟨w, hw, hwv.earlier, ?_⟩
    intro b hb
    obtain ⟨tail, rfl⟩ : ∃ tail, rest = .push b :: tail := List.head?_eq_some_iff.1 hb
    obtain ⟨v'', hv'', hpush⟩ := leadsTo_changes (paging_push hw b) tail
    obtain rfl : v'' = v' := Option.some.inj (hv''.symm.trans hv')
    exact hpush.earlier
  · rw [hrest]
  · rw [hrest]
  · rw [hrest]
  · intro c t ht
    have hc : c.pushed? = none := by
      cases c with
      | push b => cases ht
      | _ => rfl
    have hw := paging_change hv hc
    rw [ht, UrlPaging.turn_some] at hw
    refine ⟨_, hw, rfl, ?_⟩
    have hcurrent := huv.current_paginate t.1 t.2
    rw [ha] at hcurrent
    exact hcurrent
  · intro c hc ht
    have hw := paging_change hv hc
    rw [ht, UrlPaging.turn_none] at hw
    exact hw

/-- An address that gives its page twice. -/
def orders : Address :=
  { name := some "orders", path := "/orders"
    query := [("page", "2"), ("tab", "open"), ("page", "9")] }

def bills : Address := { path := "/bills", query := [("pageSize", "50"), ("q", "")] }

/-- A grid at the orders. -/
def orderGrid : Grid :=
  { ofSchema 0 {} [] with
    coordinator :=
      { Coordinator.ofStore 0 (.ofPaging (.ofHistory {} (.ofAddress orders))) with
        canFetch := true } }

/-- The orders are searched, and then the bills are looked at. -/
def errand : List Change :=
  [.call (.search "lamp"), .push bills, .urlChanged, .call (.changePageSize 20)]

def turnToThird : Change := .call (.changePage 3)

/-- After the next turn of the page the address bar has the bills, with their own pair in front. -/
theorem changes_trail_errand :
    ∃ v w, (orderGrid.changes errand).coordinator.store.paging = some v ∧
      v.history.length = 2 ∧
      ((orderGrid.changes errand).change turnToThird).coordinator.store.paging = some w ∧
      w.history.earlier = v.history.earlier ∧
      w.history.current = { bills with query := [("q", ""), ("page", "3")] } := by
  have hu : orderGrid.coordinator.store.paging = some (.ofHistory {} (.ofAddress orders)) := rfl
  have hlast : (errand.filterMap Change.pushed?).getLast?.getD orders = bills := rfl
  obtain ⟨v, hv, -, hlength, -, -, -, -, -, hwritten, -⟩ := changes_trail hu hlast
  obtain ⟨w, hw, hearlier, hcurrent⟩ := hwritten turnToThird (some 3, none) rfl
  have hnumbers : ((orderGrid.changes errand).change turnToThird).coordinator.store.paging.map
      (·.pagination) = some (3, 20) := by decide
  rw [hw] at hnumbers
  obtain ⟨hpage, hsize⟩ := Prod.mk.inj (Option.some.inj hnumbers)
  refine ⟨v, w, hv, hlength, hw, hearlier, ?_⟩
  rw [hcurrent, show w.page = 3 from hpage, show w.size = 20 from hsize]
  decide

end Grid

end RecordGrid
