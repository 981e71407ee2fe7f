/-
**With the address bar or without it.**

A grid that keeps its pagination in the address bar does not load a page when it is asked for it.
It rewrites the address bar and waits for the host to report the change; then it reads the page
back, rewrites it once more, and loads.  This module shows that the detour cannot be seen: next to a
grid that loads at once, the two hold the same request, send the same fetches in the same order,
tell the same, and show the same, step by step.

Main definitions:

* `RecordGrid.Coordinator.Twins`, `RecordGrid.Grid.Twins`, `RecordGrid.GridSession.Twins` — **the
  simulation relation**: one keeps its pagination to itself, the other one in the address bar, and
  apart from that they are equal;
* `RecordGrid.GridSession.Admits`, `RecordGrid.GridSession.IsRun` — the events for which the two
  modes are meant to agree;
* `RecordGrid.GridSession.mirrored` — what happens to the other grid meanwhile;
* `RecordGrid.GridSession.Agree` — what the two have in common for anybody to see.

Main results:

* `RecordGrid.Coordinator.Twins.turn` — **turning the page through the address bar ends where
  turning it directly does**;
* `RecordGrid.GridSession.Twins.step` — one step of both;
* `RecordGrid.GridSession.agree_run` — **the two modes agree after every step**.
-/

import RecordGrid.Proofs.Grid.Calls
import RecordGrid.Proofs.Request.Overwrite

set_option relaxedAutoImplicit false
set_option autoImplicit false

namespace RecordGrid

/-! ### Patches of pagination -/

/-- The patch that asks for a page, and perhaps for a page size. -/
def Patch.pagination (page : Count) (size : Option Count) : Patch := { page := some page, size }

theorem Patch.size_of_not_touches (p : Patch) (h : p.touchesPagination = false) :
    p.size = none := by
  obtain ⟨-, hsize⟩ := Bool.or_eq_false_iff.1 h
  exact Option.isSome_eq_false_iff.1 hsize |> Option.isNone_iff_eq_none.1

/-- Changing the pagination through the address bar is merging it. -/
theorem Store.paginate_eq_merge {s : Store} {u : UrlPaging} (h : s.paging = some u) (page : Count)
    (size : Option Count) : s.paginate (some page) size = s.merge (.pagination page size) := by
  rw [merge_of_touches (p := Patch.pagination page size) h rfl, paginate_of_paging h]
  rfl

/-- What was written to the address bar is read from there, if it fits. -/
theorem UrlPaging.readUrl_paginate {u : UrlPaging} (hu : u.Positive)
    (hne : u.config.pageParam ≠ u.config.sizeParam) {page : Count} {size : Option Count}
    (hpage : page.toNat ≤ 0x7fffffffffffffff)
    (hsize : (u.paginate (some page) size).size.toNat ≤ 0x7fffffffffffffff) :
    (u.paginate (some page) size).readUrl = (u.paginate (some page) size).pagination := by
  refine (Written.paginate hu hne (some page) size).readUrl_eq_iff.2 ⟨?_, Or.inr ?_⟩
  · exact Nat.lt_succ_of_le (Count.positive_le hpage (by decide))
  · exact Nat.lt_succ_of_le hsize

namespace Coordinator

/-- The pager follows a patch of pagination, wherever it was turned to before. -/
theorem mergeShown_turned (c : Coordinator) {turn : Pager → Pager}
    (hturn : ∀ p page size, ((turn p).setCurrent page).setSize size =
      (p.setCurrent page).setSize size) (page : Count) (size : Option Count) :
    { c with pager := turn c.pager }.mergeShown (.pagination page size) =
      c.mergeShown (.pagination page size) := by
  simp only [mergeShown, Patch.touchesPagination, Patch.pagination, Option.isSome_some,
    Bool.true_or, if_true, merge, syncPager, hturn]

/-- Merging the pagination that the request has and the pager shows changes nothing. -/
theorem mergeShown_own {c : Coordinator} (h : c.store.paging = none)
    (hpage : c.request.page.positive = c.request.page)
    (hsize : c.request.size.positive = c.request.size)
    (hpager : (c.pager.setCurrent c.request.page).setSize c.request.size = c.pager) :
    c.mergeShown (.pagination c.request.page (some c.request.size)) = c := by
  have hself : c.request.overwrite (.pagination c.request.page (some c.request.size)) =
      c.request := by
    simp [Request.overwrite, Patch.pagination, hpage, hsize]
  have hstore : c.store.merge (.pagination c.request.page (some c.request.size)) = c.store := by
    rw [Store.merge_of_plain h]
    exact (congrArg (fun r => ({ request := r } : Store)) hself).trans (by rw [← h]; rfl)
  rw [mergeShown_eq, pager_mergeShown, hstore]
  exact congrArg (fun p => { c with pager := p }) hpager

/-! ### The simulation relation -/

/-- **The simulation relation**: `c` keeps its pagination to itself, and `d`, under a number of its
own, keeps it in the address bar; apart from that they are equal. -/
structure Twins (id : Nat) (c d : Coordinator) : Prop where
  /-- There is something to fetch with. -/
  canFetch : c.canFetch = true
  /-- The first one keeps its pagination to itself. -/
  plain : c.store.paging = none
  /-- The second one keeps it in the address bar, under two names. -/
  synced : ∃ u, d.store.InStep u ∧ u.config.pageParam ≠ u.config.sizeParam
  /-- They have one request. -/
  request : d.store.request = c.store.request
  /-- Its page size can be read from the address bar. -/
  size : c.store.request.size.toNat ≤ 0x7fffffffffffffff
  /-- Apart from number and address bar they are equal. -/
  same : d = { c with id, store := d.store }

namespace Twins

variable {id : Nat} {c d : Coordinator}

theorem exists_eq (h : Twins id c d) : ∃ store, d = { c with id, store } := ⟨d.store, h.same⟩

theorem canFetch_right (h : Twins id c d) : d.canFetch = true := by
  rw [h.same]
  exact h.canFetch

theorem issue (h : Twins id c d) :
    Twins id c.issue.1 d.issue.1 ∧ d.issue.2 = { c.issue.2 with owner := id } := by
  obtain ⟨store, rfl⟩ := h.exists_eq
  refine ⟨⟨h.canFetch, h.plain, h.synced, h.request, h.size, rfl⟩, ?_⟩
  have hrequest : store.request = c.store.request := h.request
  simp [Coordinator.issue, Coordinator.request, hrequest]

theorem receive (h : Twins id c d) {a : Arrival} (ha : a.owner = c.id) :
    Twins id (c.receive a).coordinator (d.receive { a with owner := id }).coordinator ∧
      (d.receive { a with owner := id }).notices = (c.receive a).notices := by
  obtain ⟨store, rfl⟩ := h.exists_eq
  cases hs : c.isStale a with
  | true =>
      have hs' : ({ c with id, store } : Coordinator).isStale { a with owner := id } = true := hs
      rw [receive_stale ha hs, receive_stale rfl hs']
      exact ⟨h, rfl⟩
  | false =>
      have hs' : ({ c with id, store } : Coordinator).isStale { a with owner := id } = false := hs
      rw [receive_applied ha hs, receive_applied rfl hs']
      refine ⟨?_, rfl⟩
      cases a.outcome with
      | ok l => exact ⟨h.canFetch, h.plain, h.synced, h.request, h.size, rfl⟩
      | error f => exact ⟨h.canFetch, h.plain, h.synced, h.request, h.size, rfl⟩

/-- Merging a patch keeps the relation, unless it names a page size alone, or one that cannot be
read. -/
theorem mergeShown (h : Twins id c d) {p : Patch} (hp : p.size = none ∨ p.page.isSome)
    (hs : ∀ s, p.size = some s → s.toNat ≤ 0x7fffffffffffffff) :
    Twins id (c.mergeShown p) (d.mergeShown p) := by
  obtain ⟨u, hu, hne⟩ := h.synced
  have hstore := Store.merge_of_plain h.plain p
  -- both overwrite one request, so that both pagers follow the same numbers
  have hrequest : (d.store.merge p).request = (c.store.merge p).request := by
    rw [hu.request_merge hp, h.request, hstore]
  have hpager : (d.mergeShown p).pager = (c.mergeShown p).pager := by
    rw [pager_mergeShown, pager_mergeShown, hrequest, h.same]
  constructor
  · rw [mergeShown_eq]
    exact h.canFetch
  · rw [store_mergeShown, hstore]
  · refine ⟨u.change (.merge p), ?_, by rwa [UrlPaging.config_change]⟩
    rw [store_mergeShown]
    exact hu.step (.merge p)
  · rw [store_mergeShown, store_mergeShown, hrequest]
  · rw [store_mergeShown, hstore, Request.size_overwrite]
    cases hsize : p.size with
    | none => exact h.size
    | some s => exact Count.positive_le (hs s hsize) (by decide)
  · rw [store_mergeShown, d.mergeShown_eq p, hpager, h.same, c.mergeShown_eq p]

/-- Following an address bar that holds the request of both keeps the relation: the first one would
not change either. -/
theorem follow (h : Twins id c d) {u : UrlPaging} (hu : d.store.InStep u)
    (hread : u.readUrl = u.pagination)
    (hpager : (c.pager.setCurrent c.request.page).setSize c.request.size = c.pager) :
    Twins id c (d.mergeShown u.readPatch) := by
  have hnumbers : (c.request.page, c.request.size) = u.pagination := by
    rw [Coordinator.request, ← h.request]
    exact hu.request
  obtain ⟨hpage, hsize⟩ := Prod.mk.inj hnumbers
  have hpatch : u.readPatch = .pagination c.request.page (some c.request.size) := by
    rw [UrlPaging.readPatch, hread, ← hnumbers]
    rfl
  have hown : c.mergeShown (.pagination c.request.page (some c.request.size)) = c := by
    refine mergeShown_own h.plain ?_ ?_ hpager
    · rw [hpage]
      exact Count.positive_eq_self_iff.2 hu.positive.page
    · rw [hsize]
      exact Count.positive_eq_self_iff.2 hu.positive.size
  have hagain := h.mergeShown (p := .pagination c.request.page (some c.request.size)) (Or.inr rfl)
    (fun s hs => Option.some.inj hs ▸ h.size)
  rwa [hown, ← hpatch] at hagain

/-- **Turning the page through the address bar ends where turning it directly does**: what was
written there is read back, and written once more. -/
theorem turn (h : Twins id c d) {page : Count} {size : Option Count}
    (hpage : page.toNat ≤ 0x7fffffffffffffff)
    (hsize : ∀ s, size = some s → s.toNat ≤ 0x7fffffffffffffff) :
    ∃ u, (d.mergeShown (.pagination page size)).store.paging = some u ∧
      Twins id (c.mergeShown (.pagination page size))
        ((d.mergeShown (.pagination page size)).mergeShown u.readPatch) := by
  obtain ⟨v, hv, hne⟩ := h.synced
  have hturned := h.mergeShown (p := .pagination page size) (Or.inr rfl) hsize
  have hstep : (d.mergeShown (.pagination page size)).store.InStep
      (v.paginate (some page) size) := by
    rw [store_mergeShown]
    exact hv.step (.merge (.pagination page size))
  -- a page size that was not asked for is the one of the request, which fits already
  have hfits : (v.paginate (some page) size).size.toNat ≤ 0x7fffffffffffffff := by
    have hsame : (d.mergeShown (.pagination page size)).store.request.size =
        (v.paginate (some page) size).size := congrArg Prod.snd hstep.request
    rw [← hsame, hturned.request]
    exact hturned.size
  refine ⟨_, hstep.paging, hturned.follow hstep ?_ ?_⟩
  · exact UrlPaging.readUrl_paginate hv.positive hne hpage hfits
  · rw [pager_mergeShown, Coordinator.request, store_mergeShown]
    rfl

end Twins

end Coordinator

/-! ### Grids -/

/-- A fetch in the hands of another coordinator. -/
def Fetch.ownedBy (f : Fetch) (owner : Nat) : Fetch := { f with owner }

/-- An effect with its fetch in the hands of another coordinator. -/
def Effect.ownedBy (e : Effect) (owner : Nat) : Effect :=
  { e with fetch := e.fetch.map (·.ownedBy owner) }

namespace Grid

/-- **The simulation relation** between grids: it holds between their coordinators, and they have
one filter form. -/
structure Twins (id : Nat) (g h : Grid) : Prop where
  /-- The coordinators are related. -/
  coordinator : g.coordinator.Twins id h.coordinator
  /-- The filter form is one. -/
  filters : h.filters = g.filters

namespace Twins

variable {id : Nat} {g h : Grid}

/-- A load keeps the relation when its patch leaves the page size alone. -/
theorem load (t : g.Twins id h) {p : Patch} (hp : p.size = none) (events : List GridEvent) :
    (g.load (some p) events).1.Twins id (h.load (some p) events).1 ∧
      (h.load (some p) events).2 = (g.load (some p) events).2.ownedBy id := by
  have hmerge := t.coordinator.mergeShown (p := p) (Or.inl hp)
    fun s hs => absurd (hp.symm.trans hs) (Option.some_ne_none s).symm
  obtain ⟨hissue, hfetch⟩ := hmerge.issue
  rw [load_of_canFetch t.coordinator.canFetch, load_of_canFetch t.coordinator.canFetch_right,
    hfetch]
  exact ⟨⟨hissue, t.filters⟩, rfl⟩

/-- **Turning the page keeps the relation**, once the host has reported it to the second grid. -/
theorem turn (t : g.Twins id h) {page : Count} {size : Option Count}
    (hpage : page.toNat ≤ 0x7fffffffffffffff)
    (hsize : ∀ s, size = some s → s.toNat ≤ 0x7fffffffffffffff) (turn : Pager → Pager)
    (hturn : ∀ p page size, ((turn p).setCurrent page).setSize size =
      (p.setCurrent page).setSize size) (events : List GridEvent) :
    ((g.withPager turn).load (some (.pagination page size)) events).1.Twins id
        (h.paginate (some page) size).urlChanged.1 ∧
      (h.paginate (some page) size).urlChanged.2 =
        { fetch := ((g.withPager turn).load (some (.pagination page size)) events).2.fetch.map
            (·.ownedBy id) } := by
  obtain ⟨v, hv, -⟩ := t.coordinator.synced
  have hpaginate : (h.paginate (some page) size).coordinator =
      h.coordinator.mergeShown (.pagination page size) := by
    show Coordinator.syncPager { h.coordinator with store := _ } = _
    rw [Store.paginate_eq_merge hv.paging]
    rfl
  obtain ⟨u, hu, hturned⟩ := t.coordinator.turn hpage hsize
  obtain ⟨hissue, hfetch⟩ := hturned.issue
  rw [← hpaginate] at hu hissue hfetch
  have hf : (h.paginate (some page) size).coordinator.canFetch = true :=
    t.coordinator.canFetch_right
  have hg : (g.withPager turn).coordinator.mergeShown (.pagination page size) =
      g.coordinator.mergeShown (.pagination page size) :=
    g.coordinator.mergeShown_turned hturn page size
  rw [urlChanged_of_paging hf hu, load_of_canFetch (g := g.withPager turn) t.coordinator.canFetch,
    hg, hfetch]
  exact ⟨⟨hissue, t.filters⟩, rfl⟩

theorem receive (t : g.Twins id h) {a : Arrival} (ha : a.owner = g.coordinator.id) :
    (g.receive a).1.Twins id (h.receive { a with owner := id }).1 ∧
      (h.receive { a with owner := id }).2 = (g.receive a).2 := by
  obtain ⟨hreceive, hnotices⟩ := t.coordinator.receive ha
  refine ⟨⟨?_, ?_⟩, ?_⟩
  · rw [coordinator_receive, coordinator_receive]
    exact hreceive
  · rw [filters_receive, filters_receive, t.filters]
  · rw [effect_receive, effect_receive, hnotices]

theorem edit (t : g.Twins id h) (field : String) (value : FilterValue) :
    (g.edit field value).Twins id (h.edit field value) := by
  rw [edit_eq, edit_eq]
  exact ⟨t.coordinator, congrArg (Option.map _) t.filters⟩

end Twins

/-! ### Calls -/

/-- **The calls for which the two modes are meant to agree**, given the filter form: their patches
leave the pagination alone, and their pages and page sizes can be read from the address bar. -/
def Call.Tame (form : Option FilterForm) : Call → Prop
  | .search _ => True
  | .sort p | .filter p | .filtersReady p => p.touchesPagination = false
  | .applyFilters => ∀ f, form = some f → f.patch.touchesPagination = false
  | .resetFilters => ∀ f, form = some f → f.reset.patch.touchesPagination = false
  | .changePage n | .changePageSize n => n.toNat ≤ 0x7fffffffffffffff

/-- Whether a call asks for a page or a page size. -/
def Call.turns : Call → Bool
  | .changePage _ | .changePageSize _ => true
  | _ => false

namespace Twins

variable {id : Nat} {g h : Grid}

/-- A call that does not turn the page does the same to both. -/
theorem call (t : g.Twins id h) {c : Call} (hc : c.turns = false) (htame : c.Tame g.filters) :
    (g.call c).1.Twins id (h.call c).1 ∧ (h.call c).2 = (g.call c).2.ownedBy id := by
  cases c with
  | search text => exact t.load rfl _
  | sort p => exact t.load (p.size_of_not_touches htame) _
  | filter p => exact t.load (p := p.withPage 1) (p.size_of_not_touches htame) _
  | filtersReady p => exact t.load (p := p.withPage 1) (p.size_of_not_touches htame) _
  | applyFilters =>
      rw [Grid.call, Grid.call, applyFilters, applyFilters, t.filters]
      cases hform : g.filters with
      | none => exact ⟨t, rfl⟩
      | some form =>
          exact t.load (p := form.patch.withPage 1)
            (form.patch.size_of_not_touches (htame form hform)) _
  | resetFilters =>
      rw [Grid.call, Grid.call, resetFilters, resetFilters, t.filters]
      cases hform : g.filters with
      | none => exact ⟨t, rfl⟩
      | some form =>
          have hreset : Grid.Twins id { g with filters := some form.reset }
              { h with filters := some form.reset } := ⟨t.coordinator, rfl⟩
          exact hreset.load (p := form.reset.patch.withPage 1)
            (form.reset.patch.size_of_not_touches (htame form hform)) _
  | changePage page => cases hc
  | changePageSize size => cases hc

/-- **A call that turns the page does to the first grid what it does to the second one together with
the report** of the address bar. -/
theorem call_urlChanged (t : g.Twins id h) {c : Call} (hc : c.turns = true)
    (htame : c.Tame g.filters) :
    (g.call c).1.Twins id (h.call c).1.urlChanged.1 ∧
      (h.call c).2 = { events := (g.call c).2.events } ∧
      (h.call c).1.urlChanged.2 = { fetch := (g.call c).2.fetch.map (·.ownedBy id) } ∧
      (g.call c).2.notices = [] := by
  obtain ⟨v, hv, -⟩ := t.coordinator.synced
  cases c with
  | changePage page =>
      have hsize : ∀ s, (none : Option Count) = some s → s.toNat ≤ 0x7fffffffffffffff :=
        fun s hs => absurd hs.symm (Option.some_ne_none s)
      obtain ⟨htwins, heffect⟩ :=
        t.turn htame hsize (·.setCurrent page) (fun _ _ _ => rfl) [.page page]
      rw [Grid.call, Grid.call, changePage_of_plain t.coordinator.plain,
        changePage_of_paging hv.paging]
      exact ⟨htwins, rfl, heffect, rfl⟩
  | changePageSize size =>
      have hpage : (1 : Count).toNat ≤ 0x7fffffffffffffff := by decide
      have hsize : ∀ s, some size = some s → s.toNat ≤ 0x7fffffffffffffff :=
        fun s hs => Option.some.inj hs ▸ htame
      obtain ⟨htwins, heffect⟩ :=
        t.turn hpage hsize (fun p => (p.setSize size).setCurrent 1) (fun _ _ _ => rfl)
          [.pageSize size]
      rw [Grid.call, Grid.call, changePageSize_of_plain t.coordinator.plain,
        changePageSize_of_paging hv.paging]
      exact ⟨htwins, rfl, heffect, rfl⟩
  | search text => cases hc
  | sort p => cases hc
  | filter p => cases hc
  | filtersReady p => cases hc
  | applyFilters => cases hc
  | resetFilters => cases hc

end Twins

end Grid

/-! ### Sessions -/

namespace GridSession

/-- **The events for which the two modes are meant to agree**: tame calls, edits, and the arrivals
of the grid's own fetches.  Nobody else navigates. -/
def Admits (s : GridSession) : Event → Prop
  | .call c => c.Tame s.grid.filters
  | .edit _ _ => True
  | .receive a => a.owner = s.grid.coordinator.id
  | .urlChanged => False

/-- Every event of a list is admitted when it happens. -/
def IsRun (s : GridSession) : List Event → Prop
  | [] => True
  | e :: es => s.Admits e ∧ (s.step e).IsRun es

theorem isRun_append (s : GridSession) (es fs : List Event) :
    s.IsRun (es ++ fs) ↔ s.IsRun es ∧ (s.run es).IsRun fs := by
  induction es generalizing s with
  | nil => simp [IsRun]
  | cons e es ih => simp [IsRun, ih, and_assoc]

/-- **What happens to the second grid meanwhile**: a call that turns the page is followed at once by
the report of the address bar, and the fetches that come back are its own. -/
def mirrored (id : Nat) : Event → List Event
  | .call c => if c.turns then [.call c, .urlChanged] else [.call c]
  | .receive a => [.receive { a with owner := id }]
  | e => [e]

/-- **The simulation relation** between sessions. -/
structure Twins (id : Nat) (s t : GridSession) : Prop where
  /-- The grids are related. -/
  grid : s.grid.Twins id t.grid
  /-- The same fetches were sent. -/
  sent : t.sent = s.sent.map (·.ownedBy id)
  /-- The host was told the same. -/
  told : t.told = s.told
  /-- The user was told the same. -/
  notices : t.notices = s.notices

namespace Twins

variable {id : Nat} {s t : GridSession}

/-- The same effect on related grids keeps the relation. -/
theorem after (h : Twins id s t) {r q : Grid × Effect} (hgrid : r.1.Twins id q.1)
    (heffect : q.2 = r.2.ownedBy id) : Twins id (s.after r) (t.after q) := by
  refine ⟨hgrid, ?_, ?_, ?_⟩
  · rw [GridSession.after, GridSession.after, heffect, h.sent, List.map_append]
    exact congrArg _ (Option.toList_map ..)
  · rw [GridSession.after, GridSession.after, heffect, h.told]
    rfl
  · rw [GridSession.after, GridSession.after, heffect, h.notices]
    rfl

/-- **One step of both keeps the relation.** -/
theorem step (h : Twins id s t) {e : Event} (he : s.Admits e) :
    Twins id (s.step e) (t.run (mirrored id e)) := by
  cases e with
  | call c =>
      cases hc : c.turns with
      | false =>
          obtain ⟨hgrid, heffect⟩ := h.grid.call hc he
          rw [mirrored, hc]
          exact h.after hgrid heffect
      | true =>
          obtain ⟨hgrid, hcall, hreport, hnotices⟩ := h.grid.call_urlChanged hc he
          -- the second grid tells its host first, and sends its fetch when it is reported
          have hboth : t.run (mirrored id (.call c)) =
              t.after ((t.grid.call c).1.urlChanged.1, (s.grid.call c).2.ownedBy id) := by
            rw [mirrored, hc]
            show (t.after (t.grid.call c)).after (t.grid.call c).1.urlChanged = _
            simp [GridSession.after, hcall, hreport, Effect.ownedBy, hnotices]
          rw [hboth]
          exact h.after hgrid rfl
  | edit field value => exact ⟨h.grid.edit field value, h.sent, h.told, h.notices⟩
  | receive a =>
      obtain ⟨hgrid, heffect⟩ := h.grid.receive he
      refine h.after hgrid ?_
      rw [heffect, Grid.effect_receive]
      rfl
  | urlChanged => exact he.elim

/-- **The relation holds after every run.** -/
theorem run (h : Twins id s t) {es : List Event} (hes : s.IsRun es) :
    Twins id (s.run es) (t.run (es.flatMap (mirrored id))) := by
  induction es generalizing s t with
  | nil => exact h
  | cons e es ih =>
      obtain ⟨he, hrest⟩ := hes
      rw [run_cons, List.flatMap_cons, run_append]
      exact ih (h.step he) hrest

end Twins

/-! ### What can be seen -/

/-- **What two sessions have in common for anybody to see**: the request, the fetches sent, apart
from who sent them, what host and user were told, and what is shown. -/
structure Agree (id : Nat) (s t : GridSession) : Prop where
  /-- The requests. -/
  request : t.grid.request = s.grid.request
  /-- The fetches sent. -/
  sent : t.sent = s.sent.map (·.ownedBy id)
  /-- What the host was told. -/
  told : t.told = s.told
  /-- What the user was told. -/
  notices : t.notices = s.notices
  /-- The rows. -/
  rows : t.grid.rows = s.grid.rows
  /-- The summary. -/
  summary : t.grid.coordinator.summary = s.grid.coordinator.summary
  /-- The pager. -/
  pager : t.grid.pager = s.grid.pager
  /-- Whether something is loading. -/
  loading : t.grid.loading = s.grid.loading

theorem Twins.agree {id : Nat} {s t : GridSession} (h : Twins id s t) : Agree id s t := by
  have hsame := h.grid.coordinator.same
  refine ⟨h.grid.coordinator.request, h.sent, h.told, h.notices, ?_, ?_, ?_, ?_⟩
  · rw [Grid.rows, hsame]
    rfl
  · rw [hsame]
  · rw [Grid.pager, hsame]
    rfl
  · rw [Grid.loading, hsame]
    rfl

/-- **The two modes agree after every step.**  Let two grids be equal, except that the first one
keeps its pagination to itself and the second one in the address bar, under two names and in step
with its request, whose page size can be read from there.  Let the first one go through any run of
tame calls, edits and arrivals, and the second one through the same, where every call that turns the
page is followed by the report of the address bar.  Then after every step both hold the same
request, have sent the same fetches in the same order, have told the same, and show the same. -/
theorem agree_run {id : Nat} {g h : Grid} (t : g.Twins id h) {es : List Event}
    (hes : (ofGrid g).IsRun es) {past : List Event} (hpast : past <+: es) :
    Agree id ((ofGrid g).run past) ((ofGrid h).run (past.flatMap (mirrored id))) := by
  obtain ⟨rest, rfl⟩ := hpast
  have hbegin : Twins id (ofGrid g) (ofGrid h) := ⟨t, rfl, rfl, rfl⟩
  exact (hbegin.run ((isRun_append _ _ _).1 hes).1).agree

/-- A grid that keeps its pagination to itself. -/
def plainGrid : Grid :=
  { Grid.ofSchema 0 {} [] with
    coordinator := { (Grid.ofSchema 0 {} []).coordinator with canFetch := true } }

/-- The same grid with the address bar. -/
def syncedGrid : Grid :=
  let g := (Grid.ofSchema 1 { urlPaging := some {} } []).connect (.ofAddress (.ofPath "/list"))
  { g with coordinator := { g.coordinator with canFetch := true } }

/-- A page is turned, the page size is changed, and the first fetch comes back late. -/
def lateTurn : List Event :=
  [.call (.changePage 3), .call (.changePageSize 50),
    .receive { owner := 0, seq := 1, outcome := .ok { total := some 99, page := some 3 } },
    .call (.sort (.ofPairs [("sort", .string "name")])), .call (.changePage 0)]

/-- Both are on the first page in the end, after a fetch of page three, with 99 rows in all. -/
theorem agree_run_lateTurn :
    plainGrid.Twins 1 syncedGrid ∧ (ofGrid plainGrid).IsRun lateTurn ∧
      ((ofGrid syncedGrid).run (lateTurn.flatMap (mirrored 1))).grid.pager.total = 99 ∧
      ((ofGrid syncedGrid).run (lateTurn.flatMap (mirrored 1))).sent.map
          (fun f => (f.request.page, f.request.size)) = [(3, 20), (1, 50), (1, 50), (1, 50)] := by
  have htwins : plainGrid.Twins 1 syncedGrid := by
    refine ⟨⟨rfl, rfl, ⟨_, ⟨rfl, rfl, ⟨?_, ?_⟩⟩, ?_⟩, rfl, ?_, rfl⟩, rfl⟩ <;> decide
  have hthree : (3 : Count).toNat ≤ 0x7fffffffffffffff := by decide
  have hfifty : (50 : Count).toNat ≤ 0x7fffffffffffffff := by decide
  have hzero : (0 : Count).toNat ≤ 0x7fffffffffffffff := by decide
  have hrun : (ofGrid plainGrid).IsRun lateTurn := ⟨hthree, hfifty, rfl, rfl, hzero, trivial⟩
  have hagree := agree_run htwins hrun (List.prefix_refl lateTurn)
  refine ⟨htwins, hrun, ?_, ?_⟩
  · rw [hagree.pager]
    decide +kernel
  · rw [hagree.sent]
    decide +kernel

end GridSession

end RecordGrid
