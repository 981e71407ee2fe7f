/-
**The grids there are.**

Requests, pagers, stores and coordinators keep their fields to themselves, so a host has only those
that it made by what they offer.  It may read a request from text, put a store of its own into a
coordinator, or put a coordinator of its own into a grid; a server answers what it likes, and the
address bar says what it likes.  This module says which values can come about in this way, one
predicate for each kind of value, with one constructor for each thing that can be done to it.
A grid is made of parts that were made in these ways, whatever happens to it, and it asks for
nothing but requests that were.

Main definitions:

* `RecordGrid.Request.Made`, `RecordGrid.UrlPaging.Made`, `RecordGrid.Pager.Made`,
  `RecordGrid.Store.Made`, `RecordGrid.Coordinator.Made` — what can come about of each kind;
* `RecordGrid.Grid.Reachable` — **the grids that can come about**.

Main results:

* `RecordGrid.Coordinator.Made.parts` — a coordinator is made of parts that can come about;
* `RecordGrid.Grid.Reachable.coordinator_made` — a grid has a coordinator that can come about;
* `RecordGrid.Grid.Makes.operate` — and asks for requests that can come about.
-/

import RecordGrid.Proofs.Grid.Cursor
import RecordGrid.Proofs.Grid.Outcomes
import RecordGrid.Proofs.Request.Wire

set_option relaxedAutoImplicit false
set_option autoImplicit false

namespace RecordGrid

open Json (Draft)

/-! ### What can come about -/

/-- A request that was made in any of the ways there are. -/
inductive Request.Made : Request → Prop where
  | ofPage (page size : Count) : Made (.ofPage page size)
  | edit {r : Request} (h : Made r) (e : Request.Edit) : Made (r.edit e)
  /-- A request that was read. -/
  | decoded {d : Draft} {r : Request} (h : Request.decode? d = some r) : Made r

/-- Pagination in an address bar. -/
inductive UrlPaging.Made : UrlPaging → Prop where
  | ofHistory (config : UrlPagingConfig) (history : History) : Made (.ofHistory config history)
  | paginate {u : UrlPaging} (h : Made u) (page size : Option Count) : Made (u.paginate page size)
  /-- The history moves, or is written to. -/
  | navigate {u : UrlPaging} (h : Made u) (move : History → History) : Made (u.navigate move)

/-- A pager. -/
inductive Pager.Made : Pager → Prop where
  | new : Made {}
  | setCurrent {p : Pager} (h : Made p) (page : Count) : Made (p.setCurrent page)
  | setSize {p : Pager} (h : Made p) (size : Count) : Made (p.setSize size)
  | setTotal {p : Pager} (h : Made p) (total : Count) : Made (p.setTotal total)
  /-- It is drawn in another way, or has other bindings. -/
  | restyle {p : Pager} (h : Made p) (style : IndicatorStyle) (activeDot inactiveDot : String)
      (keys : PagerKeys) : Made { p with style, activeDot, inactiveDot, keys }

/-- A store. -/
inductive Store.Made : Store → Prop where
  | ofPage (page size : Count) : Made (.ofPage page size)
  | ofPaging {u : UrlPaging} (hu : u.Made) : Made (.ofPaging u)
  | merge {s : Store} (h : Made s) (p : Patch) : Made (s.merge p)
  | paginate {s : Store} (h : Made s) (page size : Option Count) : Made (s.paginate page size)
  /-- Another address bar takes the place of the one that is there, or the one that is there is
  turned without the store. -/
  | bar {s : Store} (h : Made s) {u : UrlPaging} (hu : u.Made) :
      Made { s with paging := s.paging.map fun _ => u }

/-- A coordinator. -/
inductive Coordinator.Made : Coordinator → Prop where
  | ofStore (id : Nat) {s : Store} (hs : s.Made) : Made (.ofStore id s)
  /-- Anything is set that has nothing to do with pagination. -/
  | settings {c : Coordinator} (h : Made c) (canFetch : Bool) (finish : Listing → Outcome)
      (ordering : ResponseOrdering) (rowKey summaryLabel : String) (external : Option Bool)
      (fetching : Bool) :
      Made { c with canFetch, finish, ordering, rowKey, summaryLabel, external, fetching }
  /-- A hook is set.  It makes requests out of requests in the ways there are. -/
  | prepare {c : Coordinator} (h : Made c) {hook : Request → Request}
      (hhook : ∀ r, r.Made → (hook r).Made) : Made { c with prepare := hook }
  /-- Another store takes the place of the one that is there, or that one is changed. -/
  | store {c : Coordinator} (h : Made c) {s : Store} (hs : s.Made) : Made { c with store := s }
  | pager {c : Coordinator} (h : Made c) {p : Pager} (hp : p.Made) : Made { c with pager := p }
  | load {c : Coordinator} (h : Made c) (patch : Option Patch) : Made (c.load patch).1
  | receive {c : Coordinator} (h : Made c) (a : Arrival) : Made (c.receive a).coordinator
  | reconcile {c : Coordinator} (h : Made c) (l : Listing) : Made (c.reconcile l)

/-- **A grid that can come about.** -/
inductive Grid.Reachable : Grid → Prop where
  | ofSchema (id : Nat) (config : GridConfig) (schema : List Column) :
      Reachable (.ofSchema id config schema)
  | connect {g : Grid} (h : Reachable g) (history : History) : Reachable (g.connect history)
  | withParams {g : Grid} (h : Reachable g) (p : Patch) : Reachable (g.withParams p)
  /-- Another filter form takes the place of the one that is there, or that one is changed. -/
  | withForm {g : Grid} (h : Reachable g) (form : FilterForm) :
      Reachable { g with filters := some form }
  /-- Another coordinator takes the place of the one that is there, or that one is changed. -/
  | withMade {g : Grid} (h : Reachable g) {c : Coordinator} (hc : c.Made) :
      Reachable { g with coordinator := c }
  | happen {g : Grid} (h : Reachable g) (e : Grid.Happening) : Reachable (g.happen e)

/-! ### Requests -/

namespace Request

theorem edits_set (r : Request) (es : List (String × Json)) :
    r.edits (es.map fun e => .set e.1 e.2) = { r with params := r.params.insertMany es } := by
  induction es generalizing r with
  | nil => rfl
  | cons e es ih => exact ih (r.set e.1 e.2)

namespace Made

variable {r : Request}

theorem edits (h : r.Made) (es : List Edit) : (r.edits es).Made := by
  induction es generalizing r with
  | nil => exact h
  | cons e es ih => exact ih (h.edit e)

theorem setPagination (h : r.Made) (p : Count × Count) : (r.setPagination p).Made :=
  (h.edit (.page p.1)).edit (.size p.2)

/-- Setting the parameters of a patch is setting them one by one. -/
theorem setParams (h : r.Made) (p : Patch) : (Store.setParams r p).Made := by
  have hset := h.edits (p.params.entries.map fun e => .set e.1 e.2)
  rwa [edits_set] at hset

end Made

end Request

/-! ### Stores -/

namespace Store

variable {s : Store}

theorem made_setPagination {r : Request} (h : r.Made) (p : Patch) : (setPagination r p).Made := by
  obtain ⟨page, size, -⟩ := p
  cases page with
  | none =>
      cases size with
      | none => exact h
      | some size => exact h.edit (.size size)
  | some page =>
      cases size with
      | none => exact h.edit (.page page)
      | some size => exact (h.edit (.page page)).edit (.size size)

/-- What a store is made of. -/
structure Parts (s : Store) : Prop where
  request : s.request.Made
  bar : ∀ u, s.paging = some u → u.Made

namespace Parts

theorem paginate (h : s.Parts) (page size : Option Count) : (s.paginate page size).Parts := by
  unfold Store.paginate
  split
  · exact h
  · next u hu =>
      refine ⟨h.request.setPagination _, fun v hv => ?_⟩
      obtain rfl := Option.some.inj hv
      exact (h.bar u hu).paginate page size

theorem merge (h : s.Parts) (p : Patch) : (s.merge p).Parts := by
  have hparams : Parts { s with request := setParams s.request p } :=
    ⟨h.request.setParams p, h.bar⟩
  rw [Store.merge]
  split
  · exact hparams
  · split
    · exact hparams.paginate p.page p.size
    · exact ⟨made_setPagination hparams.request p, h.bar⟩

end Parts

/-- **A store is made of a request and an address bar that can come about.** -/
theorem Made.parts (h : s.Made) : s.Parts := by
  induction h with
  | ofPage page size => exact ⟨.ofPage page size, fun u hu => nomatch hu⟩
  | ofPaging hu =>
      refine ⟨.ofPage _ _, fun v hv => ?_⟩
      obtain rfl := Option.some.inj hv
      exact hu
  | merge _ p ih => exact ih.merge p
  | paginate _ page size ih => exact ih.paginate page size
  | bar _ hu ih =>
      refine ⟨ih.request, fun v hv => ?_⟩
      obtain ⟨-, -, rfl⟩ := Option.map_eq_some_iff.1 hv
      exact hu

/-- The host moves through the history of a store. -/
theorem Made.navigate (h : s.Made) (move : History → History) :
    (s.step (.navigate move)).Made := by
  rw [step]
  cases hs : s.paging with
  | none =>
      rw [Option.map_none, ← hs]
      exact h
  | some u =>
      have hturned := h.bar ((h.parts.bar u hs).navigate move)
      rw [hs] at hturned
      exact hturned

/-- Writing to the address bar alone is one of the moves in its history. -/
theorem Made.writeUrl (h : s.Made) (page size : Option Count) : (s.writeUrl page size).Made := by
  unfold Store.writeUrl
  cases hs : s.paging with
  | none =>
      rw [Option.map_none, ← hs]
      exact h
  | some u =>
      have hwritten := h.bar ((h.parts.bar u hs).navigate fun history =>
        history.replace (UrlPaging.writeAddress u.config history.current page size))
      rw [hs] at hwritten
      exact hwritten

end Store

/-! ### Coordinators -/

namespace Pager.Made

theorem turn {p : Pager} (h : p.Made) (page size : Count) :
    ((p.setCurrent page).setSize size).Made := (h.setCurrent page).setSize size

/-- What may be missing is shown only if it is there. -/
theorem elim {p : Pager} (h : p.Made) {shown : Count → Pager} (hshown : ∀ n, (shown n).Made)
    (told : Option Count) : (told.elim p shown).Made := by
  cases told with
  | none => exact h
  | some n => exact hshown n

/-- What a server tells is shown by setting it. -/
theorem pagerAfter {p : Pager} (h : p.Made) (l : Listing) : (Coordinator.pagerAfter p l).Made := by
  have htotal := h.elim h.setTotal l.total
  have hpage := htotal.elim htotal.setCurrent l.page
  have hsize := hpage.elim hpage.setSize l.size
  obtain ⟨rows, total, page, size, summary⟩ := l
  cases total <;> cases page <;> cases size <;> exact hsize

end Pager.Made

namespace Coordinator

variable {c : Coordinator}

/-- What a coordinator is made of. -/
structure Parts (c : Coordinator) : Prop where
  store : c.store.Made
  pager : c.pager.Made
  prepare : ∀ r : Request, r.Made → (c.prepare r).Made

namespace Parts

theorem mergeShown (h : c.Parts) (p : Patch) : (c.mergeShown p).Parts := by
  rw [mergeShown_eq]
  refine ⟨h.store.merge p, ?_, h.prepare⟩
  rw [pager_mergeShown]
  split
  · exact h.pager.turn _ _
  · exact h.pager

theorem patched (h : c.Parts) (patch : Option Patch) : (c.patched patch).Parts := by
  cases patch with
  | none => exact h
  | some p => exact h.mergeShown p

theorem load (h : c.Parts) (patch : Option Patch) : (c.load patch).1.Parts := by
  rw [load_eq]
  split
  · have hpatched := h.patched patch
    exact ⟨hpatched.store, hpatched.pager, hpatched.prepare⟩
  · exact h

/-- **A load asks for a request that can come about.** -/
theorem made_request (h : c.Parts) (patch : Option Patch) :
    ∀ f ∈ (c.load patch).2, f.request.Made := by
  intro f hf
  rw [load_eq] at hf
  split at hf
  · obtain rfl := Option.mem_some.1 hf
    have hpatched := h.patched patch
    exact hpatched.prepare _ hpatched.store.parts.request
  · cases hf

theorem reconcile (h : c.Parts) (l : Listing) : (c.reconcile l).Parts :=
  ⟨h.store, h.pager.pagerAfter l, h.prepare⟩

theorem receive (h : c.Parts) (a : Arrival) : (c.receive a).coordinator.Parts := by
  rcases c.coordinator_receive_cases a with hr | hr
  · rw [hr]
    exact h
  · rw [hr]
    cases a.outcome with
    | ok l => exact h.reconcile l
    | error failure => exact ⟨h.store, h.pager, h.prepare⟩

end Parts

namespace Made

/-- **A coordinator is made of parts that can come about.** -/
theorem parts (h : c.Made) : c.Parts := by
  induction h with
  | ofStore id hs => exact ⟨hs, Pager.Made.new.turn _ _, fun r hr => hr⟩
  | settings _ canFetch finish ordering rowKey summaryLabel external fetching ih =>
      exact ⟨ih.store, ih.pager, ih.prepare⟩
  | prepare _ hhook ih => exact ⟨ih.store, ih.pager, hhook⟩
  | store _ hs ih => exact ⟨hs, ih.pager, ih.prepare⟩
  | pager _ hp ih => exact ⟨ih.store, hp, ih.prepare⟩
  | load _ patch ih => exact ih.load patch
  | receive _ a ih => exact ih.receive a
  | reconcile _ l ih => exact ih.reconcile l

theorem syncPager (h : c.Made) : c.syncPager.Made := h.pager (h.parts.pager.turn _ _)

end Made

end Coordinator

/-! ### Grids -/

namespace Grid

variable {g : Grid}

/-- What comes of something that is done to a grid: a coordinator that can come about, and a fetch
of a request that can, if anything is fetched. -/
structure Makes (r : Grid × Effect) : Prop where
  coordinator : r.1.coordinator.Made
  request : ∀ f ∈ r.2.fetch, f.request.Made

namespace Makes

/-- Where nothing is fetched, only the coordinator counts. -/
theorem quiet {h : Grid} {events : List GridEvent} (hh : h.coordinator.Made) :
    Makes (h, { events }) := ⟨hh, fun _ hf => nomatch hf⟩

theorem load (h : g.coordinator.Made) (patch : Option Patch) (events : List GridEvent) :
    Makes (g.load patch events) :=
  ⟨h.load patch, h.parts.made_request patch⟩

/-- Putting a form back does not touch the coordinator, and turning the pager is one of the things
that can be done to it. -/
theorem readied (h : g.coordinator.Made) {g' : Grid} (hg : g.Readied g') :
    g'.coordinator.Made := by
  cases hg with
  | same => exact h
  | reset hform => exact h
  | turned page => exact h.pager (h.parts.pager.setCurrent page)
  | resized size => exact h.pager ((h.parts.pager.setSize size).setCurrent 1)

theorem amounts (h : g.coordinator.Made) {r : Grid × Effect} (hr : g.Amounts r) : Makes r := by
  cases hr with
  | nothing => exact quiet h
  | load hg patch events => exact load (readied h hg) patch events
  | turn page size events => exact quiet (h.store (h.parts.store.paginate page size)).syncPager

theorem press (h : g.coordinator.Made) (k : KeyPress) : Makes (g.press k) := by
  rcases g.press_amounts k with hk | ⟨cursor, hk⟩ | ⟨row, key, hk⟩
  · exact amounts h hk
  · rw [hk]
    exact quiet h
  · rw [hk.press_eq]
    exact quiet h

/-- **Whatever is done to a grid, its coordinator can come about, and so can the requests that it
asks for.** -/
theorem operate (h : g.coordinator.Made) (o : Operation) : Makes (g.operate o) := by
  have hparts := h.parts
  cases o with
  | start => exact amounts h g.amounts_start
  | load patch => exact load h patch []
  | call c => exact amounts h (g.amounts_call c)
  | filtersKnown p => exact quiet h
  | edit field value =>
      rw [Grid.operate, edit_eq]
      exact quiet h
  | urlChanged => exact amounts h g.amounts_urlChanged
  | selectRows rows => exact quiet h
  | press k => exact press h k
  | merge p => exact quiet (h.store (hparts.store.merge p))
  | paginate page size => exact quiet (h.store (hparts.store.paginate page size))
  | writeUrl page size => exact quiet (h.store (hparts.store.writeUrl page size))
  | navigate move => exact quiet (h.store (hparts.store.navigate move))
  | external loading => exact quiet (h.settings _ _ _ _ _ loading _)
  | setFetching fetching => exact quiet (h.settings _ _ _ _ _ _ fetching)
  | reconcile l => exact quiet (h.reconcile l)
  | showPage page => exact quiet (h.pager (hparts.pager.setCurrent page))
  | showSize size => exact quiet (h.pager (hparts.pager.setSize size))
  | showTotal total => exact quiet (h.pager (hparts.pager.setTotal total))
  | arrange change => exact quiet h

end Makes

theorem made_receive (h : g.coordinator.Made) (a : Arrival) :
    (g.receive a).1.coordinator.Made := by
  rw [coordinator_receive]
  exact h.receive a

theorem made_connect (h : g.coordinator.Made) (history : History) :
    (g.connect history).coordinator.Made := by
  unfold connect
  split
  · exact h
  · next config _ =>
      have hstore := (Store.Made.ofPaging (.ofHistory config history)).merge
        (.ofMap g.request.params)
      exact (h.store hstore).syncPager

/-- **A grid has a coordinator that can come about.** -/
theorem Reachable.coordinator_made (h : g.Reachable) : g.coordinator.Made := by
  induction h with
  | ofSchema id config schema =>
      exact (Coordinator.Made.ofStore id (.ofPage 1 config.defaultSize)).settings
        _ _ config.ordering config.rowKey config.summaryLabel _ _
  | connect _ history ih => exact made_connect ih history
  | withParams _ p ih => exact (ih.store (ih.parts.store.merge p)).syncPager
  | withForm _ form ih => exact ih
  | withMade _ hc _ => exact hc
  | happen _ e ih =>
      cases e with
      | operate o => exact (Makes.operate ih o).coordinator
      | receive a => exact made_receive ih a

/-- A run of things that happen ends in a grid that can come about. -/
theorem Reachable.happenings (h : g.Reachable) (es : List Happening) :
    (g.happenings es).Reachable := by
  induction es generalizing g with
  | nil => exact h
  | cons e es ih => exact ih (h.happen e)

end Grid

end RecordGrid
