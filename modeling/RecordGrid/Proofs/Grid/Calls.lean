/-
**Grids in use.**

A host drives a grid by calls, one for each thing that a user can do to a list.  Between the calls
values are set in the filter form, fetches come back, and the address bar changes.  This module puts
the calls side by side, with the patch that each of them asks for and what the host is told of it,
and says what a run of such events leaves behind: the grid, the fetches that were sent, and what the
host and the user were told.

Main definitions:

* `RecordGrid.Grid.Call`, `RecordGrid.Grid.call` — the calls, and what they do;
* `RecordGrid.Grid.Call.asked`, `RecordGrid.Grid.Call.announced` — the patch that a call asks for,
  and what the host is told;
* `RecordGrid.GridSession`, `RecordGrid.GridSession.Event` — a grid with what it has sent and told,
  and what can happen to it;
* `RecordGrid.GridSession.step`, `RecordGrid.GridSession.run` — one event, and a list of them.

Main results:

* `RecordGrid.Grid.load_of_canFetch` — a load with a patch, in one equation;
* `RecordGrid.Grid.call_of_plain` — **every call to a grid without the address bar is a load** of
  the patch that it asks for;
* `RecordGrid.Grid.changePage_of_paging`, `changePageSize_of_paging` — with the address bar, two of
  them are not;
* `RecordGrid.Grid.call_cases` — all that a call can be.
-/

import RecordGrid.Proofs.Filter.Editing
import RecordGrid.Proofs.Grid.UrlChanged

set_option relaxedAutoImplicit false
set_option autoImplicit false

namespace RecordGrid

/-! ### Calls -/

/-- What a host can do to a grid on behalf of its user, apart from selecting rows. -/
inductive Grid.Call where
  /-- A text is searched for. -/
  | search (text : String)
  /-- The rows are sorted. -/
  | sort (p : Patch)
  /-- The rows are filtered. -/
  | filter (p : Patch)
  /-- The defaults of the filters have become known, and are to be loaded. -/
  | filtersReady (p : Patch)
  /-- The values of the filter form are applied. -/
  | applyFilters
  /-- The filter form is put back to its defaults. -/
  | resetFilters
  /-- Another page is asked for. -/
  | changePage (page : Count)
  /-- Another page size is asked for. -/
  | changePageSize (size : Count)
deriving DecidableEq

namespace Grid

namespace Call

/-- What a call names, given the filter form. -/
def named (form : FilterForm) : Call → Patch
  | .search text => .search text
  | .sort p | .filter p | .filtersReady p => p
  | .applyFilters => form.patch
  | .resetFilters => form.reset.patch
  | .changePage page => .ofPage page
  | .changePageSize size => Patch.empty.withSize size

/-- Whether a call returns to the first page. -/
def returns : Call → Bool
  | .sort _ | .changePage _ => false
  | _ => true

/-- The patch that a call asks for: what it names, and the first page if it returns there. -/
def asked (form : FilterForm) (c : Call) : Patch :=
  if c.returns then (c.named form).withPage 1 else c.named form

theorem page_asked (form : FilterForm) (c : Call) :
    (c.asked form).page = if c.returns then some 1 else (c.named form).page := by
  unfold asked
  split <;> rfl

@[simp] theorem size_asked (form : FilterForm) (c : Call) :
    (c.asked form).size = (c.named form).size := by
  unfold asked
  split <;> rfl

@[simp] theorem get?_asked (form : FilterForm) (c : Call) (key : String) :
    (c.asked form).get? key = (c.named form).get? key := by
  unfold asked
  split <;> rfl

/-- What the host is told of a call. -/
def announced (form : FilterForm) : Call → GridEvent
  | .search text => .search text
  | .sort p => .sort p
  | .filter p => .filter p
  | .filtersReady p => .filterReady p
  | .applyFilters => .filter form.patch
  | .resetFilters => .filter form.reset.patch
  | .changePage page => .page page
  | .changePageSize size => .pageSize size

/-- The filter form after a call. -/
def formAfter (form : FilterForm) : Call → FilterForm
  | .resetFilters => form.reset
  | _ => form

end Call

/-- What a call does. -/
def call (g : Grid) : Call → Grid × Effect
  | .search text => g.search text
  | .sort p => g.sort p
  | .filter p => g.filter p
  | .filtersReady p => g.filtersReady p true
  | .applyFilters => g.applyFilters
  | .resetFilters => g.resetFilters
  | .changePage page => g.changePage page
  | .changePageSize size => g.changePageSize size

/-! ### Loads -/

/-- A load with a patch goes out. -/
theorem load_of_canFetch {g : Grid} (hf : g.coordinator.canFetch = true) (p : Patch)
    (events : List GridEvent) :
    g.load (some p) events =
      ({ g with coordinator := (g.coordinator.mergeShown p).issue.1 },
        { fetch := some (g.coordinator.mergeShown p).issue.2, events }) := by
  rw [load, Coordinator.load_some _ _ hf]

/-- No load gives a grid something to fetch with, or takes it away. -/
theorem canFetch_load (g : Grid) (patch : Option Patch) (events : List GridEvent) :
    (g.load patch events).1.coordinator.canFetch = g.coordinator.canFetch := by
  show (g.coordinator.load patch).1.canFetch = g.coordinator.canFetch
  rw [Coordinator.load_eq]
  split
  · show (g.coordinator.patched patch).canFetch = g.coordinator.canFetch
    rw [Coordinator.patched_eq]
  · rfl

/-- Without the address bar a page is loaded at once. -/
theorem changePage_of_plain {g : Grid} (h : g.coordinator.store.paging = none) (page : Count) :
    g.changePage page =
      (g.withPager (·.setCurrent page)).load (some (.ofPage page)) [.page page] := by
  simp [changePage, isSynced, Store.isSynced, h]

theorem changePageSize_of_plain {g : Grid} (h : g.coordinator.store.paging = none)
    (size : Count) :
    g.changePageSize size =
      (g.withPager fun p => (p.setSize size).setCurrent 1).load
        (some ((Patch.ofPage 1).withSize size)) [.pageSize size] := by
  simp [changePageSize, isSynced, Store.isSynced, h]

/-- With it only the address bar is rewritten. -/
theorem changePage_of_paging {g : Grid} {u : UrlPaging} (h : g.coordinator.store.paging = some u)
    (page : Count) :
    g.changePage page = (g.paginate (some page) none, { events := [.page page] }) := by
  simp [changePage, isSynced, Store.isSynced, h]

theorem changePageSize_of_paging {g : Grid} {u : UrlPaging}
    (h : g.coordinator.store.paging = some u) (size : Count) :
    g.changePageSize size =
      (g.paginate (some 1) (some size), { events := [.pageSize size] }) := by
  simp [changePageSize, isSynced, Store.isSynced, h]

/-- **Without the address bar every call is a load** of the patch that it asks for; turning pages
moves the pager besides. -/
theorem call_of_plain {g : Grid} {form : FilterForm} (hplain : g.coordinator.store.paging = none)
    (hform : g.filters = some form) (c : Call) :
    ∃ turn : Pager → Pager,
      g.call c =
        (withPager { g with filters := some (c.formAfter form) } turn).load
          (some (c.asked form)) [c.announced form] := by
  -- a form that stays is the form that is there
  have hload (turn : Pager → Pager) (patch : Option Patch) (events : List GridEvent) :
      (g.withPager turn).load patch events =
        (withPager { g with filters := some form } turn).load patch events := by
    rw [← hform]
  cases c with
  | search text =>
      rw [call, search]
      exact ⟨id, hload id _ _⟩
  | sort p =>
      rw [call, sort]
      exact ⟨id, hload id _ _⟩
  | filter p =>
      rw [call, filter]
      exact ⟨id, hload id _ _⟩
  | filtersReady p =>
      rw [call, filtersReady, if_pos rfl]
      exact ⟨id, hload id _ _⟩
  | applyFilters =>
      rw [call, applyFilters, hform]
      exact ⟨id, hload id _ _⟩
  | resetFilters =>
      rw [call, resetFilters, hform]
      exact ⟨id, rfl⟩
  | changePage page =>
      rw [call, changePage_of_plain hplain]
      exact ⟨(·.setCurrent page), hload _ _ _⟩
  | changePageSize size =>
      rw [call, changePageSize_of_plain hplain]
      exact ⟨fun p => (p.setSize size).setCurrent 1, hload _ _ _⟩

/-- **A call is a load, a turn of the page in the address bar, or nothing.**  Before it loads, it
has put back the filter form or turned the pager at most. -/
theorem call_cases (g : Grid) (c : Call) :
    g.call c = (g, {}) ∨
      (∃ filters turn patch events,
        g.call c = (withPager { g with filters } turn).load patch events) ∨
      ∃ page size events, g.call c = (g.paginate page size, { events }) := by
  cases c with
  | search text =>
      rw [call, search]
      exact Or.inr (Or.inl ⟨g.filters, id, _, _, rfl⟩)
  | sort p =>
      rw [call, sort]
      exact Or.inr (Or.inl ⟨g.filters, id, _, _, rfl⟩)
  | filter p =>
      rw [call, filter]
      exact Or.inr (Or.inl ⟨g.filters, id, _, _, rfl⟩)
  | filtersReady p =>
      rw [call, filtersReady, if_pos rfl]
      exact Or.inr (Or.inl ⟨g.filters, id, _, _, rfl⟩)
  | applyFilters =>
      rw [call, applyFilters]
      split
      · exact Or.inr (Or.inl ⟨g.filters, id, _, _, rfl⟩)
      · exact Or.inl rfl
  | resetFilters =>
      rw [call, resetFilters]
      split
      · next form _ => exact Or.inr (Or.inl ⟨some form.reset, id, _, _, rfl⟩)
      · exact Or.inl rfl
  | changePage page =>
      rw [call, changePage]
      split
      · exact Or.inr (Or.inr ⟨_, _, _, rfl⟩)
      · exact Or.inr (Or.inl ⟨g.filters, _, _, _, rfl⟩)
  | changePageSize size =>
      rw [call, changePageSize]
      split
      · exact Or.inr (Or.inr ⟨_, _, _, rfl⟩)
      · exact Or.inr (Or.inl ⟨g.filters, _, _, _, rfl⟩)

/-- Without the address bar there is nothing to report of it. -/
theorem urlChanged_of_plain {g : Grid} (h : g.coordinator.store.paging = none) :
    g.urlChanged = (g, {}) := by
  rw [urlChanged, h]

/-! ### Editing -/

/-- The grid after a value was set in its filter form; a value that is not accepted changes
nothing. -/
def edit (g : Grid) (field : String) (value : FilterValue) : Grid :=
  match g.setFilter field value with
  | some (.ok g') => g'
  | _ => g

/-- Setting a value changes the filter form and nothing else. -/
theorem edit_eq (g : Grid) (field : String) (value : FilterValue) :
    g.edit field value = { g with filters := g.filters.map (·.edit field value) } := by
  cases hf : g.filters with
  | none =>
      have hg : { g with filters := none } = g := by rw [← hf]
      rw [edit, setFilter, hf]
      exact hg.symm
  | some form =>
      have hg : { g with filters := some form } = g := by rw [← hf]
      rw [edit, setFilter, hf, Option.map_some, Option.map_some, FilterForm.edit]
      cases form.set field value with
      | ok form' => rfl
      | error e => exact hg.symm

/-! ### Arrivals -/

/-- All that an arrival results in, apart from a grid, is what the user is told. -/
theorem effect_receive (g : Grid) (a : Arrival) :
    (g.receive a).2 = { notices := (g.coordinator.receive a).notices } := by
  by_cases ho : a.owner = g.coordinator.id
  · simp [receive, Coordinator.consumed_receive_iff.2 ho]
  · simp [receive, Coordinator.receive_foreign ho]

@[simp] theorem filters_receive (g : Grid) (a : Arrival) :
    (g.receive a).1.filters = g.filters := by
  unfold receive
  cases h : (g.coordinator.receive a).consumed <;> simp [h]

end Grid

/-! ### Sessions -/

/-- A grid, what it has sent, and what the host and the user were told. -/
structure GridSession where
  /-- The grid. -/
  grid : Grid
  /-- The fetches sent so far, earliest first. -/
  sent : List Fetch := []
  /-- What the host was told so far, earliest first. -/
  told : List GridEvent := []
  /-- What the user was told so far, earliest first. -/
  notices : List String := []

namespace GridSession

/-- What can happen to a grid. -/
inductive Event where
  /-- A call of the host. -/
  | call (c : Grid.Call)
  /-- A value is set in the filter form. -/
  | edit (field : String) (value : FilterValue)
  /-- A fetch comes back. -/
  | receive (a : Arrival)
  /-- The host reports that the address bar has changed. -/
  | urlChanged

/-- The session that begins with a grid. -/
def ofGrid (g : Grid) : GridSession := { grid := g }

/-- The session after something resulted in a grid and an effect. -/
def after (s : GridSession) (r : Grid × Effect) : GridSession :=
  { grid := r.1
    sent := s.sent ++ r.2.fetch.toList
    told := s.told ++ r.2.events
    notices := s.notices ++ r.2.notices }

/-- The session after an event. -/
def step (s : GridSession) : Event → GridSession
  | .call c => s.after (s.grid.call c)
  | .edit field value => { s with grid := s.grid.edit field value }
  | .receive a => s.after (s.grid.receive a)
  | .urlChanged => s.after s.grid.urlChanged

/-- The session after a list of events. -/
def run (s : GridSession) (es : List Event) : GridSession := es.foldl step s

@[simp] theorem run_nil (s : GridSession) : s.run [] = s := rfl

@[simp] theorem run_cons (s : GridSession) (e : Event) (es : List Event) :
    s.run (e :: es) = (s.step e).run es := rfl

@[simp] theorem run_append (s : GridSession) (es fs : List Event) :
    s.run (es ++ fs) = (s.run es).run fs := List.foldl_append

/-- An arrival sends nothing and tells the host nothing. -/
theorem step_receive (s : GridSession) (a : Arrival) :
    s.step (.receive a) =
      { s with
        grid := (s.grid.receive a).1
        notices := s.notices ++ (s.grid.coordinator.receive a).notices } := by
  rw [step, after, Grid.effect_receive]
  simp

end GridSession

end RecordGrid
