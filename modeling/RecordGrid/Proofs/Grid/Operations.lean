/-
**Everything that can be done to a grid.**

Besides the calls of `Grid.Call` there is a first load, there are key presses and selections, and a
host may reach through a grid to what it is made of: the coordinator, its store and the history
behind it, the pager, the columns.  `Grid.Operation` has them all, apart from taking arrivals, which
are not done by anybody in particular.

Main definitions:

* `RecordGrid.Grid.Operation`, `RecordGrid.Grid.operate` — the operations, and what they do;
* `RecordGrid.Grid.SendsOwn` — what happens to a grid leaves it its number, and what it sends
  carries that number;
* `RecordGrid.GridSession.operate` — an operation in a session.

Main results:

* `RecordGrid.Grid.SendsOwn.operate` — **a grid sends only fetches of its own**.
-/

import RecordGrid.Proofs.Grid.Trail

set_option relaxedAutoImplicit false
set_option autoImplicit false

namespace RecordGrid

namespace Grid

/-! ### Operations -/

/-- What can be done to a grid, apart from handing it an arrival. -/
inductive Operation where
  /-- The first load. -/
  | start
  /-- The coordinator is made to load, with or without a patch. -/
  | load (patch : Option Patch)
  /-- A call of the host. -/
  | call (c : Call)
  /-- The defaults of the filters have become known, and are not to be loaded. -/
  | filtersKnown (p : Patch)
  | edit (field : String) (value : FilterValue)
  /-- The host reports that the address bar has changed. -/
  | urlChanged
  /-- Rows are selected in place of those selected before. -/
  | selectRows (rows : List Row)
  | press (k : KeyPress)
  /-- A patch is merged into the request, and nothing is loaded. -/
  | merge (p : Patch)
  /-- The page or the page size is changed, and nothing is loaded. -/
  | paginate (page size : Option Count)
  /-- Pagination parameters are written to the address bar alone. -/
  | writeUrl (page size : Option Count)
  /-- The host, or another grid on the same history, navigates or rewrites an entry. -/
  | navigate (move : History → History)
  /-- The host says whether it is loading, or stops saying so. -/
  | external (loading : Option Bool)
  /-- The host sets whether a fetch is under way. -/
  | setFetching (fetching : Bool)
  /-- The host hands in a listing that it already has. -/
  | reconcile (l : Listing)
  | showPage (page : Count)
  | showSize (size : Count)
  | showTotal (total : Count)
  /-- The columns are hidden, ordered or set anew. -/
  | arrange (change : Columns → Columns)

/-- The current request is loaded again. -/
def Operation.reload : Operation := .load none

/-- The grid with its coordinator changed. -/
def withCoordinator (g : Grid) (f : Coordinator → Coordinator) : Grid :=
  { g with coordinator := f g.coordinator }

/-- What an operation does. -/
def operate (g : Grid) : Operation → Grid × Effect
  | .start => g.start
  | .load patch => g.load patch []
  | .call c => g.call c
  | .filtersKnown p => g.filtersReady p false
  | .edit field value => (g.edit field value, {})
  | .urlChanged => g.urlChanged
  | .selectRows rows => g.selectRows rows
  | .press k => g.press k
  | .merge p => (g.withStore (g.coordinator.store.merge p), {})
  | .paginate page size => (g.withStore (g.coordinator.store.paginate page size), {})
  | .writeUrl page size => (g.withStore (g.coordinator.store.writeUrl page size), {})
  | .navigate move => (g.withStore (g.coordinator.store.step (.navigate move)), {})
  | .external loading => (g.withCoordinator fun c => { c with external := loading }, {})
  | .setFetching fetching => (g.withCoordinator fun c => { c with fetching }, {})
  | .reconcile l => (g.withCoordinator (·.reconcile l), {})
  | .showPage page => (g.withPager (·.setCurrent page), {})
  | .showSize size => (g.withPager (·.setSize size), {})
  | .showTotal total => (g.withPager (·.setTotal total), {})
  | .arrange change => ({ g with columns := change g.columns }, {})

/-! ### Whose fetches are sent -/

/-- What happens to a grid leaves it its number, and what it sends carries that number. -/
structure SendsOwn (g : Grid) (r : Grid × Effect) : Prop where
  id : r.1.coordinator.id = g.coordinator.id
  owner : ∀ f ∈ r.2.fetch, f.owner = g.coordinator.id

namespace SendsOwn

variable {g : Grid}

/-- Where nothing is sent, only the number counts. -/
theorem quiet {r : Grid × Effect} (hid : r.1.coordinator.id = g.coordinator.id)
    (he : r.2.fetch = none) : g.SendsOwn r :=
  ⟨hid, fun f hf => by rw [he] at hf; cases hf⟩

theorem refl (g : Grid) : g.SendsOwn (g, {}) := quiet rfl rfl

/-- A load, by a grid with the same number. -/
theorem load (g : Grid) {h : Grid} (hid : h.coordinator.id = g.coordinator.id)
    (patch : Option Patch) (events : List GridEvent) : g.SendsOwn (h.load patch events) := by
  show g.SendsOwn ({ h with coordinator := (h.coordinator.load patch).1 },
    { fetch := (h.coordinator.load patch).2, events })
  rw [Coordinator.load_eq]
  split
  · have hpatched : (h.coordinator.patched patch).id = g.coordinator.id :=
      (h.coordinator.id_patched patch).trans hid
    refine ⟨hpatched, fun f hf => ?_⟩
    obtain rfl := Option.mem_some.1 hf
    exact hpatched
  · exact quiet hid rfl

theorem start (g : Grid) : g.SendsOwn g.start := by
  unfold Grid.start
  split
  · exact refl g
  · split
    · exact load g rfl _ _
    · exact load g rfl _ _

theorem call (g : Grid) (c : Call) : g.SendsOwn (g.call c) := by
  rcases g.call_cases c with hc | ⟨filters, turn, patch, events, hc⟩ | ⟨page, size, events, hc⟩
  · rw [hc]
    exact refl g
  · rw [hc]
    exact load g (h := Grid.withPager { g with filters } turn) rfl patch events
  · rw [hc]
    exact quiet rfl rfl

theorem urlChanged (g : Grid) : g.SendsOwn g.urlChanged := by
  unfold Grid.urlChanged
  split
  · exact load g rfl _ _
  · exact refl g

theorem flipCursorRow (g : Grid) : g.SendsOwn g.flipCursorRow := by
  unfold Grid.flipCursorRow
  split
  · exact refl g
  · split
    · exact refl g
    · exact quiet rfl rfl

/-- Of all keys only those of the pager send anything. -/
theorem press (g : Grid) (k : KeyPress) : g.SendsOwn (g.press k) := by
  unfold Grid.press
  split
  · exact call g (.changePage _)
  · split
    · exact quiet rfl rfl
    · split
      · exact quiet rfl rfl
      · split
        · exact flipCursorRow g
        · exact refl g

/-- **A grid sends only fetches of its own**, whatever is done to it. -/
theorem operate (g : Grid) (o : Operation) : g.SendsOwn (g.operate o) := by
  cases o with
  | start => exact start g
  | load patch => exact load g rfl patch []
  | call c => exact call g c
  | edit field value =>
      rw [Grid.operate, edit_eq]
      exact quiet rfl rfl
  | urlChanged => exact urlChanged g
  | press k => exact press g k
  | _ => exact quiet rfl rfl

/-- An arrival sends nothing. -/
theorem receive (g : Grid) (a : Arrival) : g.SendsOwn (g.receive a) := by
  have hid : (g.receive a).1.coordinator.id = g.coordinator.id := by
    rw [coordinator_receive, Coordinator.coordinator_receive_eq]
  have hquiet : (g.receive a).2.fetch = none := by rw [effect_receive]
  exact quiet hid hquiet

end SendsOwn

/-- A grid leaves the arrivals of others alone. -/
theorem receive_of_ne {g : Grid} {a : Arrival} (h : a.owner ≠ g.coordinator.id) :
    g.receive a = (g, {}) := by
  simp [receive, Coordinator.receive_foreign h]

end Grid

/-! ### Sessions -/

namespace GridSession

/-- The session after an operation. -/
def operate (s : GridSession) (o : Grid.Operation) : GridSession := s.after (s.grid.operate o)

/-- The session after an arrival. -/
def take (s : GridSession) (a : Arrival) : GridSession := s.step (.receive a)

@[simp] theorem id_operate (s : GridSession) (o : Grid.Operation) :
    (s.operate o).grid.coordinator.id = s.grid.coordinator.id :=
  (Grid.SendsOwn.operate s.grid o).id

theorem sent_operate (s : GridSession) (o : Grid.Operation) :
    ∀ f ∈ (s.operate o).sent, f ∈ s.sent ∨ f.owner = s.grid.coordinator.id := by
  intro f hf
  refine (List.mem_append.1 hf).imp_right fun hnew => ?_
  exact (Grid.SendsOwn.operate s.grid o).owner f (Option.mem_toList.1 hnew)

@[simp] theorem id_take (s : GridSession) (a : Arrival) :
    (s.take a).grid.coordinator.id = s.grid.coordinator.id :=
  (Grid.SendsOwn.receive s.grid a).id

@[simp] theorem sent_take (s : GridSession) (a : Arrival) : (s.take a).sent = s.sent := by
  rw [take, step_receive]

theorem take_of_ne {s : GridSession} {a : Arrival} (h : a.owner ≠ s.grid.coordinator.id) :
    s.take a = s := by
  rw [take, step, Grid.receive_of_ne h, after]
  simp

end GridSession

end RecordGrid
