/-
**Loads and arrivals, case by case.**

A load either goes out or changes nothing at all, and an arrival is either applied or changes
nothing at all.  This module says which of the two happens and what it amounts to; whatever is
proved of runs of a coordinator starts from these equations and does not open `load` or `receive`
again.

Main definitions:

* `RecordGrid.Coordinator.goesOut` — whether a load issues a fetch;
* `RecordGrid.Coordinator.patched` — the coordinator that issues it;
* `RecordGrid.Coordinator.settle`, `RecordGrid.outcomeNotices` — what an applied outcome leaves
  behind, and what the user is told of it.

Main results:

* `RecordGrid.Coordinator.load_eq` — **a load, in one equation**;
* `RecordGrid.Coordinator.receive_foreign`, `receive_stale`, `receive_applied` — **an arrival, in
  three**.
-/

import RecordGrid.Fetch.Coordinator

set_option relaxedAutoImplicit false
set_option autoImplicit false

namespace RecordGrid

/-- The notices of an outcome. -/
def outcomeNotices : Outcome → List String
  | .ok _ => []
  | .error f => Coordinator.failureNotices f

@[simp] theorem outcomeNotices_ok (l : Listing) : outcomeNotices (.ok l) = [] := rfl

@[simp] theorem outcomeNotices_error (f : FetchFailure) :
    outcomeNotices (.error f) = Coordinator.failureNotices f := rfl

@[simp] theorem Fetch.owner_arrival (f : Fetch) (answer : Outcome) :
    (f.arrival answer).owner = f.owner := rfl

@[simp] theorem Fetch.seq_arrival (f : Fetch) (answer : Outcome) :
    (f.arrival answer).seq = f.seq := rfl

@[simp] theorem Fetch.outcome_arrival (f : Fetch) (answer : Outcome) :
    (f.arrival answer).outcome = answer.bind f.finish := rfl

namespace Coordinator

/-! ### Merging -/

@[simp] theorem store_mergeShown (c : Coordinator) (p : Patch) :
    (c.mergeShown p).store = c.store.merge p := by
  unfold mergeShown
  split <;> rfl

/-- Merging a patch changes the store and the pager and nothing else. -/
theorem mergeShown_eq (c : Coordinator) (p : Patch) :
    c.mergeShown p = { c with store := c.store.merge p, pager := (c.mergeShown p).pager } := by
  unfold mergeShown
  split <;> rfl

/-- The pager after a merge: it follows the request when the patch names a page or a page size. -/
theorem pager_mergeShown (c : Coordinator) (p : Patch) :
    (c.mergeShown p).pager =
      if p.touchesPagination then
        (c.pager.setCurrent (c.store.merge p).request.page).setSize (c.store.merge p).request.size
      else c.pager := by
  unfold mergeShown
  split <;> rfl

@[simp] theorem total_mergeShown (c : Coordinator) (p : Patch) :
    (c.mergeShown p).pager.total = c.pager.total := by
  rw [pager_mergeShown]
  split <;> rfl

/-! ### Loading -/

/-- The coordinator that issues the fetch of a load: its patch is merged. -/
def patched (c : Coordinator) : Option Patch → Coordinator
  | none => c
  | some p => c.mergeShown p

/-- Whether a load goes out: there is something to fetch with, and without a patch nothing else is
loading. -/
def goesOut (c : Coordinator) (patch : Option Patch) : Bool :=
  c.canFetch && (patch.isSome || !c.loading)

@[simp] theorem patched_none (c : Coordinator) : c.patched none = c := rfl

@[simp] theorem patched_some (c : Coordinator) (p : Patch) :
    c.patched (some p) = c.mergeShown p := rfl

/-- Merging the patch of a load changes the store and the pager and nothing else. -/
theorem patched_eq (c : Coordinator) (patch : Option Patch) :
    c.patched patch =
      { c with store := (c.patched patch).store, pager := (c.patched patch).pager } := by
  cases patch with
  | none => rfl
  | some p => simpa using c.mergeShown_eq p

@[simp] theorem id_patched (c : Coordinator) (patch : Option Patch) :
    (c.patched patch).id = c.id := by rw [patched_eq]

@[simp] theorem issued_patched (c : Coordinator) (patch : Option Patch) :
    (c.patched patch).issued = c.issued := by rw [patched_eq]

@[simp] theorem ordering_patched (c : Coordinator) (patch : Option Patch) :
    (c.patched patch).ordering = c.ordering := by rw [patched_eq]

/-- **A load, in one equation**: it goes out with its patch merged, or it changes nothing. -/
theorem load_eq (c : Coordinator) (patch : Option Patch) :
    c.load patch =
      if c.goesOut patch then ((c.patched patch).issue.1, some (c.patched patch).issue.2)
      else (c, none) := by
  unfold load goesOut
  cases hf : c.canFetch with
  | false => simp
  | true =>
      cases patch with
      | none => cases hl : c.loading <;> simp
      | some p => simp

@[simp] theorem reload_eq (c : Coordinator) : c.reload = c.load none := rfl

/-- A load with a patch goes out whenever there is something to fetch with. -/
theorem load_some (c : Coordinator) (p : Patch) (h : c.canFetch = true) :
    c.load (some p) = ((c.mergeShown p).issue.1, some (c.mergeShown p).issue.2) := by
  rw [load_eq, goesOut, h]
  rfl

/-! ### Arrivals -/

/-- The coordinator after an outcome was applied: a listing is taken over, and loading ends. -/
def settle (c : Coordinator) : Outcome → Coordinator
  | .ok l => c.reconcile l
  | .error _ => { c with fetching := false }

@[simp] theorem settle_ok (c : Coordinator) (l : Listing) : c.settle (.ok l) = c.reconcile l := rfl

@[simp] theorem settle_error (c : Coordinator) (f : FetchFailure) :
    c.settle (.error f) = { c with fetching := false } := rfl

/-- Applying an outcome changes what is shown and ends loading; nothing else changes. -/
theorem settle_eq (c : Coordinator) (o : Outcome) :
    c.settle o =
      { c with
        rows := (c.settle o).rows
        summary := (c.settle o).summary
        pager := (c.settle o).pager
        fetching := false } := by
  cases o <;> rfl

/-- The arrival of another coordinator's fetch is left alone. -/
theorem receive_foreign {c : Coordinator} {a : Arrival} (h : a.owner ≠ c.id) :
    c.receive a = { coordinator := c, consumed := false } := by
  simp [receive, h]

/-- An arrival that came too late has no effect. -/
theorem receive_stale {c : Coordinator} {a : Arrival} (ho : a.owner = c.id)
    (hs : c.isStale a = true) : c.receive a = { coordinator := c, consumed := true } := by
  simp [receive, ho, hs]

/-- Any other arrival is applied. -/
theorem receive_applied {c : Coordinator} {a : Arrival} (ho : a.owner = c.id)
    (hs : c.isStale a = false) :
    c.receive a =
      { coordinator := c.settle a.outcome, consumed := true,
        notices := outcomeNotices a.outcome } := by
  cases h : a.outcome <;> simp [receive, ho, hs, h]

/-- An arrival is consumed by the coordinator whose fetch has ended, and by no other. -/
theorem consumed_receive_iff {c : Coordinator} {a : Arrival} :
    (c.receive a).consumed = true ↔ a.owner = c.id := by
  by_cases ho : a.owner = c.id
  · cases hs : c.isStale a with
    | true => simp [receive_stale ho hs, ho]
    | false => simp [receive_applied ho hs, ho]
  · simp [receive_foreign ho, ho]

/-- An arrival changes nothing or is applied. -/
theorem coordinator_receive_cases (c : Coordinator) (a : Arrival) :
    (c.receive a).coordinator = c ∨ (c.receive a).coordinator = c.settle a.outcome := by
  by_cases ho : a.owner = c.id
  · cases hs : c.isStale a with
    | true => exact Or.inl (by rw [receive_stale ho hs])
    | false => exact Or.inr (by rw [receive_applied ho hs])
  · exact Or.inl (by rw [receive_foreign ho])

/-- No arrival changes the request, what is fetched with, or what is done to a request. -/
theorem coordinator_receive_eq (c : Coordinator) (a : Arrival) :
    (c.receive a).coordinator =
      { c with
        rows := (c.receive a).coordinator.rows
        summary := (c.receive a).coordinator.summary
        pager := (c.receive a).coordinator.pager
        fetching := (c.receive a).coordinator.fetching } := by
  rcases c.coordinator_receive_cases a with h | h <;> rw [h]
  rw [settle_eq]

/-- The arrival of the fetch issued last is in time under every ordering. -/
theorem isStale_of_seq_eq {c : Coordinator} {a : Arrival} (h : a.seq = c.issued) :
    c.isStale a = false := by
  simp [isStale, h]

/-- Under the ordering `latestOnly`, an arrival is in time when its fetch was issued last. -/
theorem isStale_eq_false_iff {c : Coordinator} (h : c.ordering = .latestOnly) (a : Arrival) :
    c.isStale a = false ↔ a.seq = c.issued := by
  simp [isStale, h]

end Coordinator

end RecordGrid
