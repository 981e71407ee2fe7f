/-
**What a failed load leaves behind.**

A load merges its patch and, when the patch names a page or a page size, turns the pager to it at
once; rows and summary wait for the arrival.  A failure keeps the rows, the summary and the total,
but it does not turn the pager back.  So what is shown is the same as before the load exactly when
the pager had no need to turn.

Main definitions:

* `RecordGrid.Pager.Shows` — the pager shows the page and page size of a request.

Main results:

* `RecordGrid.Coordinator.receive_failed_load` — the coordinator after a load that failed;
* `RecordGrid.Coordinator.failed_load_keeps_shown_iff` — **when a failed load leaves no trace**;
* `RecordGrid.Coordinator.failed_load_turns_page` — it may leave the pager on a page whose rows
  never came.
-/

import RecordGrid.Proofs.Fetch.Basic

set_option relaxedAutoImplicit false
set_option autoImplicit false

namespace RecordGrid

/-- The pager shows the page and page size of a request; zero is read as one. -/
def Pager.Shows (p : Pager) (r : Request) : Prop :=
  p.current = r.page.positive ∧ p.size = r.size.positive

instance (p : Pager) (r : Request) : Decidable (p.Shows r) := inferInstanceAs (Decidable (_ ∧ _))

namespace Coordinator

/-- A merge leaves the pager where it is exactly when the patch names neither page nor page size or
the pager shows already what the request comes to. -/
theorem pager_mergeShown_stays_iff (c : Coordinator) (p : Patch) :
    ((c.mergeShown p).pager.current = c.pager.current ∧
        (c.mergeShown p).pager.size = c.pager.size) ↔
      (p.touchesPagination = true → c.pager.Shows (c.store.merge p).request) := by
  rw [pager_mergeShown]
  cases h : p.touchesPagination with
  | false => simp
  | true =>
      simp only [if_true, forall_const]
      exact and_congr eq_comm eq_comm

/-- A load that failed leaves the coordinator with the patch merged, and nothing under way. -/
theorem receive_failed_load {c : Coordinator} {p : Patch} {answer : Outcome} {e : FetchFailure}
    (he : answer.bind c.finish = .error e) :
    (c.mergeShown p).issue.1.receive ((c.mergeShown p).issue.2.arrival answer) =
      { coordinator := { (c.mergeShown p).issue.1 with fetching := false }
        consumed := true
        notices := failureNotices e } := by
  have hout : ((c.mergeShown p).issue.2.arrival answer).outcome = .error e := by
    rw [Fetch.outcome_arrival, mergeShown_eq]
    exact he
  have hfresh :
      (c.mergeShown p).issue.1.isStale ((c.mergeShown p).issue.2.arrival answer) = false :=
    isStale_of_seq_eq rfl
  rw [receive_applied rfl hfresh, hout]
  rfl

/-- **When a failed load leaves no trace**: rows, summary and total are always kept; page and page
size are kept exactly when the patch names neither or the pager showed already what the request
comes to. -/
theorem failed_load_keeps_shown_iff (c : Coordinator) (p : Patch) (answer : Outcome)
    (e : FetchFailure) (hc : c.canFetch = true) (he : answer.bind c.finish = .error e) :
    ∃ d f, c.load (some p) = (d, some f) ∧ (d.receive (f.arrival answer)).consumed = true ∧
      (d.receive (f.arrival answer)).coordinator.rows = c.rows ∧
      (d.receive (f.arrival answer)).coordinator.summary = c.summary ∧
      (d.receive (f.arrival answer)).coordinator.pager.total = c.pager.total ∧
      (((d.receive (f.arrival answer)).coordinator.pager.current = c.pager.current ∧
          (d.receive (f.arrival answer)).coordinator.pager.size = c.pager.size) ↔
        (p.touchesPagination = true → c.pager.Shows (c.store.merge p).request)) := by
  refine ⟨_, _, c.load_some p hc, ?_⟩
  rw [receive_failed_load he]
  refine ⟨rfl, ?_, ?_, c.total_mergeShown p, c.pager_mergeShown_stays_iff p⟩
  · rw [issue, mergeShown_eq]
  · rw [issue, mergeShown_eq]

/-- A coordinator on the first page, with nothing under way. -/
def onFirstPage : Coordinator := { ofStore 0 (.ofPage 1 20) with canFetch := true }

/-- A search from the first page on leaves no trace there when it fails. -/
theorem failed_load_keeps_shown_search :
    onFirstPage.canFetch = true ∧
      ∃ d f, onFirstPage.load (some ((Patch.search "web").withPage 1)) = (d, some f) ∧
        (d.receive (f.arrival (.error (.request "timeout")))).coordinator.pager.current = 1 := by
  obtain ⟨d, f, hload, -, -, -, -, h⟩ :=
    failed_load_keeps_shown_iff onFirstPage ((Patch.search "web").withPage 1)
      (.error (.request "timeout")) (.request "timeout") rfl rfl
  exact ⟨rfl, d, f, hload, (h.2 (by decide)).1⟩

/-- **A failed load may turn the page**: the pager stays on the page that was asked for, whose rows
never came. -/
theorem failed_load_turns_page :
    ∃ d f, onFirstPage.load (some (.ofPage 2)) = (d, some f) ∧ onFirstPage.pager.current = 1 ∧
      (d.receive (f.arrival (.error (.request "timeout")))).coordinator.rows = onFirstPage.rows ∧
      (d.receive (f.arrival (.error (.request "timeout")))).coordinator.pager.current = 2 :=
  ⟨_, _, rfl, rfl, rfl, rfl⟩

end Coordinator

end RecordGrid
