/-
**Where fetches take turns, the orderings make no difference.**

The ordering `latestOnly` is there for fetches that overlap: it throws away what comes back for a
fetch that is no longer the latest one.  In a run in which a fetch goes out only when every earlier
one has been answered, there is nothing to throw away.  The flag that says whether a fetch is under
way does not tell such a run from others, since a listing that the host hands in clears it while the
fetch is still out.  What does is the list of the outstanding fetches: it holds the latest one and
no other, or nothing at all.

Main definitions:

* `RecordGrid.Coordinator.under`, `RecordGrid.Session.under` — the same under another ordering;
* `RecordGrid.Session.InTurn` — no fetch is sent while another one is outstanding;
* `RecordGrid.Session.LatestAlone` — the invariant.

Main results:

* `RecordGrid.Session.LatestAlone.step` — the invariant outlasts every event of such a run;
* `RecordGrid.Session.LatestAlone.run_under` — every ordering leads to the same session;
* `RecordGrid.Session.OneAtATime.inTurn`, `RecordGrid.Session.OneAtATime.run_under` — plain events
  take turns by themselves, so that the orderings make no difference to them;
* `RecordGrid.Session.orderings_agree_in_turn` — **the orderings agree at every point**, from a
  coordinator that has issued nothing.
-/

import RecordGrid.Proofs.Fetch.SingleFlight

set_option relaxedAutoImplicit false
set_option autoImplicit false

namespace RecordGrid

/-! ### The same under another ordering -/

namespace Coordinator

/-- The coordinator under another ordering. -/
def under (c : Coordinator) (o : ResponseOrdering) : Coordinator := { c with ordering := o }

@[simp] theorem mergeShown_under (c : Coordinator) (o : ResponseOrdering) (p : Patch) :
    (c.under o).mergeShown p = (c.mergeShown p).under o := by
  unfold mergeShown
  split <;> rfl

/-- A load does not look at the ordering. -/
theorem load_under (c : Coordinator) (o : ResponseOrdering) (patch : Option Patch) :
    (c.under o).load patch = ((c.load patch).1.under o, (c.load patch).2) := by
  have hgoes : (c.under o).goesOut patch = c.goesOut patch := rfl
  have hpatched : (c.under o).patched patch = (c.patched patch).under o := by
    cases patch with
    | none => rfl
    | some p => exact c.mergeShown_under o p
  rw [load_eq, load_eq, hgoes, hpatched]
  split <;> rfl

/-- The arrival of the fetch issued last is applied under every ordering. -/
theorem receive_under {c : Coordinator} {a : Arrival} (o : ResponseOrdering)
    (h : a.seq = c.issued) :
    (c.under o).receive a =
      { c.receive a with coordinator := (c.receive a).coordinator.under o } := by
  by_cases ho : a.owner = c.id
  · have hsettle : (c.under o).settle a.outcome = (c.settle a.outcome).under o := by
      cases a.outcome <;> rfl
    rw [receive_applied ho (isStale_of_seq_eq h),
      receive_applied (c := c.under o) ho (isStale_of_seq_eq h), hsettle]
  · rw [receive_foreign ho, receive_foreign (c := c.under o) ho]

end Coordinator

namespace Session

/-- The session under another ordering. -/
def under (s : Session) (o : ResponseOrdering) : Session :=
  { s with coordinator := s.coordinator.under o }

/-- **An event does the same under every ordering**, if it answers no fetch other than the one
issued last. -/
theorem step_under {s : Session} {e : Event} (o : ResponseOrdering)
    (he : ∀ n, e.answered? = some n → n = s.coordinator.issued) :
    (s.under o).step e = (s.step e).under o := by
  cases e with
  | load patch =>
      show (s.under o).afterLoad ((s.coordinator.under o).load patch) = _
      rw [Coordinator.load_under]
      rfl
  | external loading => rfl
  | reconcile l => rfl
  | receive f answer =>
      have hseq : (f.arrival answer).seq = s.coordinator.issued := he f.seq rfl
      show (s.under o).afterArrival ((s.coordinator.under o).receive (f.arrival answer)) = _
      rw [Coordinator.receive_under o hseq]
      rfl

/-! ### Taking turns -/

/-- No event of a list sends a fetch while one is outstanding that was sent before; `past` are the
events that have led to the session. -/
def InTurn (s : Session) (past : List Event) : List Event → Prop
  | [] => True
  | e :: es =>
      ((s.step e).sent ≠ s.sent → s.outstanding past = []) ∧ (s.step e).InTurn (past ++ [e]) es

@[simp] theorem inTurn_append (s : Session) (past es fs : List Event) :
    s.InTurn past (es ++ fs) ↔ s.InTurn past es ∧ (s.run es).InTurn (past ++ es) fs := by
  induction es generalizing s past with
  | nil => simp [InTurn]
  | cons e es ih => simp [InTurn, ih, and_assoc]

/-- **What is known of a session whose fetches took turns in the events `past`**: nothing is
outstanding, or the latest fetch is and no other one. -/
structure LatestAlone (s : Session) (past : List Event) : Prop where
  /-- The fetches sent are numbered. -/
  numbered : s.Numbered
  /-- Only what was issued is answered. -/
  answered : ∀ n ∈ past.filterMap Event.answered?, n ≤ s.coordinator.issued
  /-- Nothing but the latest fetch is outstanding. -/
  alone : s.outstanding past = [] ∨ ∃ f, s.latest? = some f ∧ s.outstanding past = [f]

namespace LatestAlone

variable {s : Session} {past : List Event}

theorem ofCoordinator {c : Coordinator} (h : c.issued = 0) :
    (ofCoordinator c).LatestAlone [] where
  numbered := .ofCoordinator h
  answered := by simp
  alone := Or.inl rfl

/-- A fetch that was not answered yet is the one issued last. -/
theorem seq_eq (h : s.LatestAlone past) {f : Fetch} (hf : f ∈ s.outstanding past) :
    f.seq = s.coordinator.issued := by
  rcases h.alone with hnone | ⟨g, hg, hout⟩
  · simp [hnone] at hf
  · obtain rfl : f = g := by simpa [hout] using hf
    exact (h.numbered.latest?_eq_some_iff.1 hg).2

/-- Whatever an event answers was issued. -/
theorem answered_le (h : s.LatestAlone past) {e : Event} (he : s.Admits e) :
    ∀ n ∈ (past ++ [e]).filterMap Event.answered?, n ≤ s.coordinator.issued := by
  intro n hn
  rw [List.filterMap_append, List.mem_append] at hn
  rcases hn with hn | hn
  · exact h.answered n hn
  · cases e with
    | receive f answer =>
        obtain rfl : n = f.seq := by simpa [Event.answered?] using hn
        exact h.numbered.seq_le he
    | _ => simp [Event.answered?] at hn

/-- The invariant outlasts an event that sends nothing: a fetch may have been answered by it. -/
theorem quiet (h : s.LatestAlone past) {e : Event} (he : s.Admits e)
    (hs : (s.step e).sent = s.sent)
    (hi : (s.step e).coordinator.issued = s.coordinator.issued) :
    (s.step e).LatestAlone (past ++ [e]) := by
  have hout : (s.step e).outstanding (past ++ [e]) =
      (s.outstanding past).filter fun f => decide (e.answered? ≠ some f.seq) := by
    rw [outstanding_concat, outstanding, hs, outstanding]
  refine ⟨h.numbered.step e, by rw [hi]; exact h.answered_le he, ?_⟩
  rw [hout, latest?, hs]
  rcases h.alone with hnone | ⟨f, hf, hone⟩
  · exact Or.inl (by rw [hnone, List.filter_nil])
  · rw [hone]
    by_cases hans : e.answered? = some f.seq
    · exact Or.inl (by simp [hans])
    · exact Or.inr ⟨f, hf, by simp [hans]⟩

/-- The invariant outlasts a fetch that is sent while nothing is outstanding: that fetch is. -/
theorem send (h : s.LatestAlone past) {e : Event} (he : s.Admits e) {f : Fetch}
    (hs : (s.step e).sent = f :: s.sent) (hf : f.seq = s.coordinator.issued + 1)
    (hi : (s.step e).coordinator.issued = s.coordinator.issued + 1)
    (hnone : s.outstanding past = []) : (s.step e).LatestAlone (past ++ [e]) := by
  have hle := h.answered_le he
  -- the fetch just sent carries a number that nothing has answered
  have hnew : f.seq ∉ (past ++ [e]).filterMap Event.answered? := fun hm => by
    have := hle _ hm
    omega
  refine ⟨h.numbered.step e, fun n hn => ?_, Or.inr ⟨f, ?_, ?_⟩⟩
  · have := hle n hn
    omega
  · rw [latest?, hs, List.head?_cons]
  · rw [outstanding_step_of_sent_cons hs hnew, outstanding_concat, hnone, List.filter_nil]

/-- **The invariant outlasts every event** that sends nothing while something is outstanding. -/
theorem step (h : s.LatestAlone past) {e : Event} (he : s.Admits e)
    (hturn : (s.step e).sent ≠ s.sent → s.outstanding past = []) :
    (s.step e).LatestAlone (past ++ [e]) := by
  rcases s.sent_step_cases e with ⟨hs, hi⟩ | ⟨f, hs, -, hf, hi⟩
  · exact h.quiet he hs hi
  · have hsends : (s.step e).sent ≠ s.sent := by simp [hs]
    exact h.send he hs hf hi (hturn hsends)

/-- **Where fetches take turns and none is answered twice, every ordering leads to the same
session.**  Whatever is answered was outstanding, so it was issued last. -/
theorem run_under (h : s.LatestAlone past) {es : List Event} (hes : s.IsRun es)
    (hturn : s.InTurn past es) (honce : ((past ++ es).filterMap Event.answered?).Nodup)
    (o : ResponseOrdering) : (s.under o).run es = (s.run es).under o := by
  induction es generalizing s past with
  | nil => rfl
  | cons e es ih =>
      have hlatest : ∀ n, e.answered? = some n → n = s.coordinator.issued := by
        intro n hn
        have hnew := not_answered_of_nodup honce hn
        cases e with
        | receive f answer =>
            obtain rfl : f.seq = n := Option.some.inj hn
            exact h.seq_eq (mem_outstanding.2 ⟨hes.1, hnew⟩)
        | _ => cases hn
      rw [run_cons, run_cons, step_under o hlatest]
      exact ih (h.step hes.1 hturn.1) hes.2 hturn.2 (by simpa using honce)

end LatestAlone

/-! ### Plain events -/

namespace OneAtATime

variable {s : Session} {past : List Event}

theorem latestAlone (h : s.OneAtATime past) : s.LatestAlone past where
  numbered := h.numbered
  answered := h.answered
  alone := by
    cases hf : s.coordinator.fetching with
    | false => exact Or.inl (h.idle hf)
    | true => exact Or.inr (h.busy hf)

/-- **Plain events take turns by themselves**: a reload is dropped while a fetch is outstanding. -/
theorem inTurn (h : s.OneAtATime past) {es : List Event} (hes : s.IsRun es)
    (hplain : ∀ e ∈ es, e.IsPlain) (honce : ((past ++ es).filterMap Event.answered?).Nodup) :
    s.InTurn past es := by
  induction es generalizing s past with
  | nil => trivial
  | cons e es ih =>
      have he : e.IsPlain := hplain e (List.mem_cons_self ..)
      have hstep := h.step hes.1 he fun n hn => not_answered_of_nodup honce hn
      refine ⟨fun hsends => h.idle ((sent_step_ne_iff he).1 hsends).2.2.1, ?_⟩
      exact ih hstep hes.2 (fun e' he' => hplain e' (List.mem_cons_of_mem _ he'))
        (by simpa using honce)

/-- Plain events lead to the same session under every ordering. -/
theorem run_under (h : s.OneAtATime past) {es : List Event} (hes : s.IsRun es)
    (hplain : ∀ e ∈ es, e.IsPlain) (honce : ((past ++ es).filterMap Event.answered?).Nodup)
    (o : ResponseOrdering) : (s.under o).run es = (s.run es).under o :=
  h.latestAlone.run_under hes (h.inTurn hes hplain honce) honce o

end OneAtATime

/-! ### The orderings agree -/

/-- **Where fetches take turns, the orderings agree at every point.**  Take any run of a coordinator
that has issued nothing: loads with and without patches, reloads, listings handed in by the host,
words of the host on its own loading, and arrivals.  Let no fetch be sent while an earlier one was
not answered yet, and let no fetch be answered twice; loads that are dropped do not count.  Then at
every point of it the coordinator under another ordering has come to the same session apart from
that ordering: to the same rows, summary, pager, request, flags and number of fetches, with the same
fetches sent and the same notices given. -/
theorem orderings_agree_in_turn {c : Coordinator} {es : List Event} (hnew : c.issued = 0)
    (hes : (ofCoordinator c).IsRun es) (hturn : (ofCoordinator c).InTurn [] es)
    (honce : (es.filterMap Event.answered?).Nodup) {past : List Event} (hpast : past <+: es)
    (o : ResponseOrdering) :
    (ofCoordinator (c.under o)).run past = ((ofCoordinator c).run past).under o := by
  obtain ⟨rest, rfl⟩ := hpast
  have hrun := (isRun_append _ _ _).1 hes
  have hturns := (inTurn_append _ _ _ _).1 hturn
  rw [List.filterMap_append] at honce
  exact (LatestAlone.ofCoordinator hnew).run_under hrun.1 hturns.1 (List.nodup_append.1 honce).1 o

/-- A page is asked for and fails, with a reload dropped on the way and one while the host loads.
Then the page is fetched again, and before it arrives the host hands in a listing, which ends
loading. -/
def orderly : List Event :=
  [.load (some (.ofPage 2)), .reload, .external (some true),
    .receive (pageFetch 1 2) (.error (.request "timeout")), .reload, .external none, .reload,
    .reconcile { total := some 9 }, .receive (pageFetch 2 2) (.ok { total := some 7 }),
    .load (some (.ofPage 3))]

/-- Three fetches are sent one after the other, and the ordering that keeps every answer keeps what
the other one keeps. -/
theorem orderings_agree_in_turn_orderly :
    fresh.coordinator.issued = 0 ∧ fresh.IsRun orderly ∧ fresh.InTurn [] orderly ∧
      (orderly.filterMap Event.answered?).Nodup ∧ fresh.coordinator.ordering = .latestOnly ∧
      ((ofCoordinator (fresh.coordinator.under .lastResponse)).run orderly).sent.map (·.seq) =
        [3, 2, 1] ∧
      ((ofCoordinator (fresh.coordinator.under .lastResponse)).run
        (orderly.take 9)).coordinator.pager.total = 7 ∧
      ((ofCoordinator (fresh.coordinator.under .lastResponse)).run orderly).notices =
        ["Failed to load data: timeout"] := by
  have hrun : fresh.IsRun orderly := by
    refine ⟨trivial, trivial, trivial, ?_, trivial, trivial, trivial, trivial, ?_, trivial, trivial⟩
    · exact List.mem_cons_self ..
    · exact List.mem_cons_self ..
  have hturn : fresh.InTurn [] orderly := by
    -- only the first event, the last reload and the last event send anything
    have quiet : ∀ {s t : List Fetch} {p : Prop}, t = s → t ≠ s → p := fun h hn => absurd h hn
    exact ⟨fun _ => rfl, quiet rfl, quiet rfl, quiet rfl, quiet rfl, quiet rfl, fun _ => rfl,
      quiet rfl, quiet rfl, fun _ => rfl, trivial⟩
  have honce : (orderly.filterMap Event.answered?).Nodup := by decide
  have hlast := orderings_agree_in_turn (c := fresh.coordinator) rfl hrun hturn honce
    (List.prefix_refl _) .lastResponse
  have hninth := orderings_agree_in_turn (c := fresh.coordinator) rfl hrun hturn honce
    (List.take_prefix 9 orderly) .lastResponse
  refine ⟨rfl, hrun, hturn, honce, rfl, ?_, ?_, ?_⟩
  · rw [hlast]
    rfl
  · rw [hninth]
    rfl
  · rw [hlast]
    decide

-- Where a fetch overtakes another one, the orderings part.
example : ((fresh.under .lastResponse).run overtaking).notices ≠
    ((fresh.under .latestOnly).run overtaking).notices := by decide

end Session

end RecordGrid
