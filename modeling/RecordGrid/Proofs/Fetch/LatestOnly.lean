/-
**Under `latestOnly` only the latest fetch counts.**

A load with a patch goes out although others are under way, so arrivals may overtake each other.
Under the ordering `latestOnly` that does no harm: whatever comes back for a fetch that is no longer
the latest one changes nothing, so that it might as well have been lost.  What carries the proof is
an invariant of runs that ties together the number of fetches issued, the fetches answered so far
and the flag that says whether a fetch is under way.

Main definitions:

* `RecordGrid.Session.IsNew` — nothing was sent yet;
* `RecordGrid.Session.Affects`, `RecordGrid.Session.affecting` — an arrival that changes what is
  shown or tells the user something, and the numbers of those in a run;
* `RecordGrid.Session.dropOutdated` — a run without the arrivals of fetches that were not the
  latest;
* `RecordGrid.Session.Tracks` — the invariant.

Main results:

* `RecordGrid.Session.Tracks.run` — the invariant holds in every run;
* `RecordGrid.Session.latestOnly_fencing` — **only the latest fetch counts**.
-/

import RecordGrid.Proofs.Fetch.Session

set_option relaxedAutoImplicit false
set_option autoImplicit false

namespace RecordGrid.Session

/-- Nothing was sent yet. -/
structure IsNew (s : Session) : Prop where
  /-- No fetch was sent. -/
  sent : s.sent = []
  /-- The coordinator has issued none. -/
  issued : s.coordinator.issued = 0
  /-- None is under way. -/
  idle : s.coordinator.fetching = false

theorem isNew_ofStore (id : Nat) (store : Store) :
    (ofCoordinator (.ofStore id store)).IsNew := ⟨rfl, rfl, rfl⟩

theorem IsNew.numbered {s : Session} (h : s.IsNew) : s.Numbered where
  owner := by simp [h.sent]
  seqs := by simp [h.sent, h.issued]

/-! ### Arrivals that have an effect -/

/-- Whether an arrival changes rows, summary or pager, or tells the user something. -/
def Affects (s : Session) (f : Fetch) (answer : Outcome) : Prop :=
  (s.step (.receive f answer)).coordinator.rows ≠ s.coordinator.rows ∨
    (s.step (.receive f answer)).coordinator.summary ≠ s.coordinator.summary ∨
    (s.step (.receive f answer)).coordinator.pager ≠ s.coordinator.pager ∨
    (s.step (.receive f answer)).notices ≠ s.notices

instance (s : Session) (f : Fetch) (answer : Outcome) : Decidable (s.Affects f answer) :=
  inferInstanceAs (Decidable (_ ∨ _ ∨ _ ∨ _))

/-- The number of the fetch whose arrival has an effect. -/
def affectingSeq? (s : Session) : Event → Option Nat
  | .receive f answer => if s.Affects f answer then some f.seq else none
  | _ => none

/-- The numbers of the fetches whose arrivals have an effect, in the order of the run. -/
def affecting (s : Session) : List Event → List Nat
  | [] => []
  | e :: es => (s.affectingSeq? e).toList ++ (s.step e).affecting es

theorem Affects.seq_eq {s : Session} {f : Fetch} {answer : Outcome} (h : s.Affects f answer)
    (ho : s.coordinator.ordering = .latestOnly) : f.seq = s.coordinator.issued := by
  rcases s.step_receive_cases f answer with hs | ⟨-, hs, -⟩
  · simp [Affects, hs] at h
  · exact (Coordinator.isStale_eq_false_iff ho (f.arrival answer)).1 hs

theorem seq_eq_of_affectingSeq? {s : Session} {e : Event} {n : Nat}
    (h : s.affectingSeq? e = some n) (ho : s.coordinator.ordering = .latestOnly) :
    n = s.coordinator.issued := by
  cases e with
  | receive f answer =>
      by_cases ha : s.Affects f answer
      · obtain rfl : f.seq = n := by simpa [affectingSeq?, ha] using h
        exact ha.seq_eq ho
      · simp [affectingSeq?, ha] at h
  | _ => simp [affectingSeq?] at h

/-- Whatever has an effect in a run was issued at its beginning or later. -/
theorem issued_le_of_mem_affecting {s : Session} {es : List Event} {n : Nat}
    (ho : s.coordinator.ordering = .latestOnly) (h : n ∈ s.affecting es) :
    s.coordinator.issued ≤ n := by
  induction es generalizing s with
  | nil => simp [affecting] at h
  | cons e es ih =>
      rcases List.mem_append.1 h with h | h
      · obtain rfl := seq_eq_of_affectingSeq? (by simpa using h) ho
        exact Nat.le_refl _
      · exact Nat.le_trans (s.issued_le_step e) (ih (by rwa [ordering_step]) h)

/-- **An older fetch never overwrites a newer one**: the numbers of the arrivals that have an effect
never fall. -/
theorem pairwise_affecting {s : Session} (ho : s.coordinator.ordering = .latestOnly)
    (es : List Event) : (s.affecting es).Pairwise (· ≤ ·) := by
  induction es generalizing s with
  | nil => exact List.Pairwise.nil
  | cons e es ih =>
      have ho' : (s.step e).coordinator.ordering = .latestOnly := by rwa [ordering_step]
      refine List.pairwise_append.2 ⟨by cases s.affectingSeq? e <;> simp, ih ho', ?_⟩
      intro m hm n hn
      obtain rfl := seq_eq_of_affectingSeq? (by simpa using hm) ho
      exact Nat.le_trans (s.issued_le_step e) (issued_le_of_mem_affecting ho' hn)

/-! ### Fetches that are no longer the latest -/

/-- Whether an event is something else than the arrival of a fetch that is not the latest. -/
def keeps (s : Session) : Event → Bool
  | .receive f _ => s.latest?.any (·.seq == f.seq)
  | _ => true

/-- The run without the arrivals of fetches that were not the latest one when they came. -/
def dropOutdated (s : Session) : List Event → List Event
  | [] => []
  | e :: es => if s.keeps e then e :: (s.step e).dropOutdated es else (s.step e).dropOutdated es

@[simp] theorem dropOutdated_nil (s : Session) : s.dropOutdated [] = [] := rfl

theorem dropOutdated_append (s : Session) (es fs : List Event) :
    s.dropOutdated (es ++ fs) = s.dropOutdated es ++ (s.run es).dropOutdated fs := by
  induction es generalizing s with
  | nil => rfl
  | cons e es ih => cases hk : s.keeps e <;> simp [dropOutdated, hk, ih]

/-- The arrival of a fetch that is not the latest changes nothing. -/
theorem step_of_keeps_eq_false {s : Session} {e : Event} (hn : s.Numbered)
    (ho : s.coordinator.ordering = .latestOnly) (he : s.Admits e) (hk : s.keeps e = false) :
    s.step e = s := by
  cases e with
  | receive f answer =>
      rcases s.step_receive_cases f answer with h | ⟨-, hs, -⟩
      · exact h
      · -- an arrival that is in time belongs to the latest fetch
        have hseq : f.seq = s.coordinator.issued :=
          (Coordinator.isStale_eq_false_iff ho (f.arrival answer)).1 hs
        have hl : s.latest? = some f := hn.latest?_eq_some_iff.2 ⟨he, hseq⟩
        simp [keeps, hl] at hk
  | load patch => simp [keeps] at hk
  | external loading => simp [keeps] at hk
  | reconcile l => simp [keeps] at hk

/-- **Losing the arrivals of outdated fetches makes no difference.** -/
theorem run_dropOutdated {s : Session} {es : List Event} (hn : s.Numbered)
    (ho : s.coordinator.ordering = .latestOnly) (hes : s.IsRun es) :
    s.run (s.dropOutdated es) = s.run es := by
  induction es generalizing s with
  | nil => rfl
  | cons e es ih =>
      have ih' := ih (hn.step e) (by rwa [ordering_step]) hes.2
      cases hk : s.keeps e with
      | true => simpa [dropOutdated, hk] using ih'
      | false =>
          rw [step_of_keeps_eq_false hn ho hes.1 hk] at ih'
          simpa [dropOutdated, hk, step_of_keeps_eq_false hn ho hes.1 hk] using ih'

theorem isRun_dropOutdated {s : Session} {es : List Event} (hn : s.Numbered)
    (ho : s.coordinator.ordering = .latestOnly) (hes : s.IsRun es) :
    s.IsRun (s.dropOutdated es) := by
  induction es generalizing s with
  | nil => trivial
  | cons e es ih =>
      have ih' := ih (hn.step e) (by rwa [ordering_step]) hes.2
      cases hk : s.keeps e with
      | true => simpa [dropOutdated, hk] using ⟨hes.1, ih'⟩
      | false =>
          rw [step_of_keeps_eq_false hn ho hes.1 hk] at ih'
          simpa [dropOutdated, hk, step_of_keeps_eq_false hn ho hes.1 hk] using ih'

/-! ### The invariant -/

/-- **What is known of a session after the events `past`**: the fetches sent are numbered, those
answered were sent, and a fetch is under way exactly when the latest one was not answered. -/
structure Tracks (s : Session) (past : List Event) : Prop where
  /-- The fetches sent are numbered. -/
  numbered : s.Numbered
  /-- A fetch that was answered was sent. -/
  answered : ∀ f answer, .receive f answer ∈ past → f ∈ s.sent
  /-- A fetch is under way exactly when the latest one was not answered. -/
  fetching_iff : s.coordinator.fetching = true ↔
    ∃ f, s.latest? = some f ∧ ∀ answer, .receive f answer ∉ past

namespace Tracks

theorem nil {s : Session} (h : s.IsNew) : s.Tracks [] where
  numbered := h.numbered
  answered := by simp
  fetching_iff := by simp [latest?, h.sent, h.idle]

/-- The invariant outlasts an event that sends nothing, leaves loading as it is, and does not answer
the latest fetch. -/
theorem quiet {s : Session} {past : List Event} (h : s.Tracks past) {e : Event}
    (hs : (s.step e).sent = s.sent)
    (hf : (s.step e).coordinator.fetching = s.coordinator.fetching)
    (he : ∀ f answer, e = .receive f answer → f ∈ s.sent ∧ s.latest? ≠ some f) :
    (s.step e).Tracks (past ++ [e]) := by
  refine ⟨h.numbered.step e, ?_, ?_⟩
  · intro f answer hm
    rw [hs]
    rcases List.mem_append.1 hm with hm | hm
    · exact h.answered f answer hm
    · exact (he f answer (List.mem_singleton.1 hm).symm).1
  · have hl : (s.step e).latest? = s.latest? := by rw [latest?, hs, latest?]
    rw [hf, hl, h.fetching_iff]
    refine exists_congr fun f => and_congr_right fun hsome => forall_congr' fun answer => ?_
    have hne : .receive f answer ≠ e := fun heq => (he f answer heq.symm).2 hsome
    simp [hne]

theorem load {s : Session} {past : List Event} (h : s.Tracks past) (patch : Option Patch) :
    (s.step (.load patch)).Tracks (past ++ [.load patch]) := by
  rcases s.step_load_cases patch with hs | ⟨-, hs⟩
  · exact h.quiet (by rw [hs]) (by rw [hs]) (by simp)
  · set f := (s.coordinator.patched patch).issue.2 with hf
    have hsent : (s.step (.load patch)).sent = f :: s.sent := by rw [hs]
    refine ⟨h.numbered.step _, ?_, ?_⟩
    · intro g answer hm
      rw [hsent]
      exact List.mem_cons_of_mem _ (h.answered g answer (by simpa using hm))
    · -- the fetch that was just sent carries a new number, so nothing has answered it
      have hnew : ∀ answer, .receive f answer ∉ past := by
        intro answer hm
        have hle := h.numbered.seq_le (h.answered f answer hm)
        simp only [hf, Coordinator.issue, Coordinator.issued_patched] at hle
        omega
      have hfetching : (s.step (.load patch)).coordinator.fetching = true := by
        rw [hs]
        rfl
      simpa [hfetching, latest?, hsent] using hnew

/-- The invariant outlasts an arrival: the one of the latest fetch ends loading, and any other one
changes nothing. -/
theorem receive {s : Session} {past : List Event} (h : s.Tracks past)
    (ho : s.coordinator.ordering = .latestOnly) {f : Fetch} (hf : f ∈ s.sent) (answer : Outcome) :
    (s.step (.receive f answer)).Tracks (past ++ [.receive f answer]) := by
  have hown : f.owner = s.coordinator.id := h.numbered.owner f hf
  have hstale : s.coordinator.isStale (f.arrival answer) = false ↔ s.latest? = some f := by
    rw [Coordinator.isStale_eq_false_iff ho, h.numbered.latest?_eq_some_iff]
    exact ⟨fun hseq => ⟨hf, hseq⟩, fun hl => hl.2⟩
  cases hs : s.coordinator.isStale (f.arrival answer) with
  | true =>
      have hstep := step_receive_of_isStale hown hs
      refine h.quiet (by rw [hstep]) (by rw [hstep]) ?_
      intro g answer' heq
      obtain ⟨rfl, rfl⟩ := Event.receive.inj heq
      exact ⟨hf, fun hl => by simp [hstale.2 hl] at hs⟩
  | false =>
      have hstep := step_receive_of_not_isStale hown hs
      have hsent : (s.step (.receive f answer)).sent = s.sent := by rw [hstep]
      refine ⟨h.numbered.step _, ?_, ?_⟩
      · intro g answer' hm
        rw [hsent]
        rcases List.mem_append.1 hm with hm | hm
        · exact h.answered g answer' hm
        · obtain ⟨rfl, rfl⟩ := Event.receive.inj (List.mem_singleton.1 hm)
          exact hf
      · have hfetching : (s.step (.receive f answer)).coordinator.fetching = false := by
          rw [hstep, Coordinator.settle_eq]
        have hl : (s.step (.receive f answer)).latest? = some f := by
          rw [latest?, hsent]
          exact hstale.1 hs
        simp only [hfetching, hl, Bool.false_eq_true, false_iff]
        rintro ⟨g, hg, hno⟩
        obtain rfl : f = g := Option.some.inj hg
        exact hno answer (by simp)

/-- The invariant outlasts every event other than a listing handed in by the host. -/
theorem step {s : Session} {past : List Event} (h : s.Tracks past)
    (ho : s.coordinator.ordering = .latestOnly) {e : Event} (he : s.Admits e)
    (hno : ∀ l, e ≠ .reconcile l) : (s.step e).Tracks (past ++ [e]) := by
  cases e with
  | load patch => exact h.load patch
  | external loading => exact h.quiet rfl rfl (by simp)
  | reconcile l => exact absurd rfl (hno l)
  | receive f answer => exact h.receive ho he answer

/-- **The invariant holds in every run** in which the host hands in no listing. -/
theorem run {s : Session} {past es : List Event} (h : s.Tracks past)
    (ho : s.coordinator.ordering = .latestOnly) (hes : s.IsRun es)
    (hno : ∀ l, .reconcile l ∉ es) : (s.run es).Tracks (past ++ es) := by
  induction es generalizing s past with
  | nil => simpa using h
  | cons e es ih =>
      have he : (s.step e).Tracks (past ++ [e]) := by
        refine h.step ho hes.1 fun l heq => hno l ?_
        exact heq ▸ List.mem_cons_self ..
      have hrun := ih he (by rwa [ordering_step]) hes.2 fun l hl =>
        hno l (List.mem_cons_of_mem _ hl)
      simpa using hrun

end Tracks

/-! ### Only the latest fetch counts -/

/-- **Under `latestOnly` only the latest fetch counts.**  In every run that begins with nothing
sent, in which the host hands in no listing:

* the fetches are numbered in the order in which they are sent;
* an arrival that changes rows, summary or pager or tells the user something belongs to the fetch
  that was sent last, and along the run the numbers of these fetches never fall;
* at every point, a fetch is under way exactly when some fetch was sent and the last one sent has
  not been answered;
* the run without the arrivals of fetches that were not the latest one when they came leads to the
  same session at every point. -/
theorem latestOnly_fencing {s : Session} {es : List Event} (hs : s.IsNew)
    (ho : s.coordinator.ordering = .latestOnly) (hes : s.IsRun es)
    (hno : ∀ l, .reconcile l ∉ es) :
    (s.run es).Numbered ∧
      (∀ past f answer rest, es = past ++ .receive f answer :: rest →
        (s.run past).Affects f answer → (s.run past).latest? = some f) ∧
      (s.affecting es).Pairwise (· ≤ ·) ∧
      (∀ past rest, es = past ++ rest →
        ((s.run past).coordinator.fetching = true ↔
          ∃ f, (s.run past).latest? = some f ∧ ∀ answer, .receive f answer ∉ past)) ∧
      ∀ past rest, es = past ++ rest →
        s.dropOutdated es = s.dropOutdated past ++ (s.run past).dropOutdated rest ∧
          s.IsRun (s.dropOutdated past) ∧ s.run (s.dropOutdated past) = s.run past := by
  refine ⟨hs.numbered.run es, ?_, pairwise_affecting ho es, ?_, ?_⟩
  · rintro past f answer rest rfl haff
    obtain ⟨-, hadm, -⟩ := (s.isRun_append past _).1 hes
    have ho' : (s.run past).coordinator.ordering = .latestOnly := by rwa [ordering_run]
    exact (hs.numbered.run past).latest?_eq_some_iff.2 ⟨hadm, haff.seq_eq ho'⟩
  · rintro past rest rfl
    have hpast : s.IsRun past := ((s.isRun_append past rest).1 hes).1
    have ht : (s.run past).Tracks past := by
      simpa using (Tracks.nil hs).run ho hpast fun l hl => hno l (List.mem_append_left _ hl)
    exact ht.fetching_iff
  · rintro past rest rfl
    have hpast : s.IsRun past := ((s.isRun_append past rest).1 hes).1
    exact ⟨s.dropOutdated_append past rest, isRun_dropOutdated hs.numbered ho hpast,
      run_dropOutdated hs.numbered ho hpast⟩

/-- A session with something to fetch with, in which nothing was sent yet. -/
def fresh : Session :=
  ofCoordinator
    { Coordinator.ofStore 0 (.ofPage 1 20) with canFetch := true, ordering := .latestOnly }

/-- The fetch of a page in that session. -/
def pageFetch (seq : Nat) (page : Count) : Fetch :=
  { owner := 0, seq, request := .ofPage page 20, finish := .ok }

/-- Two pages are asked for, and the answer to the second one overtakes the other. -/
def overtaking : List Event :=
  [.load (some (.ofPage 1)), .load (some (.ofPage 2)),
    .receive (pageFetch 2 2) (.ok { total := some 7 }),
    .receive (pageFetch 1 1) (.error (.request "timeout"))]

/-- The answer that was overtaken leaves no trace. -/
theorem latestOnly_fencing_overtaking :
    fresh.IsNew ∧ fresh.IsRun overtaking ∧ fresh.affecting overtaking = [2] ∧
      fresh.dropOutdated overtaking = overtaking.take 3 ∧
      fresh.run (overtaking.take 3) = fresh.run overtaking := by
  have hnew : fresh.IsNew := ⟨rfl, rfl, rfl⟩
  have hrun : fresh.IsRun overtaking := by
    refine ⟨trivial, trivial, ?_, ?_, trivial⟩
    · exact List.mem_cons_self ..
    · exact List.mem_cons_of_mem _ (List.mem_cons_self ..)
  have hdrop : fresh.dropOutdated overtaking = overtaking.take 3 := rfl
  obtain ⟨-, -, -, -, h⟩ := latestOnly_fencing hnew rfl hrun (by simp [overtaking])
  have hall := h overtaking [] (by simp)
  exact ⟨hnew, hrun, by decide, hdrop, hdrop ▸ hall.2.2⟩

end RecordGrid.Session
