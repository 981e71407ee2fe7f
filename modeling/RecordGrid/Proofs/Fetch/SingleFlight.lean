/-
**Without patches there is never more than one fetch under way.**

A reload is dropped while something is loading, and two flags decide whether anything is: the
coordinator's own one, which its fetches set and their arrivals clear, and the one that the host
sets and clears as it likes.  Triggers that fire twice, arrivals and flips of the host's flag may
interleave in any way.  As long as every fetch is answered at most once, the coordinator's flag
tells the truth: it is set exactly while the one fetch under way has not been answered.

The orderings make no difference here.  The only fetch that can be answered is the one issued last,
and that one is in time under both.

Main definitions:

* `RecordGrid.Session.Event.IsPlain` — reloads, arrivals, and what the host says;
* `RecordGrid.Session.outstanding` — the fetches sent that were not answered yet;
* `RecordGrid.Session.hostLoading` — what the host said last;
* `RecordGrid.Session.OneAtATime` — the invariant.

Main results:

* `RecordGrid.Session.OneAtATime.run` — the invariant holds in every run of plain events;
* `RecordGrid.Session.plain_run_single_flight` — **one fetch at a time, and the flags say so**.
-/

import RecordGrid.Proofs.Fetch.LatestOnly

set_option relaxedAutoImplicit false
set_option autoImplicit false

namespace RecordGrid.Session

/-! ### What an event says -/

/-- A reload, an arrival, or a word of the host on its own loading: the events that bring no patch
and no listing of the host. -/
def Event.IsPlain : Event → Prop
  | .load patch => patch = none
  | .external _ => True
  | .reconcile _ => False
  | .receive _ _ => True

/-- The number of the fetch that an event answers. -/
def Event.answered? : Event → Option Nat
  | .receive f _ => some f.seq
  | _ => none

/-- What an event lets the host say of its own loading. -/
def Event.said? : Event → Option (Option Bool)
  | .external loading => some loading
  | _ => none

/-- The fetches that were sent and that none of the events `past` has answered, latest first. -/
def outstanding (s : Session) (past : List Event) : List Fetch :=
  s.sent.filter fun f => decide (f.seq ∉ past.filterMap Event.answered?)

/-- What the host said last, or what held before it said anything. -/
def hostLoading (s : Session) (past : List Event) : Option Bool :=
  (past.filterMap Event.said?).getLast?.getD s.coordinator.external

theorem mem_outstanding {s : Session} {past : List Event} {f : Fetch} :
    f ∈ s.outstanding past ↔ f ∈ s.sent ∧ f.seq ∉ past.filterMap Event.answered? := by
  simp [outstanding]

/-- An event takes out of the outstanding fetches the one that it answers. -/
theorem outstanding_concat (s : Session) (past : List Event) (e : Event) :
    s.outstanding (past ++ [e]) =
      (s.outstanding past).filter fun f => decide (e.answered? ≠ some f.seq) := by
  simp only [outstanding, List.filter_filter, List.filterMap_append, List.mem_append, not_or]
  refine List.filter_congr fun f _ => ?_
  cases h : e.answered? with
  | none => simp [h]
  | some n => simp [h, eq_comm, and_comm]

theorem outstanding_concat_of_answered?_eq_none (s : Session) (past : List Event) {e : Event}
    (h : e.answered? = none) : s.outstanding (past ++ [e]) = s.outstanding past := by
  simp [outstanding_concat, h]

/-- Where no fetch is answered twice, what an event answers was not answered before. -/
theorem not_answered_of_nodup {past es : List Event} {e : Event}
    (honce : ((past ++ e :: es).filterMap Event.answered?).Nodup) {n : Nat}
    (hn : e.answered? = some n) : n ∉ past.filterMap Event.answered? := by
  intro hm
  rw [List.filterMap_append, List.filterMap_cons_some hn] at honce
  exact (List.nodup_append.1 honce).2.2 n hm n (List.mem_cons_self ..) rfl

/-- A fetch just sent joins the outstanding ones, unless its number was answered already. -/
theorem outstanding_step_of_sent_cons {s : Session} {e : Event} {f : Fetch}
    (hs : (s.step e).sent = f :: s.sent) {past : List Event}
    (hf : f.seq ∉ past.filterMap Event.answered?) :
    (s.step e).outstanding past = f :: s.outstanding past := by
  rw [outstanding, hs]
  exact List.filter_cons_of_pos (decide_eq_true hf)

/-! ### The flag of the host -/

/-- Only the host changes its flag. -/
theorem external_step (s : Session) (e : Event) :
    (s.step e).coordinator.external = e.said?.getD s.coordinator.external := by
  cases e with
  | load patch =>
      rcases s.step_load_cases patch with h | ⟨-, h⟩
      · rw [h]
        rfl
      · rw [h, Coordinator.patched_eq]
        rfl
  | external loading => rfl
  | reconcile l => rfl
  | receive f answer =>
      rcases s.step_receive_cases f answer with h | ⟨-, -, h⟩
      · rw [h]
        rfl
      · rw [h, Coordinator.settle_eq]
        rfl

/-- **The flag of the host holds what the host said last**, whatever else happens. -/
theorem external_run (s : Session) (es : List Event) :
    (s.run es).coordinator.external = s.hostLoading es := by
  induction es generalizing s with
  | nil => rfl
  | cons e es ih =>
      rw [run_cons, ih, hostLoading, external_step, hostLoading]
      cases h : e.said? with
      | none => rw [List.filterMap_cons_none h, Option.getD_none]
      | some loading =>
          rw [List.filterMap_cons_some h, List.getLast?_cons, Option.getD_some, Option.getD_some]

theorem canFetch_run (s : Session) (es : List Event) :
    (s.run es).coordinator.canFetch = s.coordinator.canFetch := by
  induction es generalizing s with
  | nil => rfl
  | cons e es ih => rw [run_cons, ih, coordinator_step_eq]

/-! ### The invariant -/

/-- **What is known of a session after plain events `past`**: no fetch is under way and all are
answered, or the latest one is under way and it alone is not answered. -/
structure OneAtATime (s : Session) (past : List Event) : Prop where
  /-- The fetches sent are numbered. -/
  numbered : s.Numbered
  /-- Only what was issued is answered. -/
  answered : ∀ n ∈ past.filterMap Event.answered?, n ≤ s.coordinator.issued
  /-- When the coordinator is idle, nothing is outstanding. -/
  idle : s.coordinator.fetching = false → s.outstanding past = []
  /-- When it is not, the latest fetch is, and no other one. -/
  busy : s.coordinator.fetching = true → ∃ f, s.latest? = some f ∧ s.outstanding past = [f]

namespace OneAtATime

variable {s : Session} {past : List Event}

theorem nil (h : s.IsNew) : s.OneAtATime [] where
  numbered := h.numbered
  answered := by simp
  idle _ := by simp [outstanding, h.sent]
  busy hf := by simp [h.idle] at hf

/-- A fetch that was not answered yet is the latest one, and a fetch is under way. -/
theorem latest (h : s.OneAtATime past) {f : Fetch} (hf : f ∈ s.outstanding past) :
    s.coordinator.fetching = true ∧ s.latest? = some f ∧ s.outstanding past = [f] := by
  cases hb : s.coordinator.fetching with
  | false => simp [h.idle hb] at hf
  | true =>
      obtain ⟨g, hg, hout⟩ := h.busy hb
      obtain rfl : f = g := by simpa [hout] using hf
      exact ⟨rfl, hg, hout⟩

theorem length_outstanding_le (h : s.OneAtATime past) : (s.outstanding past).length ≤ 1 := by
  cases hb : s.coordinator.fetching with
  | false => simp [h.idle hb]
  | true =>
      obtain ⟨f, -, hout⟩ := h.busy hb
      simp [hout]

theorem fetching_iff (h : s.OneAtATime past) :
    s.coordinator.fetching = true ↔ s.outstanding past ≠ [] := by
  cases hb : s.coordinator.fetching with
  | false => simp [h.idle hb]
  | true =>
      obtain ⟨f, -, hout⟩ := h.busy hb
      simp [hout]

/-- The invariant outlasts an event that answers nothing and changes nothing that it speaks of. -/
theorem quiet (h : s.OneAtATime past) {e : Event} (he : e.answered? = none)
    (hs : (s.step e).sent = s.sent)
    (hi : (s.step e).coordinator.issued = s.coordinator.issued)
    (hf : (s.step e).coordinator.fetching = s.coordinator.fetching) :
    (s.step e).OneAtATime (past ++ [e]) := by
  have hout : (s.step e).outstanding (past ++ [e]) = s.outstanding past := by
    rw [outstanding_concat_of_answered?_eq_none _ _ he, outstanding, hs, outstanding]
  refine ⟨h.numbered.step e, ?_, ?_, ?_⟩
  · simpa [hi, List.filterMap_cons_none he] using h.answered
  · rw [hf, hout]
    exact h.idle
  · rw [hf, hout, latest?, hs]
    exact h.busy

/-- The invariant outlasts a reload: it changes nothing, or nothing was outstanding and now the
fetch just sent is. -/
theorem reload (h : s.OneAtATime past) :
    (s.step (.load none)).OneAtATime (past ++ [.load none]) := by
  rcases s.step_load_cases none with hs | ⟨hgo, hs⟩
  · exact h.quiet rfl (by rw [hs]) (by rw [hs]) (by rw [hs])
  · obtain ⟨-, hload⟩ : s.coordinator.canFetch = true ∧ s.coordinator.loading = false := by
      simpa [Coordinator.goesOut] using hgo
    have hidle : s.coordinator.fetching = false := by
      simpa [Coordinator.loading] using (Bool.or_eq_false_iff.1 hload).1
    set f := s.coordinator.issue.2 with hf
    have hsent : (s.step (.load none)).sent = f :: s.sent := by rw [hs]; rfl
    have hissued : (s.step (.load none)).coordinator.issued = s.coordinator.issued + 1 := by
      rw [hs]; rfl
    have hfetching : (s.step (.load none)).coordinator.fetching = true := by rw [hs]; rfl
    -- the fetch just sent carries a number that nothing has answered
    have hnew : f.seq ∉ past.filterMap Event.answered? := fun hm => by
      have := h.answered _ hm
      simp only [hf, Coordinator.issue] at this
      omega
    have hout : (s.step (.load none)).outstanding (past ++ [.load none]) = [f] := by
      rw [outstanding_concat_of_answered?_eq_none _ _ rfl,
        outstanding_step_of_sent_cons hsent hnew, h.idle hidle]
    refine ⟨h.numbered.step _, ?_, ?_, ?_⟩
    · intro n hn
      have := h.answered n (by simpa [Event.answered?] using hn)
      omega
    · simp [hfetching]
    · intro _
      exact ⟨f, by simp [latest?, hsent], hout⟩

/-- The invariant outlasts the arrival of a fetch that was not answered before: nothing is
outstanding after it. -/
theorem receive (h : s.OneAtATime past) {f : Fetch} (hf : f ∈ s.sent)
    (hnew : f.seq ∉ past.filterMap Event.answered?) (answer : Outcome) :
    (s.step (.receive f answer)).OneAtATime (past ++ [.receive f answer]) := by
  obtain ⟨-, hlatest, hout⟩ := h.latest (mem_outstanding.2 ⟨hf, hnew⟩)
  have hseq : f.seq = s.coordinator.issued := (h.numbered.latest?_eq_some_iff.1 hlatest).2
  -- the latest fetch is in time under either ordering
  have hstale : s.coordinator.isStale (f.arrival answer) = false :=
    Coordinator.isStale_of_seq_eq hseq
  have hstep := step_receive_of_not_isStale (h.numbered.owner f hf) hstale
  have hsent : (s.step (.receive f answer)).sent = s.sent := by rw [hstep]
  have hissued : (s.step (.receive f answer)).coordinator.issued = s.coordinator.issued := by
    rw [hstep, Coordinator.settle_eq]
  have hfetching : (s.step (.receive f answer)).coordinator.fetching = false := by
    rw [hstep, Coordinator.settle_eq]
  refine ⟨h.numbered.step _, ?_, ?_, ?_⟩
  · intro n hn
    rw [hissued]
    rw [List.filterMap_append, List.mem_append] at hn
    rcases hn with hn | hn
    · exact h.answered n hn
    · obtain rfl : n = f.seq := by simpa [Event.answered?] using hn
      exact Nat.le_of_eq hseq
  · intro _
    have hafter : (s.step (.receive f answer)).outstanding past = [f] := by
      rw [outstanding, hsent]
      exact hout
    rw [outstanding_concat, hafter]
    simp [Event.answered?]
  · simp [hfetching]

/-- The invariant outlasts every plain event that answers no fetch a second time. -/
theorem step (h : s.OneAtATime past) {e : Event} (he : s.Admits e) (hplain : e.IsPlain)
    (honce : ∀ n, e.answered? = some n → n ∉ past.filterMap Event.answered?) :
    (s.step e).OneAtATime (past ++ [e]) := by
  cases e with
  | load patch =>
      obtain rfl : patch = none := hplain
      exact h.reload
  | external loading => exact h.quiet rfl rfl rfl rfl
  | reconcile l => exact hplain.elim
  | receive f answer => exact h.receive he (honce _ rfl) answer

/-- **The invariant holds in every run** of plain events that answers no fetch twice. -/
theorem run {es : List Event} (h : s.OneAtATime past) (hes : s.IsRun es)
    (hplain : ∀ e ∈ es, e.IsPlain) (honce : ((past ++ es).filterMap Event.answered?).Nodup) :
    (s.run es).OneAtATime (past ++ es) := by
  induction es generalizing s past with
  | nil => simpa using h
  | cons e es ih =>
      have he : (s.step e).OneAtATime (past ++ [e]) :=
        h.step hes.1 (hplain e (List.mem_cons_self ..)) fun n hn =>
          not_answered_of_nodup honce hn
      have hrun := ih he hes.2 (fun e' he' => hplain e' (List.mem_cons_of_mem _ he'))
        (by simpa using honce)
      simpa using hrun

end OneAtATime

/-! ### One fetch at a time -/

/-- What a plain event sends: a reload sends a fetch when there is something to fetch with and
neither flag is set, and nothing else sends any. -/
theorem sent_step_ne_iff {s : Session} {e : Event} (hplain : e.IsPlain) :
    (s.step e).sent ≠ s.sent ↔
      e = .reload ∧ s.coordinator.canFetch = true ∧ s.coordinator.fetching = false ∧
        s.coordinator.external ≠ some true := by
  cases e with
  | load patch =>
      obtain rfl : patch = none := hplain
      have hgo : s.coordinator.goesOut none = true ↔
          s.coordinator.canFetch = true ∧ s.coordinator.fetching = false ∧
            s.coordinator.external ≠ some true := by
        rcases h : s.coordinator.external with _ | _ | _ <;>
          simp [Coordinator.goesOut, Coordinator.loading, h]
      rw [← hgo]
      cases hg : s.coordinator.goesOut none with
      | false => simp [step_load_of_not_goesOut hg]
      | true => simp [step_load_of_goesOut hg, Event.reload]
  | external loading => simp [step, Event.reload]
  | reconcile l => exact hplain.elim
  | receive f answer =>
      rcases s.step_receive_cases f answer with h | ⟨-, -, h⟩ <;> simp [h, Event.reload]

/-- **Without patches there is one fetch at a time, and the flags say so.**  Take any run that
begins with nothing sent and consists of reloads, words of the host on its own loading, and arrivals
of fetches of the coordinator, no fetch being answered twice.  At every point of it, under either
ordering:

* at most one of the fetches sent was not answered yet;
* the coordinator's own flag is set exactly when there is one;
* the host's flag holds what the host said last;
* something is loading exactly when one of the two flags says so;
* the next event sends a fetch exactly when it is a reload, there is something to fetch with,
  nothing is outstanding, and the host is not loading. -/
theorem plain_run_single_flight {s : Session} {es : List Event} (hs : s.IsNew) (hes : s.IsRun es)
    (hplain : ∀ e ∈ es, e.IsPlain) (honce : (es.filterMap Event.answered?).Nodup)
    {past rest : List Event} (hsplit : es = past ++ rest) :
    ((s.run past).outstanding past).length ≤ 1 ∧
      ((s.run past).coordinator.fetching = true ↔ (s.run past).outstanding past ≠ []) ∧
      (s.run past).coordinator.external = s.hostLoading past ∧
      ((s.run past).coordinator.loading = true ↔
        (s.run past).coordinator.fetching = true ∨ s.hostLoading past = some true) ∧
      ∀ e tail, rest = e :: tail →
        ((s.run (past ++ [e])).sent ≠ (s.run past).sent ↔
          e = .reload ∧ s.coordinator.canFetch = true ∧ (s.run past).outstanding past = [] ∧
            s.hostLoading past ≠ some true) := by
  subst hsplit
  have h : (s.run past).OneAtATime past := by
    refine (OneAtATime.nil hs).run ((s.isRun_append past rest).1 hes).1 (fun e he => ?_) ?_
    · exact hplain e (List.mem_append_left _ he)
    · rw [List.filterMap_append] at honce
      exact (List.nodup_append.1 honce).1
  refine ⟨h.length_outstanding_le, h.fetching_iff, s.external_run past, ?_, ?_⟩
  · rw [Coordinator.loading, external_run, Bool.or_eq_true]
    rcases s.hostLoading past with _ | _ | _ <;> simp
  · rintro e tail rfl
    rw [run_append, run_cons, run_nil, sent_step_ne_iff (hplain e (by simp)), external_run,
      canFetch_run, ← Bool.not_eq_true, h.fetching_iff, not_not]

/-- A reload is fired twice, the host loads something of its own meanwhile, and another reload comes
before it is done and one after. -/
def doubleFired : List Event :=
  [.reload, .reload, .external (some true), .receive (pageFetch 1 1) (.error (.request "timeout")),
    .reload, .external (some false), .reload]

/-- Of the four reloads the first and the last one go out; when the host still loads, nothing is
outstanding and yet nothing goes out. -/
theorem plain_run_single_flight_doubleFired :
    fresh.IsNew ∧ fresh.IsRun doubleFired ∧ (fresh.run doubleFired).sent.map (·.seq) = [2, 1] ∧
      (fresh.run (doubleFired.take 4)).coordinator.fetching = false ∧
      (fresh.run (doubleFired.take 4)).coordinator.loading = true ∧
      (fresh.run (doubleFired.take 5)).sent = (fresh.run (doubleFired.take 4)).sent := by
  have hnew : fresh.IsNew := ⟨rfl, rfl, rfl⟩
  have hrun : fresh.IsRun doubleFired := by
    refine ⟨trivial, trivial, trivial, ?_, trivial, trivial, trivial, trivial⟩
    exact List.mem_cons_self ..
  have hplain : ∀ e ∈ doubleFired, e.IsPlain := by
    simp [doubleFired, Event.IsPlain, Event.reload]
  obtain ⟨-, -, -, hload, hsent⟩ := plain_run_single_flight hnew hrun hplain (by decide)
    (List.take_append_drop 4 doubleFired).symm
  have hhost : fresh.hostLoading (doubleFired.take 4) = some true := rfl
  refine ⟨hnew, hrun, rfl, rfl, hload.2 (Or.inr hhost), ?_⟩
  exact not_ne_iff.1 fun hne => ((hsent _ _ rfl).1 hne).2.2.2 hhost

end RecordGrid.Session
