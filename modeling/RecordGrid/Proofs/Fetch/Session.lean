/-
**Sessions: a coordinator and everything that happens to it.**

The fetches of a coordinator overlap, and nothing says in which order their arrivals come back, how
late, or how often.  A *session* is the coordinator together with the fetches it has sent and the
notices it has given, and a *run* is any list of events in which only fetches that were sent are
answered.  The same fetch may be answered several times or never.

Main definitions:

* `RecordGrid.Session`, `RecordGrid.Session.Event` — the state, and what can happen to it;
* `RecordGrid.Session.step`, `RecordGrid.Session.run` — one event, and a list of them;
* `RecordGrid.Session.IsRun` — every fetch that is answered was sent before;
* `RecordGrid.Session.latest?` — the fetch that was sent last;
* `RecordGrid.Session.Numbered` — the fetches sent carry the numbers from one on.

Main results:

* `RecordGrid.Session.Numbered.run` — **the fetches of every run are numbered in the order in which
  they were sent**, so that a fetch is the latest one exactly when it carries the greatest number
  (`RecordGrid.Session.Numbered.latest?_eq_some_iff`).
-/

import Mathlib.Data.List.Nodup
import RecordGrid.Proofs.Fetch.Basic

set_option relaxedAutoImplicit false
set_option autoImplicit false

namespace RecordGrid

/-- A coordinator, what it has sent, and what the user was told. -/
structure Session where
  /-- The coordinator. -/
  coordinator : Coordinator
  /-- The fetches sent so far, latest first. -/
  sent : List Fetch := []
  /-- The notices given so far, earliest first. -/
  notices : List String := []

namespace Session

/-- What can happen to a coordinator. -/
inductive Event where
  /-- A load, with or without a patch. -/
  | load (patch : Option Patch)
  /-- The host says whether it is loading, or stops saying so. -/
  | external (loading : Option Bool)
  /-- The host hands in a listing that it already has. -/
  | reconcile (listing : Listing)
  /-- A fetch is answered, and its arrival handed back. -/
  | receive (fetch : Fetch) (answer : Outcome)

/-- The current request is fetched again: a load without a patch. -/
def Event.reload : Event := .load none

/-! ### Steps and runs -/

/-- The session that begins with a coordinator. -/
def ofCoordinator (c : Coordinator) : Session := { coordinator := c }

/-- The fetch that was sent last. -/
def latest? (s : Session) : Option Fetch := s.sent.head?

def afterLoad (s : Session) (r : Coordinator × Option Fetch) : Session :=
  { s with coordinator := r.1, sent := r.2.toList ++ s.sent }

def afterArrival (s : Session) (r : Coordinator.Receipt) : Session :=
  { s with coordinator := r.coordinator, notices := s.notices ++ r.notices }

/-- The session after an event. -/
def step (s : Session) : Event → Session
  | .load patch => s.afterLoad (s.coordinator.load patch)
  | .external loading => { s with coordinator := { s.coordinator with external := loading } }
  | .reconcile l => { s with coordinator := s.coordinator.reconcile l }
  | .receive f answer => s.afterArrival (s.coordinator.receive (f.arrival answer))

/-- The session after a list of events. -/
def run (s : Session) (es : List Event) : Session := es.foldl step s

@[simp] theorem run_nil (s : Session) : s.run [] = s := rfl

@[simp] theorem run_cons (s : Session) (e : Event) (es : List Event) :
    s.run (e :: es) = (s.step e).run es := rfl

@[simp] theorem run_append (s : Session) (es fs : List Event) :
    s.run (es ++ fs) = (s.run es).run fs := List.foldl_append

/-- What may happen next: a fetch is answered only after it was sent. -/
def Admits (s : Session) : Event → Prop
  | .receive f _ => f ∈ s.sent
  | _ => True

/-- Every fetch that is answered was sent before. -/
def IsRun (s : Session) : List Event → Prop
  | [] => True
  | e :: es => s.Admits e ∧ (s.step e).IsRun es

@[simp] theorem isRun_nil (s : Session) : s.IsRun [] := trivial

@[simp] theorem isRun_cons (s : Session) (e : Event) (es : List Event) :
    s.IsRun (e :: es) ↔ s.Admits e ∧ (s.step e).IsRun es := Iff.rfl

@[simp] theorem isRun_append (s : Session) (es fs : List Event) :
    s.IsRun (es ++ fs) ↔ s.IsRun es ∧ (s.run es).IsRun fs := by
  induction es generalizing s with
  | nil => simp
  | cons e es ih => simp [ih, and_assoc]

/-! ### Steps, case by case -/

theorem step_load_of_goesOut {s : Session} {patch : Option Patch}
    (h : s.coordinator.goesOut patch = true) :
    s.step (.load patch) =
      { s with
        coordinator := (s.coordinator.patched patch).issue.1
        sent := (s.coordinator.patched patch).issue.2 :: s.sent } := by
  simp [step, Coordinator.load_eq, h, afterLoad]

theorem step_load_of_not_goesOut {s : Session} {patch : Option Patch}
    (h : s.coordinator.goesOut patch = false) : s.step (.load patch) = s := by
  simp [step, Coordinator.load_eq, h, afterLoad]

theorem step_receive_of_isStale {s : Session} {f : Fetch} {answer : Outcome}
    (ho : f.owner = s.coordinator.id) (hs : s.coordinator.isStale (f.arrival answer) = true) :
    s.step (.receive f answer) = s := by
  simp [step, Coordinator.receive_stale (a := f.arrival answer) ho hs, afterArrival]

theorem step_receive_of_not_isStale {s : Session} {f : Fetch} {answer : Outcome}
    (ho : f.owner = s.coordinator.id) (hs : s.coordinator.isStale (f.arrival answer) = false) :
    s.step (.receive f answer) =
      { s with
        coordinator := s.coordinator.settle (answer.bind f.finish)
        notices := s.notices ++ outcomeNotices (answer.bind f.finish) } := by
  simp [step, Coordinator.receive_applied (a := f.arrival answer) ho hs, afterArrival]

theorem step_receive_of_foreign {s : Session} {f : Fetch} {answer : Outcome}
    (ho : f.owner ≠ s.coordinator.id) : s.step (.receive f answer) = s := by
  simp [step, Coordinator.receive_foreign (a := f.arrival answer) ho, afterArrival]

/-- An arrival changes neither the fetches sent nor anything of the coordinator apart from what it
shows and its loading. -/
theorem step_receive_cases (s : Session) (f : Fetch) (answer : Outcome) :
    s.step (.receive f answer) = s ∨
      (f.owner = s.coordinator.id ∧ s.coordinator.isStale (f.arrival answer) = false ∧
        s.step (.receive f answer) =
          { s with
            coordinator := s.coordinator.settle (answer.bind f.finish)
            notices := s.notices ++ outcomeNotices (answer.bind f.finish) }) := by
  by_cases ho : f.owner = s.coordinator.id
  · cases hs : s.coordinator.isStale (f.arrival answer) with
    | true => exact Or.inl (step_receive_of_isStale ho hs)
    | false => exact Or.inr ⟨ho, rfl, step_receive_of_not_isStale ho hs⟩
  · exact Or.inl (step_receive_of_foreign ho)

theorem step_load_cases (s : Session) (patch : Option Patch) :
    s.step (.load patch) = s ∨
      (s.coordinator.goesOut patch = true ∧
        s.step (.load patch) =
          { s with
            coordinator := (s.coordinator.patched patch).issue.1
            sent := (s.coordinator.patched patch).issue.2 :: s.sent }) := by
  cases h : s.coordinator.goesOut patch with
  | false => exact Or.inl (step_load_of_not_goesOut h)
  | true => exact Or.inr ⟨rfl, step_load_of_goesOut h⟩

/-! ### What never changes -/

/-- The set-up of the coordinator, which no event changes: its number, what it fetches with, what
is done to requests and listings, its ordering, and how a summary is labelled. -/
theorem coordinator_step_eq (s : Session) (e : Event) :
    (s.step e).coordinator =
      { s.coordinator with
        store := (s.step e).coordinator.store
        fetching := (s.step e).coordinator.fetching
        external := (s.step e).coordinator.external
        issued := (s.step e).coordinator.issued
        pager := (s.step e).coordinator.pager
        rows := (s.step e).coordinator.rows
        summary := (s.step e).coordinator.summary } := by
  cases e with
  | load patch =>
      rcases s.step_load_cases patch with h | ⟨-, h⟩ <;> rw [h]
      rw [Coordinator.patched_eq]
      rfl
  | external loading => rfl
  | reconcile l => rfl
  | receive f answer =>
      rcases s.step_receive_cases f answer with h | ⟨-, -, h⟩ <;> rw [h]
      rw [Coordinator.settle_eq]

@[simp] theorem id_step (s : Session) (e : Event) :
    (s.step e).coordinator.id = s.coordinator.id := by
  rw [coordinator_step_eq]

@[simp] theorem ordering_step (s : Session) (e : Event) :
    (s.step e).coordinator.ordering = s.coordinator.ordering := by
  rw [coordinator_step_eq]

@[simp] theorem ordering_run (s : Session) (es : List Event) :
    (s.run es).coordinator.ordering = s.coordinator.ordering := by
  induction es generalizing s with
  | nil => rfl
  | cons e es ih => rw [run_cons, ih, ordering_step]

/-! ### The numbers of the fetches sent -/

/-- An event sends at most one fetch, and that fetch carries the next number. -/
theorem sent_step_cases (s : Session) (e : Event) :
    ((s.step e).sent = s.sent ∧ (s.step e).coordinator.issued = s.coordinator.issued) ∨
      ∃ f, (s.step e).sent = f :: s.sent ∧ f.owner = s.coordinator.id ∧
        f.seq = s.coordinator.issued + 1 ∧
        (s.step e).coordinator.issued = s.coordinator.issued + 1 := by
  cases e with
  | load patch =>
      rcases s.step_load_cases patch with h | ⟨-, h⟩
      · rw [h]
        exact Or.inl ⟨rfl, rfl⟩
      · rw [h]
        exact Or.inr ⟨(s.coordinator.patched patch).issue.2, by simp [Coordinator.issue]⟩
  | external loading => exact Or.inl ⟨rfl, rfl⟩
  | reconcile l => exact Or.inl ⟨rfl, rfl⟩
  | receive f answer =>
      refine Or.inl ?_
      rcases s.step_receive_cases f answer with h | ⟨-, -, h⟩ <;> rw [h]
      · exact ⟨rfl, rfl⟩
      · rw [Coordinator.settle_eq]
        exact ⟨rfl, rfl⟩

/-- The number of fetches issued never falls. -/
theorem issued_le_step (s : Session) (e : Event) :
    s.coordinator.issued ≤ (s.step e).coordinator.issued := by
  rcases s.sent_step_cases e with ⟨-, h⟩ | ⟨f, -, -, -, h⟩ <;> omega

/-- **The fetches sent are the coordinator's own, and they carry the numbers from one on** in the
order in which they were sent. -/
structure Numbered (s : Session) : Prop where
  /-- The fetches are the coordinator's own. -/
  owner : ∀ f ∈ s.sent, f.owner = s.coordinator.id
  /-- The latest fetch carries the greatest number, the first one carries one. -/
  seqs : s.sent.map (·.seq) = (List.range' 1 s.coordinator.issued).reverse

namespace Numbered

/-- A coordinator that has issued nothing begins a session whose fetches are numbered. -/
theorem ofCoordinator {c : Coordinator} (h : c.issued = 0) : (ofCoordinator c).Numbered where
  owner := by simp [Session.ofCoordinator]
  seqs := by simp [Session.ofCoordinator, h]

theorem step {s : Session} (h : s.Numbered) (e : Event) : (s.step e).Numbered := by
  rcases s.sent_step_cases e with ⟨hs, hi⟩ | ⟨f, hs, ho, hf, hi⟩
  · exact ⟨by rw [hs, id_step]; exact h.owner, by rw [hs, hi]; exact h.seqs⟩
  · constructor
    · intro g hg
      rw [hs] at hg
      rw [id_step]
      rcases List.mem_cons.1 hg with rfl | hg
      · exact ho
      · exact h.owner g hg
    · rw [hs, hi, List.map_cons, h.seqs, hf, List.range'_1_concat]
      simp [Nat.add_comm]

/-- **The fetches of every run are numbered.** -/
theorem run {s : Session} (h : s.Numbered) (es : List Event) : (s.run es).Numbered := by
  induction es generalizing s with
  | nil => exact h
  | cons e es ih => exact ih (h.step e)

theorem seq_le {s : Session} (h : s.Numbered) {f : Fetch} (hf : f ∈ s.sent) :
    f.seq ≤ s.coordinator.issued := by
  have hm : f.seq ∈ s.sent.map (·.seq) := List.mem_map.2 ⟨f, hf, rfl⟩
  rw [h.seqs, List.mem_reverse, List.mem_range'_1] at hm
  omega

theorem eq_of_seq_eq {s : Session} (h : s.Numbered) {f g : Fetch} (hf : f ∈ s.sent)
    (hg : g ∈ s.sent) (hfg : f.seq = g.seq) : f = g := by
  have hn : (s.sent.map (·.seq)).Nodup := by
    -- the numbers are those from one on, each once
    rw [h.seqs, List.nodup_reverse]
    exact List.nodup_range'
  exact List.inj_on_of_nodup_map hn hf hg hfg

/-- **The latest fetch is the one that carries the greatest number.** -/
theorem latest?_eq_some_iff {s : Session} (h : s.Numbered) {f : Fetch} :
    s.latest? = some f ↔ f ∈ s.sent ∧ f.seq = s.coordinator.issued := by
  have hseqs := h.seqs
  cases hs : s.sent with
  | nil => simp [latest?, hs]
  | cons g gs =>
      obtain ⟨n, hn⟩ : ∃ n, s.coordinator.issued = n + 1 := by
        refine Nat.exists_eq_succ_of_ne_zero fun h0 => ?_
        simp [hs, h0] at hseqs
      -- the numbers fall along `sent`, so its head carries the number issued last
      have hg : g.seq = s.coordinator.issued := by
        rw [hs, hn, List.range'_1_concat] at hseqs
        have := (List.cons.inj (by simpa using hseqs)).1
        omega
      constructor
      · rintro hf
        obtain rfl : g = f := by simpa [latest?, hs] using hf
        exact ⟨List.mem_cons_self .., hg⟩
      · rintro ⟨hm, hf⟩
        have : f = g := h.eq_of_seq_eq (hs ▸ hm) (hs ▸ List.mem_cons_self ..) (hf.trans hg.symm)
        simp [latest?, hs, this]

end Numbered

end Session

end RecordGrid
