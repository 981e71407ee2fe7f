/-
**Several parties on one message loop.**

A program with several lists on the screen runs one loop, and the loop hands every arrival to every
list.  Their fetches are numbered from one on by each of them, so the numbers overlap, and what an
arrival says of the fetch it belongs to is all that keeps the lists apart.

This module says what it takes to be left alone by the messages of the others, and that it is
enough: whatever sends only fetches that carry its own number, and takes no other arrivals, goes the
way that it would go without the others, in every order of what they do and of what is delivered to
whom.  A coordinator is such a party.

Main definitions:

* `RecordGrid.Party` — something that acts, sends fetches and takes arrivals, with the laws that
  keep it to its own;
* `RecordGrid.Party.Event` — what can happen on the loop: somebody acts, or somebody is handed the
  arrival of somebody's fetch;
* `RecordGrid.Party.run`, `RecordGrid.Party.IsRun` — lists of events, in which only fetches that
  were sent are answered;
* `RecordGrid.Party.Distinct` — **the invariant**: different numbers, and everybody's fetches carry
  their own;
* `RecordGrid.Party.Apart` — nobody notices the messages of the others;
* `RecordGrid.Coordinator.party` — coordinators as parties.

Main results:

* `RecordGrid.Party.Distinct.step`, `RecordGrid.Party.Distinct.step_of_isForeign` — what one event
  keeps, and that a message of somebody else does nothing;
* `RecordGrid.Party.Distinct.apart` — **parties with different numbers keep apart in every run**.
-/

import Mathlib.Logic.Function.Basic
import RecordGrid.Proofs.Fetch.Session

set_option relaxedAutoImplicit false
set_option autoImplicit false

namespace RecordGrid

/-! ### Parties -/

/-- Something with states `σ` that can do `α` of its own, sends fetches, and takes arrivals. -/
structure Party (σ α : Type) where
  /-- The number it goes by. -/
  id : σ → Nat
  /-- The fetches it has sent. -/
  sent : σ → List Fetch
  /-- What it does of its own. -/
  act : σ → α → σ
  /-- What an arrival does to it. -/
  take : σ → Arrival → σ
  /-- Whether it reports an arrival as its own. -/
  consumes : σ → Arrival → Bool
  id_act : ∀ s a, id (act s a) = id s
  id_take : ∀ s a, id (take s a) = id s
  /-- What it sends carries its number. -/
  sent_act : ∀ s a, ∀ f ∈ sent (act s a), f ∈ sent s ∨ f.owner = id s
  /-- An arrival sends nothing. -/
  sent_take : ∀ s a, sent (take s a) = sent s
  /-- It reports the arrivals with its number as its own. -/
  consumes_iff : ∀ s a, consumes s a = true ↔ a.owner = id s
  /-- Any other arrival leaves it as it is. -/
  take_of_ne : ∀ s a, a.owner ≠ id s → take s a = s

namespace Party

/-! ### The loop -/

/-- What can happen on a loop with the members `ι`. -/
inductive Event (ι α : Type) where
  /-- A member acts. -/
  | act (member : ι) (a : α)
  /-- A member is handed the arrival of a fetch that it or another one has sent. -/
  | deliver (member sender : ι) (f : Fetch) (answer : Outcome)

section Loop

variable {σ α ι : Type} [DecidableEq ι]

/-- Whether an event hands a member the arrival of somebody else's fetch. -/
def Event.isForeign : Event ι α → Bool
  | act .. => false
  | deliver member sender _ _ => member ≠ sender

/-- Whether an event is all a member's own: it acts, or is handed the arrival of its own fetch. -/
def Event.isOwn (i : ι) : Event ι α → Bool
  | act member _ => member = i
  | deliver member sender _ _ => member = i && sender = i

variable (P : Party σ α)

/-- The members after an event. -/
def step (s : ι → σ) : Event ι α → ι → σ
  | .act i a => Function.update s i (P.act (s i) a)
  | .deliver i _ f answer => Function.update s i (P.take (s i) (f.arrival answer))

/-- The members after a list of events. -/
def run (s : ι → σ) (es : List (Event ι α)) : ι → σ := es.foldl P.step s

@[simp] theorem run_nil (s : ι → σ) : P.run s [] = s := rfl

@[simp] theorem run_cons (s : ι → σ) (e : Event ι α) (es : List (Event ι α)) :
    P.run s (e :: es) = P.run (P.step s e) es := rfl

/-- What may happen next: a fetch is answered only after it was sent. -/
def Admits (s : ι → σ) : Event ι α → Prop
  | .act .. => True
  | .deliver _ sender f _ => f ∈ P.sent (s sender)

/-- Every fetch that is answered was sent before. -/
def IsRun (s : ι → σ) : List (Event ι α) → Prop
  | [] => True
  | e :: es => P.Admits s e ∧ IsRun (P.step s e) es

@[simp] theorem isRun_cons (s : ι → σ) (e : Event ι α) (es : List (Event ι α)) :
    P.IsRun s (e :: es) ↔ P.Admits s e ∧ P.IsRun (P.step s e) es := Iff.rfl

theorem isRun_append (s : ι → σ) (es fs : List (Event ι α)) :
    P.IsRun s (es ++ fs) ↔ P.IsRun s es ∧ P.IsRun (P.run s es) fs := by
  induction es generalizing s with
  | nil => simp [IsRun]
  | cons e es ih => simp [ih, and_assoc]

/-- The members have different numbers, and the fetches that each has sent carry its own. -/
structure Distinct (s : ι → σ) : Prop where
  injective : Function.Injective fun i => P.id (s i)
  owner : ∀ i, ∀ f ∈ P.sent (s i), f.owner = P.id (s i)

/-! ### One event -/

/-- An event leaves a member as it is, or the member acts, or takes an arrival. -/
theorem step_cases (s : ι → σ) (e : Event ι α) (i : ι) :
    P.step s e i = s i ∨ (∃ a, P.step s e i = P.act (s i) a) ∨
      ∃ a, P.step s e i = P.take (s i) a := by
  cases e with
  | act j a =>
      rcases eq_or_ne i j with rfl | hij
      · exact Or.inr (Or.inl ⟨a, Function.update_self ..⟩)
      · exact Or.inl (Function.update_of_ne hij ..)
  | deliver j sender f answer =>
      rcases eq_or_ne i j with rfl | hij
      · exact Or.inr (Or.inr ⟨f.arrival answer, Function.update_self ..⟩)
      · exact Or.inl (Function.update_of_ne hij ..)

@[simp] theorem id_step (s : ι → σ) (e : Event ι α) (i : ι) : P.id (P.step s e i) = P.id (s i) := by
  rcases P.step_cases s e i with h | ⟨a, h⟩ | ⟨a, h⟩ <;> rw [h]
  · exact P.id_act (s i) a
  · exact P.id_take (s i) a

/-- What a member has sent after an event was sent before, or carries its number. -/
theorem sent_step (s : ι → σ) (e : Event ι α) (i : ι) :
    ∀ f ∈ P.sent (P.step s e i), f ∈ P.sent (s i) ∨ f.owner = P.id (s i) := by
  intro f hf
  rcases P.step_cases s e i with h | ⟨a, h⟩ | ⟨a, h⟩ <;> rw [h] at hf
  · exact Or.inl hf
  · exact P.sent_act (s i) a f hf
  · rw [P.sent_take] at hf
    exact Or.inl hf

variable {P}

namespace Distinct

variable {s : ι → σ}

theorem step (h : P.Distinct s) (e : Event ι α) : P.Distinct (P.step s e) where
  injective := by simpa only [id_step] using h.injective
  owner := fun i f hf => by
    rw [id_step]
    exact (P.sent_step s e i f hf).elim (h.owner i f) (fun ho => ho)

theorem run (h : P.Distinct s) (es : List (Event ι α)) : P.Distinct (P.run s es) := by
  induction es generalizing s with
  | nil => exact h
  | cons e es ih => exact ih (h.step e)

omit [DecidableEq ι] in
/-- **An arrival is reported by the member that sent the fetch, and by no other.** -/
theorem consumes_iff (h : P.Distinct s) {i sender : ι} {f : Fetch} (hf : f ∈ P.sent (s sender))
    (answer : Outcome) : P.consumes (s i) (f.arrival answer) = true ↔ i = sender := by
  rw [P.consumes_iff, Fetch.owner_arrival, h.owner sender f hf]
  exact ⟨fun ho => (h.injective ho).symm, fun hi => by rw [hi]⟩

/-- **A message of somebody else does nothing.** -/
theorem step_of_isForeign (h : P.Distinct s) {e : Event ι α} (he : P.Admits s e)
    (hf : e.isForeign = true) : P.step s e = s := by
  cases e with
  | act i a => cases hf
  | deliver i sender f answer =>
      have hne : i ≠ sender := by simpa [Event.isForeign] using hf
      have hown : (f.arrival answer).owner ≠ P.id (s i) := fun ho =>
        hne ((h.consumes_iff he answer).1 ((P.consumes_iff _ _).2 ho))
      rw [Party.step, P.take_of_ne _ _ hown, Function.update_eq_self]

/-- An event that is not a member's own leaves it as it is. -/
theorem step_of_not_isOwn (h : P.Distinct s) {e : Event ι α} (he : P.Admits s e) {i : ι}
    (hi : e.isOwn i = false) : P.step s e i = s i := by
  cases e with
  | act j a =>
      have hij : i ≠ j := fun hij => by simp [Event.isOwn, hij] at hi
      rw [Party.step, Function.update_of_ne hij]
  | deliver j sender f answer =>
      rcases eq_or_ne i j with rfl | hij
      · have hne : i ≠ sender := fun hs => by simp [Event.isOwn, hs] at hi
        rw [h.step_of_isForeign he (by simpa [Event.isForeign] using hne)]
      · rw [Party.step, Function.update_of_ne hij]

end Distinct

/-- What an event of its own does to a member depends on nobody else. -/
theorem step_of_isOwn {s t : ι → σ} {i : ι} (hst : s i = t i) {e : Event ι α}
    (hi : e.isOwn i = true) : P.step s e i = P.step t e i := by
  cases e with
  | act j a =>
      obtain rfl : j = i := by simpa [Event.isOwn] using hi
      rw [step, step, Function.update_self, Function.update_self, hst]
  | deliver j sender f answer =>
      obtain ⟨rfl, -⟩ : j = i ∧ sender = i := by simpa [Event.isOwn] using hi
      rw [step, step, Function.update_self, Function.update_self, hst]

/-! ### Runs -/

namespace Distinct

variable {s : ι → σ}

/-- Without the messages of others a run stays a run, and leads to the same end. -/
theorem run_filter_isForeign (h : P.Distinct s) {es : List (Event ι α)} (hes : P.IsRun s es) :
    P.IsRun s (es.filter fun e => !e.isForeign) ∧
      P.run s (es.filter fun e => !e.isForeign) = P.run s es := by
  induction es generalizing s with
  | nil => exact ⟨trivial, rfl⟩
  | cons e es ih =>
      obtain ⟨he, hes⟩ := hes
      cases hf : e.isForeign with
      | true =>
          have hstep : P.step s e = s := h.step_of_isForeign he hf
          rw [List.filter_cons_of_neg (by simp [hf]), run_cons, hstep]
          exact ih h (hstep ▸ hes)
      | false =>
          obtain ⟨hrun, hend⟩ := ih (h.step e) hes
          rw [List.filter_cons_of_pos (by simp [hf])]
          exact ⟨⟨he, hrun⟩, hend⟩

/-- A member goes the way of its own events, whoever the others are. -/
theorem run_filter_isOwn (h : P.Distinct s) {es : List (Event ι α)} (hes : P.IsRun s es) {i : ι}
    {t : ι → σ} (hst : s i = t i) :
    P.run t (es.filter (·.isOwn i)) i = P.run s es i := by
  induction es generalizing s t with
  | nil => exact hst.symm
  | cons e es ih =>
      obtain ⟨he, hes⟩ := hes
      cases hi : e.isOwn i with
      | true =>
          rw [List.filter_cons_of_pos hi]
          exact ih (h.step e) hes (step_of_isOwn hst hi)
      | false =>
          rw [List.filter_cons_of_neg (by simp [hi])]
          exact ih (h.step e) hes ((h.step_of_not_isOwn he hi).trans hst)

end Distinct

variable (P)

/-- Nobody notices the messages of the others, at any point `past` of the run. -/
structure Apart (s : ι → σ) (es : List (Event ι α)) : Prop where
  /-- An arrival is reported by the member that sent the fetch, and by no other. -/
  consumed : ∀ past i sender f answer, past ++ [.deliver i sender f answer] <+: es →
    (P.consumes (P.run s past i) (f.arrival answer) = true ↔ i = sender)
  /-- What is left without the messages of others is a run. -/
  isRun : ∀ past, past <+: es → P.IsRun s (past.filter fun e => !e.isForeign)
  /-- All are where they would be if no message of another had been delivered to anybody. -/
  undisturbed : ∀ past, past <+: es →
    P.run s past = P.run s (past.filter fun e => !e.isForeign)
  /-- Each is where it would be if the others had done nothing, and in any other company. -/
  alone : ∀ past, past <+: es → ∀ i t, t i = s i →
    P.run s past i = P.run t (past.filter (·.isOwn i)) i

variable {P}

/-- **Parties with different numbers keep apart in every run.** -/
theorem Distinct.apart {s : ι → σ} (h : P.Distinct s) {es : List (Event ι α)}
    (hes : P.IsRun s es) : P.Apart s es := by
  have hpast {past : List (Event ι α)} (hp : past <+: es) : P.IsRun s past := by
    obtain ⟨rest, rfl⟩ := hp
    exact ((P.isRun_append s past rest).1 hes).1
  constructor
  case consumed =>
    intro past i sender f answer hp
    have hsent : f ∈ P.sent (P.run s past sender) :=
      ((P.isRun_append s past _).1 (hpast hp)).2.1
    exact (h.run past).consumes_iff hsent answer
  case isRun => exact fun past hp => (h.run_filter_isForeign (hpast hp)).1
  case undisturbed => exact fun past hp => (h.run_filter_isForeign (hpast hp)).2.symm
  case alone => exact fun past hp i t hst => (h.run_filter_isOwn (hpast hp) hst.symm).symm

end Loop

end Party

/-! ### Coordinators -/

/-- What a coordinator is made to do, apart from taking arrivals. -/
inductive Coordinator.Act where
  | load (patch : Option Patch)
  /-- The host says whether it is loading, or stops saying so. -/
  | external (loading : Option Bool)
  /-- The host hands in a listing that it already has. -/
  | reconcile (listing : Listing)

/-- The event of a session that an act is. -/
def Coordinator.Act.event : Coordinator.Act → Session.Event
  | load patch => .load patch
  | external loading => .external loading
  | reconcile l => .reconcile l

/-- The current request is fetched again. -/
def Coordinator.Act.reload : Coordinator.Act := .load none

namespace Session

/-- A session is handed an arrival. -/
def take (s : Session) (a : Arrival) : Session := s.afterArrival (s.coordinator.receive a)

/-- An arrival changes neither the number of the coordinator nor the fetches sent. -/
theorem id_take (s : Session) (a : Arrival) : (s.take a).coordinator.id = s.coordinator.id := by
  show (s.coordinator.receive a).coordinator.id = _
  rw [Coordinator.coordinator_receive_eq]

theorem take_of_ne {s : Session} {a : Arrival} (h : a.owner ≠ s.coordinator.id) : s.take a = s := by
  simp [take, afterArrival, Coordinator.receive_foreign h]

end Session

/-- Coordinators, with what they have sent and the notices they have given, as parties. -/
def Coordinator.party : Party Session Coordinator.Act where
  id s := s.coordinator.id
  sent s := s.sent
  act s a := s.step a.event
  take s a := s.take a
  consumes s a := (s.coordinator.receive a).consumed
  id_act s a := s.id_step a.event
  id_take s a := s.id_take a
  sent_act s a f hf := by
    rcases s.sent_step_cases a.event with ⟨hs, -⟩ | ⟨g, hs, hg, -, -⟩
    · exact Or.inl (hs ▸ hf)
    · rw [hs] at hf
      exact (List.mem_cons.1 hf).elim (fun h => Or.inr (h ▸ hg)) Or.inl
  sent_take _ _ := rfl
  consumes_iff _ _ := Coordinator.consumed_receive_iff
  take_of_ne _ _ h := Session.take_of_ne h

/-- Coordinators with different numbers that have sent nothing yet are distinct parties. -/
theorem Coordinator.party_distinct {ι : Type} {c : ι → Coordinator}
    (h : Function.Injective fun i => (c i).id) :
    Coordinator.party.Distinct fun i => Session.ofCoordinator (c i) :=
  ⟨h, fun _ _ hf => nomatch hf⟩

end RecordGrid
