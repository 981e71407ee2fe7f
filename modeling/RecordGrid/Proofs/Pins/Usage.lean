/-
**Boards in use.**

Any reading and any writing of the storage may fail, so an operation on a board can end in several
ways: the storage could not be read, nothing had to be written, the writing failed, or it succeeded.
This module says what each operation does in each of these cases, and what is known of a board after
a list of actions during which the storage fails now and then.  An action reads the storage at most
once and writes it at most once, so it is enough to say for each action whether reading and writing
fail while it lasts.

Main definitions:

* `RecordGrid.PinBoard.Action`, `RecordGrid.PinBoard.Reply` — what can be done with a board, and
  what it answers;
* `RecordGrid.PinBoard.Event` — an action, and the failures of the storage while it lasts;
* `RecordGrid.PinBoard.step`, `run`, `trace` — one event, a list of them, and what was answered;
* `RecordGrid.PinBoard.WasRead` — the storage was read, and no later reload failed.

Main results:

* `RecordGrid.PinBoard.update_cases` — **how a change ends**;
* `RecordGrid.PinBoard.loads_step`, `saves_step_le` — an event reads and writes at most once;
* `RecordGrid.PinBoard.loaded_run_iff` — a board counts as loaded exactly when its storage was read
  and no later reload failed.
-/

import Mathlib.Data.List.Induction
import RecordGrid.Pins.Board

set_option relaxedAutoImplicit false
set_option autoImplicit false

namespace RecordGrid.PinBoard

/-! ### Reading -/

theorem fill_of_ok {b : PinBoard} (h : b.storage.loadFailure = none) :
    b.fill =
      ({ storage := { b.storage with loads := b.storage.loads + 1 }
         loaded := true
         pins := Pin.sort (b.storage.pins.map Pin.normalized) }, .ok ()) := by
  simp [fill, PinStorage.load, h]

theorem fill_of_failure {b : PinBoard} {m : String} (h : b.storage.loadFailure = some m) :
    b.fill =
      ({ storage := { b.storage with loads := b.storage.loads + 1 }
         loaded := false
         pins := [] }, .error (.load m)) := by
  simp [fill, PinStorage.load, h]

@[simp] theorem loaded_fill (b : PinBoard) :
    b.fill.1.loaded = b.storage.loadFailure.isNone := by
  cases h : b.storage.loadFailure with
  | none => rw [fill_of_ok h]; rfl
  | some m => rw [fill_of_failure h]; rfl

/-- Reading changes nothing in the storage. -/
@[simp] theorem storage_fill (b : PinBoard) :
    b.fill.1.storage = { b.storage with loads := b.storage.loads + 1 } := by
  cases h : b.storage.loadFailure with
  | none => rw [fill_of_ok h]
  | some m => rw [fill_of_failure h]

theorem ensure_of_loaded {b : PinBoard} (h : b.loaded = true) : b.ensure = (b, .ok ()) := by
  simp [ensure, h]

theorem ensure_of_not_loaded {b : PinBoard} (h : b.loaded = false) : b.ensure = b.fill := by
  simp [ensure, h]

@[simp] theorem loaded_ensure (b : PinBoard) :
    b.ensure.1.loaded = (b.loaded || b.storage.loadFailure.isNone) := by
  cases h : b.loaded with
  | false => simp [ensure_of_not_loaded h]
  | true => simp [ensure_of_loaded h, h]

@[simp] theorem storage_ensure (b : PinBoard) :
    b.ensure.1.storage =
      { b.storage with loads := b.storage.loads + (if b.loaded then 0 else 1) } := by
  cases h : b.loaded with
  | false => simp [ensure_of_not_loaded h]
  | true => simp [ensure_of_loaded h]

/-- A board that is read when it is needed is loaded, or says why it could not be read. -/
theorem ensure_cases (b : PinBoard) :
    (b.ensure.1.loaded = true ∧ b.ensure.2 = .ok ()) ∨
      (b.ensure.1.loaded = false ∧ ∃ e, b.ensure.2 = .error e) := by
  cases h : b.loaded with
  | true =>
      rw [ensure_of_loaded h]
      exact Or.inl ⟨h, rfl⟩
  | false =>
      rw [ensure_of_not_loaded h]
      cases hl : b.storage.loadFailure with
      | none => rw [fill_of_ok hl]; exact Or.inl ⟨rfl, rfl⟩
      | some m => rw [fill_of_failure hl]; exact Or.inr ⟨rfl, _, rfl⟩

/-! ### Writing -/

theorem commit_of_ok {b : PinBoard} (h : b.storage.saveFailure = none) (ps : List Pin) :
    b.commit ps =
      ({ b with
         storage := { b.storage with saves := b.storage.saves + 1, pins := ps }
         pins := ps }, .ok ()) := by
  simp [commit, PinStorage.save, h]

theorem commit_of_failure {b : PinBoard} {m : String} (h : b.storage.saveFailure = some m)
    (ps : List Pin) :
    b.commit ps =
      ({ b with storage := { b.storage with saves := b.storage.saves + 1 } },
        .error (.save m)) := by
  simp [commit, PinStorage.save, h]

@[simp] theorem loaded_commit (b : PinBoard) (ps : List Pin) :
    (b.commit ps).1.loaded = b.loaded := by
  cases h : b.storage.saveFailure with
  | none => rw [commit_of_ok h]
  | some m => rw [commit_of_failure h]

@[simp] theorem loads_commit (b : PinBoard) (ps : List Pin) :
    (b.commit ps).1.storage.loads = b.storage.loads := by
  cases h : b.storage.saveFailure with
  | none => rw [commit_of_ok h]
  | some m => rw [commit_of_failure h]

@[simp] theorem saves_commit (b : PinBoard) (ps : List Pin) :
    (b.commit ps).1.storage.saves = b.storage.saves + 1 := by
  cases h : b.storage.saveFailure with
  | none => rw [commit_of_ok h]
  | some m => rw [commit_of_failure h]

/-- **How a change ends**: the storage could not be read, or nothing had to be changed, or new pins
are written. -/
theorem update_cases (b : PinBoard) (change : PinBoard → Option (List Pin)) :
    (∃ e, b.update change = (b.ensure.1, .error e)) ∨
      (b.ensure.1.loaded = true ∧ change b.ensure.1 = none ∧
        b.update change = (b.ensure.1, .ok ())) ∨
      ∃ ps, b.ensure.1.loaded = true ∧ change b.ensure.1 = some ps ∧
        b.update change = b.ensure.1.commit ps := by
  have hsplit : b.ensure = (b.ensure.1, b.ensure.2) := rfl
  rcases b.ensure_cases with ⟨hl, h⟩ | ⟨-, e, h⟩
  · rw [h] at hsplit
    cases hc : change b.ensure.1 with
    | none => exact Or.inr (Or.inl ⟨hl, rfl, by rw [update, hsplit]; simp [hc]⟩)
    | some ps => exact Or.inr (Or.inr ⟨ps, hl, rfl, by rw [update, hsplit]; simp [hc]⟩)
  · rw [h] at hsplit
    exact Or.inl ⟨e, by rw [update, hsplit]⟩

@[simp] theorem loaded_update (b : PinBoard) (change : PinBoard → Option (List Pin)) :
    (b.update change).1.loaded = b.ensure.1.loaded := by
  rcases b.update_cases change with ⟨e, h⟩ | ⟨-, -, h⟩ | ⟨ps, -, -, h⟩ <;> rw [h]
  exact loaded_commit ..

@[simp] theorem loads_update (b : PinBoard) (change : PinBoard → Option (List Pin)) :
    (b.update change).1.storage.loads = b.ensure.1.storage.loads := by
  rcases b.update_cases change with ⟨e, h⟩ | ⟨-, -, h⟩ | ⟨ps, -, -, h⟩ <;> rw [h]
  exact loads_commit ..

/-- A change writes the storage at most once. -/
theorem saves_update_le (b : PinBoard) (change : PinBoard → Option (List Pin)) :
    (b.update change).1.storage.saves ≤ b.storage.saves + 1 := by
  rcases b.update_cases change with ⟨e, h⟩ | ⟨-, -, h⟩ | ⟨ps, -, -, h⟩
  · rw [h, storage_ensure]
    exact Nat.le_succ _
  · rw [h, storage_ensure]
    exact Nat.le_succ _
  · exact Nat.le_of_eq (by rw [h, saves_commit, storage_ensure])

/-- A change that ends in an error changes nothing in the storage. -/
theorem storage_update_of_error {b : PinBoard} {change : PinBoard → Option (List Pin)}
    {e : StorageError} (h : (b.update change).2 = .error e) :
    (b.update change).1.storage.pins = b.storage.pins := by
  rcases b.update_cases change with ⟨e', hu⟩ | ⟨-, -, hu⟩ | ⟨ps, -, -, hu⟩
  · rw [hu, storage_ensure]
  · rw [hu, storage_ensure]
  · rw [hu] at h ⊢
    cases hs : b.ensure.1.storage.saveFailure with
    | none =>
        rw [commit_of_ok hs] at h
        cases h
    | some m =>
        rw [commit_of_failure hs, storage_ensure]

/-! ### Actions -/

/-- What can be done with a board. -/
inductive Action where
  /-- A path is pinned, at a time. -/
  | pin (path : String) (name : Option String) (now : Count)
  /-- A path is unpinned. -/
  | unpin (path : String)
  /-- Whether a path is pinned is asked for. -/
  | isPinned (path : String)
  /-- The pins are asked for. -/
  | items
  /-- It is noted whether a path is there, at a time. -/
  | mark (path : String) (present : Bool) (now : Count)
  /-- The storage is read again. -/
  | reload
deriving DecidableEq

/-- What a board answers. -/
inductive Reply where
  /-- The action succeeded, or failed with an error. -/
  | result (r : Except StorageError Unit)
  /-- Yes or no. -/
  | truth (b : Bool)
  /-- Some pins. -/
  | pins (ps : List Pin)
  /-- Nothing. -/
  | nothing

/-- What an action does, and what the board answers. -/
def act (b : PinBoard) : Action → PinBoard × Reply
  | .pin path name now => ((b.pin path name now).1, .result (b.pin path name now).2)
  | .unpin path => ((b.unpin path).1, .result (b.unpin path).2)
  | .isPinned path => ((b.isPinned path).1, .truth (b.isPinned path).2)
  | .items => (b.items.1, .pins b.items.2)
  | .mark path present now => (b.mark path present now, .nothing)
  | .reload => (b.reload, .nothing)

/-- An action, and the failures of the storage while it lasts. -/
structure Event where
  /-- The action. -/
  action : Action
  /-- The message with which reading fails, if it does. -/
  loadFailure : Option String := none
  /-- The message with which writing fails, if it does. -/
  saveFailure : Option String := none

/-- The board while its storage fails as it does during an event. -/
def facing (b : PinBoard) (e : Event) : PinBoard :=
  { b with
    storage := { b.storage with loadFailure := e.loadFailure, saveFailure := e.saveFailure } }

@[simp] theorem loaded_facing (b : PinBoard) (e : Event) : (b.facing e).loaded = b.loaded := rfl

/-- The board after an event. -/
def step (b : PinBoard) (e : Event) : PinBoard := ((b.facing e).act e.action).1

/-- What the board answers to an event. -/
def reply (b : PinBoard) (e : Event) : Reply := ((b.facing e).act e.action).2

/-- The board after a list of events. -/
def run (b : PinBoard) (es : List Event) : PinBoard := es.foldl step b

/-- The actions of a list of events, with what the board answered to them. -/
def trace (b : PinBoard) : List Event → List (Action × Reply)
  | [] => []
  | e :: es => (e.action, b.reply e) :: (b.step e).trace es

@[simp] theorem run_nil (b : PinBoard) : b.run [] = b := rfl

@[simp] theorem run_cons (b : PinBoard) (e : Event) (es : List Event) :
    b.run (e :: es) = (b.step e).run es := rfl

@[simp] theorem run_append (b : PinBoard) (es fs : List Event) :
    b.run (es ++ fs) = (b.run es).run fs := List.foldl_append

/-! ### Whether the storage was read -/

/-- An event reads the storage when there is no board to fall back on, or to reload it. -/
theorem loads_step (b : PinBoard) (e : Event) :
    (b.step e).storage.loads =
      b.storage.loads + (if e.action = .reload ∨ b.loaded = false then 1 else 0) := by
  have hens : (b.facing e).ensure.1.storage.loads =
      b.storage.loads + (if b.loaded = false then 1 else 0) := by
    rw [storage_ensure]
    cases h : b.loaded <;> simp [facing, h]
  cases ha : e.action with
  | pin path name now => simpa [step, ha, act, pin] using hens
  | unpin path => simpa [step, ha, act, unpin] using hens
  | isPinned path => simpa [step, ha, act, isPinned] using hens
  | items => simpa [step, ha, act, items] using hens
  | mark path present now => simpa [step, ha, act, mark] using hens
  | reload => simp [step, ha, act, reload, facing]

/-- An event writes the storage at most once. -/
theorem saves_step_le (b : PinBoard) (e : Event) :
    (b.step e).storage.saves ≤ b.storage.saves + 1 := by
  have hens : (b.facing e).ensure.1.storage.saves ≤ b.storage.saves + 1 := by
    rw [storage_ensure]
    exact Nat.le_succ _
  cases ha : e.action with
  | pin path name now =>
      rw [step, ha]
      exact saves_update_le (b.facing e) _
  | unpin path =>
      rw [step, ha]
      exact saves_update_le (b.facing e) _
  | isPinned path => simpa [step, ha, act, isPinned] using hens
  | items => simpa [step, ha, act, items] using hens
  | mark path present now => simpa [step, ha, act, mark] using hens
  | reload => simp [step, ha, act, reload, facing]

/-- A reload decides anew whether the board is loaded; any other event can only help. -/
theorem loaded_step (b : PinBoard) (e : Event) :
    (b.step e).loaded =
      if e.action = .reload then e.loadFailure.isNone
      else b.loaded || e.loadFailure.isNone := by
  have hens : (b.facing e).ensure.1.loaded = (b.loaded || e.loadFailure.isNone) :=
    loaded_ensure ..
  cases ha : e.action with
  | pin path name now => simpa [step, ha, act, pin] using hens
  | unpin path => simpa [step, ha, act, unpin] using hens
  | isPinned path => simpa [step, ha, act, isPinned] using hens
  | items => simpa [step, ha, act, items] using hens
  | mark path present now => simpa [step, ha, act, mark] using hens
  | reload => simp [step, ha, act, reload, facing]

/-- Whether an event reads the storage, and succeeds in it. -/
def Reads (b : PinBoard) (e : Event) : Prop :=
  (b.step e).storage.loads = b.storage.loads + 1 ∧ e.loadFailure = none

/-- **The storage was read, and no later reload failed.** -/
def WasRead (b : PinBoard) (es : List Event) : Prop :=
  ∃ past e rest, es = past ++ e :: rest ∧ (b.run past).Reads e ∧
    ∀ f ∈ rest, f.action = .reload → f.loadFailure = none

theorem wasRead_concat_iff (b : PinBoard) (es : List Event) (e : Event) :
    b.WasRead (es ++ [e]) ↔
      (b.run es).Reads e ∨ b.WasRead es ∧ (e.action = .reload → e.loadFailure = none) := by
  constructor
  · rintro ⟨past, x, rest, heq, hx, hrest⟩
    -- either the event is the one that reads, or it is the last of those behind it
    rcases List.eq_nil_or_concat rest with rfl | ⟨rest, z, rfl⟩
    · obtain ⟨rfl, hlast⟩ := List.append_inj' heq rfl
      obtain rfl := List.head_eq_of_cons_eq hlast
      exact Or.inl hx
    · rw [List.concat_eq_append, ← List.cons_append, ← List.append_assoc] at heq
      obtain ⟨rfl, hlast⟩ := List.append_inj' heq rfl
      obtain rfl := List.head_eq_of_cons_eq hlast
      exact Or.inr ⟨⟨past, x, rest, rfl, hx, fun f hf => hrest f (by simp [hf])⟩, hrest e (by simp)⟩
  · rintro (h | ⟨⟨past, x, rest, rfl, hx, hrest⟩, he⟩)
    · exact ⟨es, e, [], rfl, h, by simp⟩
    · refine ⟨past, x, rest ++ [e], by simp, hx, fun f hf => ?_⟩
      rcases List.mem_append.1 hf with hf | hf
      · exact hrest f hf
      · rw [List.mem_singleton.1 hf]
        exact he

/-- **A board counts as loaded exactly when its storage was read and no later reload failed.** -/
theorem loaded_run_iff (s : PinStorage) (es : List Event) :
    ((ofStorage s).run es).loaded = true ↔ (ofStorage s).WasRead es := by
  induction es using List.reverseRecOn with
  | nil =>
      refine iff_of_false Bool.false_ne_true ?_
      rintro ⟨past, e, rest, heq, -⟩
      simp at heq
  | append_singleton es e ih =>
      rw [wasRead_concat_iff, ← ih, Reads, loads_step, run_append, run_cons, run_nil, loaded_step]
      by_cases ha : e.action = .reload <;>
        cases hl : ((ofStorage s).run es).loaded <;> simp [ha]

end RecordGrid.PinBoard
