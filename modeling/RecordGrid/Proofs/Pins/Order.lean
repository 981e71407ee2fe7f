/-
**A loaded board shows what is stored, in order.**

Memory and storage are changed by different operations: reading fills the board, pinning and
unpinning change both of them, and noting whether a path is there changes the board alone.  In
spite of that a loaded board and its storage never part: sorting what is stored, with its paths in
normal form, gives the pins that the board shows, apart from what was last known of each of them.
The sort is stable, so that the order of pins with one name is the stored one.  Once something was
written there is no difference left at all, and reading it again changes nothing.

Main definitions:

* `RecordGrid.Pin.bare` — a pin without what was last known of it;
* `RecordGrid.PinBoard.InOrder` — **the invariant** of loaded boards;
* `RecordGrid.PinBoard.Saves` — an event writes the storage, and succeeds in it.

Main results:

* `RecordGrid.Pin.filter_name_sort` — sorting pins is stable;
* `RecordGrid.PinBoard.inOrder_step`, `RecordGrid.PinBoard.inOrder_run` — every event and every run
  keep the invariant;
* `RecordGrid.PinBoard.loaded_run_inOrder` — **boards and storages never part**.
-/

import RecordGrid.Proofs.Pins.Entries
import RecordGrid.Proofs.Pins.NaturalOrder

set_option relaxedAutoImplicit false
set_option autoImplicit false

namespace RecordGrid

namespace Pin

/-! ### Sorting -/

theorem le_iff {p q : Pin} :
    p.le q = true ↔ NaturalOrder.compareNames p.name q.name ≠ .gt := by
  rw [le]
  exact Ordering.isLE_iff_ne_gt

theorem le_trans (p q r : Pin) (hpq : p.le q = true) (hqr : q.le r = true) : p.le r = true := by
  have htrans : ∀ {a b c : String}, (NaturalOrder.compareNames a b).isLE →
      (NaturalOrder.compareNames b c).isLE → (NaturalOrder.compareNames a c).isLE :=
    Std.TransCmp.isLE_trans
  exact htrans hpq hqr

theorem le_total (p q : Pin) : (p.le q || q.le p) = true := by
  rw [Bool.or_eq_true]
  have hswap : NaturalOrder.compareNames q.name p.name =
      (NaturalOrder.compareNames p.name q.name).swap := Std.OrientedCmp.eq_swap
  by_cases hgt : NaturalOrder.compareNames p.name q.name = .gt
  · right
    rw [le_iff, hswap, hgt]
    decide
  · left
    exact le_iff.2 hgt

theorem le_of_name_eq {p q : Pin} (h : p.name = q.name) : p.le q = true := by
  rw [le, h]
  have hself : NaturalOrder.compareNames q.name q.name = .eq := Std.ReflCmp.compare_self
  rw [hself]
  rfl

theorem pairwise_sort (ps : List Pin) : (Pin.sort ps).Pairwise fun p q => p.le q = true :=
  List.pairwise_mergeSort le_trans le_total ps

theorem mem_sort {p : Pin} {ps : List Pin} : p ∈ Pin.sort ps ↔ p ∈ ps :=
  (List.mergeSort_perm ps le).mem_iff

/-- **Sorting pins is stable**: those with one name keep their order. -/
theorem filter_name_sort (name : String) (ps : List Pin) :
    (Pin.sort ps).filter (·.name = name) = ps.filter (·.name = name) := by
  have hname : ∀ p ∈ ps.filter (·.name = name), p.name = name := by
    intro p hp
    exact of_decide_eq_true (List.mem_filter.1 hp).2
  have hpair : (ps.filter (·.name = name)).Pairwise fun p q => p.le q = true := by
    refine List.pairwise_of_forall_mem_list ?_
    intro p hp q hq
    exact le_of_name_eq ((hname p hp).trans (hname q hq).symm)
  have hsub : (ps.filter (·.name = name)).Sublist (Pin.sort ps) :=
    List.sublist_mergeSort le_trans le_total hpair List.filter_sublist
  have hfilter := hsub.filter (·.name = name)
  rw [List.filter_filter] at hfilter
  simp only [Bool.and_self] at hfilter
  -- a part of the sorted pins that has as many pins of the name as there are is all of them
  refine (hfilter.eq_of_length ?_).symm
  exact ((List.mergeSort_perm ps le).filter (·.name = name)).length_eq.symm

/-! ### What is stored of a pin -/

/-- The pin without what was last known of it. -/
def bare (p : Pin) : Pin := { p with lastSeen := none, present := true }

theorem filter_name_map_bare (name : String) (ps : List Pin) :
    (ps.map bare).filter (·.name = name) = (ps.filter (·.name = name)).map bare := by
  rw [List.filter_map]
  rfl

theorem map_normalized_eq_self {ps : List Pin} (h : ∀ p ∈ ps, normalPath p.path = p.path) :
    ps.map normalized = ps := by
  refine (List.map_congr_left ?_).trans (List.map_id ps)
  intro p hp
  rw [normalized, h p hp]
  rfl

end Pin

namespace PinBoard

/-! ### The invariant -/

/-- **What a loaded board shows**: the stored pins with their paths in normal form, in the natural
order of their names. -/
structure InOrder (b : PinBoard) : Prop where
  /-- No name stands before one that comes before it. -/
  sorted : b.pins.Pairwise fun p q => NaturalOrder.compareNames p.name q.name ≠ .gt
  /-- The paths are in normal form. -/
  normal : ∀ p ∈ b.pins, normalPath p.path = p.path
  /-- Apart from what was last known of them, the pins are the sorted ones of the storage. -/
  stored : b.pins.map Pin.bare = (Pin.sort (b.storage.pins.map Pin.normalized)).map Pin.bare

namespace InOrder

variable {b : PinBoard}

/-- Only the pins shown and those stored matter. -/
theorem congr {c : PinBoard} (h : b.InOrder) (hpins : c.pins = b.pins)
    (hstored : c.storage.pins = b.storage.pins) : c.InOrder := by
  constructor
  · rw [hpins]
    exact h.sorted
  · rw [hpins]
    exact h.normal
  · rw [hpins, hstored]
    exact h.stored

/-- Pins in order that are shown are what reading them from the storage would give. -/
theorem sort_normalized_pins (h : b.InOrder) : Pin.sort (b.pins.map Pin.normalized) = b.pins := by
  rw [Pin.map_normalized_eq_self h.normal]
  exact List.mergeSort_of_pairwise (h.sorted.imp Pin.le_iff.2)

/-- The pins of one name stand in the order in which they are stored. -/
theorem stored_name (h : b.InOrder) (name : String) :
    (b.pins.filter (·.name = name)).map Pin.bare =
      ((b.storage.pins.map Pin.normalized).filter (·.name = name)).map Pin.bare := by
  rw [← Pin.filter_name_map_bare, h.stored, Pin.filter_name_map_bare, Pin.filter_name_sort]

/-- Pins in order that were written are in order. -/
theorem written {ps : List Pin} (hsorted : ps.Pairwise fun p q => p.le q = true)
    (hnormal : ∀ p ∈ ps, normalPath p.path = p.path) (hpins : b.pins = ps)
    (hstored : b.storage.pins = ps) : b.InOrder := by
  constructor
  · rw [hpins]
    exact hsorted.imp Pin.le_iff.1
  · rw [hpins]
    exact hnormal
  · rw [hpins, hstored, Pin.map_normalized_eq_self hnormal]
    exact congrArg (List.map Pin.bare) (List.mergeSort_of_pairwise hsorted).symm

end InOrder

/-! ### Reading and writing -/

theorem inOrder_fill {b : PinBoard} (h : b.fill.1.loaded = true) : b.fill.1.InOrder := by
  cases hf : b.storage.loadFailure with
  | none =>
      rw [fill_of_ok hf]
      constructor
      · exact (Pin.pairwise_sort _).imp Pin.le_iff.1
      · intro p hp
        obtain ⟨q, -, rfl⟩ := List.mem_map.1 (Pin.mem_sort.1 hp)
        exact normalPath_normalPath q.path
      · rfl
  | some m =>
      rw [fill_of_failure hf] at h
      cases h

theorem inOrder_ensure {b : PinBoard} (h : b.loaded = true → b.InOrder)
    (hl : b.ensure.1.loaded = true) : b.ensure.1.InOrder := by
  cases hb : b.loaded with
  | true =>
      rw [ensure_of_loaded hb]
      exact h hb
  | false =>
      rw [ensure_of_not_loaded hb] at hl ⊢
      exact inOrder_fill hl

theorem inOrder_commit {b : PinBoard} (h : b.InOrder) {ps : List Pin}
    (hsorted : ps.Pairwise fun p q => p.le q = true)
    (hnormal : ∀ p ∈ ps, normalPath p.path = p.path) : (b.commit ps).1.InOrder := by
  cases hs : b.storage.saveFailure with
  | none =>
      rw [commit_of_ok hs]
      exact InOrder.written hsorted hnormal rfl rfl
  | some m =>
      rw [commit_of_failure hs]
      exact h.congr rfl rfl

/-- A change keeps the invariant if it gives pins in order. -/
theorem inOrder_update {b : PinBoard} (h : b.loaded = true → b.InOrder)
    {change : PinBoard → Option (List Pin)}
    (hchange : ∀ c ps, c.InOrder → change c = some ps →
      (ps.Pairwise fun p q => p.le q = true) ∧ ∀ p ∈ ps, normalPath p.path = p.path)
    (hl : (b.update change).1.loaded = true) : (b.update change).1.InOrder := by
  rw [loaded_update] at hl
  have hread := inOrder_ensure h hl
  rcases b.update_cases change with ⟨e, hu⟩ | ⟨-, -, hu⟩ | ⟨ps, -, hc, hu⟩
  · rw [hu]
    exact hread
  · rw [hu]
    exact hread
  · obtain ⟨hsorted, hnormal⟩ := hchange _ ps hread hc
    rw [hu]
    exact inOrder_commit hread hsorted hnormal

/-! ### Actions -/

theorem inOrder_pin {b : PinBoard} (h : b.loaded = true → b.InOrder) (path : String)
    (name : Option String) (now : Count) (hl : (b.pin path name now).1.loaded = true) :
    (b.pin path name now).1.InOrder := by
  refine inOrder_update h ?_ hl
  intro c ps hc hchange
  -- the pins are written only if the path is new, and then with one more of them
  split at hchange
  · cases hchange
  · obtain rfl := Option.some.inj hchange
    constructor
    · exact Pin.pairwise_sort _
    · intro p hp
      rcases List.mem_append.1 (Pin.mem_sort.1 hp) with hold | hnew
      · exact hc.normal p hold
      · rw [List.mem_singleton.1 hnew]
        exact normalPath_normalPath path

theorem inOrder_unpin {b : PinBoard} (h : b.loaded = true → b.InOrder) (path : String)
    (hl : (b.unpin path).1.loaded = true) : (b.unpin path).1.InOrder := by
  refine inOrder_update h ?_ hl
  intro c ps hc hchange
  split at hchange
  · obtain rfl := Option.some.inj hchange
    constructor
    · exact (hc.sorted.imp Pin.le_iff.2).filter _
    · intro p hp
      exact hc.normal p (List.mem_of_mem_filter hp)
  · cases hchange

theorem inOrder_mark {b : PinBoard} (h : b.loaded = true → b.InOrder) (path : String)
    (present : Bool) (now : Count) (hl : (b.mark path present now).loaded = true) :
    (b.mark path present now).InOrder := by
  have hread : b.ensure.1.InOrder := inOrder_ensure h hl
  have hname := map_markFirst (f := Pin.name) (normalPath path) present now (fun _ => rfl)
    b.ensure.1.pins
  have hpath := map_markFirst (f := Pin.path) (normalPath path) present now (fun _ => rfl)
    b.ensure.1.pins
  have hbare := map_markFirst (f := Pin.bare) (normalPath path) present now (fun _ => rfl)
    b.ensure.1.pins
  constructor
  · have hsorted : (b.ensure.1.pins.map Pin.name).Pairwise fun m n =>
        NaturalOrder.compareNames m n ≠ .gt := List.pairwise_map.2 hread.sorted
    rw [← hname] at hsorted
    exact List.pairwise_map.1 hsorted
  · intro p hp
    obtain ⟨q, hq, heq⟩ := List.mem_map.1 (hpath ▸ List.mem_map_of_mem hp)
    rw [← heq]
    exact hread.normal q hq
  · exact hbare.trans hread.stored

/-- **Every event keeps the invariant.** -/
theorem inOrder_step {b : PinBoard} (h : b.loaded = true → b.InOrder) (e : Event)
    (hl : (b.step e).loaded = true) : (b.step e).InOrder := by
  have hface : (b.facing e).loaded = true → (b.facing e).InOrder := by
    intro hb
    exact (h hb).congr rfl rfl
  rw [step] at hl ⊢
  cases ha : e.action with
  | pin path name now =>
      rw [ha] at hl
      exact inOrder_pin hface path name now hl
  | unpin path =>
      rw [ha] at hl
      exact inOrder_unpin hface path hl
  | isPinned path =>
      rw [ha] at hl
      exact inOrder_ensure hface hl
  | items =>
      rw [ha] at hl
      exact inOrder_ensure hface hl
  | mark path present now =>
      rw [ha] at hl
      exact inOrder_mark hface path present now hl
  | reload =>
      rw [ha] at hl
      exact inOrder_fill hl

/-- **The invariant holds in every run.** -/
theorem inOrder_run {b : PinBoard} (h : b.loaded = true → b.InOrder) (es : List Event)
    (hl : (b.run es).loaded = true) : (b.run es).InOrder := by
  induction es generalizing b with
  | nil => exact h hl
  | cons e es ih => exact ih (inOrder_step h e) hl

/-! ### After writing -/

/-- Whether an event writes the storage, and succeeds in it. -/
def Saves (b : PinBoard) (e : Event) : Prop :=
  (b.step e).storage.saves = b.storage.saves + 1 ∧ e.saveFailure = none

/-- A change that wrote the storage left the pins there that the board shows. -/
theorem pins_update_of_saves {b : PinBoard} {change : PinBoard → Option (List Pin)}
    (hsave : b.storage.saveFailure = none)
    (h : (b.update change).1.storage.saves = b.storage.saves + 1) :
    (b.update change).1.storage.pins = (b.update change).1.pins ∧
      (b.update change).1.loaded = true := by
  have hsaves : b.ensure.1.storage.saves = b.storage.saves := by rw [storage_ensure]
  rcases b.update_cases change with ⟨e, hu⟩ | ⟨-, -, hu⟩ | ⟨ps, hl, -, hu⟩
  · rw [hu, hsaves] at h
    omega
  · rw [hu, hsaves] at h
    omega
  · have hok : b.ensure.1.storage.saveFailure = none := by rwa [storage_ensure]
    rw [hu, commit_of_ok hok]
    exact ⟨rfl, hl⟩

theorem Saves.pins_step {b : PinBoard} {e : Event} (h : b.Saves e) :
    (b.step e).storage.pins = (b.step e).pins ∧ (b.step e).loaded = true := by
  obtain ⟨hsaves, hok⟩ := h
  have hread : (b.facing e).ensure.1.storage.saves = b.storage.saves := by
    rw [storage_ensure]
    rfl
  rw [step] at hsaves ⊢
  cases ha : e.action with
  | pin path name now =>
      rw [ha] at hsaves
      exact pins_update_of_saves (b := b.facing e) hok hsaves
  | unpin path =>
      rw [ha] at hsaves
      exact pins_update_of_saves (b := b.facing e) hok hsaves
  | isPinned path =>
      rw [ha] at hsaves
      have hsame := hread.symm.trans hsaves
      omega
  | items =>
      rw [ha] at hsaves
      have hsame := hread.symm.trans hsaves
      omega
  | mark path present now =>
      rw [ha] at hsaves
      have hsame := hread.symm.trans hsaves
      omega
  | reload =>
      rw [ha] at hsaves
      have hsame : (b.facing e).fill.1.storage.saves = b.storage.saves := by
        rw [storage_fill]
        rfl
      have hboth := hsame.symm.trans hsaves
      omega

/-- A loaded board answers with the pins that it shows. -/
theorem reply_items {b : PinBoard} (hl : b.loaded = true) {e : Event} (he : e.action = .items) :
    b.reply e = .pins b.pins := by
  have hensure : (b.facing e).ensure.1 = b.facing e := by
    rw [ensure_of_loaded (b := b.facing e) hl]
  rw [reply, he]
  show Reply.pins (b.facing e).ensure.1.pins = _
  rw [hensure]
  rfl

/-- Reading again what the board shows in order changes nothing. -/
theorem reload_of_stored {b : PinBoard} (h : b.InOrder) (hstored : b.storage.pins = b.pins)
    {r : Event} (hr : r.action = .reload) (hok : r.loadFailure = none) :
    (b.step r).pins = b.pins ∧ (b.step r).loaded = true := by
  have hfill := fill_of_ok (b := b.facing r) hok
  rw [step, hr]
  show (b.facing r).fill.1.pins = b.pins ∧ (b.facing r).fill.1.loaded = true
  rw [hfill]
  refine ⟨?_, rfl⟩
  show Pin.sort (b.storage.pins.map Pin.normalized) = b.pins
  rw [hstored, h.sort_normalized_pins]

/-- **Boards and storages never part.**  In every run of a board over a storage that nobody else
writes:

* the board counts as loaded exactly when its storage was read and no later reload failed;
* while it counts as loaded, it answers with its pins; they stand in the natural order of their
  names, their paths are in normal form, and apart from what was last known of them they are the
  pins of the storage, with their paths in normal form and sorted, where those of one name keep the
  order in which they are stored;
* right after an action that wrote the storage, the storage holds exactly the pins that the board
  shows, and reading it again leaves the answer of the board as it is. -/
theorem loaded_run_inOrder (s : PinStorage) (es : List Event) :
    (((ofStorage s).run es).loaded = true ↔ (ofStorage s).WasRead es) ∧
      (((ofStorage s).run es).loaded = true →
        (∀ i, i.action = .items →
          ((ofStorage s).run es).reply i = .pins ((ofStorage s).run es).pins) ∧
        ((ofStorage s).run es).InOrder ∧
        ∀ name, (((ofStorage s).run es).pins.filter (·.name = name)).map Pin.bare =
          ((((ofStorage s).run es).storage.pins.map Pin.normalized).filter (·.name = name)).map
            Pin.bare) ∧
      ∀ e, ((ofStorage s).run es).Saves e →
        (((ofStorage s).run es).step e).storage.pins = (((ofStorage s).run es).step e).pins ∧
          ∀ r i, r.action = .reload → r.loadFailure = none → i.action = .items →
            ((((ofStorage s).run es).step e).step r).reply i =
              (((ofStorage s).run es).step e).reply i := by
  have hnew : (ofStorage s).loaded = true → (ofStorage s).InOrder := by
    intro h
    cases h
  refine ⟨loaded_run_iff s es, ?_, ?_⟩
  · intro hl
    have horder := inOrder_run hnew es hl
    exact ⟨fun i hi => reply_items hl hi, horder, horder.stored_name⟩
  · intro e he
    obtain ⟨hstored, hl⟩ := he.pins_step
    refine ⟨hstored, ?_⟩
    intro r i hr hok hi
    have horder := inOrder_step (inOrder_run hnew es) e hl
    obtain ⟨hpins, hl'⟩ := reload_of_stored horder hstored hr hok
    rw [reply_items hl' hi, reply_items hl hi, hpins]

/-- A storage with two pins of one name, which are not in order and whose paths are not in normal
form. -/
def untidy : PinStorage :=
  { pins := [{ path := "srv/", name := "v10" }, { id := some 3, path := "/a//", name := "v9" },
      { id := some 5, path := "b", name := "v10" }] }

/-- Reading fails once, and then it is noted that a path is gone. -/
def brokenRead : List Event :=
  [{ action := .items, loadFailure := some "offline" }, { action := .mark "/srv" false 7 }]

/-- What the board shows then. -/
def noted : PinBoard :=
  { storage := { untidy with loads := 2 }
    loaded := true
    pins := [{ id := some 3, path := "/a", name := "v9" },
      { path := "/srv", name := "v10", lastSeen := some 7, present := false },
      { id := some 5, path := "/b", name := "v10" }] }

/-- Three pins of which the first two have to change places. -/
theorem sort_swap {p q r : Pin} (hpq : p.le q = false) (hpr : p.le r = true)
    (hqr : q.le r = true) : Pin.sort [p, q, r] = [q, p, r] := by
  simp [Pin.sort, List.mergeSort, List.MergeSort.Internal.splitInTwo, hpq, hpr, hqr]

theorem run_brokenRead : (ofStorage untidy).run brokenRead = noted := by
  have hrun : (ofStorage untidy).run brokenRead =
      { noted with
        pins := markFirst "/srv" false 7 (Pin.sort (untidy.pins.map Pin.normalized)) } := rfl
  have hsort : Pin.sort (untidy.pins.map Pin.normalized) =
      [{ id := some 3, path := "/a", name := "v9" }, { path := "/srv", name := "v10" },
        { id := some 5, path := "/b", name := "v10" }] := by
    refine (sort_swap ?_ ?_ ?_).trans ?_
    · decide +kernel
    · decide +kernel
    · decide +kernel
    · decide +kernel
  rw [hrun, hsort]
  rfl

/-- The note is stored along with the pins that are left when a path is unpinned. -/
theorem loaded_run_inOrder_untidy :
    (ofStorage untidy).run brokenRead = noted ∧ (ofStorage untidy).WasRead brokenRead ∧
      noted.InOrder ∧ noted.Saves { action := .unpin "a" } ∧
      (noted.step { action := .unpin "a" }).storage.pins =
        [{ path := "/srv", name := "v10", lastSeen := some 7, present := false },
          { id := some 5, path := "/b", name := "v10" }] := by
  have hrun := run_brokenRead
  have hsaves : noted.Saves { action := .unpin "a" } := ⟨by decide +kernel, rfl⟩
  obtain ⟨hread, horder, hwritten⟩ := loaded_run_inOrder untidy brokenRead
  rw [hrun] at hread horder hwritten
  refine ⟨hrun, hread.1 rfl, (horder rfl).2.1, hsaves, ?_⟩
  rw [(hwritten _ hsaves).1]
  decide +kernel

end PinBoard

end RecordGrid
