/-
**No failure of the storage loses a pin.**

A board writes all of its pins at once, so a board that was not read, or not read again after a
failure, would wipe the storage with its next write.  This does not happen: whichever reads and
writes fail, what is stored afterwards is what was stored at first, with one entry for each path
that was pinned with success while it was not there, and without the entries of each path that was
unpinned with success.

What is stored is seen here as a multiset of entries, which forgets the order of the pins, when they
were last looked for, and the spelling of their paths.

Main definitions:

* `RecordGrid.PinEntry`, `RecordGrid.PinEntry.ofPins` — an entry, and those of some pins;
* `RecordGrid.PinEntry.record` — what an action does to the entries, going by its reply;
* `RecordGrid.PinBoard.Faithful` — **the invariant**: a loaded board shows the entries of its
  storage.

Main results:

* `RecordGrid.PinBoard.Faithful.step` — every event keeps the invariant, and does to the stored
  entries what its reply says;
* `RecordGrid.PinBoard.stored_entries_run` — **what is stored after any run**.
-/

import Mathlib.Data.Multiset.Filter
import RecordGrid.Proofs.Pins.Usage

set_option relaxedAutoImplicit false
set_option autoImplicit false

namespace RecordGrid

/-! ### Entries -/

/-- What matters of a stored pin. -/
structure PinEntry where
  /-- The number under which it is stored, if it has one. -/
  id : Option Count
  /-- The path in normal form. -/
  path : String
  /-- The name. -/
  name : String
deriving DecidableEq

namespace PinEntry

/-- The entry of a pin. -/
def ofPin (p : Pin) : PinEntry := { id := p.id, path := normalPath p.path, name := p.name }

/-- The entries of some pins. -/
def ofPins (ps : List Pin) : Multiset PinEntry := ↑(ps.map ofPin)

/-- The entry that pinning a path adds: without a name it is named after the path. -/
def ofPath (path : String) (name : Option String) : PinEntry :=
  { id := none
    path := normalPath path
    name := (name.filter (!·.isEmpty)).getD (pathName (normalPath path)) }

/-- The entries after a path was pinned: one more, unless there was one with the path. -/
def pinned (path : String) (name : Option String) (m : Multiset PinEntry) : Multiset PinEntry :=
  if normalPath path ∈ m.map PinEntry.path then m else ofPath path name ::ₘ m

/-- The entries after a path was unpinned: those with other paths. -/
def unpinned (path : String) (m : Multiset PinEntry) : Multiset PinEntry :=
  m.filter (·.path ≠ normalPath path)

/-- What a change does to the entries when it ends in a result: a failure does nothing. -/
def onSuccess (r : Except StorageError Unit) (f : Multiset PinEntry → Multiset PinEntry)
    (m : Multiset PinEntry) : Multiset PinEntry :=
  match r with
  | .ok _ => f m
  | .error _ => m

/-- What an action does to the stored entries, going by its reply: nothing, unless the reply is that
a path was pinned or unpinned with success. -/
def record (m : Multiset PinEntry) : PinBoard.Action × PinBoard.Reply → Multiset PinEntry
  | (.pin path name _, .result r) => onSuccess r (pinned path name) m
  | (.unpin path, .result r) => onSuccess r (unpinned path) m
  | _ => m

@[simp] theorem ofPin_ofPath (path : String) (name : Option String) (now : Count) :
    ofPin (Pin.ofPath path name now) = ofPath path name := by
  simp [ofPin, Pin.ofPath, ofPath]

@[simp] theorem ofPin_normalized (p : Pin) : ofPin p.normalized = ofPin p := by
  simp [ofPin, Pin.normalized]

theorem mem_map_path_ofPins {ps : List Pin} {path : String} :
    path ∈ (ofPins ps).map PinEntry.path ↔ ∃ p ∈ ps, normalPath p.path = path := by
  simp [ofPins, ofPin]

theorem ofPins_perm {ps qs : List Pin} (h : ps.Perm qs) : ofPins ps = ofPins qs :=
  Multiset.coe_eq_coe.2 (h.map ofPin)

@[simp] theorem ofPins_sort (ps : List Pin) : ofPins (Pin.sort ps) = ofPins ps :=
  ofPins_perm (List.mergeSort_perm ps Pin.le)

@[simp] theorem ofPins_map_normalized (ps : List Pin) :
    ofPins (ps.map Pin.normalized) = ofPins ps := by
  simp [ofPins, Function.comp_def]

theorem ofPins_concat (ps : List Pin) (p : Pin) : ofPins (ps ++ [p]) = ofPin p ::ₘ ofPins ps := by
  rw [ofPins_perm (List.perm_append_singleton p ps)]
  rfl

/-- Taking out the pins with a path takes out the entries with that path. -/
theorem ofPins_filter {ps : List Pin} (h : ∀ p ∈ ps, normalPath p.path = p.path) (path : String) :
    ofPins (ps.filter (·.path ≠ path)) = (ofPins ps).filter (·.path ≠ path) := by
  rw [ofPins, ofPins, Multiset.filter_coe, List.filter_map]
  refine congrArg (fun qs : List Pin => ((qs.map ofPin : List PinEntry) : Multiset PinEntry)) ?_
  refine List.filter_congr fun p hp => ?_
  simp [ofPin, h p hp]

end PinEntry

namespace PinBoard

open PinEntry

/-! ### The invariant -/

/-- **The invariant**: a loaded board shows the entries of its storage, under paths in normal
form. -/
structure Faithful (b : PinBoard) : Prop where
  /-- The entries are those that are stored. -/
  entries : b.loaded = true → ofPins b.pins = ofPins b.storage.pins
  /-- The paths are in normal form. -/
  normal : b.loaded = true → ∀ p ∈ b.pins, normalPath p.path = p.path

namespace Faithful

theorem ofStorage (s : PinStorage) : (PinBoard.ofStorage s).Faithful where
  entries h := absurd h Bool.false_ne_true
  normal h := absurd h Bool.false_ne_true

theorem facing {b : PinBoard} (h : b.Faithful) (e : Event) : (b.facing e).Faithful :=
  ⟨h.entries, h.normal⟩

theorem fill (b : PinBoard) : b.fill.1.Faithful := by
  cases h : b.storage.loadFailure with
  | none =>
      rw [fill_of_ok h]
      refine ⟨fun _ => ?_, fun _ p hp => ?_⟩
      · simp
      · obtain ⟨q, -, rfl⟩ := List.mem_map.1 ((List.mergeSort_perm _ _).mem_iff.1 hp)
        exact normalPath_normalPath q.path
  | some m =>
      rw [fill_of_failure h]
      exact ⟨fun h => absurd h Bool.false_ne_true, fun h => absurd h Bool.false_ne_true⟩

theorem ensure {b : PinBoard} (h : b.Faithful) : b.ensure.1.Faithful := by
  cases hl : b.loaded with
  | true => rwa [ensure_of_loaded hl]
  | false =>
      rw [ensure_of_not_loaded hl]
      exact fill b

/-- Whether a path is pinned is answered from the pins shown as from those stored. -/
theorem hasPath_iff {b : PinBoard} (h : b.Faithful) (hl : b.loaded = true) (path : String) :
    b.hasPath path = true ↔ path ∈ (ofPins b.storage.pins).map PinEntry.path := by
  rw [← h.entries hl, mem_map_path_ofPins, hasPath, List.any_eq_true]
  refine exists_congr fun p => and_congr_right fun hp => ?_
  rw [decide_eq_true_iff, h.normal hl p hp]

/-- Writing pins under paths in normal form keeps the invariant, whether it succeeds or fails. -/
theorem commit {b : PinBoard} (h : b.Faithful) {ps : List Pin}
    (hps : ∀ p ∈ ps, normalPath p.path = p.path) : (b.commit ps).1.Faithful := by
  cases hs : b.storage.saveFailure with
  | none =>
      rw [commit_of_ok hs]
      exact ⟨fun _ => rfl, fun _ => hps⟩
  | some m =>
      rw [commit_of_failure hs]
      exact ⟨h.entries, h.normal⟩

end Faithful

/-! ### Events -/

/-- **A change keeps the invariant**, and does to the stored entries what it is meant to do if it
succeeds, and nothing if it fails. -/
theorem Faithful.update {b : PinBoard} (h : b.Faithful) {change : PinBoard → Option (List Pin)}
    {f : Multiset PinEntry → Multiset PinEntry}
    (hnone : ∀ c, c.Faithful → c.loaded = true → change c = none →
      f (ofPins c.storage.pins) = ofPins c.storage.pins)
    (hsome : ∀ c ps, c.Faithful → c.loaded = true → change c = some ps →
      (∀ p ∈ ps, normalPath p.path = p.path) ∧ ofPins ps = f (ofPins c.storage.pins)) :
    (b.update change).1.Faithful ∧
      ofPins (b.update change).1.storage.pins =
        onSuccess (b.update change).2 f (ofPins b.storage.pins) := by
  have hread : b.ensure.1.storage.pins = b.storage.pins := by rw [storage_ensure]
  rcases b.update_cases change with ⟨e, hu⟩ | ⟨hl, hc, hu⟩ | ⟨ps, hl, hc, hu⟩
  · rw [hu]
    exact ⟨h.ensure, congrArg ofPins hread⟩
  · rw [hu, ← hread]
    exact ⟨h.ensure, (hnone _ h.ensure hl hc).symm⟩
  · obtain ⟨hps, hf⟩ := hsome _ ps h.ensure hl hc
    refine ⟨hu ▸ h.ensure.commit hps, ?_⟩
    rw [hu, ← hread]
    cases hs : b.ensure.1.storage.saveFailure with
    | none =>
        rw [commit_of_ok hs]
        exact hf
    | some m =>
        rw [commit_of_failure hs]
        rfl

theorem Faithful.pin {b : PinBoard} (h : b.Faithful) (path : String) (name : Option String)
    (now : Count) :
    (b.pin path name now).1.Faithful ∧
      ofPins (b.pin path name now).1.storage.pins =
        onSuccess (b.pin path name now).2 (pinned path name) (ofPins b.storage.pins) := by
  refine h.update ?_ ?_
  · intro c hc hl hchange
    have hpath : c.hasPath (normalPath path) = true := by
      by_contra hno
      exact absurd hchange (by simp [Pin.ofPath, hno])
    rw [pinned, if_pos ((hc.hasPath_iff hl _).1 hpath)]
  · intro c ps hc hl hchange
    have hpath : c.hasPath (normalPath path) ≠ true := by
      intro hyes
      exact absurd hchange (by simp [Pin.ofPath, hyes])
    obtain rfl : Pin.sort (c.pins ++ [Pin.ofPath path name now]) = ps := by
      simpa [Pin.ofPath, hpath] using hchange
    constructor
    · intro p hp
      rcases List.mem_append.1 ((List.mergeSort_perm _ _).mem_iff.1 hp) with hp | hp
      · exact hc.normal hl p hp
      · rw [List.mem_singleton.1 hp]
        exact normalPath_normalPath path
    · rw [pinned, if_neg (fun hm => hpath ((hc.hasPath_iff hl _).2 hm)), ofPins_sort, ofPins_concat,
        ofPin_ofPath, hc.entries hl]

theorem Faithful.unpin {b : PinBoard} (h : b.Faithful) (path : String) :
    (b.unpin path).1.Faithful ∧
      ofPins (b.unpin path).1.storage.pins =
        onSuccess (b.unpin path).2 (unpinned path) (ofPins b.storage.pins) := by
  refine h.update ?_ ?_
  · intro c hc hl hchange
    have hpath : c.hasPath (normalPath path) ≠ true := by
      intro hyes
      exact absurd hchange (by simp [hyes])
    -- nothing has the path, so that nothing is taken out
    refine Multiset.filter_eq_self.2 fun e he heq => hpath ((hc.hasPath_iff hl _).2 ?_)
    exact Multiset.mem_map.2 ⟨e, he, heq⟩
  · intro c ps hc hl hchange
    have hpath : c.hasPath (normalPath path) = true := by
      by_contra hno
      exact absurd hchange (by simp [hno])
    obtain rfl : c.pins.filter (·.path ≠ normalPath path) = ps := by
      simpa [hpath] using hchange
    refine ⟨fun p hp => hc.normal hl p (List.mem_of_mem_filter hp), ?_⟩
    rw [ofPins_filter (hc.normal hl), hc.entries hl]
    rfl

/-- Noting whether a path is there changes neither number, path nor name of a pin. -/
theorem map_markFirst {α : Type} {f : Pin → α} (path : String) (present : Bool) (now : Count)
    (hf : ∀ p : Pin, f { p with present, lastSeen := some now } = f p) (ps : List Pin) :
    (markFirst path present now ps).map f = ps.map f := by
  induction ps with
  | nil => rfl
  | cons p ps ih =>
      unfold markFirst
      split
      · rw [List.map_cons, List.map_cons, hf]
      · rw [List.map_cons, List.map_cons, ih]

theorem Faithful.mark {b : PinBoard} (h : b.Faithful) (path : String) (present : Bool)
    (now : Count) : (b.mark path present now).Faithful := by
  constructor
  · intro hl
    have hmap := map_markFirst (f := ofPin) (normalPath path) present now (fun _ => rfl)
      b.ensure.1.pins
    exact (congrArg (fun es : List PinEntry => (es : Multiset PinEntry)) hmap).trans
      (h.ensure.entries hl)
  · intro hl p hp
    have hmap := map_markFirst (f := Pin.path) (normalPath path) present now (fun _ => rfl)
      b.ensure.1.pins
    obtain ⟨q, hq, hpath⟩ := List.mem_map.1 (hmap ▸ List.mem_map_of_mem hp)
    rw [← hpath]
    exact h.ensure.normal hl q hq

/-- **Every event keeps the invariant, and does to the stored entries what its reply says.** -/
theorem Faithful.step {b : PinBoard} (h : b.Faithful) (e : Event) :
    (b.step e).Faithful ∧
      ofPins (b.step e).storage.pins = record (ofPins b.storage.pins) (e.action, b.reply e) := by
  have hface := h.facing e
  have hread : (b.facing e).ensure.1.storage.pins = b.storage.pins := by
    rw [storage_ensure]
    rfl
  rw [PinBoard.step, reply]
  cases e.action with
  | pin path name now => exact hface.pin path name now
  | unpin path => exact hface.unpin path
  | isPinned path => exact ⟨hface.ensure, congrArg ofPins hread⟩
  | items => exact ⟨hface.ensure, congrArg ofPins hread⟩
  | mark path present now => exact ⟨hface.mark path present now, congrArg ofPins hread⟩
  | reload =>
      refine ⟨Faithful.fill _, congrArg ofPins ?_⟩
      show (b.facing e).fill.1.storage.pins = b.storage.pins
      rw [storage_fill]
      rfl

/-- **What is stored follows the replies**, in every run. -/
theorem Faithful.run {b : PinBoard} (h : b.Faithful) (es : List Event) :
    (b.run es).Faithful ∧
      ofPins (b.run es).storage.pins = (b.trace es).foldl record (ofPins b.storage.pins) := by
  -- the entries change with every event, so the induction is for all faithful boards
  induction es generalizing b with
  | nil => exact ⟨h, rfl⟩
  | cons e es ih =>
      obtain ⟨hfaithful, hstored⟩ := h.step e
      obtain ⟨hrun, htrace⟩ := ih hfaithful
      rw [hstored] at htrace
      exact ⟨hrun, htrace⟩

/-! ### What is stored -/

/-- An event that is answered with an error changes nothing in the storage. -/
theorem storage_step_of_error {b : PinBoard} {e : Event} {err : StorageError}
    (h : b.reply e = .result (.error err)) : (b.step e).storage.pins = b.storage.pins := by
  rw [reply] at h
  rw [step]
  cases ha : e.action with
  | pin path name now =>
      rw [ha] at h
      exact storage_update_of_error (b := b.facing e) (Reply.result.inj h)
  | unpin path =>
      rw [ha] at h
      exact storage_update_of_error (b := b.facing e) (Reply.result.inj h)
  | isPinned path => rw [ha] at h; cases h
  | items => rw [ha] at h; cases h
  | mark path present now => rw [ha] at h; cases h
  | reload => rw [ha] at h; cases h

/-- A loaded board says of a path that it is pinned exactly when a pin with the path is stored. -/
theorem Faithful.reply_isPinned {b : PinBoard} (h : b.Faithful) (hl : b.loaded = true)
    {e : Event} {path : String} (he : e.action = .isPinned path) :
    ∃ v, b.reply e = .truth v ∧
      (v = true ↔ ∃ p ∈ b.storage.pins, normalPath p.path = normalPath path) := by
  have hensure : (b.facing e).ensure.1 = b.facing e := by
    rw [ensure_of_loaded (b := b.facing e) hl]
  refine ⟨b.hasPath (normalPath path), ?_, ?_⟩
  · rw [reply, he]
    show Reply.truth ((b.facing e).ensure.1.hasPath (normalPath path)) = _
    rw [hensure]
    rfl
  · rw [h.hasPath_iff hl, mem_map_path_ofPins]

/-- **No failure of the storage loses a pin.**  In every run of a board over a storage that nobody
else writes:

* the stored entries are those that were stored at first, with one entry more for each path that was
  pinned with success while no entry had it, and without the entries of each path that was unpinned
  with success, in the order of the run;
* pinning or unpinning that ends in an error changes nothing in the storage;
* the board counts as loaded exactly when the storage was read and no later reload failed, and then
  a path is pinned exactly when some stored pin has the same path in normal form. -/
theorem stored_entries_run (s : PinStorage) (es : List Event) :
    ofPins ((ofStorage s).run es).storage.pins =
        ((ofStorage s).trace es).foldl record (ofPins s.pins) ∧
      (∀ e err, ((ofStorage s).run es).reply e = .result (.error err) →
        (((ofStorage s).run es).step e).storage.pins = ((ofStorage s).run es).storage.pins) ∧
      (((ofStorage s).run es).loaded = true ↔ (ofStorage s).WasRead es) ∧
      ((ofStorage s).WasRead es → ∀ e path, e.action = .isPinned path →
        ∃ v, ((ofStorage s).run es).reply e = .truth v ∧
          (v = true ↔
            ∃ p ∈ ((ofStorage s).run es).storage.pins, normalPath p.path = normalPath path)) := by
  obtain ⟨hfaithful, hstored⟩ := (Faithful.ofStorage s).run es
  refine ⟨hstored, fun e err h => storage_step_of_error h, loaded_run_iff s es,
    fun hread e path he => ?_⟩
  exact hfaithful.reply_isPinned ((loaded_run_iff s es).2 hread) he

/-- A storage with one pin, whose path ends in a slash. -/
def oneFolder : PinStorage := { pins := [{ id := some 7, path := "/srv/", name := "srv" }] }

/-- The path is unpinned, which fails twice, for want of reading and of writing, before it succeeds;
another one is pinned twice, and a reload fails before the pins are read again. -/
def badDay : List Event :=
  [{ action := .unpin "srv//", loadFailure := some "offline" },
    { action := .unpin "srv//", saveFailure := some "offline" }, { action := .unpin "srv//" },
    { action := .pin "/var/log/" none 3 }, { action := .pin "var/log" (some "logs") 4 },
    { action := .reload, loadFailure := some "offline" }, { action := .items }]

theorem stored_entries_run_badDay :
    ofPins ((ofStorage oneFolder).run badDay).storage.pins =
        {{ id := none, path := "/var/log", name := "log" }} ∧
      (ofStorage oneFolder).WasRead badDay ∧
      ((ofStorage oneFolder).run badDay).reply { action := .isPinned "var/log//" } =
        .truth true := by
  obtain ⟨hstored, -, hloaded, hpinned⟩ := stored_entries_run oneFolder badDay
  have hread : (ofStorage oneFolder).WasRead badDay := hloaded.1 (by decide +kernel)
  obtain ⟨v, hv, hiff⟩ := hpinned hread { action := .isPinned "var/log//" } "var/log//" rfl
  have hyes : v = true := hiff.2 (by decide +kernel)
  exact ⟨hstored.trans (by decide +kernel), hread, hyes ▸ hv⟩

end PinBoard

end RecordGrid
