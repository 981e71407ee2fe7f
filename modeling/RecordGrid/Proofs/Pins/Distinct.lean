/-
**Whether a board shows a path twice.**

Pinning never adds a path that is shown already, so whatever a board does by itself, it shows each
path once.  It does not choose what it reads, though: the storage may hold a path in several
spellings, left there before the first use or written by somebody else, and reading brings them all
to one normal form without taking any out.  So the paths shown are distinct exactly as long as those
that are read are distinct in their normal form.

Seen through its paths an event does little: it adds the path that it pins, takes out the one that
it unpins, and leaves the others as they are.  All that is said here follows from that.

Main definitions:

* `RecordGrid.PinBoard.paths`, `RecordGrid.PinBoard.storedPaths` — the paths shown, and the normal
  forms of those stored;
* `RecordGrid.PinBoard.Event.onPaths` — what an event does to the paths;
* `RecordGrid.PinBoard.Use`, `RecordGrid.PinBoard.uses` — the events of a board between which others
  write its storage;
* `RecordGrid.PinBoard.Tidy` — **the invariant** of boards whose storage holds no path twice.

Main results:

* `RecordGrid.PinBoard.paths_step_perm` — **an event, seen through the paths**;
* `RecordGrid.PinBoard.Tidy.uses` — a path that nobody stores twice is never shown twice;
* `RecordGrid.PinBoard.distinct_uses_iff` — **when no path is shown twice**;
* `RecordGrid.PinBoard.spellings_shown_twice` — two spellings of one path are shown as two pins.
-/

import RecordGrid.Proofs.Pins.Entries

set_option relaxedAutoImplicit false
set_option autoImplicit false

namespace RecordGrid

/-- The normal forms of the paths of some pins. -/
def Pin.normalPaths (ps : List Pin) : List String := ps.map fun p => normalPath p.path

namespace PinBoard

/-! ### Paths -/

/-- The paths shown. -/
def paths (b : PinBoard) : List String := b.pins.map Pin.path

/-- The normal forms of the paths stored. -/
def storedPaths (b : PinBoard) : List String := Pin.normalPaths b.storage.pins

/-- No path is shown twice. -/
def Distinct (b : PinBoard) : Prop := b.paths.Nodup

instance (b : PinBoard) : Decidable b.Distinct := inferInstanceAs (Decidable (List.Nodup _))

theorem hasPath_iff_mem_paths (b : PinBoard) (path : String) :
    b.hasPath path = true ↔ path ∈ b.paths := by
  simp [hasPath, paths]

theorem paths_sort_perm (ps : List Pin) : ((Pin.sort ps).map Pin.path).Perm (ps.map Pin.path) :=
  (List.mergeSort_perm ps Pin.le).map Pin.path

/-- Reading shows the stored paths in normal form. -/
theorem paths_fill_perm {b : PinBoard} (h : b.storage.loadFailure = none) :
    b.fill.1.paths.Perm b.storedPaths := by
  rw [fill_of_ok h]
  refine (paths_sort_perm _).trans (List.Perm.of_eq ?_)
  rw [List.map_map]
  rfl

theorem paths_fill_of_failure {b : PinBoard} (h : b.storage.loadFailure ≠ none) :
    b.fill.1.paths = [] := by
  obtain ⟨m, hm⟩ := Option.ne_none_iff_exists'.1 h
  rw [fill_of_failure hm]
  rfl

/-! ### Changes -/

/-- **The pins shown after a change**, in one equation: those that were to be written, if the
storage could be read and written, and otherwise those that were there. -/
theorem pins_update (b : PinBoard) (change : PinBoard → Option (List Pin)) :
    (b.update change).1.pins =
      if b.ensure.1.loaded = true ∧ b.storage.saveFailure = none then
        (change b.ensure.1).getD b.ensure.1.pins
      else b.ensure.1.pins := by
  have hsave : b.ensure.1.storage.saveFailure = b.storage.saveFailure := by rw [storage_ensure]
  have hsplit : b.ensure = (b.ensure.1, b.ensure.2) := rfl
  rcases b.ensure_cases with ⟨hl, h⟩ | ⟨hl, e, h⟩
  · rw [h] at hsplit
    rw [update, hsplit, ← hsave]
    cases hc : change b.ensure.1 with
    | none => simp [hc]
    | some ps =>
        cases hs : b.ensure.1.storage.saveFailure with
        | none => simp [hc, hl, commit_of_ok hs, -loaded_ensure]
        | some m => simp [hc, commit_of_failure hs]
  · rw [h] at hsplit
    rw [update, hsplit, if_neg fun hand => Bool.false_ne_true (hl.symm.trans hand.1)]

/-- A change leaves the storage alone, or writes the pins that are shown then. -/
theorem stored_update (b : PinBoard) (change : PinBoard → Option (List Pin)) :
    (b.update change).1.storage.pins = b.storage.pins ∨
      (b.update change).1.storage.pins = (b.update change).1.pins := by
  have hread : b.ensure.1.storage.pins = b.storage.pins := by rw [storage_ensure]
  rcases b.update_cases change with ⟨e, hu⟩ | ⟨-, -, hu⟩ | ⟨ps, -, -, hu⟩
  · left
    rw [hu, hread]
  · left
    rw [hu, hread]
  · rw [hu]
    cases h : b.ensure.1.storage.saveFailure with
    | none =>
        right
        rw [commit_of_ok h]
    | some m =>
        left
        rw [commit_of_failure h, hread]

/-- An event leaves the storage alone, or writes the pins that are shown then. -/
theorem stored_step (b : PinBoard) (e : Event) :
    (b.step e).storage.pins = b.storage.pins ∨
      (b.step e).storage.pins = (b.step e).pins := by
  have hread : (b.facing e).ensure.1.storage.pins = b.storage.pins := by
    rw [storage_ensure]
    rfl
  rw [step]
  cases e.action with
  | pin path name now => exact stored_update (b.facing e) _
  | unpin path => exact stored_update (b.facing e) _
  | isPinned path => exact Or.inl hread
  | items => exact Or.inl hread
  | mark path present now => exact Or.inl hread
  | reload =>
      left
      show (b.facing e).fill.1.storage.pins = _
      rw [storage_fill]
      rfl

theorem paths_pin_perm (b : PinBoard) (path : String) (name : Option String) (now : Count) :
    (b.pin path name now).1.paths.Perm
      (if b.ensure.1.loaded = true ∧ b.storage.saveFailure = none then
        b.ensure.1.paths.insert (normalPath path)
      else b.ensure.1.paths) := by
  rw [paths, pin, pins_update]
  split
  · by_cases hm : normalPath path ∈ b.ensure.1.paths
    · have hhas := (b.ensure.1.hasPath_iff_mem_paths _).2 hm
      rw [List.insert_of_mem hm]
      simp [Pin.ofPath, hhas, paths]
    · have hhas : ¬ b.ensure.1.hasPath (normalPath path) = true := fun h =>
        hm ((b.ensure.1.hasPath_iff_mem_paths _).1 h)
      rw [List.insert_of_not_mem hm]
      simp only [Pin.ofPath, hhas]
      refine (paths_sort_perm _).trans ?_
      rw [List.map_append]
      exact List.perm_append_singleton _ _
  · exact List.Perm.refl _

theorem paths_unpin (b : PinBoard) (path : String) :
    (b.unpin path).1.paths =
      if b.ensure.1.loaded = true ∧ b.storage.saveFailure = none then
        b.ensure.1.paths.filter (· ≠ normalPath path)
      else b.ensure.1.paths := by
  rw [paths, unpin, pins_update]
  split
  · by_cases hm : normalPath path ∈ b.ensure.1.paths
    · have hhas := (b.ensure.1.hasPath_iff_mem_paths _).2 hm
      rw [paths, List.filter_map]
      simp [hhas, Function.comp_def]
    · -- nothing is written, and there is nothing to take out
      have hhas : ¬ b.ensure.1.hasPath (normalPath path) = true := fun h =>
        hm ((b.ensure.1.hasPath_iff_mem_paths _).1 h)
      have hall : b.ensure.1.paths.filter (· ≠ normalPath path) = b.ensure.1.paths :=
        List.filter_eq_self.2 fun p hp => decide_eq_true fun heq => hm (heq ▸ hp)
      rw [hall]
      simp [hhas, paths]
  · rfl

theorem paths_mark (b : PinBoard) (path : String) (present : Bool) (now : Count) :
    (b.mark path present now).paths = b.ensure.1.paths :=
  map_markFirst (normalPath path) present now (fun _ => rfl) b.ensure.1.pins

/-! ### Events -/

/-- What an action does to the paths of a board whose storage can be read and written: it adds the
one that it pins, unless it is there, and takes out the one that it unpins. -/
def Action.onPaths (paths : List String) : Action → List String
  | .pin path _ _ => paths.insert (normalPath path)
  | .unpin path => paths.filter (· ≠ normalPath path)
  | _ => paths

/-- What an event does to the paths of a loaded board: nothing, if the storage cannot be written. -/
def Event.onPaths (e : Event) (paths : List String) : List String :=
  if e.saveFailure = none then e.action.onPaths paths else paths

theorem Event.onPaths_perm (e : Event) {ps qs : List String} (h : ps.Perm qs) :
    (e.onPaths ps).Perm (e.onPaths qs) := by
  unfold Event.onPaths
  split
  · cases e.action with
    | pin path name now => exact h.insert _
    | unpin path => exact h.filter _
    | _ => exact h
  · exact h

theorem Event.nodup_onPaths (e : Event) {ps : List String} (h : ps.Nodup) :
    (e.onPaths ps).Nodup := by
  unfold Event.onPaths
  split
  · cases e.action with
    | pin path name now => exact h.insert
    | unpin path => exact h.filter _
    | _ => exact h
  · exact h

/-- An event adds no path but the normal form of one. -/
theorem Event.mem_onPaths {e : Event} {ps : List String} {path : String}
    (h : path ∈ e.onPaths ps) : path ∈ ps ∨ ∃ p, path = normalPath p := by
  unfold Event.onPaths at h
  split at h
  · cases ha : e.action with
    | pin p name now =>
        rw [ha] at h
        rcases List.mem_insert_iff.1 h with heq | hm
        · exact Or.inr ⟨p, heq⟩
        · exact Or.inl hm
    | unpin p =>
        rw [ha] at h
        exact Or.inl (List.mem_of_mem_filter h)
    | _ =>
        rw [ha] at h
        exact Or.inl h
  · exact Or.inl h

/-- The board that an event acts on: it is read if that is needed. -/
def readied (b : PinBoard) (e : Event) : PinBoard :=
  if e.action = .reload then (b.facing e).fill.1 else (b.facing e).ensure.1

/-- **An event, seen through the paths**: it acts on those that are shown, or on those that are read
if that is needed. -/
theorem paths_step_perm (b : PinBoard) (e : Event) :
    (b.step e).paths.Perm
      (if (b.readied e).loaded = true then e.onPaths (b.readied e).paths
        else (b.readied e).paths) := by
  rw [step, readied, Event.onPaths]
  cases ha : e.action with
  | pin path name now =>
      refine (paths_pin_perm (b.facing e) path name now).trans (List.Perm.of_eq ?_)
      exact ite_and ..
  | unpin path => exact List.Perm.of_eq ((paths_unpin (b.facing e) path).trans (ite_and ..))
  | isPinned path => simp [act, isPinned, Action.onPaths]
  | items => simp [act, items, Action.onPaths]
  | mark path present now => simp [act, paths_mark, Action.onPaths]
  | reload => simp [act, reload, Action.onPaths]

theorem reads_iff {b : PinBoard} {e : Event} :
    b.Reads e ↔ (e.action = .reload ∨ b.loaded = false) ∧ e.loadFailure = none := by
  rw [Reads, loads_step]
  by_cases h : e.action = .reload ∨ b.loaded = false <;> simp [h]

/-- An event that reads acts on what is stored. -/
theorem readied_of_reads {b : PinBoard} {e : Event} (h : b.Reads e) :
    (b.readied e).loaded = true ∧ (b.readied e).paths.Perm b.storedPaths := by
  obtain ⟨hwhen, hok⟩ := reads_iff.1 h
  have hfill : b.readied e = (b.facing e).fill.1 := by
    rw [readied]
    split
    · rfl
    · next hreload => rw [ensure_of_not_loaded (b := b.facing e) (hwhen.resolve_left hreload)]
  rw [hfill]
  constructor
  · rw [loaded_fill]
    exact Option.isNone_iff_eq_none.2 hok
  · exact paths_fill_perm (b := b.facing e) hok

/-- Any other event acts on what is shown, or on nothing at all. -/
theorem paths_readied_of_not_reads {b : PinBoard} {e : Event} (h : ¬ b.Reads e) :
    (b.readied e).paths = b.paths ∨ (b.readied e).paths = [] := by
  rw [reads_iff] at h
  rw [readied]
  split
  · next hreload =>
      right
      exact paths_fill_of_failure (b := b.facing e) fun hok => h ⟨Or.inl hreload, hok⟩
  · cases hl : b.loaded with
    | true =>
        left
        rw [ensure_of_loaded (b := b.facing e) hl]
        rfl
    | false =>
        right
        rw [ensure_of_not_loaded (b := b.facing e) hl]
        exact paths_fill_of_failure (b := b.facing e) fun hok => h ⟨Or.inr hl, hok⟩

/-- After reading, the paths shown are distinct exactly if those that were read are, without the one
that the same event took out. -/
theorem distinct_step_iff {b : PinBoard} {e : Event} (h : b.Reads e) :
    (b.step e).Distinct ↔ (e.onPaths b.storedPaths).Nodup := by
  obtain ⟨hl, hperm⟩ := readied_of_reads h
  rw [Distinct, (paths_step_perm b e).nodup_iff, if_pos hl]
  exact (e.onPaths_perm hperm).nodup_iff

/-- Without reading, no path gets shown twice. -/
theorem Distinct.step {b : PinBoard} {e : Event} (hb : b.Distinct) (h : ¬ b.Reads e) :
    (b.step e).Distinct := by
  have hready : (b.readied e).paths.Nodup := by
    rcases paths_readied_of_not_reads h with heq | heq <;> rw [heq]
    · exact hb
    · exact List.nodup_nil
  rw [Distinct, (paths_step_perm b e).nodup_iff]
  split
  · exact e.nodup_onPaths hready
  · exact hready

/-! ### A storage that others write as well -/

/-- What can happen to a board and to its storage. -/
inductive Use where
  /-- The board is used. -/
  | own (e : Event)
  /-- Somebody else writes the storage. -/
  | store (ps : List Pin)

/-- The board after a use. -/
def use (b : PinBoard) : Use → PinBoard
  | .own e => b.step e
  | .store ps => { b with storage := { b.storage with pins := ps } }

/-- The board after a list of uses. -/
def uses (b : PinBoard) (us : List Use) : PinBoard := us.foldl use b

@[simp] theorem uses_nil (b : PinBoard) : b.uses [] = b := rfl

@[simp] theorem uses_cons (b : PinBoard) (u : Use) (us : List Use) :
    b.uses (u :: us) = (b.use u).uses us := rfl

@[simp] theorem uses_append (b : PinBoard) (us vs : List Use) :
    b.uses (us ++ vs) = (b.uses us).uses vs := List.foldl_append

/-- No path is shown twice, and nobody has stored one twice. -/
structure Tidy (b : PinBoard) : Prop where
  /-- No path is shown twice. -/
  shown : b.Distinct
  /-- The paths shown are in normal form. -/
  normal : ∀ path ∈ b.paths, normalPath path = path
  /-- No path is stored twice, in whatever spelling. -/
  stored : b.storedPaths.Nodup

namespace Tidy

theorem ofStorage {s : PinStorage} (h : (Pin.normalPaths s.pins).Nodup) :
    (PinBoard.ofStorage s).Tidy where
  shown := List.nodup_nil
  normal _ hp := by cases hp
  stored := h

theorem normal_step {b : PinBoard} (h : b.Tidy) (e : Event) :
    ∀ path ∈ (b.step e).paths, normalPath path = path := by
  have hready : ∀ path ∈ (b.readied e).paths, normalPath path = path := by
    by_cases hr : b.Reads e
    · intro path hp
      obtain ⟨q, -, rfl⟩ := List.mem_map.1 ((readied_of_reads hr).2.mem_iff.1 hp)
      exact normalPath_normalPath q.path
    · rcases paths_readied_of_not_reads hr with heq | heq <;> rw [heq]
      · exact h.normal
      · intro path hp
        cases hp
  intro path hp
  have hmem := (paths_step_perm b e).mem_iff.1 hp
  split at hmem
  · rcases Event.mem_onPaths hmem with hold | ⟨p, rfl⟩
    · exact hready path hold
    · exact normalPath_normalPath p
  · exact hready path hmem

/-- Paths that are shown in normal form are those that are stored, once they are written. -/
theorem storedPaths_eq {b : PinBoard} (hnormal : ∀ path ∈ b.paths, normalPath path = path)
    (h : b.storage.pins = b.pins) : b.storedPaths = b.paths := by
  rw [storedPaths, Pin.normalPaths, h]
  refine List.map_congr_left ?_
  intro p hp
  exact hnormal p.path (List.mem_map_of_mem hp)

theorem step {b : PinBoard} (h : b.Tidy) (e : Event) : (b.step e).Tidy := by
  have hshown : (b.step e).Distinct := by
    by_cases hr : b.Reads e
    · exact (distinct_step_iff hr).2 (e.nodup_onPaths h.stored)
    · exact h.shown.step hr
  have hnormal := h.normal_step e
  refine ⟨hshown, hnormal, ?_⟩
  rcases b.stored_step e with hsame | hwritten
  · rw [storedPaths, hsame]
    exact h.stored
  · rw [storedPaths_eq hnormal hwritten]
    exact hshown

/-- **A path that nobody stores twice is never shown twice.** -/
theorem uses {b : PinBoard} (h : b.Tidy) {us : List Use}
    (hus : ∀ ps, .store ps ∈ us → (Pin.normalPaths ps).Nodup) : (b.uses us).Tidy := by
  induction us generalizing b with
  | nil => exact h
  | cons u us ih =>
      refine ih ?_ fun ps hps => hus ps (List.mem_cons_of_mem _ hps)
      cases u with
      | own e => exact h.step e
      | store ps => exact ⟨h.shown, h.normal, hus ps (List.mem_cons_self ..)⟩

end Tidy

/-- **When no path is shown twice.**  Let others write the storage of a board between its uses, and
let any reading and writing fail.

* At every point of the run no path is shown twice, exactly if whenever the board reads its storage,
  the normal forms of the paths stored are distinct, apart from one that the same event takes out.
* In particular no path is ever shown twice if the normal forms of the paths are distinct that were
  stored at first, and so are those that others store. -/
theorem distinct_uses_iff (s : PinStorage) (us : List Use) :
    ((∀ past, past <+: us → ((ofStorage s).uses past).Distinct) ↔
        ∀ past e, past ++ [.own e] <+: us → ((ofStorage s).uses past).Reads e →
          (e.onPaths ((ofStorage s).uses past).storedPaths).Nodup) ∧
      ((Pin.normalPaths s.pins).Nodup →
        (∀ ps, .store ps ∈ us → (Pin.normalPaths ps).Nodup) →
        ∀ past, past <+: us → ((ofStorage s).uses past).Distinct) := by
  refine ⟨⟨?_, ?_⟩, ?_⟩
  · intro h past e hpre hread
    have hd := h _ hpre
    rw [uses_append] at hd
    exact (distinct_step_iff hread).1 hd
  · intro h past hpre
    induction past using List.reverseRecOn with
    | nil => exact List.nodup_nil
    | append_singleton past u ih =>
        have hd := ih ((List.prefix_append past [u]).trans hpre)
        rw [uses_append]
        cases u with
        | own e =>
            by_cases hread : ((ofStorage s).uses past).Reads e
            · exact (distinct_step_iff hread).2 (h past e hpre hread)
            · exact hd.step hread
        | store ps => exact hd
  · intro hs hus past hpre
    exact ((Tidy.ofStorage hs).uses fun ps hps => hus ps (hpre.subset hps)).shown

/-- A storage with one pin. -/
def oneDisk : PinStorage := { pins := [{ path := "/srv/", name := "srv" }] }

/-- A path is pinned in another spelling; somebody else stores two others, which are read when the
first one cannot be unpinned for want of writing. -/
def sharedDisk : List Use :=
  [.own { action := .pin "srv" none 3 },
    .store [{ path := "b//", name := "b" }, { path := "/a", name := "a" }],
    .own { action := .reload }, .own { action := .unpin "a/", saveFailure := some "full" }]

theorem distinct_uses_iff_sharedDisk :
    (Pin.normalPaths oneDisk.pins).Nodup ∧
      (∀ ps, .store ps ∈ sharedDisk → (Pin.normalPaths ps).Nodup) ∧
      ((ofStorage oneDisk).uses sharedDisk).Distinct := by
  have hs : (Pin.normalPaths oneDisk.pins).Nodup := by decide
  have hus : ∀ ps, .store ps ∈ sharedDisk → (Pin.normalPaths ps).Nodup := by
    intro ps hps
    obtain rfl : ps = [{ path := "b//", name := "b" }, { path := "/a", name := "a" }] := by
      simpa [sharedDisk] using hps
    decide +kernel
  exact ⟨hs, hus, (distinct_uses_iff oneDisk sharedDisk).2 hs hus _ (List.prefix_refl _)⟩

/-- A storage with one path in two spellings. -/
def twoSpellings : PinStorage :=
  { pins := [{ path := "/srv", name := "srv" }, { path := "srv/", name := "srv" }] }

/-- **Two spellings of one path are shown as two pins** as soon as the board is read. -/
theorem spellings_shown_twice :
    (twoSpellings.pins.map Pin.path).Nodup ∧
      ¬ ((ofStorage twoSpellings).uses [.own { action := .items }]).Distinct := by
  refine ⟨by decide, ?_⟩
  have hread : (ofStorage twoSpellings).Reads { action := .items } := ⟨rfl, rfl⟩
  rw [uses_cons, uses_nil]
  refine mt (distinct_step_iff hread).1 ?_
  decide +kernel

end PinBoard

end RecordGrid
