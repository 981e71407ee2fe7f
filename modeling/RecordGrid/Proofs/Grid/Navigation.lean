/-
**Page sizes that the host navigates to.**

The address bar has two writers: the host, which navigates, and the grid, which rewrites page and
page size with almost every call.  The grid keeps the two numbers beside the history, and a call
that names no page size writes the one it keeps.  Whether that is the one that stood there depends
on whether the host has reported its last navigation, or the grid has written since: then the number
kept and the address bar agree, and calls leave the page size alone until the host navigates again.
In the window between a navigation and the report of it they do not, and a call puts the page size
back to the one from before.

Main definitions:

* `RecordGrid.Grid.Call.size?`, `RecordGrid.Grid.Change.size?` — the page size that is named;
* `RecordGrid.Grid.Readable`, `RecordGrid.Grid.NamesNoSize` — the page sizes named in a run can be
  read back from the address bar, or there are none;
* `RecordGrid.UrlPaging.Agrees` — the page size kept is the one in the address bar;
* `RecordGrid.Grid.Mirrors` — **the invariant** of a grid over an address bar.

Main results:

* `RecordGrid.Grid.Mirrors.change`, `RecordGrid.Grid.Mirrors.changes` — **without navigation,
  agreement lasts**;
* `RecordGrid.Grid.size_after_call` — **what a call leaves of the page size**;
* `RecordGrid.Grid.call_overwrites_navigation` — a call in the window.
-/

import RecordGrid.Proofs.Grid.Trail
import RecordGrid.Proofs.Request.Synced

set_option relaxedAutoImplicit false
set_option autoImplicit false

namespace RecordGrid

open UrlPaging (Turn)

/-! ### The page size kept and the page size read -/

namespace UrlPaging

/-- The page size that is kept stands in the address bar. -/
def Agrees (u : UrlPaging) : Prop := u.readUrl.2 = u.size

/-- Page and page size count from one, and the page size is read where it is written. -/
structure Legible (u : UrlPaging) : Prop where
  positive : u.Positive
  size : sizeReadBack u.config u.size = u.size

theorem Legible.ofHistory (config : UrlPagingConfig) (h : History) :
    (UrlPaging.ofHistory config h).Legible where
  positive := .ofHistory config h
  size := (sizeReadBack_eq_iff config).2 (bounds_size_readAddress config h.current).2

theorem Legible.push {u : UrlPaging} (h : u.Legible) (a : Address) : (u.push a).Legible :=
  ⟨⟨h.positive.page, h.positive.size⟩, h.size⟩

/-- A page size that is named has to fit a signed number, or else be the default one. -/
theorem Legible.paginate {u : UrlPaging} (h : u.Legible) (page : Option Count)
    {size : Option Count} (hsize : ∀ n, size = some n →
      n.positive = u.config.defaultSize ∨ n.positive.toNat < 0x8000000000000000) :
    (u.paginate page size).Legible := by
  refine ⟨h.positive.paginate page size, ?_⟩
  show sizeReadBack u.config (u.nextSize size) = u.nextSize size
  cases size with
  | none => exact h.size
  | some n => exact (sizeReadBack_eq_iff u.config).2 (hsize n rfl)

/-- **What is written is read**: after the grid has written, the two page sizes agree. -/
theorem agrees_paginate {u : UrlPaging} (h : u.Positive)
    (hne : u.config.pageParam ≠ u.config.sizeParam) {page size : Option Count}
    (hw : (u.paginate page size).Legible) : (u.paginate page size).Agrees := by
  have hread := Written.paginate h hne page size
  rw [Agrees, hread]
  exact hw.size

theorem Agrees.ofHistory (config : UrlPagingConfig) (h : History) :
    (UrlPaging.ofHistory config h).Agrees := rfl

end UrlPaging

namespace Grid

/-! ### Page sizes that are named -/

/-- The page size that a call names, given the filter form. -/
def Call.size? (filters : Option FilterForm) : Call → Option Count
  | .search _ | .changePage _ => none
  | .sort p | .filter p | .filtersReady p => p.size
  | .applyFilters => filters.bind (·.patch.size)
  | .resetFilters => filters.bind (·.reset.patch.size)
  | .changePageSize size => some size

/-- The page size that a change names.  The report of a navigation names none: it takes the one in
the address bar. -/
def Change.size? (g : Grid) : Change → Option Count
  | .merge p => p.size
  | .paginate _ size => size
  | .call c => c.size? g.filters
  | _ => none

/-- The page sizes named in a run fit a signed number. -/
def Readable (g : Grid) : List Change → Prop
  | [] => True
  | c :: cs => (∀ n, c.size? g = some n → n.toNat ≤ 0x7fffffffffffffff) ∧ (g.change c).Readable cs

/-- No page size is named in a run. -/
def NamesNoSize (g : Grid) : List Change → Prop
  | [] => True
  | c :: cs => c.size? g = none ∧ (g.change c).NamesNoSize cs

theorem readable_append (g : Grid) (cs ds : List Change) :
    g.Readable (cs ++ ds) ↔ g.Readable cs ∧ (g.changes cs).Readable ds := by
  induction cs generalizing g with
  | nil => simp [Readable]
  | cons c cs ih => simp [Readable, ih, and_assoc]

theorem NamesNoSize.readable {g : Grid} {cs : List Change} (h : g.NamesNoSize cs) :
    g.Readable cs := by
  induction cs generalizing g with
  | nil => trivial
  | cons c cs ih =>
      refine ⟨fun n hn => ?_, ih h.2⟩
      rw [h.1] at hn
      cases hn

theorem loadTurn?_eq_some {g : Grid} {patch : Option Patch} {t : Turn}
    (h : g.loadTurn? patch = some t) : ∃ p, patch = some p ∧ t = (p.page, p.size) := by
  unfold loadTurn? at h
  split at h
  · obtain ⟨p, rfl, hp⟩ := Option.bind_eq_some_iff.1 h
    unfold Patch.turn? at hp
    split at hp
    · exact ⟨p, rfl, (Option.some.inj hp).symm⟩
    · cases hp
  · cases h

/-- A call writes the page size that it names, or the one that is kept. -/
theorem size_callTurn? {g : Grid} {c : Call} {t : Turn} (h : g.callTurn? c = some t) :
    t.2 = c.size? g.filters := by
  cases c with
  | search text =>
      obtain ⟨p, hp, rfl⟩ := loadTurn?_eq_some h
      rw [← Option.some.inj hp]
      rfl
  | sort p =>
      obtain ⟨q, hq, rfl⟩ := loadTurn?_eq_some h
      rw [← Option.some.inj hq]
      rfl
  | filter p =>
      obtain ⟨q, hq, rfl⟩ := loadTurn?_eq_some h
      rw [← Option.some.inj hq]
      rfl
  | filtersReady p =>
      obtain ⟨q, hq, rfl⟩ := loadTurn?_eq_some h
      rw [← Option.some.inj hq]
      rfl
  | applyFilters =>
      obtain ⟨q, hq, rfl⟩ := loadTurn?_eq_some h
      obtain ⟨form, hform, rfl⟩ := Option.map_eq_some_iff.1 hq
      rw [Call.size?, hform]
      rfl
  | resetFilters =>
      obtain ⟨q, hq, rfl⟩ := loadTurn?_eq_some h
      obtain ⟨form, hform, rfl⟩ := Option.map_eq_some_iff.1 hq
      rw [Call.size?, hform]
      rfl
  | changePage page =>
      rw [← Option.some.inj h]
      rfl
  | changePageSize size =>
      rw [← Option.some.inj h]
      rfl

/-- A change writes the page size that it names; the report of a navigation writes the one that it
finds. -/
theorem size_written? {g : Grid} {u : UrlPaging} (hu : g.coordinator.store.paging = some u)
    {c : Change} {t : Turn} (h : c.written? g = some t) :
    t.2 = c.size? g ∨ (c = .urlChanged ∧ t.2 = some u.readUrl.2) := by
  cases c with
  | merge p =>
      rw [Change.written?, Patch.turn?] at h
      split at h
      · rw [← Option.some.inj h]
        exact Or.inl rfl
      · cases h
  | paginate page size =>
      rw [← Option.some.inj h]
      exact Or.inl rfl
  | call c => exact Or.inl (size_callTurn? h)
  | urlChanged =>
      rw [Change.written?, hu] at h
      obtain ⟨p, hp, rfl⟩ := loadTurn?_eq_some h
      rw [← Option.some.inj hp]
      exact Or.inr ⟨rfl, rfl⟩
  | _ => cases h

/-! ### What is fetched with -/

/-- No change gives a grid something to fetch with, or takes it away. -/
theorem canFetch_change (g : Grid) (c : Change) :
    (g.change c).coordinator.canFetch = g.coordinator.canFetch := by
  cases c with
  | call c =>
      rw [change]
      rcases g.call_cases c with hc | ⟨filters, turn, patch, events, hc⟩ | ⟨page, size, events, hc⟩
      · rw [hc]
      · rw [hc, canFetch_load]
        rfl
      · rw [hc]
        rfl
  | edit field value =>
      rw [change, edit_eq]
  | receive a =>
      rw [change, coordinator_receive, Coordinator.coordinator_receive_eq]
  | urlChanged =>
      rw [change, urlChanged]
      split
      · exact canFetch_load g _ _
      · rfl
  | _ => rfl

/-! ### The invariant -/

/-- **What is known of a grid over an address bar**: it has something to fetch with, and the page
size it keeps is read where it is written. -/
structure Mirrors (g : Grid) (u : UrlPaging) : Prop where
  paging : g.coordinator.store.paging = some u
  canFetch : g.coordinator.canFetch = true
  distinct : u.config.pageParam ≠ u.config.sizeParam
  legible : u.Legible

namespace Mirrors

variable {g : Grid} {u : UrlPaging}

theorem ofHistory {config : UrlPagingConfig} {history : History}
    (hu : g.coordinator.store.paging = some (.ofHistory config history))
    (hf : g.coordinator.canFetch = true) (hne : config.pageParam ≠ config.sizeParam) :
    g.Mirrors (.ofHistory config history) := ⟨hu, hf, hne, .ofHistory config history⟩

/-- The host navigates, and the page size that is kept stays. -/
theorem push (h : g.Mirrors u) (a : Address) : (g.change (.push a)).Mirrors (u.push a) where
  paging := paging_push h.paging a
  canFetch := (canFetch_change g _).trans h.canFetch
  distinct := h.distinct
  legible := h.legible.push a

/-- A change that neither pushes nor writes leaves everything as it is. -/
theorem quiet (h : g.Mirrors u) {c : Change} (hpush : c.pushed? = none)
    (hquiet : c.written? g = none) : (g.change c).Mirrors u where
  paging := by
    rw [paging_change h.paging hpush, hquiet]
    rfl
  canFetch := (canFetch_change g _).trans h.canFetch
  distinct := h.distinct
  legible := h.legible

/-- After a change that writes, the page size that is kept is the one in the address bar. -/
theorem write (h : g.Mirrors u) {c : Change} {t : Turn} (ht : c.written? g = some t)
    (hfits : ∀ n, c.size? g = some n → n.toNat ≤ 0x7fffffffffffffff) :
    (g.change c).Mirrors (u.paginate t.1 t.2) ∧ (u.paginate t.1 t.2).Agrees := by
  have hpush : c.pushed? = none := by
    cases c with
    | push a => cases ht
    | _ => rfl
  have hlegible : (u.paginate t.1 t.2).Legible := by
    refine h.legible.paginate t.1 fun n hn => ?_
    rcases size_written? h.paging ht with hsize | ⟨-, hsize⟩
    · have hle := hfits n (hsize ▸ hn)
      exact Or.inr (Nat.lt_succ_of_le (Count.positive_le hle (by decide)))
    · -- what the report of a navigation finds was read from the address bar
      obtain rfl : u.readUrl.2 = n := Option.some.inj (hsize.symm.trans hn)
      rw [u.positive_readUrl.2]
      exact (UrlPaging.bounds_size_readAddress u.config u.history.current).2
  refine ⟨⟨?_, (canFetch_change g _).trans h.canFetch, h.distinct, hlegible⟩, ?_⟩
  · rw [paging_change h.paging hpush, ht]
    rfl
  · exact UrlPaging.agrees_paginate h.legible.positive h.distinct hlegible

/-- The report of a navigation always writes. -/
theorem written?_urlChanged (h : g.Mirrors u) :
    Change.urlChanged.written? g = some (some u.readUrl.1, some u.readUrl.2) := by
  rw [Change.written?, h.paging, loadTurn?, h.canFetch]
  rfl

/-- **What one change does** when the page size kept is the one in the address bar: unless it is a
navigation they go on agreeing, and unless it names a page size that one stays. -/
theorem change (h : g.Mirrors u) (c : Change)
    (hfits : ∀ n, c.size? g = some n → n.toNat ≤ 0x7fffffffffffffff) :
    ∃ v, (g.change c).Mirrors v ∧ v.config = u.config ∧
      (c.pushed? = none → u.Agrees → v.Agrees ∧ (c.size? g = none → v.size = u.size)) := by
  cases hpush : c.pushed? with
  | some a =>
      obtain rfl : c = .push a := by
        cases c with
        | push b => exact congrArg _ (Option.some.inj hpush)
        | _ => cases hpush
      exact ⟨u.push a, h.push a, rfl, fun hnone => by cases hnone⟩
  | none =>
      cases ht : c.written? g with
      | none => exact ⟨u, h.quiet hpush ht, rfl, fun _ hu => ⟨hu, fun _ => rfl⟩⟩
      | some t =>
          obtain ⟨hmirrors, hagrees⟩ := h.write ht hfits
          refine ⟨_, hmirrors, rfl, fun _ hu => ⟨hagrees, fun hnone => ?_⟩⟩
          show u.nextSize t.2 = u.size
          rcases size_written? h.paging ht with hsize | ⟨-, hsize⟩
          · rw [hsize, hnone]
            rfl
          · rw [hsize, hu]
            exact Count.positive_eq_self_iff.2 h.legible.positive.size

/-- **The invariant holds in every run**, and as long as the host does not navigate, a page size
that is kept and read alike goes on being so. -/
theorem changes (h : g.Mirrors u) {cs : List Change} (hcs : g.Readable cs) :
    ∃ v, (g.changes cs).Mirrors v ∧ v.config = u.config ∧
      ((∀ a, .push a ∉ cs) → u.Agrees → v.Agrees ∧ (g.NamesNoSize cs → v.size = u.size)) := by
  induction cs generalizing g u with
  | nil => exact ⟨u, h, rfl, fun _ hu => ⟨hu, fun _ => rfl⟩⟩
  | cons c cs ih =>
      obtain ⟨v, hv, hconfig, hstep⟩ := h.change c hcs.1
      obtain ⟨w, hw, hconfig', hrun⟩ := ih hv hcs.2
      refine ⟨w, hw, hconfig'.trans hconfig, fun hno hu => ?_⟩
      have hpush : c.pushed? = none := by
        cases c with
        | push a => exact absurd (List.mem_cons_self ..) (hno a)
        | _ => rfl
      obtain ⟨hagrees, hsize⟩ := hstep hpush hu
      obtain ⟨hagrees', hsize'⟩ := hrun (fun a ha => hno a (List.mem_cons_of_mem _ ha)) hagrees
      refine ⟨hagrees', fun hnone => ?_⟩
      exact (hsize' hnone.2).trans (hsize hnone.1)

/-- **After the last write, and without navigation since**, the two page sizes agree; and if no
other one was named, it is the one that was written. -/
theorem after_write (h : g.Mirrors u) {before : List Change} {d : Change} {after : List Change}
    {t : Turn} (hcs : g.Readable (before ++ d :: after))
    (ht : d.written? (g.changes before) = some t) (hno : ∀ a, .push a ∉ after) :
    ∃ x v, (g.changes before).Mirrors x ∧ (g.changes (before ++ d :: after)).Mirrors v ∧
      v.Agrees ∧
      (((g.changes before).change d).NamesNoSize after → v.size = x.nextSize t.2) := by
  obtain ⟨hbefore, hd, hafter⟩ := (g.readable_append before (d :: after)).1 hcs
  obtain ⟨x, hx, -, -⟩ := h.changes hbefore
  obtain ⟨hy, hagrees⟩ := hx.write ht hd
  obtain ⟨v, hv, -, hrun⟩ := hy.changes hafter
  obtain ⟨hagrees', hsize⟩ := hrun hno hagrees
  refine ⟨x, v, hx, ?_, hagrees', hsize⟩
  rw [changes_append, changes_cons]
  exact hv

/-- **What a call does that names no page size**: it writes the one that is kept, or nothing. -/
theorem call (h : g.Mirrors u) {c : Call} (hc : c.size? g.filters = none) :
    ∃ w, (g.change (.call c)).Mirrors w ∧
      w.readUrl.2 = if (g.callTurn? c).isSome then u.size else u.readUrl.2 := by
  cases ht : g.callTurn? c with
  | none => exact ⟨u, h.quiet (c := .call c) rfl ht, rfl⟩
  | some t =>
      obtain ⟨hmirrors, hagrees⟩ := h.write (c := .call c) ht fun n hn => by
        cases hc.symm.trans hn
      refine ⟨_, hmirrors, hagrees.trans ?_⟩
      show u.nextSize t.2 = u.size
      rw [size_callTurn? ht, hc]
      rfl

end Mirrors

/-! ### What a call leaves of the page size -/

/-- **What a call leaves of the page size in the address bar.**  Take a grid over an address bar,
with something to fetch with and different names for the two parameters, and any run of it in which
the host navigates as it likes and the page sizes named fit a signed number.  Then a call that names
no page size leaves in the address bar the page size that the grid keeps, or writes nothing at all:

* the page size in the address bar stays exactly when nothing is written or the two page sizes
  agreed before;
* they agree if the host has not navigated at all, or not since the grid wrote to the address bar
  for the last time;
* the page size that the report of a navigation finds is still there after the call, unless
  meanwhile the host has navigated again or another page size was named. -/
theorem size_after_call {g : Grid} {config : UrlPagingConfig} {history : History}
    {cs : List Change} {c : Call}
    (hu : g.coordinator.store.paging = some (.ofHistory config history))
    (hf : g.coordinator.canFetch = true) (hne : config.pageParam ≠ config.sizeParam)
    (hcs : g.Readable cs) (hc : c.size? (g.changes cs).filters = none) :
    ∃ v w, (g.changes cs).coordinator.store.paging = some v ∧
      ((g.changes cs).change (.call c)).coordinator.store.paging = some w ∧
      (w.readUrl.2 = if ((g.changes cs).callTurn? c).isSome then v.size else v.readUrl.2) ∧
      (w.readUrl.2 = v.readUrl.2 ↔ (g.changes cs).callTurn? c = none ∨ v.Agrees) ∧
      ((∀ a, .push a ∉ cs) → v.Agrees) ∧
      (∀ before d after, cs = before ++ d :: after → (d.written? (g.changes before)).isSome →
        (∀ a, .push a ∉ after) → v.Agrees) ∧
      ∀ before after, cs = before ++ .urlChanged :: after → (∀ a, .push a ∉ after) →
        ((g.changes before).change .urlChanged).NamesNoSize after →
          ∃ x, (g.changes before).coordinator.store.paging = some x ∧
            w.readUrl.2 = x.readUrl.2 := by
  have h := Mirrors.ofHistory hu hf hne
  obtain ⟨v, hv, -, hrun⟩ := h.changes hcs
  obtain ⟨w, hw, hread⟩ := hv.call hc
  refine ⟨v, w, hv.paging, hw.paging, hread, ?_, fun hno => (hrun hno (.ofHistory _ _)).1, ?_, ?_⟩
  · rw [hread, UrlPaging.Agrees]
    cases (g.changes cs).callTurn? c with
    | none => simp
    | some t => simp [eq_comm]
  · rintro before d after rfl hd hno
    obtain ⟨t, ht⟩ := Option.isSome_iff_exists.1 hd
    obtain ⟨-, v', -, hv', hagrees, -⟩ := h.after_write hcs ht hno
    obtain rfl : v' = v := Option.some.inj (hv'.paging.symm.trans hv.paging)
    exact hagrees
  · rintro before after rfl hno hnone
    obtain ⟨x, hx, -, -⟩ := h.changes ((g.readable_append before _).1 hcs).1
    obtain ⟨x', v', hx', hv', hagrees, hsize⟩ := h.after_write hcs hx.written?_urlChanged hno
    obtain rfl : x' = x := Option.some.inj (hx'.paging.symm.trans hx.paging)
    obtain rfl : v' = v := Option.some.inj (hv'.paging.symm.trans hv.paging)
    have hkept : v'.size = x'.readUrl.2 := (hsize hnone).trans x'.positive_readUrl.2
    refine ⟨x', hx.paging, ?_⟩
    rw [hread]
    split
    · exact hkept
    · exact Eq.trans hagrees hkept

/-- The page size in the address bar. -/
def sizeInUrl? (g : Grid) : Option Count := g.coordinator.store.paging.map (·.readUrl.2)

/-- A grid at a list, with pages of twenty. -/
def listGrid : Grid :=
  { ofSchema 0 {} [] with
    coordinator :=
      { Coordinator.ofStore 0 (.ofPaging (.ofHistory {} (.ofAddress (.ofPath "/list")))) with
        canFetch := true } }

/-- The same list, with pages of fifty. -/
def longPages : Address := { path := "/list", query := [("pageSize", "50")] }

/-- The host navigates to the long pages, reports it, and turns to the third one. -/
def reported : List Change := [.push longPages, .urlChanged, .call (.changePage 3)]

/-- A search keeps the long pages that were reported. -/
theorem size_after_call_reported :
    listGrid.Readable reported ∧
      ((listGrid.changes reported).change (.call (.search "x"))).sizeInUrl? = some 50 := by
  have hnone : listGrid.NamesNoSize reported := ⟨rfl, rfl, rfl, trivial⟩
  have hu : listGrid.coordinator.store.paging =
      some (.ofHistory {} (.ofAddress (.ofPath "/list"))) := rfl
  obtain ⟨v, w, -, hw, -, -, -, -, hkept⟩ :=
    size_after_call (c := .search "x") hu rfl (by decide) hnone.readable rfl
  obtain ⟨x, hx, hread⟩ :=
    hkept [.push longPages] [.call (.changePage 3)] rfl (by simp) ⟨rfl, trivial⟩
  have hfound : (listGrid.changes [.push longPages]).sizeInUrl? = some 50 := by decide
  rw [sizeInUrl?, hx] at hfound
  rw [sizeInUrl?, hw, Option.map_some, hread]
  exact ⟨hnone.readable, hfound⟩

/-- **In the window between a navigation and its report a call overwrites the page size.**  The host
navigates from pages of twenty to pages of fifty.  Before the report a search and a turn of the page
each put the twenty back, although neither names a page size. -/
theorem call_overwrites_navigation :
    listGrid.coordinator.store.paging = some (.ofHistory {} (.ofAddress (.ofPath "/list"))) ∧
      listGrid.coordinator.canFetch = true ∧
      ({} : UrlPagingConfig).pageParam ≠ ({} : UrlPagingConfig).sizeParam ∧
      listGrid.NamesNoSize [.push longPages] ∧
      (Call.search "x").size? none = none ∧ (Call.changePage 2).size? none = none ∧
      (listGrid.changes [.push longPages]).sizeInUrl? = some 50 ∧
      ((listGrid.changes [.push longPages]).change (.call (.search "x"))).sizeInUrl? = some 20 ∧
      ((listGrid.changes [.push longPages]).change (.call (.changePage 2))).sizeInUrl? = some 20 :=
  ⟨rfl, rfl, by decide, ⟨rfl, trivial⟩, rfl, rfl, by decide, by decide, by decide⟩

end Grid

end RecordGrid
