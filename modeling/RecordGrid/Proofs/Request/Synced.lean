/-
**A store and the address bar keep step.**

A store that keeps its pagination in the address bar holds it three times: in the request, as two
numbers beside the history, and as text in the address bar.  The first two agree whatever happens,
even while the host navigates.  The text follows them as long as nobody else writes it, with one
reservation: a number beyond the greatest signed one is written, but it cannot be read.

Main definitions:

* `RecordGrid.Store.Change` — what can happen to a store and to its history;
* `RecordGrid.Store.run`, `RecordGrid.Store.ofAddressBar` — a store after a list of changes, and
  where it begins;
* `RecordGrid.UrlPaging.change`, `RecordGrid.UrlPaging.changes` — what they do to the pagination in
  the address bar;
* `RecordGrid.Store.InStep`, `RecordGrid.UrlPaging.Written` — the two invariants.

Main results:

* `RecordGrid.Store.InStep.run`, `RecordGrid.UrlPaging.Written.changes` — the invariants hold in
  every run;
* `RecordGrid.Store.run_keeps_step` — **request, numbers and address bar agree**, up to what can be
  read.
-/

import RecordGrid.Proofs.Url.ReadBack
import RecordGrid.Request.Store

set_option relaxedAutoImplicit false
set_option autoImplicit false

namespace RecordGrid

/-! ### Changes -/

/-- What can happen to a store and to the history behind it. -/
inductive Store.Change where
  /-- A patch is merged. -/
  | merge (p : Patch)
  /-- The page or the page size is changed. -/
  | paginate (page size : Option Count)
  /-- The host navigates, or does anything else to its history. -/
  | navigate (move : History → History)

namespace UrlPaging

/-- The host moves through its history. -/
def navigate (u : UrlPaging) (move : History → History) : UrlPaging :=
  { u with history := move u.history }

/-- What a change does to the pagination in the address bar. -/
def change (u : UrlPaging) : Store.Change → UrlPaging
  | .merge p => if p.touchesPagination then u.paginate p.page p.size else u
  | .paginate page size => u.paginate page size
  | .navigate move => u.navigate move

/-- What a list of changes does to the pagination in the address bar. -/
def changes (u : UrlPaging) (es : List Store.Change) : UrlPaging := es.foldl change u

@[simp] theorem changes_nil (u : UrlPaging) : u.changes [] = u := rfl

@[simp] theorem changes_cons (u : UrlPaging) (e : Store.Change) (es : List Store.Change) :
    u.changes (e :: es) = (u.change e).changes es := rfl

theorem changes_append (u : UrlPaging) (es fs : List Store.Change) :
    u.changes (es ++ fs) = (u.changes es).changes fs := List.foldl_append

/-- A change leaves the pagination alone, sets it, or is the host's. -/
theorem change_cases (u : UrlPaging) (e : Store.Change) :
    u.change e = u ∨ (∃ page size, u.change e = u.paginate page size) ∨
      ∃ move, e = .navigate move ∧ u.change e = u.navigate move := by
  cases e with
  | merge p =>
      cases h : p.touchesPagination with
      | false => exact Or.inl (by simp [change, h])
      | true => exact Or.inr (Or.inl ⟨p.page, p.size, by simp [change, h]⟩)
  | paginate page size => exact Or.inr (Or.inl ⟨page, size, rfl⟩)
  | navigate move => exact Or.inr (Or.inr ⟨move, rfl, rfl⟩)

@[simp] theorem config_change (u : UrlPaging) (e : Store.Change) :
    (u.change e).config = u.config := by
  rcases u.change_cases e with h | ⟨page, size, h⟩ | ⟨move, -, h⟩ <;> rw [h]
  · rfl
  · rfl

@[simp] theorem config_changes (u : UrlPaging) (es : List Store.Change) :
    (u.changes es).config = u.config := by
  induction es generalizing u with
  | nil => rfl
  | cons e es ih => rw [changes_cons, ih, config_change]

/-! ### Positive pagination -/

/-- Page and page size count from one. -/
structure Positive (u : UrlPaging) : Prop where
  /-- The page counts from one. -/
  page : 1 ≤ u.page.toNat
  /-- The page size counts from one. -/
  size : 1 ≤ u.size.toNat

namespace Positive

theorem ofHistory (config : UrlPagingConfig) (h : History) :
    (UrlPaging.ofHistory config h).Positive :=
  ⟨(bounds_page_readAddress config h.current).1, (bounds_size_readAddress config h.current).1⟩

theorem paginate {u : UrlPaging} (h : u.Positive) (page size : Option Count) :
    (u.paginate page size).Positive := by
  constructor
  · show 1 ≤ (u.nextPage page size).toNat
    cases page with
    | some p => exact Count.one_le_positive p
    | none =>
        cases size with
        | some s => exact (by decide : 1 ≤ (1 : Count).toNat)
        | none => exact h.page
  · show 1 ≤ (u.nextSize size).toNat
    cases size with
    | some s => exact Count.one_le_positive s
    | none => exact h.size

theorem change {u : UrlPaging} (h : u.Positive) (e : Store.Change) : (u.change e).Positive := by
  rcases u.change_cases e with he | ⟨page, size, he⟩ | ⟨move, -, he⟩ <;> rw [he]
  · exact h
  · exact h.paginate page size
  · exact ⟨h.page, h.size⟩

theorem changes {u : UrlPaging} (h : u.Positive) (es : List Store.Change) :
    (u.changes es).Positive := by
  induction es generalizing u with
  | nil => exact h
  | cons e es ih => exact ih (h.change e)

end Positive

/-! ### What stands in the address bar -/

/-- The address bar holds what can be read of page and page size. -/
def Written (u : UrlPaging) : Prop :=
  u.readUrl = (pageReadBack u.page, sizeReadBack u.config u.size)

namespace Written

theorem ofHistory (config : UrlPagingConfig) (h : History) :
    (UrlPaging.ofHistory config h).Written := by
  have hpage : pageReadBack (readAddress config h.current).1 = (readAddress config h.current).1 :=
    pageReadBack_eq_iff.2 (bounds_page_readAddress config h.current).2
  have hsize : sizeReadBack config (readAddress config h.current).2 =
      (readAddress config h.current).2 :=
    (sizeReadBack_eq_iff config).2 (bounds_size_readAddress config h.current).2
  exact Prod.ext hpage.symm hsize.symm

/-- After the pagination was set it stands in the address bar, whatever stood there before. -/
theorem paginate {u : UrlPaging} (hu : u.Positive) (hne : u.config.pageParam ≠ u.config.sizeParam)
    (page size : Option Count) : (u.paginate page size).Written :=
  readAddress_writeAddress_of_ne u.config hne u.history.current (hu.paginate page size).page
    (hu.paginate page size).size

theorem change {u : UrlPaging} (h : u.Written) (hu : u.Positive)
    (hne : u.config.pageParam ≠ u.config.sizeParam) {e : Store.Change}
    (he : ∀ move, e ≠ .navigate move) : (u.change e).Written := by
  rcases u.change_cases e with hs | ⟨page, size, hs⟩ | ⟨move, hm, -⟩
  · rwa [hs]
  · rw [hs]
    exact Written.paginate hu hne page size
  · exact absurd hm (he move)

/-- **As long as the host stays where it is, the address bar keeps up.** -/
theorem changes {u : UrlPaging} (h : u.Written) (hu : u.Positive)
    (hne : u.config.pageParam ≠ u.config.sizeParam) {es : List Store.Change}
    (hes : ∀ move, .navigate move ∉ es) : (u.changes es).Written := by
  induction es generalizing u with
  | nil => exact h
  | cons e es ih =>
      -- the numbers stay positive along the way; a zero would not be read back
      have he : ∀ move, e ≠ .navigate move := fun move heq => hes move (heq ▸ List.mem_cons_self ..)
      exact ih (h.change hu hne he) (hu.change e) (by rwa [config_change]) fun move hm =>
        hes move (List.mem_cons_of_mem _ hm)

theorem readUrl_eq_iff {u : UrlPaging} (h : u.Written) :
    u.readUrl = u.pagination ↔
      u.page.toNat < 0x8000000000000000 ∧
        (u.size = u.config.defaultSize ∨ u.size.toNat < 0x8000000000000000) := by
  rw [h, pagination, Prod.mk.injEq, pageReadBack_eq_iff, sizeReadBack_eq_iff]

end Written

end UrlPaging

/-! ### Stores -/

namespace Store

/-- A store after a change. -/
def step (s : Store) : Change → Store
  | .merge p => s.merge p
  | .paginate page size => s.paginate page size
  | .navigate move => { s with paging := s.paging.map (·.navigate move) }

/-- A store after a list of changes. -/
def run (s : Store) (es : List Change) : Store := es.foldl step s

@[simp] theorem run_nil (s : Store) : s.run [] = s := rfl

@[simp] theorem run_cons (s : Store) (e : Change) (es : List Change) :
    s.run (e :: es) = (s.step e).run es := rfl

theorem paginate_of_paging {s : Store} {u : UrlPaging} (h : s.paging = some u)
    (page size : Option Count) :
    s.paginate page size =
      { request := s.request.setPagination (u.paginate page size).pagination
        paging := some (u.paginate page size) } := by
  rw [paginate, h]

theorem merge_of_not_touches {p : Patch} (h : p.touchesPagination = false) (s : Store) :
    s.merge p = { s with request := setParams s.request p } := by
  simp [merge, h]

theorem merge_of_touches {s : Store} {u : UrlPaging} (hs : s.paging = some u) {p : Patch}
    (h : p.touchesPagination = true) :
    s.merge p =
      { request := (setParams s.request p).setPagination (u.paginate p.page p.size).pagination
        paging := some (u.paginate p.page p.size) } := by
  simp [merge, h, isSynced, hs, paginate]

/-- The request holds the pagination in the address bar. -/
structure InStep (s : Store) (u : UrlPaging) : Prop where
  /-- The pagination is kept in the address bar. -/
  paging : s.paging = some u
  /-- The request has the same page and page size. -/
  request : (s.request.page, s.request.size) = u.pagination
  /-- They count from one. -/
  positive : u.Positive

namespace InStep

theorem ofPaging {u : UrlPaging} (hu : u.Positive) : (Store.ofPaging u).InStep u where
  paging := rfl
  request := Prod.ext (Count.positive_eq_self_iff.2 hu.page) (Count.positive_eq_self_iff.2 hu.size)
  positive := hu

theorem setPagination {u : UrlPaging} (hu : u.Positive) (r : Request) :
    ({ request := r.setPagination u.pagination, paging := some u } : Store).InStep u where
  paging := rfl
  request := Prod.ext (Count.positive_eq_self_iff.2 hu.page) (Count.positive_eq_self_iff.2 hu.size)
  positive := hu

theorem step {s : Store} {u : UrlPaging} (h : s.InStep u) (e : Change) :
    (s.step e).InStep (u.change e) := by
  cases e with
  | merge p =>
      cases hp : p.touchesPagination with
      | false =>
          have hu : u.change (.merge p) = u := by simp [UrlPaging.change, hp]
          rw [hu, Store.step, merge_of_not_touches hp]
          exact ⟨h.paging, h.request, h.positive⟩
      | true =>
          have hu : u.change (.merge p) = u.paginate p.page p.size := by
            simp [UrlPaging.change, hp]
          rw [hu, Store.step, merge_of_touches h.paging hp]
          exact setPagination (h.positive.paginate p.page p.size) _
  | paginate page size =>
      rw [Store.step, paginate_of_paging h.paging]
      exact setPagination (h.positive.paginate page size) _
  | navigate move =>
      refine ⟨?_, h.request, ⟨h.positive.page, h.positive.size⟩⟩
      rw [Store.step, h.paging]
      rfl

/-- **Request and numbers agree in every run.** -/
theorem run {s : Store} {u : UrlPaging} (h : s.InStep u) (es : List Change) :
    (s.run es).InStep (u.changes es) := by
  induction es generalizing s u with
  | nil => exact h
  | cons e es ih => exact ih (h.step e)

end InStep

/-- A store over the pagination in an address bar, to which `before` has happened since it was read
first. -/
def ofAddressBar (config : UrlPagingConfig) (h : History) (before : List Change) : Store :=
  ofPaging ((UrlPaging.ofHistory config h).changes before)

/-- **Request, numbers and address bar keep step.**  In every run of a store over an address bar:

* the page and page size of the request are the two numbers kept beside the history, wherever the
  host goes;
* if the parameters have different names and the host stays where it is, these numbers are what the
  address bar is read as, exactly when the page fits a signed number and so does the page size,
  unless that is the default one. -/
theorem run_keeps_step (config : UrlPagingConfig) (h : History) (before es : List Change) :
    ∃ u, ((ofAddressBar config h before).run es).paging = some u ∧ u.config = config ∧
      (((ofAddressBar config h before).run es).request.page,
        ((ofAddressBar config h before).run es).request.size) = u.pagination ∧
      (config.pageParam ≠ config.sizeParam → (∀ move, .navigate move ∉ before ++ es) →
        (u.readUrl = u.pagination ↔
          u.page.toNat ≤ 0x7fffffffffffffff ∧
            (u.size = config.defaultSize ∨ u.size.toNat ≤ 0x7fffffffffffffff))) := by
  have hpos := UrlPaging.Positive.ofHistory config h
  have hrun : ((ofAddressBar config h before).run es).InStep
      ((UrlPaging.ofHistory config h).changes (before ++ es)) := by
    rw [UrlPaging.changes_append]
    exact (InStep.ofPaging (hpos.changes before)).run es
  refine ⟨_, hrun.paging, by rw [UrlPaging.config_changes]; rfl, hrun.request, fun hne hes => ?_⟩
  have hw : ((UrlPaging.ofHistory config h).changes (before ++ es)).Written :=
    (UrlPaging.Written.ofHistory config h).changes hpos hne hes
  rw [hw.readUrl_eq_iff, UrlPaging.config_changes, Nat.lt_iff_le_pred (by decide),
    Nat.lt_iff_le_pred (by decide)]
  rfl

/-- A store at the address of a list. -/
def listed : Store := ofAddressBar {} (.ofAddress (.ofPath "/list")) [.paginate (some 2) none]

/-- A page is asked for, and then another one with another page size. -/
def twoTurns : List Change := [.merge (.ofPage 3), .paginate (some 7) (some 50)]

/-- Both turns are read from the address bar. -/
theorem run_keeps_step_twoTurns :
    ({} : UrlPagingConfig).pageParam ≠ ({} : UrlPagingConfig).sizeParam ∧
      (∀ move, .navigate move ∉ [.paginate (some 2) none] ++ twoTurns) ∧
      ∃ u, (listed.run twoTurns).paging = some u ∧ u.readUrl = (7, 50) := by
  have hne : ({} : UrlPagingConfig).pageParam ≠ ({} : UrlPagingConfig).sizeParam := by decide
  have hstay : ∀ move, .navigate move ∉ [.paginate (some 2) none] ++ twoTurns := by
    simp [twoTurns]
  obtain ⟨u, hu, -, hr, h⟩ :=
    run_keeps_step {} (.ofAddress (.ofPath "/list")) [.paginate (some 2) none] twoTurns
  have hp : u.pagination = (7, 50) := hr.symm
  obtain ⟨hpage, hsize⟩ := Prod.mk.inj hp
  have hread : u.readUrl = u.pagination := (h hne hstay).2 (by simp [hpage, hsize])
  exact ⟨hne, hstay, u, hu, hread.trans hp⟩

-- A page that does not fit is written, and read as the first one.
example :
    ((listed.run [.merge (.ofPage 0x8000000000000000)]).paging.map fun u =>
      (u.pagination, u.readUrl)) = some ((0x8000000000000000, 20), (1, 20)) := by decide

end Store

end RecordGrid
