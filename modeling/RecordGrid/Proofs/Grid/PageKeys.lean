/-
**Turning pages by key.**

A key press reads the pager and asks for the page after or before the one that is shown.  Without
the address bar the page goes from there to the pager, into the request and back to the pager before
anything is fetched, so the next press finds the pager where this one has left it, however late the
responses are.  Presses in quick succession therefore neither lose a step nor double one: they walk
from page to page, up to the last one and down to the first.  A walk may begin beyond the last page,
since the server decides which pages there are; from there it only leads back.

Main definitions:

* `RecordGrid.PageKey`, `RecordGrid.PageKey.turn`, `RecordGrid.PageKey.walk` — the two keys, and
  where they lead in exact arithmetic;
* `RecordGrid.Grid.Steady` — a grid whose pager shows what was asked for;
* `RecordGrid.Grid.turnedTo`, `RecordGrid.Grid.TurnedFrom` — the grid after a page was turned, and
  after a run of presses;
* `RecordGrid.GridSession.presses` — a session in which keys are pressed and nothing else happens.

Main results:

* `RecordGrid.Pager.target?_eq` — the page that a press leads to;
* `RecordGrid.Grid.Steady.changePage_eq`, `press_eq` — **turning a page, and pressing a page key**;
* `RecordGrid.GridSession.turnedFrom_presses` — **a run of presses**;
* `RecordGrid.GridSession.presses_walk` — **what every run of presses asks for**.
-/

import RecordGrid.Proofs.Grid.Operations
import RecordGrid.Proofs.Request.Overwrite
import RecordGrid.Proofs.Request.Wire

set_option relaxedAutoImplicit false
set_option autoImplicit false

namespace RecordGrid

/-! ### Page keys -/

/-- A key that turns pages. -/
inductive PageKey where
  | next
  | previous
deriving DecidableEq

namespace PageKey

/-- Its usual binding. -/
def binding : PageKey → Binding
  | .next => PagerKeys.standard.next
  | .previous => PagerKeys.standard.previous

/-- Both page keys. -/
def both : List PageKey := [next, previous]

/-- The page key that is pressed, if one is. -/
def of? (k : KeyPress) : Option PageKey := both.find? fun d => d.binding.triggers k

/-- The page that a key leads to from page `c` where there are `n`. -/
def turn (n c : Nat) : PageKey → Nat
  | .next => if c < n then c + 1 else c
  | .previous => if 1 < c then c - 1 else c

/-- The page that several keys lead to. -/
def walk (n c : Nat) (ds : List PageKey) : Nat := ds.foldl (turn n) c

/-- A turn stays among the pages, or between the first page and where it began. -/
theorem turn_bounds {n c m : Nat} (h : 1 ≤ c ∧ c ≤ max n m) (d : PageKey) :
    1 ≤ d.turn n c ∧ d.turn n c ≤ max n m := by
  cases d with
  | next =>
      rw [turn]
      split <;> omega
  | previous =>
      rw [turn]
      split <;> omega

theorem walk_bounds {n c m : Nat} (h : 1 ≤ c ∧ c ≤ max n m) (ds : List PageKey) :
    1 ≤ walk n c ds ∧ walk n c ds ≤ max n m := by
  induction ds generalizing c with
  | nil => exact h
  | cons d ds ih => exact ih (turn_bounds h d)

variable {k : KeyPress} {d : PageKey}

theorem triggers_of? (h : of? k = some d) : d.binding.triggers k = true :=
  List.find?_some (p := fun d => binding d |>.triggers k) h

/-- The usual bindings share no key, neither those of the pager with each other nor with those of
the table. -/
theorem triggers_others (h : of? k = some d) :
    (∀ e ∈ both, e ≠ d → e.binding.triggers k = false) ∧
      TableKeys.standard.down.triggers k = false ∧ TableKeys.standard.up.triggers k = false ∧
      TableKeys.standard.select.triggers k = false := by
  have hothers : ∀ j ∈ d.binding.presses,
      (∀ e ∈ both, e ≠ d → e.binding.triggers j = false) ∧
        TableKeys.standard.down.triggers j = false ∧ TableKeys.standard.up.triggers j = false ∧
        TableKeys.standard.select.triggers j = false := by
    cases d <;> decide
  have htriggers := triggers_of? h
  rw [Binding.triggers, Bool.and_eq_true, List.any_eq_true] at htriggers
  obtain ⟨-, j, hj, he⟩ := htriggers
  rw [← of_decide_eq_true he]
  exact hothers j hj

end PageKey

namespace Pager

variable {p : Pager} {k : KeyPress} {d : PageKey}

theorem onLast_eq (p : Pager) : p.onLast = decide (p.pages.toNat ≤ p.current.toNat) := by
  simp only [onLast, UInt64.le_iff_toNat_le]

theorem onFirst_eq (p : Pager) : p.onFirst = decide (p.current.toNat = 1) := by
  rw [onFirst, Bool.eq_iff_iff, beq_iff_eq, decide_eq_true_eq, ← UInt64.toNat_inj]
  rfl

/-- **The page that a press leads to**, if it leads away from the current one. -/
theorem target?_eq (hkeys : p.keys = .standard) (hk : PageKey.of? k = some d)
    (hone : 1 ≤ p.current.toNat) :
    p.target? k =
      if d.turn p.pages.toNat p.current.toNat = p.current.toNat then none
      else some (UInt64.ofNat (d.turn p.pages.toNat p.current.toNat)) := by
  have htriggers := PageKey.triggers_of? hk
  obtain ⟨hothers, -⟩ := PageKey.triggers_others hk
  rw [target?, hkeys, onLast_eq, onFirst_eq]
  cases d with
  | next =>
      have hprevious : PagerKeys.standard.previous.triggers k = false :=
        hothers .previous (by decide) (by decide)
      rw [show PagerKeys.standard.next.triggers k = true from htriggers, hprevious, PageKey.turn]
      by_cases hlt : p.current.toNat < p.pages.toNat
      · have hstep : UInt64.ofNat (p.current.toNat + 1) = p.current + 1 := by
          rw [UInt64.ofNat_add, UInt64.ofNat_toNat]
          rfl
        simp [hlt, hstep]
      · simp [hlt, Nat.not_lt.1 hlt]
  | previous =>
      have hnext : PagerKeys.standard.next.triggers k = false :=
        hothers .next (by decide) (by decide)
      rw [show PagerKeys.standard.previous.triggers k = true from htriggers, hnext, PageKey.turn]
      by_cases hlt : 1 < p.current.toNat
      · have hstep : UInt64.ofNat (p.current.toNat - 1) = p.current - 1 := by
          have hle : (1 : Count) ≤ p.current := UInt64.le_iff_toNat_le.2 hone
          rw [← UInt64.toNat_inj, UInt64.toNat_sub_of_le _ _ hle, UInt64.toNat_one,
            UInt64.toNat_ofNat_of_lt' (Nat.lt_of_le_of_lt (Nat.sub_le _ 1) p.current.toNat_lt)]
        have hne : p.current.toNat ≠ 1 := Nat.ne_of_gt hlt
        have hmoves : p.current.toNat - 1 ≠ p.current.toNat := by omega
        simp [hlt, hne, hmoves, hstep]
      · have hfirst : p.current.toNat = 1 := by omega
        simp [hfirst]

end Pager

/-! ### Steady grids -/

namespace Grid

/-- **A grid is steady** while its pager shows what was asked for: it can fetch, it keeps its
pagination to itself and has the usual keys, page and page size of the pager are those of the
request, and they count from one, as they do in every grid that can come about. -/
structure Steady (g : Grid) : Prop where
  canFetch : g.coordinator.canFetch = true
  plain : g.coordinator.store.paging = none
  pagerKeys : g.pager.keys = .standard
  tableKeys : g.keys = .standard
  page : g.pager.current = g.request.page
  size : g.pager.size = g.request.size
  positive : g.request.Positive

/-- The grid after a page was turned: request and pager are on the page, and a fetch is under
way. -/
def turnedTo (g : Grid) (page : Count) : Grid :=
  { g with
    coordinator :=
      { g.coordinator with
        store := { request := { g.request with page } }
        pager := { g.pager with current := page }
        fetching := true
        issued := g.coordinator.issued + 1 } }

@[simp] theorem request_turnedTo (g : Grid) (page : Count) :
    (g.turnedTo page).request = { g.request with page } := rfl

@[simp] theorem pager_turnedTo (g : Grid) (page : Count) :
    (g.turnedTo page).pager = { g.pager with current := page } := rfl

/-- The fetch of a page. -/
def fetchOf (g : Grid) (page : Count) : Fetch :=
  { owner := g.coordinator.id
    seq := g.coordinator.issued + 1
    request := g.coordinator.prepare { g.request with page }
    finish := g.coordinator.finish }

/-- The page that a key leads to. -/
def pageBy (g : Grid) (d : PageKey) : Nat := d.turn g.pager.pages.toNat g.request.page.toNat

namespace Steady

variable {g : Grid} {page : Count}

/-- Wherever a key leads, there is a page from one on, and a count for it. -/
theorem toNat_pageBy (h : g.Steady) (d : PageKey) :
    1 ≤ (UInt64.ofNat (g.pageBy d)).toNat ∧
      (UInt64.ofNat (g.pageBy d)).toNat = g.pageBy d := by
  have hpages : g.pager.pages.toNat < 2 ^ 64 := g.pager.pages.toNat_lt
  have hpage : g.request.page.toNat < 2 ^ 64 := g.request.page.toNat_lt
  obtain ⟨hone, hmax⟩ :
      1 ≤ g.pageBy d ∧ g.pageBy d ≤ max g.pager.pages.toNat g.request.page.toNat :=
    PageKey.turn_bounds ⟨h.positive.page, Nat.le_max_right _ _⟩ d
  have hcount : (UInt64.ofNat (g.pageBy d)).toNat = g.pageBy d :=
    UInt64.toNat_ofNat_of_lt' (by rw [UInt64.size]; omega)
  exact ⟨by rwa [hcount], hcount⟩

/-- The page goes into the request, and from there to the pager, which shows it already. -/
theorem mergeShown_eq (h : g.Steady) (hone : 1 ≤ page.toNat) :
    (g.withPager (·.setCurrent page)).coordinator.mergeShown (.ofPage page) =
      { g.coordinator with
        store := { request := { g.request with page } }
        pager := { g.pager with current := page } } := by
  have hpage : page.positive = page := Count.positive_eq_self_iff.2 hone
  have hsize : g.request.size.positive = g.pager.size := by
    rw [h.size]
    exact Count.positive_eq_self_iff.2 h.positive.size
  have hmerge : (g.withPager (·.setCurrent page)).coordinator.store.merge (.ofPage page) =
      { request := { g.request with page } } := by
    show g.coordinator.store.merge (.ofPage page) = _
    rw [Store.merge_of_plain h.plain]
    show ({ request := { g.request with page := page.positive } } : Store) = _
    rw [hpage]
  have hpager :
      ((g.withPager (·.setCurrent page)).coordinator.mergeShown (.ofPage page)).pager =
        { g.pager with current := page } := by
    have htouches : (Patch.ofPage page).touchesPagination = true := rfl
    rw [Coordinator.pager_mergeShown, if_pos htouches, hmerge]
    show { g.pager with current := page.positive, size := g.request.size.positive } = _
    rw [hpage, hsize]
  rw [Coordinator.mergeShown_eq, hmerge, hpager]
  rfl

/-- **Turning a page** puts request and pager on it at once, sends one fetch of it, and tells the
host. -/
theorem changePage_eq (h : g.Steady) (hone : 1 ≤ page.toNat) :
    g.changePage page =
      (g.turnedTo page, { fetch := some (g.fetchOf page), events := [.page page] }) := by
  have hcan : (g.withPager (·.setCurrent page)).coordinator.canFetch = true := h.canFetch
  rw [changePage_of_plain h.plain, load_of_canFetch hcan, h.mergeShown_eq hone]
  rfl

theorem turnedTo (h : g.Steady) (hone : 1 ≤ page.toNat) : (g.turnedTo page).Steady where
  canFetch := h.canFetch
  plain := rfl
  pagerKeys := h.pagerKeys
  tableKeys := h.tableKeys
  page := rfl
  size := h.size
  positive := ⟨hone, h.positive.size⟩

theorem target?_eq (h : g.Steady) {k : KeyPress} {d : PageKey} (hk : PageKey.of? k = some d) :
    g.pager.target? k =
      if g.pageBy d = g.request.page.toNat then none else some (UInt64.ofNat (g.pageBy d)) := by
  have htarget := Pager.target?_eq h.pagerKeys hk
  rw [h.page] at htarget
  exact htarget h.positive.page

/-- **Pressing a page key** turns to the page that it leads to, and does nothing where it leads
nowhere. -/
theorem press_eq (h : g.Steady) {k : KeyPress} {d : PageKey} (hk : PageKey.of? k = some d) :
    g.press k =
      if g.pageBy d = g.request.page.toNat then (g, {})
      else
        (g.turnedTo (UInt64.ofNat (g.pageBy d)),
          { fetch := some (g.fetchOf (UInt64.ofNat (g.pageBy d)))
            events := [.page (UInt64.ofNat (g.pageBy d))] }) := by
  rw [press, h.target?_eq hk]
  by_cases hstays : g.pageBy d = g.request.page.toNat
  · -- the press goes on to the table, which has no use for it
    obtain ⟨-, hdown, hup, hselect⟩ := PageKey.triggers_others hk
    rw [if_pos hstays, if_pos hstays]
    simp [h.tableKeys, hdown, hup, hselect]
  · rw [if_neg hstays, if_neg hstays]
    exact h.changePage_eq (h.toNat_pageBy d).1

end Steady

/-! ### Runs of presses -/

/-- **A grid was turned to a page by keys**: it is steady and on that page, and apart from the page
its request and its pager are what they were. -/
structure TurnedFrom (g h : Grid) (c : Nat) : Prop where
  steady : h.Steady
  page : h.request.page.toNat = c
  request : h.request = { g.request with page := UInt64.ofNat c }
  pager : h.pager = { g.pager with current := UInt64.ofNat c }
  prepare : h.coordinator.prepare = g.coordinator.prepare

namespace TurnedFrom

variable {g h : Grid} {c : Nat}

theorem refl (hg : g.Steady) : g.TurnedFrom g g.request.page.toNat where
  steady := hg
  page := rfl
  request := by rw [UInt64.ofNat_toNat]
  pager := by rw [UInt64.ofNat_toNat, ← hg.page]
  prepare := rfl

/-- The number of pages stays, so a key leads from a page where it led from it before. -/
theorem pageBy_eq (t : g.TurnedFrom h c) (d : PageKey) :
    h.pageBy d = d.turn g.pager.pages.toNat c := by
  have hpages : h.pager.pages = g.pager.pages := by rw [t.pager]; rfl
  rw [pageBy, hpages, t.page]

theorem press (t : g.TurnedFrom h c) {k : KeyPress} {d : PageKey} (hk : PageKey.of? k = some d) :
    g.TurnedFrom (h.press k).1 (d.turn g.pager.pages.toNat c) := by
  rw [t.steady.press_eq hk, t.page, t.pageBy_eq]
  split
  · next hstays => rwa [hstays]
  · obtain ⟨hone, hcount⟩ := t.steady.toNat_pageBy d
    rw [t.pageBy_eq] at hone hcount
    constructor
    · exact t.steady.turnedTo hone
    · exact hcount
    · rw [request_turnedTo, t.request]
    · rw [pager_turnedTo, t.pager]
    · exact t.prepare

end TurnedFrom

/-- The page to which some presses walk. -/
def pageAfter (g : Grid) (ks : List KeyPress) : Nat :=
  PageKey.walk g.pager.pages.toNat g.request.page.toNat (ks.filterMap PageKey.of?)

end Grid

namespace GridSession

/-- The session after some presses, with nothing else in between. -/
def presses (s : GridSession) (ks : List KeyPress) : GridSession :=
  ks.foldl (fun s k => s.operate (.press k)) s

/-- **In every run of presses** the grid is turned to the page to which the keys walk. -/
theorem turnedFrom_presses {g : Grid} {s : GridSession} {c : Nat} (t : g.TurnedFrom s.grid c)
    {ks : List KeyPress} (hks : ∀ k ∈ ks, (PageKey.of? k).isSome) :
    g.TurnedFrom (s.presses ks).grid
      (PageKey.walk g.pager.pages.toNat c (ks.filterMap PageKey.of?)) := by
  induction ks generalizing s c with
  | nil => exact t
  | cons k ks ih =>
      obtain ⟨hk, hrest⟩ := List.forall_mem_cons.1 hks
      obtain ⟨d, hd⟩ := Option.isSome_iff_exists.1 hk
      rw [List.filterMap_cons_some hd]
      exact ih (s := s.operate (.press k)) (t.press hd) hrest

/-- **What a press that turns the page does to a session.** -/
structure Turns (s : GridSession) (k : KeyPress) (page : Count) : Prop where
  /-- One fetch is sent, of the request as it was but for the page. -/
  sent : ∃ f, (s.operate (.press k)).sent = s.sent ++ [f] ∧
    f.request = s.grid.coordinator.prepare { s.grid.request with page }
  /-- The host is told one thing. -/
  told : (s.operate (.press k)).told = s.told ++ [.page page]

/-- A press of a page key turns the page, or nothing happens. -/
theorem operate_press {s : GridSession} (h : s.grid.Steady) {k : KeyPress} {d : PageKey}
    (hk : PageKey.of? k = some d) :
    if s.grid.pageBy d = s.grid.request.page.toNat then s.operate (.press k) = s
    else s.Turns k (UInt64.ofNat (s.grid.pageBy d)) := by
  have hpress := h.press_eq hk
  split
  · next hstays =>
      rw [if_pos hstays] at hpress
      rw [operate, Grid.operate, hpress, after]
      simp
  · next hmoves =>
      rw [if_neg hmoves] at hpress
      constructor
      · refine ⟨s.grid.fetchOf (UInt64.ofNat (s.grid.pageBy d)), ?_, rfl⟩
        rw [operate, Grid.operate, hpress]
        rfl
      · rw [operate, Grid.operate, hpress]
        rfl

/-- **What every run of presses asks for.**  From a steady grid, which may be on a page beyond the
last one, let page keys be pressed any number of times, with no response in between:

* request and pager are on the page to which the keys walk in exact arithmetic, and apart from the
  page they are as they were;
* that page is never before the first one, nor beyond the last one and the one where the walk began;
* the next press of a page key sends one fetch of the page to which the key leads, of a request that
  is otherwise as it was, and tells the host that page; where the key leads nowhere, nothing
  happens. -/
theorem presses_walk {g : Grid} (h : g.Steady) {ks : List KeyPress}
    (hks : ∀ k ∈ ks, (PageKey.of? k).isSome) :
    g.TurnedFrom ((ofGrid g).presses ks).grid (g.pageAfter ks) ∧
    (1 ≤ g.pageAfter ks ∧ g.pageAfter ks ≤ max g.pager.pages.toNat g.request.page.toNat) ∧
    ∀ k d, PageKey.of? k = some d →
      if d.turn g.pager.pages.toNat (g.pageAfter ks) = g.pageAfter ks then
        ((ofGrid g).presses ks).operate (.press k) = (ofGrid g).presses ks
      else
        ((ofGrid g).presses ks).Turns k
          (UInt64.ofNat (d.turn g.pager.pages.toNat (g.pageAfter ks))) := by
  have t : g.TurnedFrom ((ofGrid g).presses ks).grid (g.pageAfter ks) :=
    turnedFrom_presses (s := ofGrid g) (.refl h) hks
  refine ⟨t, PageKey.walk_bounds ⟨h.positive.page, Nat.le_max_right _ _⟩ _, fun k d hk => ?_⟩
  rw [← t.pageBy_eq, ← t.page]
  exact operate_press t.steady hk

/-- Sixty rows on three pages, and a request for the fifth one. -/
def beyondGrid : Grid :=
  { Grid.ofSchema 0 {} [] with
    coordinator :=
      { Coordinator.ofStore 0 (.ofPage 5 20) with
        canFetch := true
        prepare := fun r => r.set "lang" (.string "en")
        pager := { current := 5, size := 20, total := 60 } } }

/-- Forth in vain, back three times, and forth to the last page. -/
def wander : List KeyPress :=
  [{ key := .right }, { key := .char 'h' }, { key := .left }, { key := .pageUp },
    { key := .pageDown }]

theorem presses_walk_beyond :
    beyondGrid.Steady ∧ (∀ k ∈ wander, (PageKey.of? k).isSome) ∧
      ((ofGrid beyondGrid).presses wander).grid.request.page = 3 ∧
      PageKey.of? { key := .char 'l' } = some .next ∧
      ((ofGrid beyondGrid).presses wander).operate (.press { key := .char 'l' }) =
        (ofGrid beyondGrid).presses wander ∧
      PageKey.of? { key := .left } = some .previous ∧
      ((ofGrid beyondGrid).presses wander).Turns { key := .left } 2 := by
  have hsteady : beyondGrid.Steady :=
    ⟨rfl, rfl, rfl, rfl, rfl, rfl, by decide, by decide⟩
  have hwander : ∀ k ∈ wander, (PageKey.of? k).isSome := by decide
  obtain ⟨hturned, -, hnext⟩ := presses_walk hsteady hwander
  have hafter : beyondGrid.pageAfter wander = 3 := by decide
  have hon := hnext { key := .char 'l' } .next (by decide)
  have hback := hnext { key := .left } .previous (by decide)
  rw [if_pos (by decide)] at hon
  rw [if_neg (by decide), hafter] at hback
  refine ⟨hsteady, hwander, ?_, by decide, hon, by decide, hback⟩
  rw [hturned.request, hafter]
  rfl

end GridSession

end RecordGrid
