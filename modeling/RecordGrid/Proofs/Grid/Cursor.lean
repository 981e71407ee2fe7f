/-
**Where the cursor is when the rows change.**

The rows of a grid belong to its coordinator and the cursor to its table, so whatever replaces the
rows has to look after the cursor as well.  The cursor keys keep it among the rows, and an arrival
puts it back there.  A listing that the host hands to the coordinator does not: it replaces the rows
behind the back of the table.  So the cursor is among the rows throughout exactly when every listing
handed in has room for it, and one that is too short leaves it on no row at all until the next
arrival or the next cursor key.

Main definitions:

* `RecordGrid.Grid.CursorInRange` — the cursor is on a row, or on the first line where there is
  none;
* `RecordGrid.Grid.Happening`, `RecordGrid.Grid.happenings` — operations and arrivals, and a list of
  them.

Main results:

* `RecordGrid.Grid.cursorInRange_operate`, `cursorInRange_receive` — what one operation keeps, and
  what an arrival brings about;
* `RecordGrid.Grid.cursorInRange_happenings_iff` — **when the cursor stays among the rows**;
* `RecordGrid.Grid.short_listing_strands_cursor` — a listing that is too short.
-/

import Mathlib.Data.List.Induction
import RecordGrid.Proofs.Grid.Operations

set_option relaxedAutoImplicit false
set_option autoImplicit false

namespace RecordGrid.Grid

/-! ### The cursor and the rows -/

/-- The cursor is on one of the rows, or on the first line when there are no rows. -/
def CursorInRange (g : Grid) : Prop := g.cursor < g.rows.length ∨ (g.rows = [] ∧ g.cursor = 0)

instance (g : Grid) : Decidable g.CursorInRange :=
  decidable_of_iff (g.cursor < g.rows.length ∨ (g.rows.length = 0 ∧ g.cursor = 0))
    (by rw [List.length_eq_zero_iff, CursorInRange])

theorem cursorInRange_iff (g : Grid) : g.CursorInRange ↔ g.cursor ≤ g.rows.length - 1 := by
  cases h : g.rows with
  | nil => simp [CursorInRange, h]
  | cons row rows =>
      simp only [CursorInRange, h, List.length_cons]
      constructor
      · rintro (hlt | ⟨hnil, -⟩)
        · omega
        · cases hnil
      · intro hle
        exact Or.inl (by omega)

/-- With the cursor among the rows, the select key has a row to act on. -/
theorem CursorInRange.exists_row {g : Grid} (h : g.CursorInRange) (hne : g.rows ≠ []) :
    ∃ row ∈ g.rows, g.rows[g.cursor]? = some row := by
  rcases h with hlt | ⟨hnil, -⟩
  · exact ⟨g.rows[g.cursor], List.getElem_mem hlt, List.getElem?_eq_getElem hlt⟩
  · exact absurd hnil hne

/-- A new grid has no rows, and its cursor is on the first line. -/
theorem cursorInRange_ofSchema (id : Nat) (config : GridConfig) (schema : List Column) :
    (ofSchema id config schema).CursorInRange := Or.inr ⟨rfl, rfl⟩

/-! ### What leaves the table alone -/

/-- Neither the rows nor the cursor differ. -/
structure SameTable (g h : Grid) : Prop where
  rows : h.rows = g.rows
  cursor : h.cursor = g.cursor

namespace SameTable

variable {g h : Grid}

theorem refl (g : Grid) : g.SameTable g := ⟨rfl, rfl⟩

theorem cursorInRange_iff (t : g.SameTable h) : h.CursorInRange ↔ g.CursorInRange := by
  rw [CursorInRange, t.rows, t.cursor, CursorInRange]

/-- A load changes the request, the pager, and whether anything is loading. -/
theorem load (t : g.SameTable h) (patch : Option Patch) (events : List GridEvent) :
    g.SameTable (h.load patch events).1 := by
  show g.SameTable { h with coordinator := (h.coordinator.load patch).1 }
  refine ⟨?_, t.cursor⟩
  rw [← t.rows, Coordinator.load_eq]
  split
  · show (h.coordinator.patched patch).rows = h.coordinator.rows
    rw [Coordinator.patched_eq]
  · rfl

theorem start (g : Grid) : g.SameTable g.start.1 := by
  unfold Grid.start
  split
  · exact refl g
  · split
    · exact (refl g).load _ _
    · exact (refl g).load _ _

theorem call (g : Grid) (c : Call) : g.SameTable (g.call c).1 := by
  rcases g.call_cases c with hc | ⟨filters, turn, patch, events, hc⟩ | ⟨page, size, events, hc⟩
  · rw [hc]
    exact refl g
  · have t : g.SameTable (Grid.withPager { g with filters } turn) := ⟨rfl, rfl⟩
    rw [hc]
    exact t.load patch events
  · rw [hc]
    exact ⟨rfl, rfl⟩

theorem urlChanged (g : Grid) : g.SameTable g.urlChanged.1 := by
  unfold Grid.urlChanged
  split
  · exact (refl g).load _ _
  · exact refl g

theorem flipCursorRow (g : Grid) : g.SameTable g.flipCursorRow.1 := by
  unfold Grid.flipCursorRow
  split
  · exact refl g
  · split
    · exact refl g
    · exact ⟨rfl, rfl⟩

end SameTable

/-- A key press leaves the table alone, or moves the cursor by one row. -/
theorem press_cases (g : Grid) (k : KeyPress) :
    g.SameTable (g.press k).1 ∨
      (g.press k).1 = { g with cursor := Cursor.next g.cursor g.rows.length } ∨
      (g.press k).1 = { g with cursor := Cursor.previous g.cursor g.rows.length } := by
  unfold press
  split
  · exact Or.inl (SameTable.call g (.changePage _))
  · split
    · exact Or.inr (Or.inl rfl)
    · split
      · exact Or.inr (Or.inr rfl)
      · split
        · exact Or.inl (SameTable.flipCursorRow g)
        · exact Or.inl (SameTable.refl g)

/-! ### What one operation keeps -/

/-- Moving by one row keeps the cursor among the rows; where there are none it stays. -/
theorem cursorInRange_moved {g : Grid} {n : Nat} (h : g.CursorInRange)
    (hmoved : 0 < g.rows.length → n < g.rows.length) (hstays : g.rows.length = 0 → n = g.cursor) :
    CursorInRange { g with cursor := n } := by
  rcases Nat.eq_zero_or_pos g.rows.length with hzero | hpos
  · rw [hstays hzero]
    exact h
  · exact Or.inl (hmoved hpos)

theorem cursorInRange_press {g : Grid} (h : g.CursorInRange) (k : KeyPress) :
    (g.press k).1.CursorInRange := by
  rcases g.press_cases k with hk | hk | hk
  · exact hk.cursorInRange_iff.2 h
  · rw [hk]
    exact cursorInRange_moved h Cursor.next_lt fun hzero => by simp [Cursor.next, hzero]
  · rw [hk]
    exact cursorInRange_moved h Cursor.previous_lt fun hzero => by simp [Cursor.previous, hzero]

/-- A listing handed in replaces the rows and leaves the cursor where it is. -/
theorem cursorInRange_reconcile_iff (g : Grid) (l : Listing) :
    (g.operate (.reconcile l)).1.CursorInRange ↔ g.cursor ≤ l.rows.length - 1 :=
  cursorInRange_iff _

/-- **Every operation keeps the cursor among the rows**, apart from handing in a listing. -/
theorem cursorInRange_operate {g : Grid} (h : g.CursorInRange) {o : Operation}
    (ho : ∀ l, o ≠ .reconcile l) : (g.operate o).1.CursorInRange := by
  cases o with
  | start => exact (SameTable.start g).cursorInRange_iff.2 h
  | load patch => exact ((SameTable.refl g).load patch []).cursorInRange_iff.2 h
  | call c => exact (SameTable.call g c).cursorInRange_iff.2 h
  | edit field value =>
      rw [operate, edit_eq]
      exact h
  | urlChanged => exact (SameTable.urlChanged g).cursorInRange_iff.2 h
  | press k => exact cursorInRange_press h k
  | reconcile l => exact absurd rfl (ho l)
  | _ => exact h

/-- **An arrival of the grid's own puts the cursor among the rows**, wherever it was. -/
theorem cursorInRange_receive_own (g : Grid) {a : Arrival} (ha : a.owner = g.coordinator.id) :
    (g.receive a).1.CursorInRange := by
  rw [cursorInRange_iff, receive, if_pos (Coordinator.consumed_receive_iff.2 ha)]
  exact Nat.min_le_right _ _

theorem cursorInRange_receive {g : Grid} (h : g.CursorInRange) (a : Arrival) :
    (g.receive a).1.CursorInRange := by
  by_cases ha : a.owner = g.coordinator.id
  · exact g.cursorInRange_receive_own ha
  · rw [receive_of_ne ha]
    exact h

/-! ### Runs -/

/-- What can happen to a grid. -/
inductive Happening where
  /-- Something is done to it. -/
  | operate (o : Operation)
  /-- An arrival is handed to it. -/
  | receive (a : Arrival)

/-- The host hands in a listing that it already has. -/
def Happening.reconcile (l : Listing) : Happening := .operate (.reconcile l)

/-- The grid after something happened to it. -/
def happen (g : Grid) : Happening → Grid
  | .operate o => (g.operate o).1
  | .receive a => (g.receive a).1

/-- The grid after a list of happenings. -/
def happenings (g : Grid) (hs : List Happening) : Grid := hs.foldl happen g

theorem happenings_concat (g : Grid) (es : List Happening) (e : Happening) :
    g.happenings (es ++ [e]) = (g.happenings es).happen e := List.foldl_append

theorem cursorInRange_happen {g : Grid} (h : g.CursorInRange) {e : Happening}
    (he : ∀ l, e = .reconcile l → g.cursor ≤ l.rows.length - 1) : (g.happen e).CursorInRange := by
  cases e with
  | operate o =>
      by_cases ho : ∃ l, o = .reconcile l
      · obtain ⟨l, rfl⟩ := ho
        exact (g.cursorInRange_reconcile_iff l).2 (he l rfl)
      · exact cursorInRange_operate h fun l hl => ho ⟨l, hl⟩
  | receive a => exact cursorInRange_receive h a

/-- **The cursor stays among the rows exactly as long as every listing handed in has room for it.**
Begin with the cursor among the rows, as it is in a new grid, and let anything happen: operations of
all kinds and arrivals, own and foreign, in any order.  The cursor is on a row, or on the first line
when there are none, at every point of the run exactly when no listing is handed to the coordinator
that is too short for the cursor of that moment. -/
theorem cursorInRange_happenings_iff {g : Grid} (h : g.CursorInRange) (es : List Happening) :
    (∀ past rest, es = past ++ rest → (g.happenings past).CursorInRange) ↔
      ∀ past l rest, es = past ++ .reconcile l :: rest →
        (g.happenings past).cursor ≤ l.rows.length - 1 := by
  constructor
  · intro hall past l rest hes
    have hafter := hall (past ++ [.reconcile l]) rest (by simp [hes])
    rw [happenings_concat] at hafter
    exact (cursorInRange_reconcile_iff _ l).1 hafter
  · intro hroom past
    -- by induction on the run so far: one more happening keeps the cursor among the rows
    induction past using List.reverseRecOn with
    | nil => exact fun _ _ => h
    | append_singleton past e ih =>
        intro rest hes
        rw [happenings_concat]
        refine cursorInRange_happen (ih (e :: rest) (by simp [hes])) fun l hl => ?_
        exact hroom past l rest (by simp [hes, hl])

/-- A listing of rows that have nothing but a number. -/
def listingOf (ids : List UInt64) : Listing :=
  { rows := ids.map fun i => KeyMap.ofList [("id", .number (.nat i))] }

/-- A key is pressed, with nothing held. -/
def pressOf (k : Key) : Happening := .operate (.press { key := k })

/-- A grid without rows. -/
def emptyGrid : Grid := ofSchema 0 {} []

/-- Three rows are handed in, the cursor moves up to the last of them and down again, and two other
rows are handed in. -/
def roomyRun : List Happening :=
  [.reconcile (listingOf [1, 2, 3]), pressOf .up, pressOf .down, .reconcile (listingOf [4, 5])]

/-- The cursor, which was on the third row meanwhile, is on the first one of the two. -/
theorem cursorInRange_happenings_iff_roomyRun :
    emptyGrid.CursorInRange ∧ (emptyGrid.happenings (roomyRun.take 2)).cursor = 2 ∧
      (emptyGrid.happenings roomyRun).CursorInRange := by
  have hnew : emptyGrid.CursorInRange := cursorInRange_ofSchema 0 {} []
  have hroom : ∀ past l rest, roomyRun = past ++ .reconcile l :: rest →
      (emptyGrid.happenings past).cursor ≤ l.rows.length - 1 := by
    -- the listings are the first happening and the last one
    rintro (_ | ⟨e₁, _ | ⟨e₂, _ | ⟨e₃, _ | ⟨e₄, past⟩⟩⟩⟩) l rest hes <;>
      simp only [roomyRun, pressOf, Happening.reconcile, List.nil_append, List.cons_append,
        List.cons.injEq, Happening.operate.injEq, Operation.reconcile.injEq, reduceCtorEq,
        false_and, and_false, List.nil_eq, List.append_eq_nil_iff] at hes
    · obtain ⟨rfl, -⟩ := hes
      decide +kernel
    · obtain ⟨rfl, rfl, rfl, rfl, -⟩ := hes
      decide +kernel
  have hall := (cursorInRange_happenings_iff hnew roomyRun).2 hroom
  exact ⟨hnew, by decide +kernel, hall roomyRun [] (by simp)⟩

/-- The cursor is on the third of three rows when a single row is handed in. -/
def shrunkRun : List Happening :=
  [.reconcile (listingOf [1, 2, 3]), pressOf .down, pressOf .down, .reconcile (listingOf [4])]

/-- **A listing that is too short strands the cursor**: it stays on the third row although there is
one row only, and the select key has nothing to act on. -/
theorem short_listing_strands_cursor :
    emptyGrid.CursorInRange ∧ (emptyGrid.happenings shrunkRun).cursor = 2 ∧
      (emptyGrid.happenings shrunkRun).rows.length = 1 ∧
      ¬ (emptyGrid.happenings shrunkRun).CursorInRange ∧
      (emptyGrid.happenings (shrunkRun ++ [pressOf (.char ' ')])).selection.keys = [] := by
  decide +kernel

end RecordGrid.Grid
