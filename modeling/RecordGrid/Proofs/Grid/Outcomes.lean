/-
**What comes of calls and key presses.**

There are many ways to use a grid and few things that come of them.  The first load, the calls of
the host, its reports of the address bar and the keys of the pager all end in a load, in a turn of
the page in the address bar, or in nothing; before a load the filter form may have been put back, or
the pager turned.  Any other key moves the cursor or is the select key.  What holds of these few
holds of everything that a user can do.

Main definitions:

* `RecordGrid.Grid.Readied` — a grid about to load;
* `RecordGrid.Grid.Amounts` — what comes of a call;
* `RecordGrid.Grid.PressesSelect`, `RecordGrid.Grid.PressesRow` — the select key is pressed, and it
  is pressed on a row with a key.

Main results:

* `RecordGrid.Grid.amounts_start`, `amounts_call`, `amounts_urlChanged` — what comes of a load, a
  call and a report;
* `RecordGrid.Grid.press_amounts` — **what comes of a key press**;
* `RecordGrid.Grid.PressesRow.press_eq` — and what the select key does.
-/

import RecordGrid.Proofs.Grid.Operations

set_option relaxedAutoImplicit false
set_option autoImplicit false

namespace RecordGrid.Grid

/-! ### Loads and turns of the page -/

/-- A grid about to load: as it was, with its filter form put back, or with its pager turned. -/
inductive Readied (g : Grid) : Grid → Prop where
  | same : Readied g g
  | reset {form : FilterForm} (h : g.filters = some form) :
      Readied g { g with filters := some form.reset }
  | turned (page : Count) : Readied g (g.withPager (·.setCurrent page))
  | resized (size : Count) : Readied g (g.withPager fun p => (p.setSize size).setCurrent 1)

/-- What comes of a call: a load, a turn of the page in the address bar, or nothing. -/
inductive Amounts (g : Grid) : Grid × Effect → Prop where
  | nothing : Amounts g (g, {})
  | load {h : Grid} (hh : g.Readied h) (patch : Option Patch) (events : List GridEvent) :
      Amounts g (h.load patch events)
  | turn (page size : Option Count) (events : List GridEvent) :
      Amounts g (g.paginate page size, { events })

variable {g : Grid}

theorem amounts_start (g : Grid) : g.Amounts g.start := by
  unfold start
  split
  · exact .nothing
  · split
    · exact .load .same _ _
    · exact .load .same _ _

theorem amounts_changePage (g : Grid) (page : Count) : g.Amounts (g.changePage page) := by
  unfold changePage
  split
  · exact .turn _ _ _
  · exact .load (.turned page) _ _

theorem amounts_call (g : Grid) (c : Call) : g.Amounts (g.call c) := by
  cases c with
  | search text =>
      rw [call, search]
      exact .load .same _ _
  | sort p =>
      rw [call, sort]
      exact .load .same _ _
  | filter p =>
      rw [call, filter]
      exact .load .same _ _
  | filtersReady p =>
      rw [call, filtersReady, if_pos rfl]
      exact .load .same _ _
  | applyFilters =>
      rw [call, applyFilters]
      split
      · exact .load .same _ _
      · exact .nothing
  | resetFilters =>
      rw [call, resetFilters]
      split
      · next form hform => exact .load (.reset hform) _ _
      · exact .nothing
  | changePage page => exact g.amounts_changePage page
  | changePageSize size =>
      rw [call, changePageSize]
      split
      · exact .turn _ _ _
      · exact .load (.resized size) _ _

theorem amounts_urlChanged (g : Grid) : g.Amounts g.urlChanged := by
  unfold urlChanged
  split
  · exact .load .same _ _
  · exact .nothing

/-! ### Key presses -/

/-- A press that the grid takes for the select key: it turns no page and does not move the
cursor. -/
structure PressesSelect (g : Grid) (p : KeyPress) : Prop where
  target : g.pager.target? p = none
  down : g.keys.down.triggers p = false
  up : g.keys.up.triggers p = false
  select : g.keys.select.triggers p = true

/-- The select key is pressed while the cursor is on a row with a key. -/
structure PressesRow (g : Grid) (p : KeyPress) (row : Row) (key : Json) : Prop
    extends PressesSelect g p where
  onRow : g.rows[g.cursor]? = some row
  hasKey : row.get? g.selection.rowKey = some key

theorem PressesSelect.press_eq {p : KeyPress} (h : g.PressesSelect p) :
    g.press p = g.flipCursorRow := by
  rw [press, h.target]
  simp only [h.down, h.up, h.select, if_true, Bool.false_eq_true, if_false]

/-- The select key selects rows anew: those that were selected, with the row flipped. -/
theorem PressesRow.press_eq {p : KeyPress} {row : Row} {key : Json}
    (h : g.PressesRow p row key) : g.press p = g.selectRows (g.selection.flip key row) := by
  rw [h.toPressesSelect.press_eq, flipCursorRow, h.onRow]
  simp only [h.hasKey]

/-- Where the cursor is on no row, or on one without a key, the select key does nothing. -/
theorem PressesSelect.flipCursorRow_cases {p : KeyPress} (h : g.PressesSelect p) :
    g.flipCursorRow = (g, {}) ∨ ∃ row key, g.PressesRow p row key := by
  unfold flipCursorRow
  split
  · exact Or.inl rfl
  · next row hrow =>
      split
      · exact Or.inl rfl
      · next key hkey => exact Or.inr ⟨row, key, h, hrow, hkey⟩

/-- **What comes of a key press**: what comes of a call, another place for the cursor, or rows
selected anew. -/
theorem press_amounts (g : Grid) (p : KeyPress) :
    g.Amounts (g.press p) ∨ (∃ cursor, g.press p = ({ g with cursor }, {})) ∨
      ∃ row key, g.PressesRow p row key := by
  unfold press
  split
  · exact Or.inl (g.amounts_changePage _)
  · next htarget =>
      split
      · exact Or.inr (Or.inl ⟨_, rfl⟩)
      · next hdown =>
          split
          · exact Or.inr (Or.inl ⟨_, rfl⟩)
          · next hup =>
              split
              · next hselect =>
                  have hpress : g.PressesSelect p :=
                    ⟨htarget, Bool.eq_false_iff.2 hdown, Bool.eq_false_iff.2 hup, hselect⟩
                  rcases hpress.flipCursorRow_cases with hnone | hrow
                  · rw [hnone]
                    exact Or.inl .nothing
                  · exact Or.inr (Or.inr hrow)
              · exact Or.inl .nothing

end RecordGrid.Grid
