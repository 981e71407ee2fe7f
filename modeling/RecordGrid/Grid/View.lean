/-
**Drawing a grid.**

Below the table stands a status line: the page indicator, the total, the number of selected rows
if there are any, and a word while something is loading.

Main definitions:

* `RecordGrid.Grid.frame` — what the table shows;
* `RecordGrid.Grid.statusLine`, `RecordGrid.Grid.view`.
-/

import RecordGrid.Grid.Basic
import RecordGrid.Table.View

set_option relaxedAutoImplicit false
set_option autoImplicit false

namespace RecordGrid.Grid

/-- What the table of a grid shows. -/
def frame (g : Grid) : TableFrame :=
  { columns := g.columns.visible
    rows := g.rows
    summary := g.coordinator.summary
    density := g.columns.density
    rowKey := g.selection.rowKey
    selected := g.selection.keys
    cursor := g.cursor
    styles := g.styles }

/-- The line below the table. -/
def statusLine (g : Grid) : String :=
  g.pager.view ++ "  " ++ toString g.pager.total.toNat ++ " total"
    ++ (if g.selection.rows.isEmpty then ""
        else "  " ++ toString g.selection.rows.length ++ " selected")
    ++ (if g.loading then "  loading…" else "")

/-- The grid as text. -/
def view (g : Grid) : String := g.frame.view ++ "\n\n" ++ g.statusLine

end RecordGrid.Grid
