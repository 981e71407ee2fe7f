/-
**Drawing a table.**

A table is drawn line by line: a header, a rule, the rows or a note that there are none, and below
another rule the summary.  Before each line there is room for four characters, in which rows show
the cursor and whether they are selected.  A column is as wide as it says, or as its widest cell
or title but no wider than a limit.  How a line shows its style is left to a renderer, which the
layout does not look into.

Main definitions:

* `RecordGrid.cellText` — the text of a cell;
* `RecordGrid.TableFrame` — everything that is drawn;
* `RecordGrid.TableFrame.columnWidth`, `RecordGrid.TableFrame.line` — the layout of a line;
* `RecordGrid.TableFrame.viewWith` — the table, shown by some renderer;
* `RecordGrid.TableFrame.view` — the table, shown by the usual one.
-/

import RecordGrid.Columns.Basic
import RecordGrid.Json.Writer
import RecordGrid.Selection
import RecordGrid.Table.Style

set_option relaxedAutoImplicit false
set_option autoImplicit false

namespace RecordGrid

/-! ### Cells -/

/-- The text of a cell: nothing for a missing value and for `null`, a text as it is, and any other
value as compact JSON. -/
def cellText : Option Json → String
  | none => ""
  | some .null => ""
  | some (.string s) => s
  | some j => j.text

/-! ### Frames -/

/-- What a table shows. -/
structure TableFrame where
  /-- The columns, in the order of display. -/
  columns : List Column
  /-- The rows. -/
  rows : List Row
  /-- The summary row, if there is one. -/
  summary : Option Row := none
  /-- How densely rows are drawn. -/
  density : Density := .medium
  /-- The field that holds the key of a row. -/
  rowKey : String := "id"
  /-- The keys of the selected rows. -/
  selected : List Json := []
  /-- The row under the cursor. -/
  cursor : Nat := 0
  /-- The styles of the lines. -/
  styles : TableStyles := .standard

namespace TableFrame

/-- A column without a width of its own takes at most so many cells. -/
def maxAutoWidth : Nat := 40

/-- The text of a row in a column. -/
def cell (column : Column) (row : Row) : List Char := (cellText (row.get? column.key)).toList

/-- The width of a column. -/
def columnWidth (f : TableFrame) (column : Column) : Nat :=
  match column.width with
  | some n => n.toNat
  | none =>
      let cells := (f.rows ++ f.summary.toList).map fun row => Text.width (cell column row)
      min (cells.foldl max (Text.width column.title.toList)) maxAutoWidth

/-- A cell of a column, with the padding at its sides. -/
def padded (f : TableFrame) (column : Column) (cs : List Char) : List Char :=
  let pad := List.replicate f.density.padding ' '
  pad ++ Text.fit cs (f.columnWidth column) ++ pad

/-- One cell for each column, with separators between. -/
def line (f : TableFrame) (content : Column → List Char) : List Char :=
  ['│'].intercalate (f.columns.map fun column => f.padded column (content column))

/-- The length of a rule. -/
def ruleWidth (f : TableFrame) : Nat :=
  f.columns.foldr (fun column n => f.columnWidth column + 2 * f.density.padding + n) 0
    + (f.columns.length - 1)

/-- The room before a line. -/
def margin : List Char := [' ', ' ', ' ', ' ']

/-- A rule across the table. -/
def rule (f : TableFrame) : List Char := margin ++ List.replicate f.ruleWidth '─'

/-- What stands before a row. -/
def marker (atCursor selected : Bool) : List Char :=
  [if atCursor then '>' else ' ', ' ', if selected then '✓' else ' ', ' ']

/-- Whether a row is selected. -/
def isSelected (f : TableFrame) (row : Row) : Bool :=
  (row.get? f.rowKey).any (Selection.holds f.selected)

/-! ### Lines

Each line is handed to the renderer in the style that it has, rules apart. -/

/-- The lines of the row with number `i`. -/
def rowLines (f : TableFrame) (render : Renderer) (i : Nat) (row : Row) : List (List Char) :=
  let atCursor := i == f.cursor
  let style := if atCursor then f.styles.cursor else f.styles.row
  render style (marker atCursor (f.isSelected row) ++ f.line fun column => cell column row)
    :: List.replicate f.density.spacing []

/-- The lines of rows with numbers from `i` on. -/
def rowsLines (f : TableFrame) (render : Renderer) (i : Nat) : List Row → List (List Char)
  | [] => []
  | row :: rows => f.rowLines render i row ++ f.rowsLines render (i + 1) rows

/-- The header. -/
def headerLine (f : TableFrame) (render : Renderer) : List Char :=
  render f.styles.header (margin ++ f.line fun column => column.title.toList)

/-- The lines in place of rows when there are none. -/
def vacantLines (f : TableFrame) (render : Renderer) : List (List Char) :=
  if f.rows.isEmpty then [render f.styles.vacant (margin ++ "No data".toList)] else []

/-- The lines of the summary, if there is one. -/
def summaryLines (f : TableFrame) (render : Renderer) : List (List Char) :=
  match f.summary with
  | some row =>
      [f.rule, render f.styles.summary (margin ++ f.line fun column => cell column row)]
  | none => []

/-- The lines of the table. -/
def tableLines (f : TableFrame) (render : Renderer) : List (List Char) :=
  f.headerLine render :: f.rule :: f.vacantLines render ++ f.rowsLines render 0 f.rows
    ++ f.summaryLines render

/-- The table, shown by a renderer. -/
def viewWith (f : TableFrame) (render : Renderer) : String :=
  String.ofList (['\n'].intercalate (f.tableLines render))

/-- The table, shown by the usual renderer. -/
def view (f : TableFrame) : String := f.viewWith Style.render

end TableFrame

end RecordGrid
