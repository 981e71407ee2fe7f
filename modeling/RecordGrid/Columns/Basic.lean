/-
**Columns: what is shown, in which order, how densely.**

The schema of a grid lists its columns.  Over it lies an overlay with one entry for each column,
which the user may hide, show and reorder without touching the schema.

Main definitions:

* `RecordGrid.Column`, `RecordGrid.Density` — what the schema lists, and how rows are spaced;
* `RecordGrid.ColumnState` — an entry of the overlay;
* `RecordGrid.Columns` — schema, overlay and density;
* `RecordGrid.Columns.setVisible`, `RecordGrid.Columns.reorder`, `RecordGrid.Columns.visible` —
  hiding and showing, reordering, and the columns that are drawn.
-/

import RecordGrid.Count

set_option relaxedAutoImplicit false
set_option autoImplicit false

namespace RecordGrid

/-! ### Schema -/

/-- How densely rows are drawn. -/
inductive Density where
  /-- No padding and no spacing. -/
  | mini
  /-- Little padding. -/
  | small
  /-- The usual density. -/
  | medium
  /-- A blank line after each row. -/
  | large
deriving DecidableEq, Repr

namespace Density

instance : Inhabited Density := ⟨.medium⟩

/-- The blanks on either side of a cell. -/
def padding : Density → Nat
  | .mini => 0
  | _ => 1

/-- The blank lines after a row. -/
def spacing : Density → Nat
  | .large => 1
  | _ => 0

end Density

/-- A column of the schema. -/
structure Column where
  /-- The field of a row that the column shows. -/
  key : String
  /-- The text of the header. -/
  title : String
  /-- The width in cells; without one the column is as wide as its contents. -/
  width : Option Count := none
deriving DecidableEq, Repr

/-! ### Overlay -/

/-- An entry of the overlay. -/
structure ColumnState where
  /-- The key of the column. -/
  key : String
  /-- Whether the column is shown. -/
  visible : Bool
  /-- The place of the entry, counted from zero. -/
  order : Count
deriving DecidableEq, Repr

namespace ColumnState

/-- Entries with their places counted from `n`. -/
def numberFrom (n : Nat) : List ColumnState → List ColumnState
  | [] => []
  | s :: ss => { s with order := UInt64.ofNat n } :: numberFrom (n + 1) ss

/-- Entries with their places counted from zero. -/
def number (ss : List ColumnState) : List ColumnState := numberFrom 0 ss

/-- The overlay of a schema: every column shown, in the order of the schema. -/
def ofSchema (schema : List Column) : List ColumnState :=
  number (schema.map fun c => { key := c.key, visible := true, order := 0 })

/-- Shows or hides the first entry with a key. -/
def setVisible (key : String) (visible : Bool) : List ColumnState → List ColumnState
  | [] => []
  | s :: ss => if s.key = key then { s with visible } :: ss else s :: setVisible key visible ss

/-- The first entry with a key, and the entries without it. -/
def extract? (key : String) : List ColumnState → Option (ColumnState × List ColumnState)
  | [] => none
  | s :: ss =>
      if s.key = key then some (s, ss)
      else (extract? key ss).map fun (t, ts) => (t, s :: ts)

/-- The entries with the given keys first, each key taking one entry if there is one left; the
other entries follow in their order. -/
def arrange (ss : List ColumnState) : List String → List ColumnState
  | [] => ss
  | key :: keys =>
      match extract? key ss with
      | some (s, rest) => s :: arrange rest keys
      | none => arrange ss keys

end ColumnState

/-- The columns of a grid. -/
structure Columns where
  /-- The columns as the host gave them. -/
  schema : List Column
  /-- One entry for each column, in the order of display. -/
  overlay : List ColumnState
  /-- How densely rows are drawn. -/
  density : Density := .medium
deriving DecidableEq, Repr

namespace Columns

/-- The columns of a schema, all of them shown. -/
def ofSchema (schema : List Column) (density : Density) : Columns :=
  { schema, overlay := ColumnState.ofSchema schema, density }

/-- Replaces the schema; every column is shown again. -/
def setSchema (c : Columns) (schema : List Column) : Columns :=
  { c with schema, overlay := ColumnState.ofSchema schema }

/-- Whether some column has a key. -/
def hasKey (c : Columns) (key : String) : Bool := c.overlay.any (·.key = key)

/-- Shows or hides a column.  The order stays. -/
def setVisible (c : Columns) (key : String) (visible : Bool) : Columns :=
  { c with overlay := ColumnState.setVisible key visible c.overlay }

/-- Whether a column is shown. -/
def isVisible (c : Columns) (key : String) : Bool :=
  c.overlay.any fun s => s.key = key && s.visible

/-- Puts the columns with the given keys first, in that order.  Unknown and repeated keys are
ignored, and the other columns follow in the order they had. -/
def reorder (c : Columns) (keys : List String) : Columns :=
  { c with overlay := ColumnState.number (ColumnState.arrange c.overlay keys) }

/-- Sets the density. -/
def setDensity (c : Columns) (density : Density) : Columns := { c with density }

/-- The column of the schema with a key. -/
def column? (c : Columns) (key : String) : Option Column := c.schema.find? (·.key = key)

/-- The columns that are drawn, in the order of display. -/
def visible (c : Columns) : List Column :=
  (c.overlay.filter (·.visible)).filterMap fun s => c.column? s.key

end Columns

end RecordGrid
