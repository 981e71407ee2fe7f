/-
**Columns on the wire.**

Main definitions:

* `RecordGrid.Density.toJson`, `RecordGrid.Density.decode?` — a density by its name;
* `RecordGrid.Column.toJson`, `RecordGrid.Column.decode?`;
* `RecordGrid.ColumnState.toJson`, `RecordGrid.ColumnState.decode?`.
-/

import RecordGrid.Columns.Basic
import RecordGrid.Json.Fields

set_option relaxedAutoImplicit false
set_option autoImplicit false

namespace RecordGrid

open Json (Draft required defaulted)

namespace Density

/-- The name of a density. -/
def name : Density → String
  | .mini => "mini"
  | .small => "small"
  | .medium => "medium"
  | .large => "large"

/-- The density with a name. -/
def ofName? : String → Option Density
  | "mini" => some .mini
  | "small" => some .small
  | "medium" => some .medium
  | "large" => some .large
  | _ => none

@[simp] theorem ofName?_name (d : Density) : ofName? d.name = some d := by cases d <;> rfl

/-- The name of a density as a value. -/
def toJson (d : Density) : Json := .string d.name

/-- Reads a density. -/
def decode? (d : Draft) : Option Density := d.variant?.bind ofName?

end Density

namespace Column

/-- The object of a column. -/
def toJson (c : Column) : Json :=
  .object [("key", .string c.key), ("title", .string c.title),
    ("width", .ofOption (c.width.map .ofCount))]

/-- Reads a column.  Its width may be missing. -/
def decode? (d : Draft) : Option Column := do
  match ← d.fields? ["key", "title", "width"] with
  | [key, title, width] =>
      some { key := ← required Draft.string? key
             title := ← required Draft.string? title
             width := ← defaulted none (·.nullable? Draft.count?) width }
  | _ => none

end Column

namespace ColumnState

/-- The object of an entry of the overlay. -/
def toJson (s : ColumnState) : Json :=
  .object [("key", .string s.key), ("visible", .bool s.visible), ("order", .ofCount s.order)]

/-- Reads an entry of the overlay. -/
def decode? (d : Draft) : Option ColumnState := do
  match ← d.fields? ["key", "visible", "order"] with
  | [key, visible, order] =>
      some { key := ← required Draft.string? key
             visible := ← required Draft.bool? visible
             order := ← required Draft.count? order }
  | _ => none

end ColumnState

end RecordGrid
