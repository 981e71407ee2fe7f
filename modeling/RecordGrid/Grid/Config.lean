/-
**The configuration of a grid.**

Main definitions:

* `RecordGrid.GridConfig` — the settings a host keeps in a file;
* `RecordGrid.ResponseOrdering.toJson`, `RecordGrid.ResponseOrdering.decode?`;
* `RecordGrid.GridConfig.toJson`, `RecordGrid.GridConfig.decode?`.
-/

import RecordGrid.Columns.Wire
import RecordGrid.Fetch.Coordinator
import RecordGrid.Url.Wire

set_option relaxedAutoImplicit false
set_option autoImplicit false

namespace RecordGrid

open Json (Draft defaulted)

/-! ### Orderings on the wire -/

namespace ResponseOrdering

/-- The name of an ordering. -/
def name : ResponseOrdering → String
  | .lastResponse => "last_response_wins"
  | .latestOnly => "latest_request_only"

/-- The ordering with a name. -/
def ofName? : String → Option ResponseOrdering
  | "last_response_wins" => some .lastResponse
  | "latest_request_only" => some .latestOnly
  | _ => none

@[simp] theorem ofName?_name (o : ResponseOrdering) : ofName? o.name = some o := by
  cases o <;> rfl

/-- The name of an ordering as a value. -/
def toJson (o : ResponseOrdering) : Json := .string o.name

/-- Reads an ordering. -/
def decode? (d : Draft) : Option ResponseOrdering := d.variant?.bind ofName?

end ResponseOrdering

/-! ### Settings -/

/-- The settings of a grid. -/
structure GridConfig where
  /-- The field that holds the key of a row. -/
  rowKey : String := "id"
  /-- The page size while the pagination is not in the address bar. -/
  defaultSize : Count := 20
  /-- How the pagination is kept in the address bar, if it is. -/
  urlPaging : Option UrlPagingConfig := none
  /-- Which of several overlapping responses are applied. -/
  ordering : ResponseOrdering := .lastResponse
  /-- The text that the summary row has in the field of the key. -/
  summaryLabel : String := "Summary"
  /-- How densely rows are drawn. -/
  density : Density := .medium
  /-- Whether the grid loads as soon as it starts. -/
  autoLoad : Bool := true
deriving DecidableEq

namespace GridConfig

/-- Sets the page size, at least one. -/
def withDefaultSize (c : GridConfig) (n : Count) : GridConfig :=
  { c with defaultSize := n.positive }

/-- The object of a configuration. -/
def toJson (c : GridConfig) : Json :=
  .object [("row_key", .string c.rowKey), ("default_page_size", .ofCount c.defaultSize),
    ("url_sync", .ofOption (c.urlPaging.map UrlPagingConfig.toJson)),
    ("ordering", c.ordering.toJson), ("summary_label", .string c.summaryLabel),
    ("density", c.density.toJson), ("auto_load", .bool c.autoLoad)]

/-- Reads a configuration.  Every member may be missing. -/
def decode? (d : Draft) : Option GridConfig := do
  let usual : GridConfig := {}
  match ← d.fields? ["row_key", "default_page_size", "url_sync", "ordering", "summary_label",
      "density", "auto_load"] with
  | [rowKey, defaultSize, urlPaging, ordering, summaryLabel, density, autoLoad] =>
      some { rowKey := ← defaulted usual.rowKey Draft.string? rowKey
             defaultSize := ← defaulted usual.defaultSize Draft.count? defaultSize
             urlPaging := ← defaulted none (·.nullable? UrlPagingConfig.decode?) urlPaging
             ordering := ← defaulted usual.ordering ResponseOrdering.decode? ordering
             summaryLabel := ← defaulted usual.summaryLabel Draft.string? summaryLabel
             density := ← defaulted usual.density Density.decode? density
             autoLoad := ← defaulted usual.autoLoad Draft.bool? autoLoad }
  | _ => none

end GridConfig

end RecordGrid
