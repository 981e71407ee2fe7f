/-
**Grids.**

A grid is one list that a user pages through, filters and arranges: a coordinator that loads it,
columns, selected rows, a filter form, and a cursor.  Whatever happens to a grid results in a new
grid and an effect: a fetch to carry out, events for the host, and notices for the user.

Main definitions:

* `RecordGrid.Grid`, `RecordGrid.GridEvent`, `RecordGrid.Effect`;
* `RecordGrid.Grid.ofSchema` — a new grid;
* `RecordGrid.Grid.connect`, `withParams`, `withFilters` — its setup.
-/

import RecordGrid.Filter.Form
import RecordGrid.Grid.Config
import RecordGrid.Selection
import RecordGrid.Table.Cursor
import RecordGrid.Table.Style

set_option relaxedAutoImplicit false
set_option autoImplicit false

namespace RecordGrid

/-! ### Grids and effects -/

/-- What a grid tells its host. -/
inductive GridEvent where
  /-- A text was searched for. -/
  | search (text : String)
  /-- The sort order changed. -/
  | sort (patch : Patch)
  /-- Filters were applied. -/
  | filter (patch : Patch)
  /-- The defaults of the filters were applied. -/
  | filterReady (patch : Patch)
  /-- Another page was asked for. -/
  | page (page : Count)
  /-- Another page size was asked for. -/
  | pageSize (size : Count)
  /-- Other rows were selected; their keys. -/
  | selection (keys : List Json)
deriving DecidableEq

/-- What is to be done after something happened to a grid. -/
structure Effect where
  /-- The fetch to carry out. -/
  fetch : Option Fetch := none
  /-- What the host is told. -/
  events : List GridEvent := []
  /-- What the user is told. -/
  notices : List String := []

/-- A list that a user pages through, filters and arranges. -/
structure Grid where
  /-- The settings. -/
  config : GridConfig
  /-- What loads the rows. -/
  coordinator : Coordinator
  /-- The columns. -/
  columns : Columns
  /-- The selected rows. -/
  selection : Selection
  /-- The filter form, if there is one. -/
  filters : Option FilterForm := none
  /-- The row under the cursor. -/
  cursor : Nat := 0
  /-- The bindings that move the cursor and select rows. -/
  keys : TableKeys := .standard
  /-- The styles of the table. -/
  styles : TableStyles := .standard

namespace Grid

/-- A grid over a schema, with the given number for its coordinator. -/
def ofSchema (id : Nat) (config : GridConfig) (schema : List Column) : Grid :=
  { config
    coordinator :=
      { Coordinator.ofStore id (.ofPage 1 config.defaultSize) with
        rowKey := config.rowKey
        summaryLabel := config.summaryLabel
        ordering := config.ordering }
    columns := .ofSchema schema config.density
    selection := { rowKey := config.rowKey } }

/-- The current request. -/
def request (g : Grid) : Request := g.coordinator.request

/-- The rows of the current page. -/
def rows (g : Grid) : List Row := g.coordinator.rows

/-- The pager. -/
def pager (g : Grid) : Pager := g.coordinator.pager

/-- Whether something is loading. -/
def loading (g : Grid) : Bool := g.coordinator.loading

/-! ### Setup -/

/-- Keeps the pagination in the address bar from now on, if the settings say so.  Page and page size
are read from there; the other parameters of the request are carried over. -/
def connect (g : Grid) (history : History) : Grid :=
  match g.config.urlPaging with
  | none => g
  | some config =>
      let store := (Store.ofPaging (.ofHistory config history)).merge (.ofMap g.request.params)
      { g with coordinator := { g.coordinator with store }.syncPager }

/-- Merges fixed parameters into the request. -/
def withParams (g : Grid) (p : Patch) : Grid :=
  { g with coordinator := (g.coordinator.merge p).syncPager }

/-- Adds a filter form. -/
def withFilters (g : Grid) (items : List FilterItem) : Grid :=
  { g with filters := some (.ofItems items) }

end Grid

end RecordGrid
