/-
**What a user does to a grid.**

Searching and filtering ask for the first page, sorting keeps the page.  Turning a page or changing
the page size loads at once, unless the pagination is kept in the address bar: then only the
address bar is rewritten, and the host, which sees the navigation, reports it by `urlChanged`.
Key presses turn pages, move the cursor and select rows.

Main definitions:

* `RecordGrid.Grid.load`, `start`, `search`, `sort`, `filter`, `filtersReady`, `applyFilters`,
  `resetFilters`, `changePage`, `changePageSize`, `urlChanged`, `selectRows`;
* `RecordGrid.Grid.receive`, `RecordGrid.Grid.press` — arrivals and key presses.
-/

import RecordGrid.Grid.Basic

set_option relaxedAutoImplicit false
set_option autoImplicit false

namespace RecordGrid.Grid

/-! ### Loading -/

/-- Loads, and tells the host. -/
def load (g : Grid) (patch : Option Patch) (events : List GridEvent) : Grid × Effect :=
  let (coordinator, fetch) := g.coordinator.load patch
  ({ g with coordinator }, { fetch, events })

/-- Fetches the current request again. -/
def reload (g : Grid) : Grid × Effect := g.load none []

/-- The first load, if the settings ask for one.  The defaults of the filters go into it, and the
page stays as it is. -/
def start (g : Grid) : Grid × Effect :=
  if !g.config.autoLoad then (g, {})
  else match g.filters.map FilterForm.defaultPatch with
    | some p => g.load (some p) [.filterReady p]
    | none => g.load none []

/-- Searches for a text, from the first page on. -/
def search (g : Grid) (text : String) : Grid × Effect :=
  g.load (some ((Patch.search text).withPage 1)) [.search text]

/-- Sorts; the page stays. -/
def sort (g : Grid) (p : Patch) : Grid × Effect := g.load (some p) [.sort p]

/-- Filters, from the first page on. -/
def filter (g : Grid) (p : Patch) : Grid × Effect := g.load (some (p.withPage 1)) [.filter p]

/-- The defaults of the filters have become known.  They are loaded if that is asked for. -/
def filtersReady (g : Grid) (p : Patch) (autoLoad : Bool) : Grid × Effect :=
  if autoLoad then g.load (some (p.withPage 1)) [.filterReady p] else (g, {})

/-- Applies the values of the filter form. -/
def applyFilters (g : Grid) : Grid × Effect :=
  match g.filters with
  | some form => g.filter form.patch
  | none => (g, {})

/-- Puts the filter form back to its defaults and applies them. -/
def resetFilters (g : Grid) : Grid × Effect :=
  match g.filters with
  | some form => { g with filters := some form.reset }.filter form.reset.patch
  | none => (g, {})

/-- Sets a value of the filter form. -/
def setFilter (g : Grid) (field : String) (value : FilterValue) :
    Option (Except FilterError Grid) :=
  g.filters.map fun form =>
    (form.set field value).map fun form => { g with filters := some form }

/-! ### Pages -/

/-- Whether the pagination is kept in the address bar. -/
def isSynced (g : Grid) : Bool := g.coordinator.store.isSynced

/-- Changes the pagination through the address bar, without loading. -/
def paginate (g : Grid) (page size : Option Count) : Grid :=
  let c := g.coordinator
  { g with coordinator := { c with store := c.store.paginate page size }.syncPager }

/-- Changes the pager. -/
def withPager (g : Grid) (f : Pager → Pager) : Grid :=
  { g with coordinator := { g.coordinator with pager := f g.coordinator.pager } }

/-- Turns to a page. -/
def changePage (g : Grid) (page : Count) : Grid × Effect :=
  if g.isSynced then (g.paginate (some page) none, { events := [.page page] })
  else (g.withPager (·.setCurrent page)).load (some (.ofPage page)) [.page page]

/-- Changes the page size and returns to the first page. -/
def changePageSize (g : Grid) (size : Count) : Grid × Effect :=
  if g.isSynced then (g.paginate (some 1) (some size), { events := [.pageSize size] })
  else
    (g.withPager fun p => (p.setSize size).setCurrent 1).load
      (some ((Patch.ofPage 1).withSize size)) [.pageSize size]

/-- The address bar has changed: loads the page that it names.  Nothing happens when the pagination
is not kept there. -/
def urlChanged (g : Grid) : Grid × Effect :=
  match g.coordinator.store.paging with
  | some u => g.load (some ((Patch.ofPage u.readUrl.1).withSize u.readUrl.2)) []
  | none => (g, {})

/-! ### Selection -/

/-- Selects rows in place of those selected before. -/
def selectRows (g : Grid) (rows : List Row) : Grid × Effect :=
  let selection := g.selection.select rows
  ({ g with selection }, { events := [.selection selection.keys] })

/-- Selects no row. -/
def clearSelection (g : Grid) : Grid × Effect := g.selectRows []

/-- Selects the row under the cursor, or no longer selects it.  A row without a key is left as it
is. -/
def flipCursorRow (g : Grid) : Grid × Effect :=
  match g.rows[g.cursor]? with
  | none => (g, {})
  | some row => match row.get? g.selection.rowKey with
    | none => (g, {})
    | some key => g.selectRows (g.selection.flip key row)

/-! ### Messages -/

/-- Takes an arrival.  When it was the grid's own the cursor is put back among the rows. -/
def receive (g : Grid) (a : Arrival) : Grid × Effect :=
  let r := g.coordinator.receive a
  if r.consumed then
    ({ g with
        coordinator := r.coordinator
        cursor := Cursor.clamp g.cursor r.coordinator.rows.length },
      { notices := r.notices })
  else (g, {})

/-- Takes a key press.  Turning pages comes first, then moving the cursor down and up, and then
selecting. -/
def press (g : Grid) (k : KeyPress) : Grid × Effect :=
  match g.pager.target? k with
  | some page => g.changePage page
  | none =>
      if g.keys.down.triggers k then
        ({ g with cursor := Cursor.next g.cursor g.rows.length }, {})
      else if g.keys.up.triggers k then
        ({ g with cursor := Cursor.previous g.cursor g.rows.length }, {})
      else if g.keys.select.triggers k then g.flipCursorRow
      else (g, {})

end RecordGrid.Grid
