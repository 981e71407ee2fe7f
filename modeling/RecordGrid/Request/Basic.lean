/-
**Requests: what a fetch is asked for.**

A request always carries a page and a page size, both from one on.  Everything else (the search
text, the sort order, the filters) is a parameter under a key of its own.

Main definitions:

* `RecordGrid.Request` — page, page size and parameters;
* `RecordGrid.Request.ofPage`, `setPage`, `setSize`, `set`, `get?`, `remove` — access;
* `RecordGrid.Request.searchText?` — the search text among the parameters.

Main results:

* `RecordGrid.Request.one_le_page_setPage`, `one_le_size_setSize` — zero is read as one.
-/

import RecordGrid.Count
import RecordGrid.Json.Basic

set_option relaxedAutoImplicit false
set_option autoImplicit false

namespace RecordGrid

/-- What a fetch is asked for. -/
structure Request where
  /-- The page, counted from one. -/
  page : Count
  /-- The number of rows of a page. -/
  size : Count
  /-- The parameters apart from pagination. -/
  params : KeyMap Json
deriving DecidableEq

namespace Request

/-- The key of the search text. -/
def searchKey : String := "search"

/-- The request for a page, without parameters. -/
def ofPage (page size : Count) : Request := ⟨page.positive, size.positive, .empty⟩

instance : Inhabited Request := ⟨ofPage 1 20⟩

/-- Asks for a page; zero is read as one. -/
def setPage (r : Request) (page : Count) : Request := { r with page := page.positive }

/-- Asks for a page size; zero is read as one. -/
def setSize (r : Request) (size : Count) : Request := { r with size := size.positive }

/-- Asks for a page and a page size. -/
def setPagination (r : Request) (p : Count × Count) : Request := (r.setPage p.1).setSize p.2

/-- The value of a parameter. -/
def get? (r : Request) (key : String) : Option Json := r.params.get? key

/-- Sets a parameter. -/
def set (r : Request) (key : String) (value : Json) : Request :=
  { r with params := r.params.insert key value }

/-- Removes a parameter. -/
def remove (r : Request) (key : String) : Request :=
  { r with params := r.params.erase key }

/-- The search text, if there is one. -/
def searchText? (r : Request) : Option String := (r.get? searchKey).bind Json.string?

theorem one_le_page_setPage (r : Request) (page : Count) : 1 ≤ (r.setPage page).page.toNat :=
  Count.one_le_positive page

theorem one_le_size_setSize (r : Request) (size : Count) : 1 ≤ (r.setSize size).size.toNat :=
  Count.one_le_positive size

end Request

end RecordGrid
