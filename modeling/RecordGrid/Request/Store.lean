/-
**The store: the current request of a grid.**

A store owns the request and changes it by merging patches.  It may also keep the pagination in
the address bar; then every change of page or page size goes through the address bar first, and
the request takes over what results there.

Main definitions:

* `RecordGrid.Store` — the request, with or without pagination in the address bar;
* `RecordGrid.Store.merge` — applies a patch;
* `RecordGrid.Store.paginate` — changes the pagination through the address bar.
-/

import RecordGrid.Request.Patch
import RecordGrid.Url.Paging

set_option relaxedAutoImplicit false
set_option autoImplicit false

namespace RecordGrid

/-- The current request of a grid. -/
structure Store where
  /-- The request. -/
  request : Request
  /-- The pagination in the address bar, if it is kept there. -/
  paging : Option UrlPaging := none
deriving DecidableEq

namespace Store

/-- A store that begins at a page and keeps it to itself. -/
def ofPage (page size : Count) : Store := { request := .ofPage page size }

/-- A store that begins where the address bar is, and keeps it up to date. -/
def ofPaging (u : UrlPaging) : Store :=
  { request := .ofPage u.page u.size, paging := some u }

/-- Whether the pagination is kept in the address bar. -/
def isSynced (s : Store) : Bool := s.paging.isSome

/-- Sets the parameters of a patch in a request. -/
def setParams (r : Request) (p : Patch) : Request :=
  { r with params := r.params.union p.params }

/-- Changes the pagination through the address bar.  Without one nothing changes. -/
def paginate (s : Store) (page size : Option Count) : Store :=
  match s.paging with
  | none => s
  | some u =>
      let u := u.paginate page size
      { request := s.request.setPagination u.pagination, paging := some u }

/-- Sets the pagination of a patch in the request itself. -/
def setPagination (r : Request) (p : Patch) : Request :=
  let r := match p.page with
    | some page => r.setPage page
    | none => r
  match p.size with
  | some size => r.setSize size
  | none => r

/-- Applies a patch.  What it does not name stays as it is. -/
def merge (s : Store) (p : Patch) : Store :=
  let s := { s with request := setParams s.request p }
  if !p.touchesPagination then s
  else if s.isSynced then s.paginate p.page p.size
  else { s with request := setPagination s.request p }

/-- The host navigates to an address. -/
def push (s : Store) (a : Address) : Store :=
  { s with paging := s.paging.map (·.push a) }

/-- Writes pagination parameters to the address bar alone. -/
def writeUrl (s : Store) (page size : Option Count) : Store :=
  { s with paging := s.paging.map (·.writeUrl page size) }

/-- The history of the host, if the store knows it. -/
def history? (s : Store) : Option History := s.paging.map (·.history)

end Store

end RecordGrid
