/-
**Patches: partial requests.**

A patch names the parts of a request that change.  It may name a page, a page size and any number
of parameters; what it does not name stays.  A parameter may be set to `null`, which is how a
filter is cleared.

Main definitions:

* `RecordGrid.Patch` — an optional page, an optional page size, and parameters;
* `RecordGrid.Patch.insert` — sets a value under a key, the pagination keys included;
* `RecordGrid.Patch.merge` — two patches in one; the second wins;
* `RecordGrid.Patch.ofPairs`, `RecordGrid.Patch.ofMap` — patches from keys and values.
-/

import RecordGrid.Request.Basic

set_option relaxedAutoImplicit false
set_option autoImplicit false

namespace RecordGrid

/-- The parts of a request that change. -/
structure Patch where
  /-- The page asked for. -/
  page : Option Count := none
  /-- The page size asked for. -/
  size : Option Count := none
  /-- The parameters to set. -/
  params : KeyMap Json := .empty
deriving DecidableEq

namespace Patch

/-- The key that stands for the page. -/
def pageKey : String := "page"

/-- The key that stands for the page size. -/
def sizeKey : String := "page_size"

/-- The patch that changes nothing. -/
def empty : Patch := {}

instance : EmptyCollection Patch := ⟨empty⟩
instance : Inhabited Patch := ⟨empty⟩

/-- Asks for a page as well. -/
def withPage (p : Patch) (page : Count) : Patch := { p with page := some page }

/-- Asks for a page size as well. -/
def withSize (p : Patch) (size : Count) : Patch := { p with size := some size }

/-- Sets the value under a key.  Under the keys of pagination a count is asked for, and a value
that is none changes nothing; every other key is a parameter. -/
def insert (p : Patch) (key : String) (value : Json) : Patch :=
  if key = pageKey then { p with page := value.count?.or p.page }
  else if key = sizeKey then { p with size := value.count?.or p.size }
  else { p with params := p.params.insert key value }

/-- Inserts keys with values from left to right. -/
def insertMany (p : Patch) (es : List (String × Json)) : Patch :=
  es.foldl (fun p e => p.insert e.1 e.2) p

/-- The patch of a list of keys with values. -/
def ofPairs (es : List (String × Json)) : Patch := empty.insertMany es

/-- The patch of a map. -/
def ofMap (m : KeyMap Json) : Patch := ofPairs m.entries

/-- The patch that sets the search text. -/
def search (text : String) : Patch := empty.insert Request.searchKey (.string text)

/-- The patch that asks for a page. -/
def ofPage (page : Count) : Patch := empty.withPage page

/-- Two patches in one; where both name something, `q` wins. -/
def merge (p q : Patch) : Patch :=
  { page := q.page.or p.page, size := q.size.or p.size, params := p.params.union q.params }

/-- Whether the patch names a page or a page size. -/
def touchesPagination (p : Patch) : Bool := p.page.isSome || p.size.isSome

/-- Whether the patch changes nothing. -/
def isEmpty (p : Patch) : Bool := !p.touchesPagination && p.params.isEmpty

/-- The value of a parameter. -/
def get? (p : Patch) (key : String) : Option Json := p.params.get? key

@[simp] theorem merge_empty (p : Patch) : p.merge empty = p := by
  simp [merge, empty]

@[simp] theorem empty_merge (p : Patch) : empty.merge p = p := by
  simp [merge, empty]

end Patch

end RecordGrid
