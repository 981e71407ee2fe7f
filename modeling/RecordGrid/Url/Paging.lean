/-
**Pagination in the address bar.**

The page and the page size can be kept in two parameters of the query.  `UrlPaging` holds both
numbers and the history it writes them to.  A number at its default is not written; the other
parameters, and the path, are left as they are.

Main definitions:

* `RecordGrid.UrlPagingConfig` — the names of the parameters and the default page size;
* `RecordGrid.positiveOf?` — the number from one on that a parameter holds;
* `RecordGrid.UrlPaging` — the numbers and the history;
* `RecordGrid.UrlPaging.readUrl`, `RecordGrid.UrlPaging.writeUrl` — from and to the address bar;
* `RecordGrid.UrlPaging.paginate` — moves to a page or changes the page size.
-/

import RecordGrid.Count
import RecordGrid.Text.Blank
import RecordGrid.Url.History

set_option relaxedAutoImplicit false
set_option autoImplicit false

namespace RecordGrid

/-- How pagination is kept in the address bar. -/
structure UrlPagingConfig where
  /-- The parameter that holds the page. -/
  pageParam : String := "page"
  /-- The parameter that holds the page size. -/
  sizeParam : String := "pageSize"
  /-- The page size that is not written. -/
  defaultSize : Count := 20
deriving DecidableEq

namespace UrlPagingConfig

/-- Sets the default page size, at least one. -/
def withDefaultSize (c : UrlPagingConfig) (n : Count) : UrlPagingConfig :=
  { c with defaultSize := n.positive }

end UrlPagingConfig

/-- The number that decimal digits stand for, if there is a digit and nothing else. -/
def naturalOf? (cs : List Char) : Option Nat :=
  if cs.isEmpty || !cs.all Char.isDigit then none
  else some (cs.foldl (fun n c => 10 * n + (c.toNat - '0'.toNat)) 0)

/-- The number that a parameter holds: decimal digits, a plus sign allowed before them and white
space around both, from one up to the greatest signed 64-bit number. -/
def positiveOf? (text : String) : Option Count := do
  let cs := Text.trim text.toList
  let n ← naturalOf? (if cs.head? = some '+' then cs.drop 1 else cs)
  if 1 ≤ n ∧ n < 0x8000000000000000 then some (UInt64.ofNat n) else none

/-- Pagination kept in the address bar. -/
structure UrlPaging where
  /-- The parameters. -/
  config : UrlPagingConfig
  /-- The history whose current address carries the parameters. -/
  history : History
  /-- The page. -/
  page : Count
  /-- The page size. -/
  size : Count
deriving DecidableEq

namespace UrlPaging

/-- The page and page size of an address.  A parameter that is missing or holds no number from one
on stands for its default. -/
def readAddress (c : UrlPagingConfig) (a : Address) : Count × Count :=
  (((a.value? c.pageParam).bind positiveOf?).getD 1,
    ((a.value? c.sizeParam).bind positiveOf?).getD c.defaultSize.positive)

/-- The page and page size in the address bar. -/
def readUrl (u : UrlPaging) : Count × Count :=
  readAddress u.config u.history.current

/-- Takes over the page and page size in the address bar. -/
def ofHistory (config : UrlPagingConfig) (history : History) : UrlPaging :=
  let (page, size) := readAddress config history.current
  { config, history, page, size }

/-- The page and page size. -/
def pagination (u : UrlPaging) : Count × Count := (u.page, u.size)

/-- The pair of the query for a page; the first page needs none. -/
def pagePairs (c : UrlPagingConfig) : Option Count → List (String × String)
  | some n => if 1 < n then [(c.pageParam, toString n.toNat)] else []
  | none => []

/-- The pair of the query for a page size; the default needs none. -/
def sizePairs (c : UrlPagingConfig) : Option Count → List (String × String)
  | some n => if n = c.defaultSize then [] else [(c.sizeParam, toString n.toNat)]
  | none => []

/-- The address with the given numbers as its only pagination parameters, after all others. -/
def writeAddress (c : UrlPagingConfig) (a : Address) (page size : Option Count) : Address :=
  let rest := (a.remove c.pageParam).remove c.sizeParam
  { rest with query := rest.query ++ pagePairs c page ++ sizePairs c size }

/-- Rewrites the pagination parameters in the address bar. -/
def writeUrl (u : UrlPaging) (page size : Option Count) : UrlPaging :=
  { u with history := u.history.replace (writeAddress u.config u.history.current page size) }

/-- The page after a change: a page that is asked for, the first one when only the page size
changes. -/
def nextPage (u : UrlPaging) (page size : Option Count) : Count :=
  match page, size with
  | some p, _ => p.positive
  | none, some _ => 1
  | none, none => u.page

/-- The page size after a change. -/
def nextSize (u : UrlPaging) : Option Count → Count
  | some s => s.positive
  | none => u.size

/-- Changes the page or the page size, and writes both to the address bar. -/
def paginate (u : UrlPaging) (page size : Option Count) : UrlPaging :=
  let p := u.nextPage page size
  let s := u.nextSize size
  { u with page := p, size := s }.writeUrl (some p) (some s)

/-- The host navigates to an address. -/
def push (u : UrlPaging) (a : Address) : UrlPaging :=
  { u with history := u.history.push a }

/-- The host rewrites the current address. -/
def replace (u : UrlPaging) (a : Address) : UrlPaging :=
  { u with history := u.history.replace a }

@[simp] theorem config_paginate (u : UrlPaging) (page size : Option Count) :
    (u.paginate page size).config = u.config := rfl

@[simp] theorem pagination_paginate (u : UrlPaging) (page size : Option Count) :
    (u.paginate page size).pagination = (u.nextPage page size, u.nextSize size) := rfl

end UrlPaging

end RecordGrid
