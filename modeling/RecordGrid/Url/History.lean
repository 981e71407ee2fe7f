/-
**The navigation history of a host.**

A history is never empty: it has a current address and the addresses before it.  Navigating pushes
an address; rewriting the address bar replaces the current one without adding an entry and
without leaving the current path.

Main definitions:

* `RecordGrid.History` — the current address and the earlier ones, latest first;
* `RecordGrid.History.push`, `RecordGrid.History.replace` — navigation and rewriting.

Main results:

* `RecordGrid.History.length_push`, `length_replace`, `earlier_replace` — only navigation adds an
  entry, and neither touches the earlier ones.
-/

import RecordGrid.Url.Address

set_option relaxedAutoImplicit false
set_option autoImplicit false

namespace RecordGrid

/-- The addresses a host has shown. -/
structure History where
  /-- The address shown now. -/
  current : Address
  /-- The addresses before it, latest first. -/
  earlier : List Address := []
deriving DecidableEq

namespace History

/-- The history that begins at an address. -/
def ofAddress (a : Address) : History := { current := a }

/-- The history that begins at the address a text stands for, or at the root. -/
def ofText (text : String) : History := ofAddress (.parseOrRoot text)

/-- The number of entries. -/
def length (h : History) : Nat := h.earlier.length + 1

/-- Navigates to an address. -/
def push (h : History) (a : Address) : History :=
  { current := a, earlier := h.current :: h.earlier }

/-- Rewrites the current entry.  Its path and path parameters stay. -/
def replace (h : History) (a : Address) : History :=
  { h with current := { a with path := h.current.path, pathParams := h.current.pathParams } }

@[simp] theorem length_push (h : History) (a : Address) : (h.push a).length = h.length + 1 := rfl

@[simp] theorem length_replace (h : History) (a : Address) : (h.replace a).length = h.length := rfl

@[simp] theorem earlier_replace (h : History) (a : Address) :
    (h.replace a).earlier = h.earlier := rfl

@[simp] theorem current_push (h : History) (a : Address) : (h.push a).current = a := rfl

@[simp] theorem query_replace (h : History) (a : Address) :
    (h.replace a).current.query = a.query := rfl

end History

end RecordGrid
