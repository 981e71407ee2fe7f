/-
**The pager: which page is shown.**

The pager is what the page indicator is drawn from: the current page, the page size and the total
number of rows.  It follows the request and the results and does not move by itself: a key press
only names the page to go to.  The current page may lie beyond the last one, since it is the
server that knows which pages there are.

Main definitions:

* `RecordGrid.Pager` — current page, page size, total, and the looks of the indicator;
* `RecordGrid.Pager.pages`, `RecordGrid.Pager.offset` — arithmetic on the full 64-bit range;
* `RecordGrid.Pager.target?` — the page a key press leads to;
* `RecordGrid.Pager.view` — the indicator.
-/

import RecordGrid.Count
import RecordGrid.Keys.Binding

set_option relaxedAutoImplicit false
set_option autoImplicit false

namespace RecordGrid

/-! ### Keys -/

/-- The bindings that turn pages. -/
structure PagerKeys where
  /-- One page back. -/
  previous : Binding
  /-- One page on. -/
  next : Binding
deriving DecidableEq, Repr

namespace PagerKeys

/-- The usual bindings. -/
def standard : PagerKeys :=
  { previous := .ofTexts ["pgup", "left", "h"] ⟨"←/h", "prev page"⟩
    next := .ofTexts ["pgdown", "right", "l"] ⟨"→/l", "next page"⟩ }

instance : Inhabited PagerKeys := ⟨standard⟩

/-- The bindings of the short help. -/
def shortHelp (k : PagerKeys) : List Binding := [k.previous, k.next]

/-- The bindings of the full help, by column. -/
def fullHelp (k : PagerKeys) : List (List Binding) := [[k.previous, k.next]]

end PagerKeys

/-! ### State -/

/-- How the indicator is drawn. -/
inductive IndicatorStyle where
  /-- The page and the number of pages. -/
  | numbers
  /-- A dot for each page. -/
  | dots
deriving DecidableEq, Repr

/-- Which page is shown. -/
structure Pager where
  /-- The current page, counted from one. -/
  current : Count := 1
  /-- The number of rows of a page. -/
  size : Count := 20
  /-- The number of rows of all pages. -/
  total : Count := 0
  /-- How the indicator is drawn. -/
  style : IndicatorStyle := .numbers
  /-- The dot of the current page. -/
  activeDot : String := "•"
  /-- The dot of any other page. -/
  inactiveDot : String := "○"
  /-- The bindings. -/
  keys : PagerKeys := .standard
deriving DecidableEq, Repr

namespace Pager

/-- Goes to a page; zero is read as one. -/
def setCurrent (p : Pager) (page : Count) : Pager := { p with current := page.positive }

/-- Sets the page size; zero is read as one. -/
def setSize (p : Pager) (size : Count) : Pager := { p with size := size.positive }

/-- Sets the total. -/
def setTotal (p : Pager) (total : Count) : Pager := { p with total }

/-! ### Arithmetic -/

/-- The number of pages that the total needs; at least one. -/
def pages (p : Pager) : Count :=
  if p.total = 0 then 1
  else if p.total % p.size = 0 then p.total / p.size
  else p.total / p.size + 1

/-- Whether the current page is the first. -/
def onFirst (p : Pager) : Bool := p.current == 1

/-- Whether the current page is the last one or lies beyond it. -/
def onLast (p : Pager) : Bool := p.pages ≤ p.current

/-- The number of rows before the current page, cut off at the greatest count. -/
def offset (p : Pager) : Count :=
  UInt64.ofNat (min ((p.current.toNat - 1) * p.size.toNat) (UInt64.size - 1))

/-! ### Moving -/

/-- The page that a key press leads to, if it turns pages and does not leave their range. -/
def target? (p : Pager) (press : KeyPress) : Option Count :=
  if p.keys.next.triggers press && !p.onLast then some (p.current + 1)
  else if p.keys.previous.triggers press && !p.onFirst then some (p.current - 1)
  else none

/-! ### Indicator -/

/-- Beyond this many pages dots give way to numbers. -/
def maxDots : Nat := 50

/-- The page and the number of pages. -/
def numbers (p : Pager) : String :=
  toString p.current.toNat ++ "/" ++ toString p.pages.toNat

/-- The dot of a page. -/
def dot (p : Pager) (page : Nat) : String :=
  if page = p.current.toNat then p.activeDot else p.inactiveDot

/-- The indicator. -/
def view (p : Pager) : String :=
  match p.style with
  | .numbers => p.numbers
  | .dots =>
      if maxDots < p.pages.toNat then p.numbers
      else " ".intercalate ((List.range p.pages.toNat).map fun i => p.dot (i + 1))

end Pager

end RecordGrid
