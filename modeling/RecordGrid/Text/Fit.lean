/-
**Fitting text into cells.**

A text that is too wide is cut between clusters and ends in an ellipsis; a text that is not wide
enough is padded with spaces.  Cutting goes by the text as it stands, padding by what a terminal
draws of it: escape sequences and controls take no room, and of several lines the widest counts.

Main definitions:

* `RecordGrid.Text.truncate` — at most so many cells;
* `RecordGrid.Text.drawnWidth` — the cells that a terminal needs;
* `RecordGrid.Text.fit` — cut or padded to so many cells.
-/

import RecordGrid.Text.Cluster
import RecordGrid.Text.Escape
import RecordGrid.Text.FormEncoding
import RecordGrid.Text.Width

set_option relaxedAutoImplicit false
set_option autoImplicit false

namespace RecordGrid.Text

/-! ### Cutting -/

/-- The mark of a cut; it takes one cell. -/
def ellipsis : Char := '…'

/-- The leading clusters that fit into so many cells. -/
def takeCells (budget : Nat) : List (List Char) → List Char
  | [] => []
  | c :: cs =>
      if width c ≤ budget then c ++ takeCells (budget - width c) cs else []

/-- The text, cut so that it takes at most `n` cells, the ellipsis included. -/
def truncate (cs : List Char) (n : Nat) : List Char :=
  if width cs ≤ n then cs
  else if n = 0 then []
  else takeCells (n - 1) (clusters cs) ++ [ellipsis]

/-! ### Drawing -/

/-- The lines of a text. -/
def lines (cs : List Char) : List (List Char) := FormEncoding.splitOn '\n' cs

/-- The cells that a terminal needs for a text: those of its widest line. -/
def drawnWidth (cs : List Char) : Nat :=
  ((lines cs).map fun line => width (Escape.strip line)).foldl max 0

/-- The text, cut or padded to `n` cells. -/
def fit (cs : List Char) (n : Nat) : List Char :=
  truncate cs n ++ List.replicate (n - drawnWidth (truncate cs n)) ' '

end RecordGrid.Text
