/-
**Selected rows.**

A selection is a list of rows, and beside it the list of their keys.  Keys are read from one field;
rows without that field stay selected and have no key.  Keys are listed once each, in the order of
their first row, and zeros of either sign are one key.

Main definitions:

* `RecordGrid.Selection` — the rows, their keys, and the field that the keys are read from;
* `RecordGrid.Selection.select` — selects other rows, and lists their keys anew;
* `RecordGrid.Selection.isSelected` — whether a key is listed;
* `RecordGrid.Selection.flip` — adds a row, or removes the rows with its key.
-/

import RecordGrid.Row

set_option relaxedAutoImplicit false
set_option autoImplicit false

namespace RecordGrid

/-- Selected rows. -/
structure Selection where
  /-- The field that holds the key of a row. -/
  rowKey : String := "id"
  /-- The rows. -/
  rows : List Row := []
  /-- The keys of the rows. -/
  keys : List Json := []
deriving DecidableEq

namespace Selection

/-- Whether a key is in a list of keys. -/
def holds (keys : List Json) (key : Json) : Bool := keys.any (Json.same key)

/-- The values without later ones that are the same as an earlier one. -/
def distinct (seen : List Json) : List Json → List Json
  | [] => []
  | k :: ks => if holds seen k then distinct seen ks else k :: distinct (k :: seen) ks

/-- The keys of some rows, once each, in the order of their first row. -/
def keysOf (rowKey : String) (rows : List Row) : List Json :=
  distinct [] (rows.filterMap (·.get? rowKey))

/-- Whether a row with a key is selected. -/
def isSelected (s : Selection) (key : Json) : Bool := holds s.keys key

/-- Selects other rows. -/
def select (s : Selection) (rows : List Row) : Selection :=
  { s with rows, keys := keysOf s.rowKey rows }

/-- Whether a row has a key. -/
def rowHasKey (s : Selection) (key : Json) (row : Row) : Bool :=
  (row.get? s.rowKey).any (Json.same key)

/-- The rows after a row with a key was pressed: without the rows that have the key if it was
selected, and with the row at the end if it was not. -/
def flip (s : Selection) (key : Json) (row : Row) : List Row :=
  if s.isSelected key then s.rows.filter fun r => !s.rowHasKey key r
  else s.rows ++ [row]

end Selection

end RecordGrid
