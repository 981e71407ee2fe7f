/-
**The cursor of a table.**

The cursor is the number of a row, counted from zero.  It moves in a circle, and whoever changes
the rows puts it back among them.

Main definitions:

* `RecordGrid.TableKeys` — the bindings that move the cursor and select rows;
* `RecordGrid.Cursor.clamp`, `RecordGrid.Cursor.next`, `RecordGrid.Cursor.previous`.

Main results:

* `RecordGrid.Cursor.clamp_lt`, `next_lt`, `previous_lt` — the cursor stays among the rows.
-/

import RecordGrid.Keys.Binding

set_option relaxedAutoImplicit false
set_option autoImplicit false

namespace RecordGrid

/-- The bindings that move the cursor and select rows. -/
structure TableKeys where
  /-- One row up. -/
  up : Binding
  /-- One row down. -/
  down : Binding
  /-- Selects the row under the cursor, or no longer selects it. -/
  select : Binding
deriving DecidableEq, Repr

namespace TableKeys

/-- The usual bindings. -/
def standard : TableKeys :=
  { up := .ofTexts ["up", "k"] ⟨"↑/k", "up"⟩
    down := .ofTexts ["down", "j"] ⟨"↓/j", "down"⟩
    select := .ofTexts ["space"] ⟨"space", "select"⟩ }

instance : Inhabited TableKeys := ⟨standard⟩

/-- The bindings of the short help. -/
def shortHelp (k : TableKeys) : List Binding := [k.up, k.down, k.select]

/-- The bindings of the full help, by column. -/
def fullHelp (k : TableKeys) : List (List Binding) := [[k.up, k.down], [k.select]]

end TableKeys

namespace Cursor

/-- The row nearest to `n` among `len` rows. -/
def clamp (n len : Nat) : Nat := min n (len - 1)

/-- The row after `n`; the first follows the last. -/
def next (n len : Nat) : Nat := if len = 0 then n else (n + 1) % len

/-- The row before `n`; the last comes before the first. -/
def previous (n len : Nat) : Nat :=
  if len = 0 then n else if n = 0 then len - 1 else min n len - 1

theorem clamp_lt {n len : Nat} (h : 0 < len) : clamp n len < len := by
  unfold clamp; omega

theorem next_lt {n len : Nat} (h : 0 < len) : next n len < len := by
  unfold next
  split
  · omega
  · exact Nat.mod_lt _ h

theorem previous_lt {n len : Nat} (h : 0 < len) : previous n len < len := by
  unfold previous
  split
  · omega
  · split <;> omega

end Cursor

end RecordGrid
