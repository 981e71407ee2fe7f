/-
**Filter kinds and filter values.**

A filter is edited with some kind of control, and holds a value.  Which values fit which kinds is
`RecordGrid.FilterItem.check`.

Main definitions:

* `RecordGrid.FilterKind` — text, a bounded number, a choice, a range, or anything;
* `RecordGrid.FilterValue` — what a filter holds;
* `RecordGrid.FilterValue.isEmpty` — whether there is nothing to filter by.
-/

import RecordGrid.Json.Basic

set_option relaxedAutoImplicit false
set_option autoImplicit false

namespace RecordGrid

/-- The control that a filter is edited with. -/
inductive FilterKind where
  /-- Free text. -/
  | input
  /-- A number between two bounds, either of which may be missing. -/
  | numeric (min max : Option Float)
  /-- One option, or several.  Without options any choice will do. -/
  | select (options : List String) (multiple : Bool)
  /-- A start and an end. -/
  | range
  /-- A control of the host. -/
  | custom
deriving DecidableEq

/-- The name of a kind. -/
def FilterKind.name : FilterKind → String
  | .input => "input"
  | .numeric _ _ => "numeric"
  | .select _ _ => "select"
  | .range => "range"
  | .custom => "custom"

/-- What a filter holds. -/
inductive FilterValue where
  /-- Nothing. -/
  | empty
  /-- A text. -/
  | text (text : String)
  /-- A number. -/
  | number (n : Json.Number)
  /-- The chosen options. -/
  | choice (options : List String)
  /-- A start and an end, either of which may be open. -/
  | range (start stop : Option Json)
  /-- A value of the host. -/
  | custom (value : Json)
deriving DecidableEq

namespace FilterValue

instance : Inhabited FilterValue := ⟨.empty⟩

/-- The value for a float; one that is not finite counts as nothing. -/
def ofFloat (x : Float) : FilterValue :=
  match Json.Number.ofFloat? x with
  | some n => .number n
  | none => .empty

/-- The name of a value. -/
def name : FilterValue → String
  | .empty => "empty"
  | .text _ => "text"
  | .number _ => "number"
  | .choice _ => "choice"
  | .range _ _ => "range"
  | .custom _ => "custom"

/-- Whether there is nothing to filter by. -/
def isEmpty : FilterValue → Bool
  | .empty => true
  | .text s => s.isEmpty
  | .number _ => false
  | .choice options => options.isEmpty
  | .range start stop => start.isNone && stop.isNone
  | .custom value => value.isNull

end FilterValue

end RecordGrid
