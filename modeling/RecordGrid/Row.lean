/-
**Rows.**

A row is one record of a result: values by field.

Main definitions:

* `RecordGrid.Row`;
* `RecordGrid.Row.toJson`, `RecordGrid.Row.decode?` — a row on the wire.
-/

import RecordGrid.Json.Fields

set_option relaxedAutoImplicit false
set_option autoImplicit false

namespace RecordGrid

/-- A record of a result: values by field. -/
abbrev Row := KeyMap Json

namespace Row

/-- The object of a row. -/
def toJson (r : Row) : Json := .ofMap r

/-- Reads a row; of a repeated field the last value counts. -/
def decode? (d : Json.Draft) : Option Row := d.map?

end Row

end RecordGrid
