/-
**The filter form.**

A form holds the current value of each of its filters.  Values are kept by field, so filters with
one field share a value.  A value is only set where a filter accepts it, and a reset puts every
filter back to its default.

Main definitions:

* `RecordGrid.FilterForm` — filters with their current values;
* `RecordGrid.FilterForm.set`, `RecordGrid.FilterForm.reset` — changes;
* `RecordGrid.FilterForm.patch`, `RecordGrid.FilterForm.defaultPatch` — what the current values and
  the defaults ask for.
-/

import RecordGrid.Filter.Item

set_option relaxedAutoImplicit false
set_option autoImplicit false

namespace RecordGrid

/-- Filters with their current values. -/
structure FilterForm where
  /-- The filters, in the order they are shown. -/
  items : List FilterItem
  /-- The current values by field. -/
  values : KeyMap FilterValue

namespace FilterForm

/-- The defaults of some filters by field. -/
def defaults (items : List FilterItem) : List (String × FilterValue) :=
  items.map fun item => (item.field, item.default)

/-- A form with every filter at its default. -/
def ofItems (items : List FilterItem) : FilterForm :=
  { items, values := .ofList (defaults items) }

/-- The value under a field. -/
def value? (f : FilterForm) (field : String) : Option FilterValue := f.values.get? field

/-- The first filter that writes a field. -/
def item? (f : FilterForm) (field : String) : Option FilterItem :=
  f.items.find? (·.field = field)

/-- Sets the value under a field, if its filter accepts it. -/
def set (f : FilterForm) (field : String) (value : FilterValue) :
    Except FilterError FilterForm := do
  match f.item? field with
  | none => .error (.unknownField field)
  | some item =>
      item.check value
      return { f with values := f.values.insert field value }

/-- Puts every filter back to its default. -/
def reset (f : FilterForm) : FilterForm :=
  { f with values := f.values.insertMany (defaults f.items) }

/-- The current value of a filter. -/
def current (f : FilterForm) (item : FilterItem) : FilterValue :=
  (f.value? item.field).getD .empty

/-- The patch that given values of the filters ask for; a later filter wins. -/
def patchOf (items : List FilterItem) (value : FilterItem → FilterValue) : Patch :=
  items.foldl (fun p item => p.merge (item.patch (value item))) .empty

/-- The patch that the current values ask for. -/
def patch (f : FilterForm) : Patch := patchOf f.items f.current

/-- The patch that the defaults ask for, whatever the current values are. -/
def defaultPatch (f : FilterForm) : Patch := patchOf f.items (·.default)

end FilterForm

end RecordGrid
