/-
**Filter kinds and values on the wire.**

A kind is an object whose member `type` names it, with its bounds or options beside; a value is an
object with its name under `type` and its contents under `value`.  Either may also be written as
an array that begins with the name.

Main definitions:

* `RecordGrid.FilterKind.toJson`, `RecordGrid.FilterKind.decode?`;
* `RecordGrid.FilterValue.toJson`, `RecordGrid.FilterValue.decode?`.
-/

import RecordGrid.Filter.Value
import RecordGrid.Json.Fields

set_option relaxedAutoImplicit false
set_option autoImplicit false

namespace RecordGrid

open Json (Draft required defaulted)

/-! ### Kinds -/

namespace FilterKind

/-- The bound as a value; a missing one is `null`. -/
def boundJson : Option Float → Json
  | some x => .ofFloat x
  | none => .null

/-- The object of a kind. -/
def toJson (k : FilterKind) : Json :=
  .object (("type", .string k.name) :: match k with
    | .numeric min max => [("min", boundJson min), ("max", boundJson max)]
    | .select options multiple => [("options", .ofStrings options), ("multiple", .bool multiple)]
    | _ => [])

/-- Reads a bound; `null` and a missing one are no bound. -/
def decodeBound? (d : Option Draft) : Option (Option Float) :=
  defaulted none (·.nullable? Draft.float?) d

/-- Reads the kind with the given name from what stands beside the name. -/
def decodeNamed? (name : String) (d : Draft) : Option FilterKind :=
  let unit (k : FilterKind) : Option FilterKind :=
    match d.items? with
    | some (_ :: _) => none
    | _ => some k
  match name with
  | "input" => unit .input
  | "range" => unit .range
  | "custom" => unit .custom
  | "numeric" => do
      match ← d.fields? ["min", "max"] with
      | [min, max] => some (.numeric (← decodeBound? min) (← decodeBound? max))
      | _ => none
  | "select" => do
      match ← d.fields? ["options", "multiple"] with
      | [options, multiple] =>
          some (.select (← required (·.list? Draft.string?) options)
            (← defaulted false Draft.bool? multiple))
      | _ => none
  | _ => none

/-- Reads a kind.  What stands beside the name has to be readable, needed or not. -/
def decode? (d : Draft) : Option FilterKind :=
  match d.members?, d.items? with
  | some ms, _ => do
      match Draft.given some "type" ms with
      | [tag] =>
          let name ← tag.string?
          let rest := ms.filter fun m => m.1 ≠ some "type"
          let _ ← Draft.jsonMembers? rest
          decodeNamed? name (.object rest)
      | _ => none
  | none, some (tag :: rest) => do
      let name ← tag.string?
      let _ ← Draft.jsonItems? rest
      decodeNamed? name (.array rest)
  | none, _ => none

end FilterKind

/-! ### Values -/

namespace FilterValue

/-- The contents of a value; there are none in an empty one. -/
def contents : FilterValue → Option Json
  | .empty => none
  | .text s => some (.string s)
  | .number n => some (.number n)
  | .choice options => some (.ofStrings options)
  | .range start stop => some (.array [.ofOption start, .ofOption stop])
  | .custom value => some value

/-- The object of a value. -/
def toJson (v : FilterValue) : Json :=
  .object (("type", .string v.name) :: match v.contents with
    | some c => [("value", c)]
    | none => [])

/-- Reads a side of a range; `null` is an open one. -/
def decodeSide? (d : Draft) : Option (Option Json) := d.nullable? Draft.json?

/-- Reads the value with the given name from its contents. -/
def decodeNamed? (name : String) (d : Draft) : Option FilterValue :=
  match name with
  | "empty" => if d.isNull then some .empty else none
  | "text" => d.string?.map .text
  | "number" => d.number?.map .number
  | "choice" => (d.list? Draft.string?).map .choice
  | "range" => do
      match ← d.items? with
      | [start, stop] => some (.range (← decodeSide? start) (← decodeSide? stop))
      | _ => none
  | "custom" => d.json?.map .custom
  | _ => none

/-- Reads a value.  In an object the name may be written as a choice, and the contents of an empty
value may be missing; an array holds the name as a text and the contents. -/
def decode? (d : Draft) : Option FilterValue := do
  let tag (t : Draft) := if d.items?.isNone then t.variant? else t.string?
  match ← d.fields? ["type", "value"] with
  | [some t, some contents] => decodeNamed? (← tag t) contents
  | [some t, none] => if d.items?.isNone ∧ tag t = some "empty" then some .empty else none
  | _ => none

end FilterValue

end RecordGrid
