/-
**Filters: which values they accept, and what they ask for.**

A filter writes one field of the request.  It accepts the values that fit its kind, and turns a
value into a patch: `null` for nothing, the text or number itself, one option or a list of options,
a list of start and end.  A filter may bring a mapping of its own instead.

Main definitions:

* `RecordGrid.FilterItem` — a field, a kind, a default and an optional mapping;
* `RecordGrid.FilterError` — why a value is refused, and `FilterError.message`;
* `RecordGrid.FilterItem.check` — whether a value is accepted;
* `RecordGrid.FilterItem.patch` — what a value asks for.
-/

import RecordGrid.Decimal.Layout
import RecordGrid.Filter.Value
import RecordGrid.Request.Patch

set_option relaxedAutoImplicit false
set_option autoImplicit false

namespace RecordGrid

/-! ### Errors -/

/-- Why a value is refused. -/
inductive FilterError where
  /-- No filter writes the field. -/
  | unknownField (field : String)
  /-- The kind of the filter holds no such value. -/
  | kindMismatch (field : String) (kind : FilterKind) (value : FilterValue)
  /-- The number lies outside the bounds. -/
  | outOfRange (field : String) (value : Float) (min max : Option Float)
  /-- The option is not offered. -/
  | unknownOption (field option : String)
  /-- Several options are chosen where one is asked for. -/
  | notMultiple (field : String)
deriving DecidableEq

namespace FilterError

/-- A refused number is written positionally, and a whole one without a point. -/
def valueLayout : Decimal.Layout :=
  { least := none, greatest := none, wholePoint := false, plusSign := false }

/-- A bound is written positionally from `10 ^ -4` up to below `10 ^ 16`, with a point, and
otherwise with an exponent. -/
def boundLayout : Decimal.Layout :=
  { least := some (-4), greatest := some 15, wholePoint := true, plusSign := false }

/-- The text of a bound, present or not. -/
def boundText : Option Float → String
  | some x => "Some(" ++ boundLayout.write x ++ ")"
  | none => "None"

/-- The message that explains an error. -/
def message : FilterError → String
  | .unknownField field => "unknown filter field `" ++ field ++ "`"
  | .kindMismatch field kind value =>
      "filter `" ++ field ++ "` is " ++ kind.name ++ " and cannot hold a " ++ value.name ++ " value"
  | .outOfRange field value min max =>
      "filter `" ++ field ++ "` value " ++ valueLayout.write value ++ " is outside ["
        ++ boundText min ++ ", " ++ boundText max ++ "]"
  | .unknownOption field option => "filter `" ++ field ++ "` has no option `" ++ option ++ "`"
  | .notMultiple field => "filter `" ++ field ++ "` accepts a single option"

end FilterError

/-! ### Filters -/

/-- A filter of a grid. -/
structure FilterItem where
  /-- The field of the request that the filter writes. -/
  field : String
  /-- The text shown beside it. -/
  label : String
  /-- The control it is edited with. -/
  kind : FilterKind
  /-- The value it starts with. -/
  default : FilterValue := .empty
  /-- A mapping from values to patches, in place of the usual one. -/
  mapping : Option (FilterValue → Patch) := none

namespace FilterItem

/-- Whether a number lies within bounds. -/
def inBounds (min max : Option Float) (x : Float) : Bool :=
  !(min.any (x < ·)) && !(max.any (· < x)) && !x.isNaN

/-- Whether a choice fits a selection: not several options where one is asked for, and no option
that is not offered. -/
def checkChoice (field : String) (options : List String) (multiple : Bool)
    (chosen : List String) : Except FilterError Unit :=
  if !multiple ∧ 1 < chosen.length then .error (.notMultiple field)
  else if options.isEmpty then .ok ()
  else match chosen.find? (· ∉ options) with
    | some option => .error (.unknownOption field option)
    | none => .ok ()

/-- Whether the filter accepts a value. -/
def check (item : FilterItem) (value : FilterValue) : Except FilterError Unit :=
  match item.kind, value with
  | _, .empty => .ok ()
  | .custom, _ => .ok ()
  | .input, .text _ => .ok ()
  | .range, .range _ _ => .ok ()
  | .numeric min max, .number n =>
      if inBounds min max n.toFloat then .ok ()
      else .error (.outOfRange item.field n.toFloat min max)
  | .select options multiple, .choice chosen => checkChoice item.field options multiple chosen
  | kind, value => .error (.kindMismatch item.field kind value)

/-- Whether the filter asks for one option. -/
def isSingle (item : FilterItem) : Bool :=
  match item.kind with
  | .select _ multiple => !multiple
  | _ => false

/-- The parameter that a value stands for. -/
def param (item : FilterItem) (value : FilterValue) : Json :=
  if value.isEmpty then .null
  else match value with
    | .empty => .null
    | .text text => .string text
    | .number n => .number n
    | .choice options =>
        if item.isSingle then .ofOption (options.head?.map .string) else .ofStrings options
    | .range start stop => .array [.ofOption start, .ofOption stop]
    | .custom value => value

/-- The patch that a value asks for. -/
def patch (item : FilterItem) (value : FilterValue) : Patch :=
  match item.mapping with
  | some f => f value
  | none => Patch.empty.insert item.field (item.param value)

end FilterItem

end RecordGrid
