/-
**Decoding records from JSON.**

A record with named fields is decoded from an object that names them or from an array that lists
them in order.  In an object an unknown member is ignored, whatever is inside it, a known one may
occur once only, and a missing one counts as not given.  An array may stop early but holds nothing
beyond the last field.  Either way the decoder gets one optional draft for each field.

Main definitions:

* `RecordGrid.Json.Draft.fields?` — the drafts given for the named fields of a record;
* `RecordGrid.Json.Draft.members?`, `items?`, `string?`, `count?`, `bool?`, `float?`, `map?`,
  `nullable?`, `variant?` — the simple shapes;
* `RecordGrid.Json.required`, `RecordGrid.Json.defaulted` — fields that must and need not be given.
-/

import RecordGrid.Json.Draft

set_option relaxedAutoImplicit false
set_option autoImplicit false

namespace RecordGrid.Json

/-! ### Simple shapes -/

namespace Draft

/-- The members of an object. -/
def members? : Draft → Option (List (Option String × Draft))
  | .value (.object ms) => some (ms.map fun m => (some m.1, .value m.2))
  | .object ms => some ms
  | _ => none

/-- The items of an array. -/
def items? : Draft → Option (List Draft)
  | .value (.array js) => some (js.map .value)
  | .array ds => some ds
  | _ => none

/-- The text of a string. -/
def string? : Draft → Option String
  | .value (.string s) => some s
  | _ => none

/-- The count of a whole number that fits 64 bits. -/
def count? : Draft → Option UInt64
  | .value j => j.count?
  | _ => none

/-- The truth value. -/
def bool? : Draft → Option Bool
  | .value (.bool b) => some b
  | _ => none

/-- The number, in the form it was written. -/
def number? : Draft → Option Number
  | .value (.number n) => some n
  | _ => none

/-- The float nearest to a number. -/
def float? (d : Draft) : Option Float :=
  d.number?.map Number.toFloat

/-- Whether the draft is `null`. -/
def isNull : Draft → Bool
  | .value .null => true
  | _ => false

/-- Reads `null` as nothing and all else by `f`. -/
def nullable? {α : Type} (f : Draft → Option α) (d : Draft) : Option (Option α) :=
  if d.isNull then some none else (f d).map some

/-- Reads every item of an array by `f`. -/
def list? {α : Type} (f : Draft → Option α) (d : Draft) : Option (List α) := do
  (← d.items?).mapM f

/-- The map of an object; of a repeated key the last value counts. -/
def map? : Draft → Option (KeyMap Json)
  | .value (.object ms) => some (KeyMap.ofList ms)
  | .object ms => (jsonMembers? ms).map KeyMap.ofList
  | _ => none

/-- The name of a choice without contents: the name alone, or an object whose only member has that
name and the value `null`. -/
def variant? (d : Draft) : Option String :=
  match d.string?, d.members? with
  | some s, _ => some s
  | none, some [(some k, v)] => if v.isNull then some k else none
  | _, _ => none

/-! ### Records -/

/-- The drafts given to field `name`, where `field` tells the field of a key. -/
def given (field : String → Option String) (name : String)
    (ms : List (Option String × Draft)) : List Draft :=
  (ms.filter fun m => m.1.bind field == some name).map (·.2)

/-- The drafts given for the named fields of a record.  `field` tells the field of a key, or that
the key is unknown. -/
def fieldsBy? (field : String → Option String) (names : List String) (d : Draft) :
    Option (List (Option Draft)) :=
  match d.members?, d.items? with
  | some ms, _ =>
      if ms.any fun m => m.1.isNone then none
      else names.mapM fun name =>
        match given field name ms with
        | [] => some none
        | [v] => some (some v)
        | _ => none
  | none, some ds =>
      if ds.length ≤ names.length then
        some ((List.range names.length).map fun i => ds[i]?)
      else none
  | none, none => none

/-- The drafts given for the named fields of a record whose keys are the names themselves. -/
def fields? (names : List String) (d : Draft) : Option (List (Option Draft)) :=
  d.fieldsBy? (fun k => if k ∈ names then some k else none) names

end Draft

/-- Reads a field that has to be given. -/
def required {α : Type} (f : Draft → Option α) (d : Option Draft) : Option α :=
  d.bind f

/-- Reads a field that stands for `a` when it is not given. -/
def defaulted {α : Type} (a : α) (f : Draft → Option α) : Option Draft → Option α
  | some d => f d
  | none => some a

end RecordGrid.Json
