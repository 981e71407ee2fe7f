/-
**Requests and patches on the wire.**

Both are flat objects: the page, the page size, and then the parameters in the order of their
keys.  A request has to give page and page size; a patch leaves out what it does not name, and may
give `null` for it.  Nothing keeps a request from having a parameter called like one of the two,
and then the object has that key twice and cannot be read back.

Main definitions:

* `RecordGrid.Request.toJson`, `RecordGrid.Request.decode?`;
* `RecordGrid.Patch.toJson`, `RecordGrid.Patch.decode?`.
-/

import RecordGrid.Json.Fields
import RecordGrid.Json.Writer
import RecordGrid.Request.Patch

set_option relaxedAutoImplicit false
set_option autoImplicit false

namespace RecordGrid

/-! ### Flat objects -/

/-- The keys of pagination, which a flat object gives at most once each. -/
def paginationKeys : List String := [Patch.pageKey, Patch.sizeKey]

/-- The members of a flat object apart from pagination, with their values; of a repeated key the
last value counts. -/
def flatParams? (ms : List (Option String × Json.Draft)) : Option (KeyMap Json) :=
  (Json.Draft.jsonMembers? (ms.filter fun m => m.1.all (· ∉ paginationKeys))).map KeyMap.ofList

/-- The drafts given for page and page size in a flat object, and its parameters. -/
def flat? (d : Json.Draft) : Option (Option Json.Draft × Option Json.Draft × KeyMap Json) := do
  let ms ← d.members?
  match ← d.fields? paginationKeys with
  | [page, size] => some (page, size, ← flatParams? ms)
  | _ => none

/-! ### Requests -/

namespace Request

/-- The flat object of a request. -/
def toJson (r : Request) : Json :=
  .object ((Patch.pageKey, .ofCount r.page) :: (Patch.sizeKey, .ofCount r.size)
    :: r.params.entries)

/-- Reads a request from a flat object.  Zero is read as one. -/
def decode? (d : Json.Draft) : Option Request := do
  let (page, size, params) ← flat? d
  let page ← Json.required Json.Draft.count? page
  let size ← Json.required Json.Draft.count? size
  some { ofPage page size with params }

end Request

/-! ### Patches -/

namespace Patch

/-- The member of a flat object for an optional count. -/
def countMember (key : String) : Option Count → List (String × Json)
  | some n => [(key, .ofCount n)]
  | none => []

/-- The flat object of a patch. -/
def toJson (p : Patch) : Json :=
  .object (countMember pageKey p.page ++ countMember sizeKey p.size ++ p.params.entries)

/-- Reads a patch from a flat object. -/
def decode? (d : Json.Draft) : Option Patch := do
  let (page, size, params) ← flat? d
  let page ← Json.defaulted none (·.nullable? Json.Draft.count?) page
  let size ← Json.defaulted none (·.nullable? Json.Draft.count?) size
  some { page, size, params }

end Patch

end RecordGrid
