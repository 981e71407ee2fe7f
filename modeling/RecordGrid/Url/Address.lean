/-
**Addresses: a path and the pairs of its query.**

An address is what the address bar of a host shows: an absolute path, and after a question mark the
query as form-urlencoded pairs.  The pairs keep the order they have in the bar, and a key may
occur several times.  A route name and path parameters travel with an address without being part
of its text.

Main definitions:

* `RecordGrid.Address` — a path, the pairs of its query, and the route it belongs to;
* `RecordGrid.Address.parse`, `RecordGrid.Address.text` — reading and writing;
* `RecordGrid.Address.value?`, `set`, `remove`, `append` — access to the pairs.

Main results:

* `RecordGrid.Address.value?_set_self`, `RecordGrid.Address.value?_remove_self` — what is read
  after an update.
-/

import RecordGrid.KeyMap
import RecordGrid.Text.FormEncoding
import RecordGrid.Text.Quoted

set_option relaxedAutoImplicit false
set_option autoImplicit false

namespace RecordGrid

/-! ### Lists of pairs -/

namespace Pairs

/-- The value of the first pair with key `k`. -/
def value? (k : String) : List (String × String) → Option String
  | [] => none
  | (j, v) :: ps => if j = k then some v else value? k ps

/-- The pairs with another key than `k`. -/
def remove (k : String) (ps : List (String × String)) : List (String × String) :=
  ps.filter fun p => p.1 ≠ k

/-- Gives `k` the value `v` where it first stands, and drops it from all later places; a key that
stands nowhere is appended. -/
def set (k v : String) : List (String × String) → List (String × String)
  | [] => [(k, v)]
  | (j, w) :: ps => if j = k then (k, v) :: remove k ps else (j, w) :: set k v ps

theorem value?_remove_self (k : String) (ps : List (String × String)) :
    value? k (remove k ps) = none := by
  induction ps with
  | nil => rfl
  | cons p ps ih =>
      obtain ⟨j, w⟩ := p
      by_cases h : j = k
      · simpa [remove, h] using ih
      · simpa [remove, h, value?] using ih

theorem value?_set_self (k v : String) (ps : List (String × String)) :
    value? k (set k v ps) = some v := by
  induction ps with
  | nil => simp [set, value?]
  | cons p ps ih =>
      obtain ⟨j, w⟩ := p
      by_cases h : j = k <;> simp [set, value?, h, ih]

end Pairs

/-! ### Addresses -/

/-- A path with the pairs of its query, and the route it belongs to. -/
structure Address where
  /-- The name of the route, if it has one. -/
  name : Option String := none
  /-- The path. -/
  path : String
  /-- The parameters that the route found in the path. -/
  pathParams : KeyMap String := .empty
  /-- The pairs of the query, in the order of the address bar. -/
  query : List (String × String) := []
deriving DecidableEq

instance : Inhabited Address := ⟨⟨none, "/", .empty, []⟩⟩

/-- Why a text is no address. -/
inductive AddressError where
  /-- The text does not begin with a slash. -/
  | notAbsolute (text : String)
deriving DecidableEq

/-- The message that explains an error. -/
def AddressError.message : AddressError → String
  | .notAbsolute text => "location must start with '/': " ++ Text.quote text

namespace Address

/-- The address without a query at a path. -/
def ofPath (path : String) : Address := { path }

/-- The root of the host. -/
def root : Address := ofPath "/"

/-- Reads an address.  It begins with a slash; what follows the first number sign is ignored, and
the query begins after the first question mark. -/
def parse (text : String) : Except AddressError Address :=
  let cs := text.toList
  if cs.head? = some '/' then
    let (path, query) := Text.FormEncoding.splitFirst '?' (cs.takeWhile (· ≠ '#'))
    .ok { path := String.ofList path, query := Text.FormEncoding.read query }
  else .error (.notAbsolute text)

/-- Reads an address, with the root in place of a text that is none. -/
def parseOrRoot (text : String) : Address :=
  match parse text with
  | .ok a => a
  | .error _ => root

/-- The pairs of the query in their written form. -/
def queryText (a : Address) : String :=
  String.ofList (Text.FormEncoding.write a.query)

/-- The address as the address bar shows it; a query without pairs has no question mark. -/
def text (a : Address) : String :=
  if a.query.isEmpty then a.path else a.path ++ "?" ++ a.queryText

/-- The address with a route name. -/
def named (a : Address) (name : String) : Address := { a with name := some name }

/-- The address with a path parameter. -/
def withPathParam (a : Address) (key value : String) : Address :=
  { a with pathParams := a.pathParams.insert key value }

/-- The address with one more pair at the end of its query. -/
def append (a : Address) (key value : String) : Address :=
  { a with query := a.query ++ [(key, value)] }

/-- The first value of a key of the query. -/
def value? (a : Address) (key : String) : Option String := Pairs.value? key a.query

/-- Gives a key of the query one value, at the place of its first occurrence or at the end. -/
def set (a : Address) (key value : String) : Address :=
  { a with query := Pairs.set key value a.query }

/-- Removes a key from the query, wherever it occurs. -/
def remove (a : Address) (key : String) : Address :=
  { a with query := Pairs.remove key a.query }

@[simp] theorem value?_set_self (a : Address) (key value : String) :
    (a.set key value).value? key = some value :=
  Pairs.value?_set_self key value a.query

@[simp] theorem value?_remove_self (a : Address) (key : String) :
    (a.remove key).value? key = none :=
  Pairs.value?_remove_self key a.query

end Address

end RecordGrid
