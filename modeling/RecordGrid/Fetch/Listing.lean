/-
**Listings: what a fetch returns.**

A listing holds the rows of one page, and as far as the server tells them the total, the page and
page size that were served, and a summary row.  What the server tells is authoritative.

Main definitions:

* `RecordGrid.Listing` — rows, total, page, page size and summary;
* `RecordGrid.FetchFailure` — why a fetch gave no listing;
* `RecordGrid.Listing.toJson`, `RecordGrid.Listing.decode?` — a listing on the wire.
-/

import RecordGrid.Count
import RecordGrid.Row

set_option relaxedAutoImplicit false
set_option autoImplicit false

namespace RecordGrid

open Json (Draft required defaulted)

/-- What a fetch returns. -/
structure Listing where
  /-- The rows of the page. -/
  rows : List Row := []
  /-- The number of rows of all pages. -/
  total : Option Count := none
  /-- The page that was served. -/
  page : Option Count := none
  /-- The page size that was used. -/
  size : Option Count := none
  /-- A row that sums up the others. -/
  summary : Option Row := none
deriving DecidableEq

/-- Why a fetch gave no listing. -/
inductive FetchFailure where
  /-- The request failed. -/
  | request (message : String)
  /-- The listing was refused after it had arrived. -/
  | transform (message : String)
deriving DecidableEq

/-- The message of a failure. -/
def FetchFailure.message : FetchFailure → String
  | .request message => message
  | .transform message => message

/-- How a fetch ended. -/
abbrev Outcome := Except FetchFailure Listing

namespace Listing

instance : Inhabited Listing := ⟨{}⟩

/-- The listing of some rows. -/
def ofRows (rows : List Row) : Listing := { rows }

/-- The listing with a total. -/
def withTotal (l : Listing) (total : Count) : Listing := { l with total := some total }

/-- The listing with the page and page size that were served. -/
def withPage (l : Listing) (page size : Count) : Listing :=
  { l with page := some page, size := some size }

/-- The listing with a summary row. -/
def withSummary (l : Listing) (summary : Row) : Listing := { l with summary := some summary }

/-! ### Wire form -/

/-- The member for something that may be missing. -/
def member {α : Type} (key : String) (f : α → Json) : Option α → List (String × Json)
  | some a => [(key, f a)]
  | none => []

/-- The object of a listing; what is missing is left out. -/
def toJson (l : Listing) : Json :=
  .object (("items", .array (l.rows.map Row.toJson)) :: member "total" .ofCount l.total
    ++ member "page" .ofCount l.page ++ member "page_size" .ofCount l.size
    ++ member "summary" Row.toJson l.summary)

/-- The names of the members of a listing. -/
def fieldNames : List String := ["items", "total", "page", "page_size", "summary"]

/-- The field that a key stands for; a summary may also be given as an amount. -/
def field (key : String) : Option String :=
  if key = "amount" then some "summary" else if key ∈ fieldNames then some key else none

/-- Reads a listing.  Every member may be missing. -/
def decode? (d : Draft) : Option Listing := do
  match ← d.fieldsBy? field fieldNames with
  | [rows, total, page, size, summary] =>
      some { rows := ← defaulted [] (·.list? Row.decode?) rows
             total := ← defaulted none (·.nullable? Draft.count?) total
             page := ← defaulted none (·.nullable? Draft.count?) page
             size := ← defaulted none (·.nullable? Draft.count?) size
             summary := ← defaulted none (·.nullable? Row.decode?) summary }
  | _ => none

end Listing

end RecordGrid
