/-
**The configuration of pagination in the address bar, on the wire.**

Main definitions:

* `RecordGrid.UrlPagingConfig.toJson`, `RecordGrid.UrlPagingConfig.decode?`.
-/

import RecordGrid.Json.Fields
import RecordGrid.Url.Paging

set_option relaxedAutoImplicit false
set_option autoImplicit false

namespace RecordGrid.UrlPagingConfig

open Json (Draft defaulted)

/-- The object of a configuration. -/
def toJson (c : UrlPagingConfig) : Json :=
  .object [("page_param", .string c.pageParam), ("page_size_param", .string c.sizeParam),
    ("default_page_size", .ofCount c.defaultSize)]

/-- Reads a configuration.  Every member may be missing. -/
def decode? (d : Draft) : Option UrlPagingConfig := do
  let usual : UrlPagingConfig := {}
  match ← d.fields? ["page_param", "page_size_param", "default_page_size"] with
  | [page, size, defaultSize] =>
      some { pageParam := ← defaulted usual.pageParam Draft.string? page
             sizeParam := ← defaulted usual.sizeParam Draft.string? size
             defaultSize := ← defaulted usual.defaultSize Draft.count? defaultSize }
  | _ => none

end RecordGrid.UrlPagingConfig
