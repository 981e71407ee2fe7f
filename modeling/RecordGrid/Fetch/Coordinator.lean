/-
**The load coordinator.**

A coordinator owns the request of a grid and what its latest listing left behind: rows, summary
and pager.  Loading merges a patch into the request and issues a fetch; when the fetch has ended,
its arrival is handed back and reconciled.  Fetches may overlap and arrivals may come in any
order, late, twice or never.

A load without a patch is dropped while something is loading, which absorbs repeated triggers; a
load with a patch always goes out.  Each fetch has a sequence number, and under the ordering
`latestOnly` only the arrival of the fetch issued last is applied.

Main definitions:

* `RecordGrid.Fetch`, `RecordGrid.Arrival` — a fetch on its way out and on its way back;
* `RecordGrid.Coordinator` — the state;
* `RecordGrid.Coordinator.load` — issues a fetch;
* `RecordGrid.Coordinator.receive` — takes an arrival;
* `RecordGrid.Coordinator.reconcile` — takes over a listing.
-/

import RecordGrid.Fetch.Listing
import RecordGrid.Pager
import RecordGrid.Request.Store

set_option relaxedAutoImplicit false
set_option autoImplicit false

namespace RecordGrid

/-! ### Fetches -/

/-- Which of several overlapping responses are applied. -/
inductive ResponseOrdering where
  /-- Every response, when it arrives. -/
  | lastResponse
  /-- Only the response to the fetch issued last. -/
  | latestOnly
deriving DecidableEq, Repr

instance : Inhabited ResponseOrdering := ⟨.lastResponse⟩

/-- A fetch that was issued. -/
structure Fetch where
  /-- The coordinator that issued it. -/
  owner : Nat
  /-- Its place among the fetches of that coordinator, counted from one and, like
  `Coordinator.issued`, without a bound. -/
  seq : Nat
  /-- What is asked for. -/
  request : Request
  /-- What is done to a listing before it is handed back. -/
  finish : Listing → Outcome

/-- The end of a fetch, to be handed back. -/
structure Arrival where
  /-- The coordinator that issued the fetch. -/
  owner : Nat
  /-- The place of the fetch among those of that coordinator, as in `Fetch.seq`. -/
  seq : Nat
  /-- How the fetch ended. -/
  outcome : Outcome

/-- The arrival of a fetch that was answered. -/
def Fetch.arrival (f : Fetch) (answer : Outcome) : Arrival :=
  { owner := f.owner, seq := f.seq, outcome := answer.bind f.finish }

/-! ### State -/

/-- The state of a coordinator. -/
structure Coordinator where
  /-- Tells coordinators apart. -/
  id : Nat
  /-- The current request. -/
  store : Store
  /-- Whether there is anything to fetch with. -/
  canFetch : Bool := false
  /-- What is done to a request before it is sent. -/
  prepare : Request → Request := fun r => r
  /-- What is done to a listing before it is handed back. -/
  finish : Listing → Outcome := .ok
  /-- Which of several overlapping responses are applied. -/
  ordering : ResponseOrdering := .lastResponse
  /-- The field that holds the key of a row. -/
  rowKey : String := "id"
  /-- The text that the summary row has in that field. -/
  summaryLabel : String := "Summary"
  /-- Whether a fetch is under way. -/
  fetching : Bool := false
  /-- Whether the host is loading, if it says so. -/
  external : Option Bool := none
  /-- The number of fetches issued so far.  It has no bound, as the 2 ^ 64 fetches at which a
  counter of 64 bits would overflow are out of reach. -/
  issued : Nat := 0
  /-- The pager. -/
  pager : Pager
  /-- The rows of the latest listing. -/
  rows : List Row := []
  /-- The summary row of the latest listing. -/
  summary : Option Row := none

namespace Coordinator

/-- Shows the pagination of the request in the pager. -/
def syncPager (c : Coordinator) : Coordinator :=
  { c with pager := (c.pager.setCurrent c.store.request.page).setSize c.store.request.size }

/-- A coordinator over a store; its pager begins where the request is. -/
def ofStore (id : Nat) (store : Store) : Coordinator :=
  { id, store,
    pager := (({} : Pager).setCurrent store.request.page).setSize store.request.size }

/-- The current request. -/
def request (c : Coordinator) : Request := c.store.request

/-- Whether something is loading: a fetch, or the host. -/
def loading (c : Coordinator) : Bool := c.fetching || c.external.getD false

/-- Merges a patch into the request. -/
def merge (c : Coordinator) (p : Patch) : Coordinator := { c with store := c.store.merge p }

/-- Merges a patch into the request, and shows it in the pager if it names a page or page size. -/
def mergeShown (c : Coordinator) (p : Patch) : Coordinator :=
  if p.touchesPagination then (c.merge p).syncPager else c.merge p

/-! ### Loading -/

/-- Issues a fetch of the current request. -/
def issue (c : Coordinator) : Coordinator × Fetch :=
  ({ c with fetching := true, issued := c.issued + 1 },
    { owner := c.id, seq := c.issued + 1, request := c.prepare c.request, finish := c.finish })

/-- Merges a patch, if there is one, and issues a fetch.  Nothing happens when there is nothing to
fetch with, and without a patch while something is loading. -/
def load (c : Coordinator) (patch : Option Patch) : Coordinator × Option Fetch :=
  if !c.canFetch then (c, none)
  else match patch with
    | none =>
        if c.loading then (c, none)
        else (c.issue.1, some c.issue.2)
    | some p => ((c.mergeShown p).issue.1, some (c.mergeShown p).issue.2)

/-- Fetches the current request again. -/
def reload (c : Coordinator) : Coordinator × Option Fetch := c.load none

/-! ### Arrivals -/

/-- The summary row of a listing, with the label in the field of the key. -/
def labelled (c : Coordinator) (row : Row) : Row :=
  row.insert c.rowKey (.string c.summaryLabel)

/-- The pager after a listing: what the server tells is taken over. -/
def pagerAfter (p : Pager) (l : Listing) : Pager :=
  let p := match l.total with
    | some total => p.setTotal total
    | none => p
  let p := match l.page with
    | some page => p.setCurrent page
    | none => p
  match l.size with
  | some size => p.setSize size
  | none => p

/-- Takes over a listing: its rows and summary replace the former ones, and loading ends. -/
def reconcile (c : Coordinator) (l : Listing) : Coordinator :=
  { c with
    rows := l.rows
    summary := l.summary.map c.labelled
    pager := pagerAfter c.pager l
    fetching := false }

/-- The message of a failure that is not reported. -/
def silentMessage : String := "OK"

/-- The notices of a failure. -/
def failureNotices (f : FetchFailure) : List String :=
  if f.message = silentMessage then [] else ["Failed to load data: " ++ f.message]

/-- What taking an arrival results in. -/
structure Receipt where
  /-- The state after it. -/
  coordinator : Coordinator
  /-- Whether the arrival belonged to the coordinator. -/
  consumed : Bool
  /-- What the user is told. -/
  notices : List String := []

/-- Whether an arrival came too late to be applied. -/
def isStale (c : Coordinator) (a : Arrival) : Bool :=
  c.ordering = .latestOnly && a.seq ≠ c.issued

/-- Takes an arrival.  One that belongs to another coordinator is left alone, and one that came
too late has no effect.  A failure leaves the rows as they are. -/
def receive (c : Coordinator) (a : Arrival) : Receipt :=
  if a.owner ≠ c.id then { coordinator := c, consumed := false }
  else if c.isStale a then { coordinator := c, consumed := true }
  else match a.outcome with
    | .ok l => { coordinator := c.reconcile l, consumed := true }
    | .error f =>
        { coordinator := { c with fetching := false }, consumed := true
          notices := failureNotices f }

end Coordinator

end RecordGrid
