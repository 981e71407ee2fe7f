/-
**What is asked for does not depend on what comes back.**

Responses race with the calls of the host: they come late, twice, in any order or never, and each of
them moves the pager and ends loading.  None of them has a say in what is asked for next.  The
request of a grid that keeps its pagination to itself is a fold of the calls over the request it
began with, in which each call puts what it names in place of what stood there; and each call sends
exactly one fetch of the result, and tells the host exactly one thing.

Main definitions:

* `RecordGrid.Intent`, `RecordGrid.Intent.run` — a request and a filter form, and the fold of the
  calls over them;
* `RecordGrid.Grid.Holds` — **the invariant**: a grid holds an intent;
* `RecordGrid.GridSession.requests` — the request after each of the calls of a run.

Main results:

* `RecordGrid.Grid.Holds.call`, `RecordGrid.Grid.Holds.run` — one call, and a run;
* `RecordGrid.Intent.run_filter_isUser` — the fold passes over everything that is not the user's;
* `RecordGrid.GridSession.requests_follow_calls` — **requests and events follow the calls alone**.
-/

import RecordGrid.Proofs.Grid.Calls
import RecordGrid.Proofs.Request.Overwrite

set_option relaxedAutoImplicit false
set_option autoImplicit false

namespace RecordGrid

/-! ### Intents -/

/-- What a user has asked for: a request, and the values of the filter form. -/
structure Intent where
  /-- The request. -/
  request : Request
  /-- The filter form. -/
  form : FilterForm

namespace GridSession.Event

/-- Whether an event is a call. -/
def isCall : Event → Bool
  | .call _ => true
  | _ => false

/-- Whether an event is the user's: a call, or an edit of the filter form. -/
def isUser : Event → Bool
  | .call _ | .edit .. => true
  | _ => false

end GridSession.Event

namespace Intent

open GridSession (Event)

/-- The intent after an event: a call overwrites what it names, and an edit changes the form. -/
def step (i : Intent) : Event → Intent
  | .call c => { request := i.request.overwrite (c.asked i.form), form := c.formAfter i.form }
  | .edit field value => { i with form := i.form.edit field value }
  | .receive _ | .urlChanged => i

/-- The intent after a list of events. -/
def run (i : Intent) (es : List Event) : Intent := es.foldl step i

/-- The request after each of the calls in a list of events. -/
def requests (i : Intent) : List Event → List Request
  | [] => []
  | e :: es => (if e.isCall then [(i.step e).request] else []) ++ (i.step e).requests es

/-- What the host is told of the calls in a list of events. -/
def announcements (i : Intent) : List Event → List GridEvent
  | [] => []
  | .call c :: es => c.announced i.form :: (i.step (.call c)).announcements es
  | e :: es => (i.step e).announcements es

@[simp] theorem run_nil (i : Intent) : i.run [] = i := rfl

@[simp] theorem run_cons (i : Intent) (e : Event) (es : List Event) :
    i.run (e :: es) = (i.step e).run es := rfl

/-- Searching, filtering and changing the page size return to the first page; sorting and turning
pages keep the page, unless they name another. -/
theorem page_step_call (i : Intent) (c : Grid.Call) :
    (i.step (.call c)).request.page =
      if c.returns then 1
      else ((c.named i.form).page.map Count.positive).getD i.request.page := by
  rw [step, Request.page_overwrite, Grid.Call.page_asked]
  split <;> rfl

theorem size_step_call (i : Intent) (c : Grid.Call) :
    (i.step (.call c)).request.size =
      ((c.named i.form).size.map Count.positive).getD i.request.size := by
  rw [step, Request.size_overwrite, Grid.Call.size_asked]

theorem get?_step_call (i : Intent) (c : Grid.Call) (key : String) :
    (i.step (.call c)).request.get? key =
      ((c.named i.form).get? key).or (i.request.get? key) := by
  rw [step, Request.get?_overwrite, Grid.Call.get?_asked]

/-- **The fold passes over everything that is not the user's.** -/
theorem filter_isUser (i : Intent) (es : List Event) :
    i.run (es.filter Event.isUser) = i.run es ∧
      i.requests (es.filter Event.isUser) = i.requests es ∧
      i.announcements (es.filter Event.isUser) = i.announcements es := by
  induction es generalizing i with
  | nil => exact ⟨rfl, rfl, rfl⟩
  | cons e es ih =>
      obtain ⟨hrun, hrequests, hannounced⟩ := ih (i.step e)
      cases e with
      | call c =>
          exact ⟨hrun, congrArg (_ :: ·) hrequests, congrArg (_ :: ·) hannounced⟩
      | edit field value => exact ⟨hrun, hrequests, hannounced⟩
      | receive a => exact ⟨hrun, hrequests, hannounced⟩
      | urlChanged => exact ⟨hrun, hrequests, hannounced⟩

end Intent

/-! ### Calls in a session -/

namespace GridSession

/-- The request after each of the calls in a list of events. -/
def requests (s : GridSession) : List Event → List Request
  | [] => []
  | e :: es => (if e.isCall then [(s.step e).grid.request] else []) ++ (s.step e).requests es

/-- **What a call does to a session**, while the filter form is a given one. -/
structure Answers (s : GridSession) (form : FilterForm) (c : Grid.Call) : Prop where
  /-- One fetch is sent, of the request after the call. -/
  sent : ∃ f, (s.step (.call c)).sent = s.sent ++ [f] ∧
    f.request = s.grid.coordinator.prepare (s.step (.call c)).grid.request
  /-- The host is told one thing. -/
  told : (s.step (.call c)).told = s.told ++ [c.announced form]
  /-- The page is the first one if the call returns there, and otherwise the one that it names. -/
  page : (s.step (.call c)).grid.request.page =
    if c.returns then 1
    else ((c.named form).page.map Count.positive).getD s.grid.request.page
  /-- The page size is the one that the call names. -/
  size : (s.step (.call c)).grid.request.size =
    ((c.named form).size.map Count.positive).getD s.grid.request.size
  /-- The parameters that the call names are set, and the others are kept. -/
  params : ∀ key, (s.step (.call c)).grid.request.get? key =
    ((c.named form).get? key).or (s.grid.request.get? key)

end GridSession

/-! ### The invariant -/

/-- **A grid holds an intent**: it can fetch, keeps its pagination to itself, and has the request
and the filter form of the intent. -/
structure Grid.Holds (g : Grid) (i : Intent) : Prop where
  /-- There is something to fetch with. -/
  canFetch : g.coordinator.canFetch = true
  /-- The pagination is not in the address bar. -/
  plain : g.coordinator.store.paging = none
  /-- The request is the intended one. -/
  request : g.request = i.request
  /-- The filter form is the intended one. -/
  filters : g.filters = some i.form

namespace Grid.Holds

open GridSession (Event)

/-- **A call sends one fetch of what is intended after it, and tells the host one thing.** -/
theorem call {g : Grid} {i : Intent} (h : g.Holds i) (c : Call) :
    ∃ f, (g.call c).2 = { fetch := some f, events := [c.announced i.form] } ∧
      f.request = g.coordinator.prepare (i.step (.call c)).request ∧
      (g.call c).1.Holds (i.step (.call c)) := by
  obtain ⟨turn, hcall⟩ := call_of_plain h.plain h.filters c
  -- the grid that loads: the form is put back already, and the pager turned
  generalize hg : withPager { g with filters := some (c.formAfter i.form) } turn = g₁ at hcall
  have hcan : g₁.coordinator.canFetch = true := by
    rw [← hg]
    exact h.canFetch
  have hstore : g₁.coordinator.store.merge (c.asked i.form) =
      { request := (i.step (.call c)).request } := by
    rw [← hg]
    show g.coordinator.store.merge _ = _
    rw [Store.merge_of_plain h.plain]
    show { request := g.request.overwrite _, paging := none : Store } = _
    rw [h.request]
    rfl
  have hmerge := g₁.coordinator.mergeShown_eq (c.asked i.form)
  rw [hstore] at hmerge
  rw [hcall, load_of_canFetch hcan]
  refine ⟨_, rfl, ?_, ?_⟩
  · rw [hmerge, ← hg]
    rfl
  · rw [hmerge]
    exact ⟨hcan, rfl, rfl, by rw [← hg]; rfl⟩

/-- **Every event keeps the invariant**: a call and an edit change what is intended, and anything
else leaves it as it is. -/
theorem step {s : GridSession} {i : Intent} (h : s.grid.Holds i) (e : Event) :
    (s.step e).grid.Holds (i.step e) := by
  cases e with
  | call c =>
      obtain ⟨f, -, -, hholds⟩ := h.call c
      exact hholds
  | edit field value =>
      have hg := s.grid.edit_eq field value
      rw [h.filters, Option.map_some] at hg
      show (s.grid.edit field value).Holds _
      rw [hg]
      exact ⟨h.canFetch, h.plain, h.request, rfl⟩
  | receive a =>
      have hc := (s.grid.coordinator_receive a).trans (s.grid.coordinator.coordinator_receive_eq a)
      show (s.grid.receive a).1.Holds i
      refine ⟨?_, ?_, ?_, (s.grid.filters_receive a).trans h.filters⟩
      · rw [hc]
        exact h.canFetch
      · rw [hc]
        exact h.plain
      · show (s.grid.receive a).1.coordinator.request = i.request
        rw [hc]
        exact h.request
  | urlChanged =>
      rw [GridSession.step, urlChanged_of_plain h.plain]
      exact h

/-- An event that is no call sends nothing and tells the host nothing. -/
theorem step_of_not_isCall {s : GridSession} {i : Intent} (h : s.grid.Holds i) {e : Event}
    (he : e.isCall = false) : (s.step e).sent = s.sent ∧ (s.step e).told = s.told := by
  cases e with
  | call c => cases he
  | edit field value => exact ⟨rfl, rfl⟩
  | receive a =>
      rw [GridSession.step_receive]
      exact ⟨rfl, rfl⟩
  | urlChanged =>
      rw [GridSession.step, urlChanged_of_plain h.plain]
      exact ⟨List.append_nil _, List.append_nil _⟩

/-- A grid that holds an intent answers every call. -/
theorem answers {s : GridSession} {i : Intent} (h : s.grid.Holds i)
    (c : Call) : s.Answers i.form c := by
  obtain ⟨f, heffect, hf, hholds⟩ := h.call c
  have hafter : (s.step (.call c)).grid.request = (i.step (.call c)).request := hholds.request
  refine ⟨⟨f, ?_, ?_⟩, ?_, ?_, ?_, fun key => ?_⟩
  · rw [GridSession.step, GridSession.after, heffect]
    rfl
  · rw [hf, hafter]
  · rw [GridSession.step, GridSession.after, heffect]
  · rw [hafter, Intent.page_step_call, h.request]
  · rw [hafter, Intent.size_step_call, h.request]
  · rw [hafter, Intent.get?_step_call, h.request]

end Grid.Holds

/-! ### Runs -/

/-- **In every run the grid holds the fold of the calls**, and so do the requests after each of
them and what the host was told. -/
theorem Grid.Holds.run {s : GridSession} {i : Intent} (h : s.grid.Holds i)
    (es : List GridSession.Event) :
    (s.run es).grid.Holds (i.run es) ∧
      s.requests es = i.requests es ∧ (s.run es).told = s.told ++ i.announcements es := by
  -- session and intent move together, so the induction is for all pairs of which the first holds
  -- the second
  induction es generalizing s i with
  | nil => exact ⟨h, rfl, (List.append_nil _).symm⟩
  | cons e es ih =>
      obtain ⟨hrun, hrequests, htold⟩ := ih (h.step e)
      refine ⟨hrun, ?_, ?_⟩
      · rw [GridSession.requests, Intent.requests, hrequests, (h.step e).request]
      · rw [GridSession.run_cons, htold]
        cases e with
        | call c => rw [(h.answers c).told, List.append_assoc]; rfl
        | edit field value => rw [(h.step_of_not_isCall rfl).2]; rfl
        | receive a => rw [(h.step_of_not_isCall rfl).2]; rfl
        | urlChanged => rw [(h.step_of_not_isCall rfl).2]; rfl

namespace GridSession

/-- **Requests and events follow the calls alone.**  In every run of a grid that can fetch, keeps
its pagination to itself and has a filter form, whatever comes back and in whichever order:

* the request is the fold of the calls over the request at the beginning;
* each call sends exactly one fetch, of the request after it, and tells the host exactly one thing;
  it puts what it names in place of what stood there, zero being read as one, keeps the rest, and
  returns to the first page unless it sorts or turns pages;
* nothing else sends a fetch or tells the host anything;
* another grid that holds the same request and filter form, whatever it does to its requests and
  responses, goes through the same requests and tells its host the same when it is used in the same
  way, whatever comes back to it. -/
theorem requests_follow_calls {g : Grid} {i : Intent} (h : g.Holds i) (es : List Event) :
    ((ofGrid g).run es).grid.request = (i.run es).request ∧
      (∀ c, ((ofGrid g).run es).Answers (i.run es).form c) ∧
      (∀ e, e.isCall = false →
        (((ofGrid g).run es).step e).sent = ((ofGrid g).run es).sent ∧
          (((ofGrid g).run es).step e).told = ((ofGrid g).run es).told) ∧
      ∀ g' es', g'.Holds i → es'.filter Event.isUser = es.filter Event.isUser →
        (ofGrid g').requests es' = (ofGrid g).requests es ∧
          ((ofGrid g').run es').told = ((ofGrid g).run es).told := by
  obtain ⟨hrun, hrequests, htold⟩ := Grid.Holds.run (s := ofGrid g) h es
  refine ⟨hrun.request, hrun.answers, fun e he => hrun.step_of_not_isCall he,
    fun g' es' h' hes => ?_⟩
  obtain ⟨-, hrequests', htold'⟩ := Grid.Holds.run (s := ofGrid g') h' es'
  -- both runs are the same fold, over what is left of them without the arrivals
  obtain ⟨-, hfold, hannounced⟩ := i.filter_isUser es
  obtain ⟨-, hfold', hannounced'⟩ := i.filter_isUser es'
  constructor
  · rw [hrequests, hrequests', ← hfold, ← hfold', hes]
  · rw [htold, htold', ← hannounced, ← hannounced', hes]
    rfl

/-- A filter by name. -/
def nameFilter : FilterItem := { field := "name", label := "Name", kind := .input }

/-- A grid with that filter. -/
def nameGrid : Grid :=
  { Grid.ofSchema 0 {} [] with
    coordinator := { Coordinator.ofStore 0 (.ofPage 1 20) with canFetch := true }
    filters := some (.ofItems [nameFilter]) }

/-- Another one, which adds to its requests and takes over the latest response only. -/
def localGrid : Grid :=
  { nameGrid with
    coordinator :=
      { Coordinator.ofStore 1 (.ofPage 1 20) with
        canFetch := true
        prepare := fun r => r.set "lang" (.string "en")
        ordering := .latestOnly } }

/-- The calls of a user: the second one names a page, the last one names page zero. -/
def visit : List Event :=
  [.call (.search "a"), .call (.sort (.ofPage 3)), .edit "name" (.text "b"), .call .applyFilters,
    .call (.changePageSize 50), .call (.changePage 0)]

/-- The same calls, while one fetch comes back late and twice, and another one fails. -/
def busyVisit : List Event :=
  [.call (.search "a"), .call (.sort (.ofPage 3)),
    .receive { owner := 0, seq := 1, outcome := .ok { page := some 9, size := some 5 } },
    .edit "name" (.text "b"), .call .applyFilters,
    .receive { owner := 0, seq := 3, outcome := .error (.request "timeout") },
    .call (.changePageSize 50),
    .receive { owner := 0, seq := 1, outcome := .ok { page := some 9, size := some 5 } },
    .call (.changePage 0)]

/-- What both begin with. -/
def blank : Intent := { request := .ofPage 1 20, form := .ofItems [nameFilter] }

theorem requests_follow_calls_visit :
    nameGrid.Holds blank ∧ localGrid.Holds blank ∧
      (ofGrid localGrid).requests visit = (ofGrid nameGrid).requests busyVisit ∧
      ((ofGrid nameGrid).requests busyVisit).map (fun r => (r.page, r.size)) =
        [(1, 20), (3, 20), (1, 20), (1, 50), (1, 50)] := by
  have hname : nameGrid.Holds blank := ⟨rfl, rfl, rfl, rfl⟩
  have hlocal : localGrid.Holds blank := ⟨rfl, rfl, rfl, rfl⟩
  have hsame : visit.filter Event.isUser = busyVisit.filter Event.isUser := rfl
  obtain ⟨-, -, -, htwo⟩ := requests_follow_calls hname busyVisit
  exact ⟨hname, hlocal, (htwo localGrid visit hlocal hsame).1, by decide +kernel⟩

end GridSession

end RecordGrid
