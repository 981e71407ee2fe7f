/-
**Under `lastResponse` every arrival counts, and the last one wins.**

Under the ordering `lastResponse` nothing is thrown away: each arrival is applied when it comes,
however old its fetch is.  What is shown after a run is then a matter of the run alone, and of its
last word on each thing: the rows and the summary are those of the last listing, the total is the
last one that a listing carried, and the page and the page size are the last that a listing carried
or that a load turned the pager to.  Failures have no say in any of it; they end up in the notices.

Everything that is shown behaves like a *register*: an event either tells it a new value or leaves
it alone.  One induction over runs covers all registers (`RecordGrid.Session.IsRegister.run`), and
what remains is to say for each of them what the single events tell it.

Main definitions:

* `RecordGrid.Session.Event.listing?`, `failure?`, `patch?` — what an event hands over;
* `RecordGrid.PagerNumber` — the two numbers that the pager takes from requests and listings alike;
* `RecordGrid.Session.told` — what the events of a run tell a register;
* `RecordGrid.Session.Applies` — every arrival is applied;
* `RecordGrid.Session.IsRegister` — something seen of a session that only changes as it is told.

Main results:

* `RecordGrid.Session.IsRegister.run` — **a register holds what it was told last**;
* `RecordGrid.Session.lastResponse_account` — **what is shown after a run**, thing by thing.
-/

import RecordGrid.Proofs.Fetch.Session

set_option relaxedAutoImplicit false
set_option autoImplicit false

namespace RecordGrid

/-! ### The numbers of the pager -/

/-- The two numbers that the pager takes from requests and from listings. -/
inductive PagerNumber where
  /-- The page. -/
  | page
  /-- The number of rows of a page. -/
  | size
deriving DecidableEq, Repr

namespace PagerNumber

def ofPager : PagerNumber → Pager → Count
  | page, p => p.current
  | size, p => p.size

def ofRequest : PagerNumber → Request → Count
  | page, r => r.page
  | size, r => r.size

/-- The number in a listing, if the listing carries it. -/
def ofListing? : PagerNumber → Listing → Option Count
  | page, l => l.page
  | size, l => l.size

theorem ofPager_turned (k : PagerNumber) (p : Pager) (r : Request) :
    k.ofPager ((p.setCurrent r.page).setSize r.size) = (k.ofRequest r).positive := by
  cases k <;> rfl

theorem ofPager_pagerAfter (k : PagerNumber) (p : Pager) (l : Listing) :
    k.ofPager (Coordinator.pagerAfter p l) =
      ((k.ofListing? l).map Count.positive).getD (k.ofPager p) := by
  obtain ⟨rows, total, page, size, summary⟩ := l
  cases k with
  | page => cases total <;> cases page <;> cases size <;> rfl
  | size => cases total <;> cases page <;> cases size <;> rfl

end PagerNumber

namespace Coordinator

theorem total_pagerAfter (p : Pager) (l : Listing) :
    (pagerAfter p l).total = l.total.getD p.total := by
  obtain ⟨rows, total, page, size, summary⟩ := l
  cases total <;> cases page <;> cases size <;> rfl

theorem listed_settle (c : Coordinator) (o : Outcome) :
    ((c.settle o).rows, (c.settle o).summary) =
      (o.toOption.map fun l => (l.rows, l.summary.map c.labelled)).getD (c.rows, c.summary) := by
  cases o <;> rfl

theorem pager_settle (c : Coordinator) (o : Outcome) :
    (c.settle o).pager = (o.toOption.map (pagerAfter c.pager)).getD c.pager := by
  cases o <;> rfl

end Coordinator

namespace Session

/-! ### What an event hands over -/

/-- The listing that an event hands over: the host's, or that of a fetch that succeeded. -/
def Event.listing? : Event → Option Listing
  | .reconcile l => some l
  | .receive f answer => (answer.bind f.finish).toOption
  | _ => none

/-- The failure that an event hands over. -/
def Event.failure? : Event → Option FetchFailure
  | .receive f answer =>
      match answer.bind f.finish with
      | .ok _ => none
      | .error e => some e
  | _ => none

/-- The patch that an event merges into the request: that of a load, if there is anything to fetch
with. -/
def Event.patch? (canFetch : Bool) : Event → Option Patch
  | .load patch => if canFetch then patch else none
  | _ => none

/-- The store after an event. -/
def storeAfter (canFetch : Bool) (store : Store) (e : Event) : Store :=
  match e.patch? canFetch with
  | some p => store.merge p
  | none => store

/-- What the events of a run tell a register.  An event tells it something or nothing, and what it
tells may depend on the store that the events before it have led to. -/
def told {α : Type} (canFetch : Bool) (tell : Store → Event → Option α) :
    Store → List Event → List α
  | _, [] => []
  | store, e :: es =>
      (tell store e).toList ++ told canFetch tell (storeAfter canFetch store e) es

theorem told_const {α : Type} (canFetch : Bool) (tell : Event → Option α) (store : Store)
    (es : List Event) : told canFetch (fun _ => tell) store es = es.filterMap tell := by
  induction es generalizing store with
  | nil => rfl
  | cons e es ih => cases h : tell e <;> simp [told, h, ih]

theorem told_map {α β : Type} (canFetch : Bool) (tell : Store → Event → Option α) (f : α → β)
    (store : Store) (es : List Event) :
    told canFetch (fun s e => (tell s e).map f) store es =
      (told canFetch tell store es).map f := by
  induction es generalizing store with
  | nil => rfl
  | cons e es ih => cases h : tell store e <;> simp [told, h, ih]

/-! ### Every arrival is applied -/

/-- **What is known of a session in which every arrival is applied**: the fetches sent are its own,
and the coordinator is set up as `c`. -/
structure Applies (s : Session) (c : Coordinator) : Prop where
  /-- The fetches sent are the coordinator's own. -/
  numbered : s.Numbered
  /-- No arrival comes too late. -/
  ordering : s.coordinator.ordering = .lastResponse
  canFetch : s.coordinator.canFetch = c.canFetch
  rowKey : s.coordinator.rowKey = c.rowKey
  summaryLabel : s.coordinator.summaryLabel = c.summaryLabel

namespace Applies

variable {s : Session} {c : Coordinator}

theorem step (h : s.Applies c) (e : Event) : (s.step e).Applies c := by
  have heq := s.coordinator_step_eq e
  constructor
  · exact h.numbered.step e
  · rw [heq]
    exact h.ordering
  · rw [heq]
    exact h.canFetch
  · rw [heq]
    exact h.rowKey
  · rw [heq]
    exact h.summaryLabel

theorem step_receive (h : s.Applies c) {f : Fetch} (hf : f ∈ s.sent) (answer : Outcome) :
    s.step (.receive f answer) =
      { s with
        coordinator := s.coordinator.settle (answer.bind f.finish)
        notices := s.notices ++ outcomeNotices (answer.bind f.finish) } := by
  apply step_receive_of_not_isStale
  · exact h.numbered.owner f hf
  · simp [Coordinator.isStale, h.ordering]

/-- A load with a patch goes out exactly when there is something to fetch with. -/
theorem goesOut_some (h : s.Applies c) (p : Patch) :
    s.coordinator.goesOut (some p) = c.canFetch := by
  simp [Coordinator.goesOut, h.canFetch]

theorem labelled (h : s.Applies c) : s.coordinator.labelled = c.labelled := by
  funext row
  rw [Coordinator.labelled, h.rowKey, h.summaryLabel]
  rfl

end Applies

/-- Something that is seen of a session is a register: each event leaves in it what the event tells
it, or what was in it before. -/
def IsRegister {α : Type} (c : Coordinator) (look : Session → α)
    (tell : Store → Event → Option α) : Prop :=
  ∀ s e, s.Applies c → s.Admits e →
    look (s.step e) = (tell s.coordinator.store e).getD (look s)

/-! ### What no arrival changes -/

theorem coordinator_step_receive (s : Session) (f : Fetch) (answer : Outcome) :
    (s.step (.receive f answer)).coordinator =
      (s.coordinator.receive (f.arrival answer)).coordinator := rfl

theorem store_step_receive (s : Session) (f : Fetch) (answer : Outcome) :
    (s.step (.receive f answer)).coordinator.store = s.coordinator.store := by
  rw [coordinator_step_receive, Coordinator.coordinator_receive_eq]

theorem issued_step_receive (s : Session) (f : Fetch) (answer : Outcome) :
    (s.step (.receive f answer)).coordinator.issued = s.coordinator.issued := by
  rw [coordinator_step_receive, Coordinator.coordinator_receive_eq]

theorem shown_step_receive_error (s : Session) {f : Fetch} {answer : Outcome} {e : FetchFailure}
    (he : answer.bind f.finish = .error e) :
    (s.step (.receive f answer)).coordinator.rows = s.coordinator.rows ∧
      (s.step (.receive f answer)).coordinator.summary = s.coordinator.summary ∧
      (s.step (.receive f answer)).coordinator.pager = s.coordinator.pager := by
  rcases s.step_receive_cases f answer with hs | ⟨-, -, hs⟩
  · rw [hs]
    exact ⟨rfl, rfl, rfl⟩
  · rw [hs, he]
    exact ⟨rfl, rfl, rfl⟩

/-! ### What the events tell the registers -/

/-- Rows and summary are one register: they come and go together. -/
theorem isRegister_listed (c : Coordinator) :
    IsRegister c (fun s => (s.coordinator.rows, s.coordinator.summary)) fun _ e =>
      e.listing?.map fun l => (l.rows, l.summary.map c.labelled) := by
  intro s e h he
  simp only [← h.labelled]
  cases e with
  | load patch =>
      rcases s.step_load_cases patch with hs | ⟨-, hs⟩
      · rw [hs]
        rfl
      · rw [hs, Coordinator.patched_eq]
        rfl
  | external loading => rfl
  | reconcile l => rfl
  | receive f answer =>
      rw [h.step_receive he]
      exact s.coordinator.listed_settle _

/-- A load changes the store and the pager as its patch says, and without one neither of them. -/
theorem coordinator_step_load {s : Session} {c : Coordinator} (h : s.Applies c)
    (patch : Option Patch) :
    (s.step (.load patch)).coordinator.store =
        storeAfter c.canFetch s.coordinator.store (.load patch) ∧
      (s.step (.load patch)).coordinator.pager =
        ((Event.load patch).patch? c.canFetch).elim s.coordinator.pager
          fun p => (s.coordinator.mergeShown p).pager := by
  cases patch with
  | none =>
      have hnone : (Event.load none).patch? c.canFetch = none := by
        cases c.canFetch <;> rfl
      rw [storeAfter, hnone]
      rcases s.step_load_cases none with hs | ⟨-, hs⟩
      · rw [hs]
        exact ⟨rfl, rfl⟩
      · rw [hs]
        exact ⟨rfl, rfl⟩
  | some p =>
      have hout := h.goesOut_some p
      cases hf : c.canFetch with
      | false =>
          rw [step_load_of_not_goesOut (hout.trans hf)]
          exact ⟨rfl, rfl⟩
      | true =>
          rw [step_load_of_goesOut (hout.trans hf)]
          exact ⟨s.coordinator.store_mergeShown p, rfl⟩

theorem isRegister_total (c : Coordinator) :
    IsRegister c (·.coordinator.pager.total) fun _ e => e.listing?.bind (·.total) := by
  intro s e h he
  cases e with
  | load patch =>
      simp only [(coordinator_step_load h patch).2]
      cases (Event.load patch).patch? c.canFetch with
      | none => rfl
      | some p => exact s.coordinator.total_mergeShown p
  | external loading => rfl
  | reconcile l => exact Coordinator.total_pagerAfter _ _
  | receive f answer =>
      rw [h.step_receive he]
      simp only [Coordinator.pager_settle, Event.listing?]
      cases (answer.bind f.finish).toOption with
      | none => rfl
      | some l => exact Coordinator.total_pagerAfter _ _

/-- What an event tells a number of the pager: a load whose patch names a page or a page size tells
it what the request comes to, and a listing what it carries. -/
def tellNumber (k : PagerNumber) (canFetch : Bool) (store : Store) (e : Event) : Option Count :=
  match e.patch? canFetch with
  | some p => if p.touchesPagination then some (k.ofRequest (store.merge p).request) else none
  | none => e.listing?.bind k.ofListing?

theorem isRegister_number (k : PagerNumber) (c : Coordinator) :
    IsRegister c (fun s => k.ofPager s.coordinator.pager) fun store e =>
      (tellNumber k c.canFetch store e).map Count.positive := by
  intro s e h he
  cases e with
  | load patch =>
      simp only [(coordinator_step_load h patch).2, tellNumber]
      cases (Event.load patch).patch? c.canFetch with
      | none => rfl
      | some p =>
          simp only [Option.elim, Coordinator.pager_mergeShown]
          split
          · exact k.ofPager_turned _ _
          · rfl
  | external loading => rfl
  | reconcile l => exact k.ofPager_pagerAfter _ _
  | receive f answer =>
      rw [h.step_receive he]
      simp only [Coordinator.pager_settle, tellNumber, Event.patch?, Event.listing?]
      cases (answer.bind f.finish).toOption with
      | none => rfl
      | some l => exact k.ofPager_pagerAfter _ _

/-- Only loads change the store. -/
theorem store_step {s : Session} {c : Coordinator} (h : s.Applies c) (e : Event) :
    (s.step e).coordinator.store = storeAfter c.canFetch s.coordinator.store e := by
  cases e with
  | load patch => exact (coordinator_step_load h patch).1
  | external loading => rfl
  | reconcile l => rfl
  | receive f answer => exact s.store_step_receive f answer

/-- The notices that an event adds: those of the failure that it hands over. -/
theorem notices_step {s : Session} {c : Coordinator} {e : Event} (h : s.Applies c)
    (he : s.Admits e) :
    (s.step e).notices = s.notices ++ e.failure?.toList.flatMap Coordinator.failureNotices := by
  cases e with
  | load patch =>
      rcases s.step_load_cases patch with hs | ⟨-, hs⟩
      · rw [hs]
        simp [Event.failure?]
      · rw [hs]
        simp [Event.failure?]
  | external loading => simp [step, Event.failure?]
  | reconcile l => simp [step, Event.failure?]
  | receive f answer =>
      rw [h.step_receive he]
      cases ha : answer.bind f.finish with
      | ok l => simp [Event.failure?, ha]
      | error e => simp [Event.failure?, ha]

/-! ### Runs -/

/-- **A register holds what it was told last**, and what it held in the beginning if it was told
nothing. -/
theorem IsRegister.run {α : Type} {c : Coordinator} {look : Session → α}
    {tell : Store → Event → Option α} (h : IsRegister c look tell) {s : Session} {es : List Event}
    (hs : s.Applies c) (hes : s.IsRun es) :
    look (s.run es) =
      ((told c.canFetch tell s.coordinator.store es).getLast?).getD (look s) := by
  induction es generalizing s with
  | nil => rfl
  | cons e es ih =>
      have hstep := h s e hs hes.1
      rw [run_cons, ih (hs.step e) hes.2, store_step hs, told, hstep]
      -- the later events have the last word, and the first one only if they say nothing
      cases htell : tell s.coordinator.store e with
      | none => rfl
      | some a =>
          cases hrest : told c.canFetch tell (storeAfter c.canFetch s.coordinator.store e) es with
          | nil => rfl
          | cons b bs => simp [List.getLast?_cons]

theorem store_run {c : Coordinator} {s : Session} (hs : s.Applies c) (es : List Event) :
    (s.run es).coordinator.store =
      (es.filterMap (·.patch? c.canFetch)).foldl Store.merge s.coordinator.store := by
  induction es generalizing s with
  | nil => rfl
  | cons e es ih =>
      rw [run_cons, ih (hs.step e), store_step hs, storeAfter]
      cases hp : e.patch? c.canFetch with
      | none => rw [List.filterMap_cons_none hp]
      | some p => rw [List.filterMap_cons_some hp, List.foldl_cons]

theorem notices_run {c : Coordinator} {s : Session} {es : List Event} (hs : s.Applies c)
    (hes : s.IsRun es) :
    (s.run es).notices =
      s.notices ++ (es.filterMap Event.failure?).flatMap Coordinator.failureNotices := by
  induction es generalizing s with
  | nil => simp
  | cons e es ih =>
      rw [run_cons, ih (hs.step e) hes.2, notices_step hs hes.1, List.append_assoc]
      cases hf : e.failure? with
      | none => simp [hf]
      | some f => simp [hf]

/-- The notices of failures: one for each message other than the silent one, in their order. -/
theorem flatMap_failureNotices (fs : List FetchFailure) :
    fs.flatMap Coordinator.failureNotices =
      ((fs.map (·.message)).filter (· ≠ "OK")).map ("Failed to load data: " ++ ·) := by
  induction fs with
  | nil => rfl
  | cons f fs ih =>
      rw [List.flatMap_cons, ih, Coordinator.failureNotices, Coordinator.silentMessage]
      by_cases hf : f.message = "OK"
      · simp [hf]
      · simp [hf]

/-! ### What is shown -/

theorem applies_ofCoordinator {c : Coordinator} (hnew : c.issued = 0)
    (ho : c.ordering = .lastResponse) : (ofCoordinator c).Applies c :=
  ⟨.ofCoordinator hnew, ho, rfl, rfl, rfl⟩

/-- **Under `lastResponse` every arrival counts, and the last one wins.**  After every run of a
coordinator that begins with nothing sent and nothing shown, and so at every point of one:

* rows and summary are those of the last listing, whether it came from the host or from a fetch, and
  the summary has the label in the field of the key;
* the total is the last one that a listing carried;
* the page and the page size are, zero read as one, the last that a listing carried or that the
  request came to when a load named a page or a page size;
* the request is what the patches of the loads make of it, and no further arrival changes it or
  the number of fetches issued;
* a further failure leaves rows, summary and pager as they are;
* the notices are those of the failures, one for each message other than the silent one. -/
theorem lastResponse_account {c : Coordinator} {es : List Event} {s : Session}
    (hnew : c.issued = 0) (ho : c.ordering = .lastResponse) (hrows : c.rows = [])
    (hsummary : c.summary = none) (hes : (ofCoordinator c).IsRun es)
    (hs : (ofCoordinator c).run es = s) :
    (s.coordinator.rows, s.coordinator.summary) =
        (((es.filterMap Event.listing?).map fun l =>
          (l.rows, l.summary.map (·.insert c.rowKey (.string c.summaryLabel)))).getLast?).getD
            ([], none) ∧
      s.coordinator.pager.total =
        (((es.filterMap Event.listing?).filterMap (·.total)).getLast?).getD c.pager.total ∧
      (∀ k : PagerNumber, k.ofPager s.coordinator.pager =
        (((told c.canFetch (tellNumber k c.canFetch) c.store es).map Count.positive).getLast?).getD
          (k.ofPager c.pager)) ∧
      s.coordinator.store = (es.filterMap (·.patch? c.canFetch)).foldl Store.merge c.store ∧
      (∀ f answer,
        (s.step (.receive f answer)).coordinator.store = s.coordinator.store ∧
          (s.step (.receive f answer)).coordinator.issued = s.coordinator.issued ∧
          ∀ e, answer.bind f.finish = .error e →
            (s.step (.receive f answer)).coordinator.rows = s.coordinator.rows ∧
              (s.step (.receive f answer)).coordinator.summary = s.coordinator.summary ∧
              (s.step (.receive f answer)).coordinator.pager = s.coordinator.pager) ∧
      s.notices =
        (((es.filterMap Event.failure?).map (·.message)).filter (· ≠ "OK")).map
          ("Failed to load data: " ++ ·) := by
  have happlies : (ofCoordinator c).Applies c := applies_ofCoordinator hnew ho
  subst hs
  refine ⟨?_, ?_, ?_, store_run happlies es, ?_, ?_⟩
  · rw [List.map_filterMap, ← hrows, ← hsummary, ← told_const c.canFetch]
    exact (isRegister_listed c).run happlies hes
  · rw [List.filterMap_filterMap, ← told_const c.canFetch]
    exact (isRegister_total c).run happlies hes
  · intro k
    rw [← told_map]
    exact (isRegister_number k c).run happlies hes
  · intro f answer
    refine ⟨store_step_receive _ f answer, issued_step_receive _ f answer, ?_⟩
    intro e he
    exact shown_step_receive_error _ he
  · rw [notices_run happlies hes, flatMap_failureNotices]
    rfl

/-- A coordinator with something to fetch with that has issued nothing. -/
def eager : Coordinator := { Coordinator.ofStore 0 (.ofPage 1 20) with canFetch := true }

def eagerFetch (seq : Nat) (page : Count) : Fetch :=
  { owner := 0, seq, request := .ofPage page 20, finish := .ok }

/-- A row with a single field. -/
def namedRow (name : String) : Row := KeyMap.empty.insert "name" (.string name)

/-- Two pages are asked for.  The answer to the second fetch comes first and claims to be page zero;
then the first fetch is answered, and after that both of them fail. -/
def latecomer : List Event :=
  [.load (some (.ofPage 3)), .load (some (.ofPage 2)),
    .receive (eagerFetch 2 2) (.ok { rows := [namedRow "b"], total := some 60, page := some 0 }),
    .receive (eagerFetch 1 3) (.ok { rows := [namedRow "a"], size := some 5 }),
    .receive (eagerFetch 1 3) (.error (.request "timeout")),
    .receive (eagerFetch 2 2) (.error (.request "OK"))]

/-- The latecomer's rows are shown, next to the total and the page of the answer before it. -/
theorem lastResponse_account_latecomer :
    (ofCoordinator eager).IsRun latecomer ∧
      ((ofCoordinator eager).run latecomer).coordinator.rows = [namedRow "a"] ∧
      ((ofCoordinator eager).run latecomer).coordinator.pager.total = 60 ∧
      ((ofCoordinator eager).run latecomer).coordinator.pager.current = 1 ∧
      ((ofCoordinator eager).run latecomer).coordinator.pager.size = 5 ∧
      ((ofCoordinator eager).run latecomer).notices = ["Failed to load data: timeout"] := by
  have hrun : (ofCoordinator eager).IsRun latecomer := by
    have hfirst : ∀ g, eagerFetch 1 3 ∈ [g, eagerFetch 1 3] := by simp
    have hsecond : ∀ g, eagerFetch 2 2 ∈ [eagerFetch 2 2, g] := by simp
    refine ⟨trivial, trivial, ?_, ?_, ?_, ?_, trivial⟩
    · exact hsecond _
    · exact hfirst _
    · exact hfirst _
    · exact hsecond _
  obtain ⟨hlisted, htotal, hnumber, -, -, hnotices⟩ :=
    lastResponse_account (c := eager) rfl rfl rfl rfl hrun rfl
  have hrows := (Prod.mk.inj hlisted).1
  exact ⟨hrun, hrows, htotal, hnumber .page, hnumber .size, hnotices.trans (by decide)⟩

end Session

end RecordGrid
