/-
**Requests on the wire and back.**

A request is written as one flat object, with the two numbers of pagination beside the parameters.
A parameter that is called like one of the numbers makes the object name it twice, and then it
cannot be read.  Whoever sets parameters on a request may do that.  A store never does: whichever
way a patch is made, these two names lead to the numbers, so no parameter of a store has them.

That a value is read back from its text is taken for granted here of the object of the parameters
(`RecordGrid.Json.ReadsBack`); it says nothing of the flat object, in which they stand.

Main definitions:

* `RecordGrid.Unreserved` — parameters without the names of pagination;
* `RecordGrid.Request.read?` — a request from a text;
* `RecordGrid.Request.Edit`, `RecordGrid.Request.edits` — what can be set on a request;
* `RecordGrid.Patch.Made` — a patch made in any way;
* `RecordGrid.Store.Reachable` — a store after anything that can happen to it.

Main results:

* `RecordGrid.Request.read?_text` — **what a request is read as**;
* `RecordGrid.Patch.Made.unreserved`, `RecordGrid.Store.Reachable.sound` — the names of pagination
  stay out of patches and stores;
* `RecordGrid.wire_form_reads_back` — both together.
-/

import RecordGrid.Grid.Basic
import RecordGrid.Proofs.Json.Reading
import RecordGrid.Request.Wire

set_option relaxedAutoImplicit false
set_option autoImplicit false

namespace RecordGrid

open Json (Draft ReadsBack)

/-! ### The names of pagination -/

/-- No parameter has the name of a number of pagination. -/
def Unreserved (params : KeyMap Json) : Prop :=
  params.get? Patch.pageKey = none ∧ params.get? Patch.sizeKey = none

instance (params : KeyMap Json) : Decidable (Unreserved params) :=
  inferInstanceAs (Decidable (_ ∧ _))

namespace Unreserved

variable {m n : KeyMap Json}

theorem empty : Unreserved .empty := ⟨rfl, rfl⟩

theorem insert (h : Unreserved m) {key : String} (hkey : key ∉ paginationKeys) (value : Json) :
    Unreserved (m.insert key value) := by
  obtain ⟨hpage, hsize⟩ : key ≠ Patch.pageKey ∧ key ≠ Patch.sizeKey := by
    simpa [paginationKeys] using hkey
  constructor
  · rw [KeyMap.get?_insert, if_neg hpage, h.1]
  · rw [KeyMap.get?_insert, if_neg hsize, h.2]

theorem union (h : Unreserved m) (h' : Unreserved n) : Unreserved (m.union n) := by
  constructor
  · rw [KeyMap.get?_union, h.1, h'.1]
    rfl
  · rw [KeyMap.get?_union, h.2, h'.2]
    rfl

theorem ofList_iff {js : List (String × Json)} :
    Unreserved (.ofList js) ↔ ∀ e ∈ js, e.1 ∉ paginationKeys := by
  rw [Unreserved, KeyMap.get?_ofList_eq_none_iff, KeyMap.get?_ofList_eq_none_iff]
  simp [paginationKeys, forall_and]

end Unreserved

/-! ### Reading a flat object -/

theorem map_fst_of_jsonMembers? {ds : List (Option String × Draft)} {js : List (String × Json)}
    (h : Draft.jsonMembers? ds = some js) : ds.map (·.1) = js.map fun e => some e.1 := by
  induction ds generalizing js with
  | nil =>
      cases h
      rfl
  | cons d ds ih =>
      obtain ⟨k, d⟩ := d
      simp only [Draft.jsonMembers?, Option.bind_eq_bind, Option.bind_eq_some_iff] at h
      obtain ⟨k, rfl, j, -, js, hjs, h⟩ := h
      cases h
      rw [List.map_cons, List.map_cons, ih hjs]

theorem exists_key_of_jsonMembers? {ds : List (Option String × Draft)} {js : List (String × Json)}
    (h : Draft.jsonMembers? ds = some js) {d : Option String × Draft} (hd : d ∈ ds) :
    ∃ e ∈ js, d.1 = some e.1 := by
  have hkey : d.1 ∈ ds.map (·.1) := List.mem_map_of_mem hd
  rw [map_fst_of_jsonMembers? h] at hkey
  obtain ⟨e, he, heq⟩ := List.mem_map.1 hkey
  exact ⟨e, he, heq.symm⟩

section Flat

variable {ds : List (Option String × Draft)} {js : List (String × Json)}

/-- The number of pagination that a key leads to. -/
def numberOf? (key : String) : Option String :=
  if key ∈ paginationKeys then some key else none

/-- A key leads to a number of pagination exactly when it is its name. -/
theorem bind_numberOf?_iff {name : String} (hname : name ∈ paginationKeys) (k : Option String) :
    (k.bind numberOf? == some name) = true ↔ k = some name := by
  cases k with
  | none => simp
  | some k =>
      by_cases hk : k ∈ paginationKeys
      · simp [numberOf?, hk]
      · have hne : k ≠ name := fun e => hk (e ▸ hname)
        simp [numberOf?, hk, hne]

/-- The drafts given under a name of pagination. -/
theorem given_eq_nil_iff (h : Draft.jsonMembers? ds = some js) {name : String}
    (hname : name ∈ paginationKeys) :
    Draft.given numberOf? name ds = [] ↔ ∀ e ∈ js, e.1 ≠ name := by
  have hkeys : (∀ k ∈ ds.map (·.1), k ≠ some name) ↔
      ∀ k ∈ js.map fun e => some e.1, k ≠ some name := by rw [map_fst_of_jsonMembers? h]
  rw [List.forall_mem_map, List.forall_mem_map] at hkeys
  rw [Draft.given, List.map_eq_nil_iff, List.filter_eq_nil_iff]
  constructor
  · intro hds e he heq
    refine hkeys.1 ?_ e he (congrArg some heq)
    intro d hd hname'
    exact hds d hd ((bind_numberOf?_iff hname d.1).2 hname')
  · intro hjs d hd hname'
    refine hkeys.2 ?_ d hd ((bind_numberOf?_iff hname d.1).1 hname')
    intro e he heq
    exact hjs e he (Option.some.inj heq)

/-- Parameters are free of the names of pagination when nothing is given under them. -/
theorem unreserved_iff_given (h : Draft.jsonMembers? ds = some js) :
    Unreserved (.ofList js) ↔
      Draft.given numberOf? Patch.pageKey ds = [] ∧
        Draft.given numberOf? Patch.sizeKey ds = [] := by
  rw [Unreserved, KeyMap.get?_ofList_eq_none_iff, KeyMap.get?_ofList_eq_none_iff,
    given_eq_nil_iff h (by simp [paginationKeys]), given_eq_nil_iff h (by simp [paginationKeys])]

/-- The draft of a flat object: two counts, and then the parameters. -/
def flatDraft (page size : Count) (ds : List (Option String × Draft)) : Draft :=
  .object ((some Patch.pageKey, .value (.ofCount page)) ::
    (some Patch.sizeKey, .value (.ofCount size)) :: ds)

/-- The draft of a field, which may be given once. -/
def once? : List Draft → Option (Option Draft)
  | [] => some none
  | [v] => some (some v)
  | _ => none

theorem any_isNone_of_jsonMembers? (h : Draft.jsonMembers? ds = some js) :
    ds.any (fun m => m.1.isNone) = false := by
  rw [List.any_eq_false]
  intro d hd
  obtain ⟨e, -, heq⟩ := exists_key_of_jsonMembers? h hd
  simp [heq]

/-- What is given for the numbers of pagination, each of which may be given once. -/
theorem fields?_of_members? {d : Draft} (hd : d.members? = some ds)
    (hkeys : ds.any (fun m => m.1.isNone) = false) :
    d.fields? paginationKeys =
      (once? (Draft.given numberOf? Patch.pageKey ds)).bind fun page =>
        (once? (Draft.given numberOf? Patch.sizeKey ds)).bind fun size => some [page, size] := by
  rw [Draft.fields?, Draft.fieldsBy?, hd]
  show (if ds.any (fun m => m.1.isNone) then none else _) = _
  rw [hkeys]
  rfl

/-- Of the fields of a flat object each is given once, or the object is refused. -/
theorem fields?_flatDraft (h : Draft.jsonMembers? ds = some js) (page size : Count) :
    (flatDraft page size ds).fields? paginationKeys =
      if Unreserved (.ofList js) then
        some [some (.value (.ofCount page)), some (.value (.ofCount size))]
      else none := by
  have hfields : (flatDraft page size ds).fields? paginationKeys =
      (once? (.value (.ofCount page) :: Draft.given numberOf? Patch.pageKey ds)).bind fun p =>
        (once? (.value (.ofCount size) :: Draft.given numberOf? Patch.sizeKey ds)).bind fun s =>
          some [p, s] := by
    have hmembers : (flatDraft page size ds).members? =
        some ((some Patch.pageKey, .value (.ofCount page)) ::
          (some Patch.sizeKey, .value (.ofCount size)) :: ds) := rfl
    have hkeys := any_isNone_of_jsonMembers? h
    exact fields?_of_members? hmembers hkeys
  rw [hfields]
  cases hpage : Draft.given numberOf? Patch.pageKey ds with
  | cons v vs =>
      rw [if_neg (by rw [unreserved_iff_given h, hpage]; simp)]
      rfl
  | nil =>
      cases hsize : Draft.given numberOf? Patch.sizeKey ds with
      | cons v vs =>
          rw [if_neg (by rw [unreserved_iff_given h, hsize]; simp)]
          rfl
      | nil =>
          rw [if_pos ((unreserved_iff_given h).2 ⟨hpage, hsize⟩)]
          rfl

/-- Parameters with names of their own are not taken for pagination. -/
theorem filter_params (h : Draft.jsonMembers? ds = some js) (hfree : Unreserved (.ofList js)) :
    ds.filter (fun m => m.1.all (· ∉ paginationKeys)) = ds := by
  rw [List.filter_eq_self]
  intro d hd
  obtain ⟨e, he, heq⟩ := exists_key_of_jsonMembers? h hd
  rw [heq]
  exact decide_eq_true (Unreserved.ofList_iff.1 hfree e he)

/-- Parameters with names of their own are all taken over. -/
theorem flatParams?_flatDraft (h : Draft.jsonMembers? ds = some js)
    (hfree : Unreserved (.ofList js)) (v w : Draft) :
    flatParams? ((some Patch.pageKey, v) :: (some Patch.sizeKey, w) :: ds) =
      some (.ofList js) := by
  show (Draft.jsonMembers? (ds.filter fun m => m.1.all (· ∉ paginationKeys))).map _ = _
  rw [filter_params h hfree, h]
  rfl

/-- **What a flat object is read as**: its counts and parameters, unless a name of pagination is
given again. -/
theorem decode?_flatDraft (h : Draft.jsonMembers? ds = some js) (page size : Count) :
    Request.decode? (flatDraft page size ds) =
      if Unreserved (.ofList js) then some { Request.ofPage page size with params := .ofList js }
      else none := by
  by_cases hfree : Unreserved (.ofList js)
  · have hflat : flat? (flatDraft page size ds) =
        some (some (.value (.ofCount page)), some (.value (.ofCount size)), .ofList js) := by
      show ((flatDraft page size ds).fields? paginationKeys).bind _ = _
      rw [fields?_flatDraft h, if_pos hfree, Option.bind_some]
      show (flatParams? _).bind _ = _
      rw [flatParams?_flatDraft h hfree]
      rfl
    rw [Request.decode?, hflat, if_pos hfree]
    rfl
  · have hflat : flat? (flatDraft page size ds) = none := by
      show ((flatDraft page size ds).fields? paginationKeys).bind _ = _
      rw [fields?_flatDraft h, if_neg hfree]
      rfl
    rw [Request.decode?, hflat, if_neg hfree]
    rfl

end Flat

/-! ### Reading a request -/

namespace Request

/-- The request of a text. -/
def read? (text : String) : Option Request := (Json.draft? text).bind decode?

/-- Page and page size count from one. -/
structure Positive (r : Request) : Prop where
  page : 1 ≤ r.page.toNat
  size : 1 ≤ r.size.toNat

/-- **What a request is read as**: itself, unless a parameter has a name of pagination. -/
theorem read?_text {r : Request} (hr : r.Positive) (hback : ReadsBack (.ofMap r.params)) :
    read? r.toJson.text = if Unreserved r.params then some r else none := by
  obtain ⟨ds, js, hdraft, hjs, hentries⟩ :=
    hback.draft?_counts Patch.pageKey Patch.sizeKey r.page r.size
  have hparams : KeyMap.ofList js = r.params := KeyMap.ext hentries
  have hsame : { ofPage r.page r.size with params := r.params } = r := by
    rw [ofPage, Count.positive_eq_self_iff.2 hr.page, Count.positive_eq_self_iff.2 hr.size]
  have htext : Json.draft? r.toJson.text = some (flatDraft r.page r.size ds) := hdraft
  rw [read?, htext, Option.bind_some, decode?_flatDraft hjs, hparams, hsame]

/-- What can be set on a request. -/
inductive Edit where
  | page (page : Count)
  | size (size : Count)
  | set (key : String) (value : Json)
  | remove (key : String)

/-- The request after an edit. -/
def edit (r : Request) : Edit → Request
  | .page page => r.setPage page
  | .size size => r.setSize size
  | .set key value => r.set key value
  | .remove key => r.remove key

/-- The request after a list of edits. -/
def edits (r : Request) (es : List Edit) : Request := es.foldl edit r

namespace Positive

variable {r : Request}

theorem ofPage (page size : Count) : (ofPage page size).Positive :=
  ⟨Count.one_le_positive page, Count.one_le_positive size⟩

theorem setPagination (r : Request) (p : Count × Count) : (r.setPagination p).Positive :=
  ⟨Count.one_le_positive p.1, Count.one_le_positive p.2⟩

theorem edit (h : r.Positive) (e : Edit) : (r.edit e).Positive := by
  cases e with
  | page page => exact ⟨one_le_page_setPage r page, h.size⟩
  | size size => exact ⟨h.page, one_le_size_setSize r size⟩
  | set key value => exact ⟨h.page, h.size⟩
  | remove key => exact ⟨h.page, h.size⟩

theorem edits (h : r.Positive) (es : List Edit) : (r.edits es).Positive := by
  induction es generalizing r with
  | nil => exact h
  | cons e es ih => exact ih (h.edit e)

end Positive

end Request

/-! ### Patches -/

/-- A patch that was made in any of the ways there are. -/
inductive Patch.Made : Patch → Prop where
  | empty : Made .empty
  | withPage {p : Patch} (h : Made p) (page : Count) : Made (p.withPage page)
  | withSize {p : Patch} (h : Made p) (size : Count) : Made (p.withSize size)
  | insert {p : Patch} (h : Made p) (key : String) (value : Json) : Made (p.insert key value)
  | search (text : String) : Made (.search text)
  | merge {p q : Patch} (h : Made p) (h' : Made q) : Made (p.merge q)
  | ofPairs (es : List (String × Json)) : Made (.ofPairs es)
  | ofMap (m : KeyMap Json) : Made (.ofMap m)
  /-- A patch that was read. -/
  | decoded {d : Draft} {p : Patch} (h : Patch.decode? d = some p) : Made p

namespace Patch

theorem unreserved_insert {p : Patch} (h : Unreserved p.params) (key : String) (value : Json) :
    Unreserved (p.insert key value).params := by
  unfold insert
  split
  · exact h
  · next hpage =>
      split
      · exact h
      · next hsize => exact h.insert (by simp [paginationKeys, hpage, hsize]) value

theorem unreserved_insertMany {p : Patch} (h : Unreserved p.params) (es : List (String × Json)) :
    Unreserved (p.insertMany es).params := by
  induction es generalizing p with
  | nil => exact h
  | cons e es ih => exact ih (unreserved_insert h e.1 e.2)

/-- The parameters of a flat object are those with names of their own. -/
theorem unreserved_of_flat? {d : Draft} {page size : Option Draft} {params : KeyMap Json}
    (h : flat? d = some (page, size, params)) : Unreserved params := by
  simp only [flat?, Option.bind_eq_bind, Option.bind_eq_some_iff] at h
  obtain ⟨ms, -, fs, -, h⟩ := h
  split at h
  · obtain ⟨params', hparams, h⟩ := Option.bind_eq_some_iff.1 h
    cases h
    obtain ⟨js, hjs, rfl⟩ := Option.map_eq_some_iff.1 hparams
    rw [Unreserved.ofList_iff]
    intro e he
    have hkey : some e.1 ∈ js.map fun e => some e.1 := List.mem_map.2 ⟨e, he, rfl⟩
    rw [← map_fst_of_jsonMembers? hjs] at hkey
    obtain ⟨m, hm, heq⟩ := List.mem_map.1 hkey
    have hfree : m.1.all (· ∉ paginationKeys) = true := (List.mem_filter.1 hm).2
    rw [heq] at hfree
    exact of_decide_eq_true hfree
  · cases h

/-- **Whichever way a patch is made, it has no parameter with a name of pagination.** -/
theorem Made.unreserved {p : Patch} (h : p.Made) : Unreserved p.params := by
  induction h with
  | empty => exact Unreserved.empty
  | withPage _ _ ih => exact ih
  | withSize _ _ ih => exact ih
  | insert _ key value ih => exact unreserved_insert ih key value
  | search text => exact unreserved_insert Unreserved.empty _ _
  | merge _ _ ih ih' => exact ih.union ih'
  | ofPairs es => exact unreserved_insertMany Unreserved.empty es
  | ofMap m => exact unreserved_insertMany Unreserved.empty m.entries
  | decoded h =>
      simp only [decode?, Option.bind_eq_bind, Option.bind_eq_some_iff] at h
      obtain ⟨⟨page, size, params⟩, hflat, page', -, size', -, h⟩ := h
      cases h
      exact unreserved_of_flat? hflat

end Patch

/-! ### Stores -/

/-- A store after anything that can happen to it. -/
inductive Store.Reachable : Store → Prop where
  | ofPage (page size : Count) : Reachable (.ofPage page size)
  /-- It begins where an address bar is. -/
  | ofPaging (u : UrlPaging) : Reachable (.ofPaging u)
  | merge {s : Store} (h : Reachable s) {p : Patch} (hp : p.Made) : Reachable (s.merge p)
  /-- The page or page size is changed through the address bar. -/
  | paginate {s : Store} (h : Reachable s) (page size : Option Count) :
      Reachable (s.paginate page size)
  /-- Anything is done to the pagination in the address bar, or to the history behind it. -/
  | bar {s : Store} (h : Reachable s) (f : UrlPaging → UrlPaging) :
      Reachable { s with paging := s.paging.map f }
  /-- A grid is connected to a history, and its parameters are carried over. -/
  | connect {g : Grid} (h : Reachable g.coordinator.store) (history : History) :
      Reachable (g.connect history).coordinator.store

namespace Store

/-- What holds of the request of a store at all times. -/
structure Sound (s : Store) : Prop where
  /-- No parameter has a name of pagination. -/
  unreserved : Unreserved s.request.params
  positive : s.request.Positive

namespace Sound

variable {s : Store}

theorem ofPage (page size : Count) : (ofPage page size).Sound :=
  ⟨Unreserved.empty, Request.Positive.ofPage page size⟩

theorem ofPaging (u : UrlPaging) : (ofPaging u).Sound :=
  ⟨Unreserved.empty, Request.Positive.ofPage u.page u.size⟩

theorem paginate (h : s.Sound) (page size : Option Count) : (s.paginate page size).Sound := by
  unfold Store.paginate
  split
  · exact h
  · exact ⟨h.unreserved, Request.Positive.setPagination _ _⟩

theorem setPagination (h : s.Sound) (p : Patch) :
    Sound { s with request := Store.setPagination s.request p } := by
  obtain ⟨page, size, -⟩ := p
  cases page with
  | none =>
      cases size with
      | none => exact h
      | some size => exact ⟨h.unreserved, h.positive.edit (.size size)⟩
  | some page =>
      cases size with
      | none => exact ⟨h.unreserved, h.positive.edit (.page page)⟩
      | some size => exact ⟨h.unreserved, (h.positive.edit (.page page)).edit (.size size)⟩

theorem merge (h : s.Sound) {p : Patch} (hp : Unreserved p.params) : (s.merge p).Sound := by
  have hparams : Sound { s with request := setParams s.request p } :=
    ⟨h.unreserved.union hp, h.positive.page, h.positive.size⟩
  rw [Store.merge]
  split
  · exact hparams
  · split
    · exact hparams.paginate p.page p.size
    · exact hparams.setPagination p

theorem connect {g : Grid} (h : g.coordinator.store.Sound) (history : History) :
    (g.connect history).coordinator.store.Sound := by
  unfold Grid.connect
  split
  · exact h
  · exact merge (ofPaging _) (Patch.Made.ofMap _).unreserved

end Sound

/-- **The request of a store is sound at all times.** -/
theorem Reachable.sound {s : Store} (h : s.Reachable) : s.Sound := by
  induction h with
  | ofPage page size => exact Sound.ofPage page size
  | ofPaging u => exact Sound.ofPaging u
  | merge _ hp ih => exact ih.merge hp.unreserved
  | paginate _ page size ih => exact ih.paginate page size
  | bar _ f ih => exact ⟨ih.unreserved, ih.positive⟩
  | connect _ history ih => exact Sound.connect ih history

end Store

/-- **The wire form of a request reads back.**  Let the parameters of a request be read back from
their text when they stand alone.

* A request that was made by any edits is read back from its own text exactly when no parameter has
  a name of pagination.
* In every state that a store can reach, with patches that were made or read in any way, with any
  address bar, and after a connection that carries parameters over, no parameter has one, and so the
  request is read back. -/
theorem wire_form_reads_back :
    (∀ (page size : Count) (es : List Request.Edit),
      ReadsBack (.ofMap ((Request.ofPage page size).edits es).params) →
        (Request.read? ((Request.ofPage page size).edits es).toJson.text =
            some ((Request.ofPage page size).edits es) ↔
          ((Request.ofPage page size).edits es).get? "page" = none ∧
            ((Request.ofPage page size).edits es).get? "page_size" = none)) ∧
    ∀ s : Store, s.Reachable →
      s.request.get? "page" = none ∧ s.request.get? "page_size" = none ∧
        (ReadsBack (.ofMap s.request.params) →
          Request.read? s.request.toJson.text = some s.request) := by
  constructor
  · intro page size es hback
    have hpos : ((Request.ofPage page size).edits es).Positive :=
      (Request.Positive.ofPage page size).edits es
    rw [Request.read?_text hpos hback]
    constructor
    · intro h
      by_cases hfree : Unreserved ((Request.ofPage page size).edits es).params
      · exact hfree
      · rw [if_neg hfree] at h
        cases h
    · intro hfree
      exact if_pos hfree
  · intro s hs
    have hsound : s.Sound := hs.sound
    refine ⟨hsound.unreserved.1, hsound.unreserved.2, ?_⟩
    intro hback
    rw [Request.read?_text hsound.positive hback, if_pos hsound.unreserved]

/-- A search, and a filter under a name that is written with escapes. -/
def plainEdits : List Request.Edit :=
  [.set "search" (.string "disk \"a\""), .set "a\n" (.array [.null, .number (.nat 7)]), .page 3]

/-- A parameter called like the page. -/
def clashingEdits : List Request.Edit := [.page 3, .set "page" (.number (.nat 4))]

/-- A store to which a patch was merged that names no page, and a parameter. -/
def patchedStore : Store :=
  (Store.ofPage 1 20).merge (.ofPairs [("page", .null), ("q", .bool true)])

/-- The first request is read back, the second one is not, and the store's is. -/
theorem wire_form_reads_back_requests :
    Request.read? ((Request.ofPage 0 20).edits plainEdits).toJson.text =
        some ((Request.ofPage 0 20).edits plainEdits) ∧
      Request.read? ((Request.ofPage 0 20).edits clashingEdits).toJson.text ≠
        some ((Request.ofPage 0 20).edits clashingEdits) ∧
      patchedStore.request.get? "q" = some (.bool true) ∧
      Request.read? patchedStore.request.toJson.text = some patchedStore.request := by
  obtain ⟨hedits, hstores⟩ := wire_form_reads_back
  have hplain : ReadsBack (.ofMap ((Request.ofPage 0 20).edits plainEdits).params) := by
    unfold ReadsBack
    decide +kernel
  have hclashing : ReadsBack (.ofMap ((Request.ofPage 0 20).edits clashingEdits).params) := by
    unfold ReadsBack
    decide +kernel
  have hstore : ReadsBack (.ofMap patchedStore.request.params) := by
    unfold ReadsBack
    decide +kernel
  have hreach : patchedStore.Reachable := (Store.Reachable.ofPage 1 20).merge (.ofPairs _)
  refine ⟨(hedits 0 20 plainEdits hplain).2 (by decide +kernel), ?_, by decide +kernel,
    (hstores patchedStore hreach).2.2 hstore⟩
  intro h
  have hnone := ((hedits 0 20 clashingEdits hclashing).1 h).1
  exact absurd hnone (by decide +kernel)

end RecordGrid
