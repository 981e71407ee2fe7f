/-
**Patches in batches.**

Patches that follow one another may be merged into one and applied at once: what is named later
wins, in the patch as in the request.  This is what a host relies on that collects the filters of a
form before it asks for them.

In the address bar one thing stands against it.  There a page size that is named alone returns to
the first page, so it takes back a page that was asked for before, and in a batch the two are named
together and the page stays.

Main definitions:

* `RecordGrid.Patch.TakesBack` — a patch takes back the page that another one asks for;
* `RecordGrid.Store.TurnedBack` — what that leaves behind, next to the batch.

Main results:

* `RecordGrid.Patch.merge_assoc`, `RecordGrid.Patch.ofPairs_append` — patches may be put together in
  any grouping;
* `RecordGrid.UrlPaging.paginate_paginate` — of two turns in the address bar only the last numbers
  matter;
* `RecordGrid.Store.merge_merge_of_plain`, `RecordGrid.Store.merge_merge_of_paging_iff` — **when
  two patches are as good as their batch**;
* `RecordGrid.Store.batched_patches` — all of it together, with what happens otherwise.
-/

import RecordGrid.Proofs.Request.Overwrite
import RecordGrid.Proofs.Url.Trail

set_option relaxedAutoImplicit false
set_option autoImplicit false

namespace RecordGrid

/-! ### Patches -/

namespace Patch

@[simp] theorem page_merge (a b : Patch) : (a.merge b).page = b.page.or a.page := rfl

@[simp] theorem size_merge (a b : Patch) : (a.merge b).size = b.size.or a.size := rfl

theorem merge_assoc (a b c : Patch) : (a.merge b).merge c = a.merge (b.merge c) := by
  simp only [merge, KeyMap.union_assoc, Option.or_assoc]

/-- What is inserted last wins over both patches, the keys of pagination included. -/
theorem merge_insert (a b : Patch) (key : String) (value : Json) :
    a.merge (b.insert key value) = (a.merge b).insert key value := by
  unfold insert
  split
  · simp only [merge, Option.or_assoc]
  · split
    · simp only [merge, Option.or_assoc]
    · simp only [merge, KeyMap.union_insert]

theorem merge_insertMany (a b : Patch) (es : List (String × Json)) :
    a.merge (b.insertMany es) = (a.merge b).insertMany es := by
  induction es generalizing b with
  | nil => rfl
  | cons e es ih =>
      show a.merge ((b.insert e.1 e.2).insertMany es) = ((a.merge b).insert e.1 e.2).insertMany es
      rw [ih, merge_insert]

/-- **The patch of two lists is the first patch with the second merged into it**, whatever values
stand under the keys of pagination. -/
theorem ofPairs_append (es fs : List (String × Json)) :
    ofPairs (es ++ fs) = (ofPairs es).merge (ofPairs fs) := by
  rw [ofPairs, ofPairs, ofPairs, merge_insertMany, merge_empty]
  exact List.foldl_append

theorem touchesPagination_merge (a b : Patch) :
    (a.merge b).touchesPagination = (a.touchesPagination || b.touchesPagination) := by
  obtain ⟨apage, asize, -⟩ := a
  obtain ⟨bpage, bsize, -⟩ := b
  cases apage <;> cases asize <;> cases bpage <;> cases bsize <;> rfl

theorem eq_none_of_not_touches {p : Patch} (h : p.touchesPagination = false) :
    p.page = none ∧ p.size = none := by
  simpa [touchesPagination] using h

/-- A patch takes back the page that another one asks for: it names a page size and no page, and
the page asked for is not the first one. -/
def TakesBack (b a : Patch) : Prop :=
  (∃ p, a.page = some p ∧ 2 ≤ p.toNat) ∧ b.page = none ∧ b.size.isSome

end Patch

/-! ### Requests -/

namespace Request

theorem overwrite_overwrite (r : Request) (a b : Patch) :
    (r.overwrite a).overwrite b = r.overwrite (a.merge b) := by
  have hpage (d : Count) (x y : Option Count) :
      (y.map Count.positive).getD ((x.map Count.positive).getD d) =
        ((y.or x).map Count.positive).getD d := by
    cases y <;> rfl
  simp only [overwrite, hpage, Patch.merge, KeyMap.union_assoc]

end Request

/-! ### The address bar -/

namespace UrlPaging

/-- **Of two turns only the last numbers matter**: two of them that come to the numbers of a single
one leave the same behind. -/
theorem paginate_paginate {u : UrlPaging} {page size page' size' page'' size'' : Option Count}
    (hpage : (u.paginate page size).nextPage page' size' = u.nextPage page'' size'')
    (hsize : (u.paginate page size).nextSize size' = u.nextSize size'') :
    (u.paginate page size).paginate page' size' = u.paginate page'' size'' := by
  have hu (v : UrlPaging) (p s : Option Count) :
      v.paginate p s =
        { config := v.config, history := (v.paginate p s).history
          page := v.nextPage p s, size := v.nextSize s } := rfl
  have hhistory : ((u.paginate page size).paginate page' size').history =
      (u.paginate page'' size'').history := by
    have hlast : ((u.paginate page size).paginate page' size').history =
        { u.history with
          current :=
            writeAddress u.config (u.paginate page size).history.current
              (some ((u.paginate page size).nextPage page' size'))
              (some ((u.paginate page size).nextSize size')) } := rfl
    rw [hlast, hpage, hsize, history_paginate u page size, writeAddress_writeAddress]
    rfl
  rw [hu (u.paginate page size), hu u page'', hhistory, hpage, hsize, config_paginate]

theorem nextSize_paginate (u : UrlPaging) (page size size' : Option Count) :
    (u.paginate page size).nextSize size' = u.nextSize (size'.or size) := by
  cases size' <;> rfl

/-- In the address bar a patch that names either number, after another patch that it takes no page
back from, is as good as both numbers at once. -/
theorem paginate_change_merge (u : UrlPaging) {a b : Patch} (hb : b.touchesPagination = true)
    (h : ¬ b.TakesBack a) :
    (u.change (.merge a)).paginate b.page b.size =
      u.paginate (a.merge b).page (a.merge b).size := by
  cases ha : a.touchesPagination with
  | false =>
      obtain ⟨hpage, hsize⟩ := Patch.eq_none_of_not_touches ha
      simp [change, ha, hpage, hsize]
  | true =>
      simp only [change, ha, if_true]
      refine paginate_paginate ?_ (nextSize_paginate ..)
      cases hpage : b.page with
      | some p => simp [nextPage, hpage]
      | none =>
          have hsize : b.size.isSome := by simpa [Patch.touchesPagination, hpage] using hb
          obtain ⟨n, hn⟩ := Option.isSome_iff_exists.1 hsize
          have hfirst : ∀ p, a.page = some p → p.positive = 1 := fun p hp =>
            Count.positive_eq_one_iff.2
              (Nat.le_of_lt_succ (Nat.lt_of_not_le fun hp' => h ⟨⟨p, hp, hp'⟩, hpage, hsize⟩))
          simp only [nextPage, Patch.page_merge, Patch.size_merge, hpage, hn]
          cases hp : a.page with
          | none => rfl
          | some p => exact (hfirst p hp).symm

/-- A page that is taken back leaves the first one, with the page size that took it back. -/
theorem paginate_change_merge_of_takesBack (u : UrlPaging) {a b : Patch} (h : b.TakesBack a) :
    (u.change (.merge a)).paginate b.page b.size =
      (u.paginate (a.merge b).page (a.merge b).size).paginate (some 1) none := by
  obtain ⟨⟨p, hp, -⟩, hpage, hsize⟩ := h
  obtain ⟨n, hn⟩ := Option.isSome_iff_exists.1 hsize
  have ha : a.touchesPagination = true := by simp [Patch.touchesPagination, hp]
  simp only [change, ha, if_true, Patch.page_merge, Patch.size_merge, hpage, hn]
  -- both ways come to the first page with `n` rows
  have hback : (u.paginate a.page a.size).paginate none (some n) = u.paginate (some 1) (some n) :=
    paginate_paginate rfl rfl
  have hturn : (u.paginate (none.or a.page) ((some n).or a.size)).paginate (some 1) none =
      u.paginate (some 1) (some n) := paginate_paginate rfl rfl
  rw [hback, hturn]

end UrlPaging

/-! ### Stores -/

namespace Store

@[simp] theorem merge_empty (s : Store) : s.merge .empty = s := by
  rw [merge_of_not_touches rfl, setParams]
  show { s with request := { s.request with params := s.request.params.union .empty } } = s
  rw [KeyMap.union_empty]

/-- **Without the address bar two patches are as good as their batch.** -/
theorem merge_merge_of_plain {s : Store} (h : s.paging = none) (a b : Patch) :
    (s.merge a).merge b = s.merge (a.merge b) := by
  rw [merge_of_plain h a, merge_of_plain rfl b, merge_of_plain h, Request.overwrite_overwrite]

section Synced

variable {s : Store} {u : UrlPaging} {a b : Patch}

/-- A patch that names neither number joins the one before it. -/
theorem merge_merge_of_not_touches (hs : s.paging = some u) (hb : b.touchesPagination = false) :
    (s.merge a).merge b = s.merge (a.merge b) := by
  obtain ⟨hpage, hsize⟩ := Patch.eq_none_of_not_touches hb
  have hab : (a.merge b).touchesPagination = a.touchesPagination := by
    rw [Patch.touchesPagination_merge, hb, Bool.or_false]
  rw [merge_of_not_touches hb]
  cases ha : a.touchesPagination with
  | false =>
      rw [merge_of_not_touches ha, merge_of_not_touches (hab.trans ha)]
      simp only [setParams, Patch.merge, KeyMap.union_assoc]
  | true =>
      rw [merge_of_touches hs ha, merge_of_touches hs (hab.trans ha), Patch.page_merge,
        Patch.size_merge, hpage, hsize]
      simp only [setParams, Request.setPagination, Request.setPage, Request.setSize, Patch.merge,
        KeyMap.union_assoc, Option.none_or]

/-- The address bar after a patch, whatever it names. -/
theorem paging_merge_eq_change (hs : s.paging = some u) :
    (s.merge a).paging = some (u.change (.merge a)) := by
  cases ha : a.touchesPagination with
  | false => simp [merge_of_not_touches ha, UrlPaging.change, ha, hs]
  | true => simp [merge_of_touches hs ha, UrlPaging.change, ha]

/-- A patch that names a page or a page size takes the address bar on from where the one before it
has left it; of the request only the parameters of the first patch remain. -/
theorem merge_merge_of_touches (hs : s.paging = some u) (hb : b.touchesPagination = true) :
    (s.merge a).merge b =
      { request := (setParams s.request (a.merge b)).setPagination
          ((u.change (.merge a)).paginate b.page b.size).pagination
        paging := some ((u.change (.merge a)).paginate b.page b.size) } := by
  have hparams : (s.merge a).request.params = s.request.params.union a.params := by
    cases ha : a.touchesPagination with
    | false => rw [merge_of_not_touches ha]; rfl
    | true => rw [merge_of_touches hs ha]; rfl
  rw [merge_of_touches (paging_merge_eq_change hs) hb]
  simp only [setParams, Request.setPagination, Request.setPage, Request.setSize, Patch.merge,
    hparams, KeyMap.union_assoc]

/-- **With the address bar two patches are as good as their batch**, unless the second one takes
back the page of the first. -/
theorem merge_merge_of_paging (hs : s.paging = some u) (h : ¬ b.TakesBack a) :
    (s.merge a).merge b = s.merge (a.merge b) := by
  cases hb : b.touchesPagination with
  | false => exact merge_merge_of_not_touches hs hb
  | true =>
      have hab : (a.merge b).touchesPagination = true := by
        rw [Patch.touchesPagination_merge, hb, Bool.or_true]
      rw [merge_merge_of_touches hs hb, merge_of_touches hs hab, u.paginate_change_merge hb h]

/-- Where the page is taken back, the batch still has to return to the first page. -/
theorem merge_merge_of_takesBack (hs : s.paging = some u) (h : b.TakesBack a) :
    (s.merge a).merge b = (s.merge (a.merge b)).paginate (some 1) none := by
  have hb : b.touchesPagination = true := by simp [Patch.touchesPagination, h.2.2]
  have hab : (a.merge b).touchesPagination = true := by
    rw [Patch.touchesPagination_merge, hb, Bool.or_true]
  rw [merge_merge_of_touches hs hb, merge_of_touches hs hab, paginate_of_paging rfl,
    u.paginate_change_merge_of_takesBack h]
  rfl

/-- A batch ends on the page that it names. -/
theorem page_merge_of_page (hs : s.paging = some u) {p : Count} (ha : a.page = some p)
    (hp : 1 ≤ p.toNat) :
    (s.merge a).request.page = p ∧ ∃ w, (s.merge a).paging = some w ∧ w.page = p := by
  have hpos : p.positive = p := Count.positive_eq_self_iff.2 hp
  rw [merge_of_touches hs (by simp [Patch.touchesPagination, ha])]
  refine ⟨?_, _, rfl, ?_⟩
  · show (u.nextPage a.page a.size).positive = p
    rw [ha, UrlPaging.nextPage, hpos, hpos]
  · show u.nextPage a.page a.size = p
    rw [ha, UrlPaging.nextPage, hpos]

/-- A store is on the first page where another one is on page `p`, in request and address bar; a
turn to the first page is all that sets them apart. -/
structure TurnedBack (s batch : Store) (p : Count) : Prop where
  request : s.request.page = 1
  paging : s.paging.map (·.page) = some 1
  request_batch : batch.request.page = p
  paging_batch : batch.paging.map (·.page) = some p
  /-- Nothing else sets them apart. -/
  turn : s = batch.paginate (some 1) none

/-- **A page that is taken back stays in the batch.** -/
theorem turnedBack_of_takesBack (hs : s.paging = some u) (h : b.TakesBack a) {p : Count}
    (ha : a.page = some p) : TurnedBack ((s.merge a).merge b) (s.merge (a.merge b)) p := by
  have hp : 1 ≤ p.toNat := by
    obtain ⟨q, hq, hle⟩ := h.1
    obtain rfl : p = q := Option.some.inj (ha.symm.trans hq)
    exact Nat.le_of_succ_le hle
  have hab : (a.merge b).page = some p := by rw [Patch.page_merge, h.2.1, ha]; rfl
  obtain ⟨hrequest, w, hw, hpage⟩ := page_merge_of_page hs hab hp
  have hturn : (s.merge a).merge b = (s.merge (a.merge b)).paginate (some 1) none :=
    merge_merge_of_takesBack hs h
  constructor
  case request => rw [hturn, paginate_of_paging hw]; rfl
  case paging => rw [hturn, paginate_of_paging hw]; rfl
  case request_batch => exact hrequest
  case paging_batch => rw [hw, Option.map_some, hpage]
  case turn => exact hturn

/-- With the address bar two patches are as good as their batch exactly unless the second one takes
back the page of the first. -/
theorem merge_merge_of_paging_iff (hs : s.paging = some u) :
    (s.merge a).merge b = s.merge (a.merge b) ↔ ¬ b.TakesBack a := by
  refine ⟨fun heq h => ?_, merge_merge_of_paging hs⟩
  obtain ⟨p, ha, hp⟩ := h.1
  have hback := turnedBack_of_takesBack hs h ha
  have hone : p = 1 := by rw [← hback.request_batch, ← heq, hback.request]
  exact absurd hp (by rw [hone]; decide)

end Synced

/-- **Patches in batches.**  Merging patches is associative, with the empty patch as identity, and
the patch of two lists of keys and values, invalid ones among them, is the merge of their patches.
On a store, one patch after the other leaves what their merge leaves:

* always, while the store keeps its pagination to itself;
* with the pagination in the address bar, exactly unless the second patch takes back the page of the
  first.  Then the two end on the first page, in request and address bar, and the batch on the page
  that was asked for. -/
theorem batched_patches :
    (∀ a b c : Patch, (a.merge b).merge c = a.merge (b.merge c)) ∧
    (∀ a : Patch, Patch.empty.merge a = a ∧ a.merge .empty = a) ∧
    (∀ es fs : List (String × Json),
      Patch.ofPairs (es ++ fs) = (Patch.ofPairs es).merge (Patch.ofPairs fs)) ∧
    (∀ s : Store, s.merge .empty = s) ∧
    (∀ (s : Store) (a b : Patch), s.paging = none →
      (s.merge a).merge b = s.merge (a.merge b)) ∧
    ∀ (s : Store) (u : UrlPaging) (a b : Patch), s.paging = some u →
      ((s.merge a).merge b = s.merge (a.merge b) ↔ ¬ b.TakesBack a) ∧
      ∀ p, a.page = some p → b.TakesBack a →
        TurnedBack ((s.merge a).merge b) (s.merge (a.merge b)) p :=
  ⟨Patch.merge_assoc, fun a => ⟨Patch.empty_merge a, Patch.merge_empty a⟩, Patch.ofPairs_append,
    merge_empty, fun _ a b hs => merge_merge_of_plain hs a b, fun _ _ _ _ hs =>
      ⟨merge_merge_of_paging_iff hs, fun _ ha h => turnedBack_of_takesBack hs h ha⟩⟩

/-- The third page is asked for, and then fifty rows on a page. -/
theorem batched_patches_takenBack :
    let s := listed
    let a : Patch := .ofPage 3
    let b : Patch := { size := some 50 }
    (∃ u, s.paging = some u) ∧ (ofPage 1 20).paging = none ∧ b.TakesBack a ∧ ¬ a.TakesBack b ∧
      TurnedBack ((s.merge a).merge b) (s.merge (a.merge b)) 3 ∧
      (s.merge b).merge a = s.merge (b.merge a) ∧
      ((ofPage 1 20).merge a).merge b = (ofPage 1 20).merge (a.merge b) := by
  intro s a b
  obtain ⟨-, -, -, -, hplain, hsynced⟩ := batched_patches
  have hs : s.paging = some _ := rfl
  have hback : b.TakesBack a := ⟨⟨3, rfl, by decide⟩, rfl, rfl⟩
  have hkept : ¬ a.TakesBack b := fun h => nomatch h.1.choose_spec.1
  exact ⟨⟨_, hs⟩, rfl, hback, hkept, (hsynced s _ a b hs).2 3 rfl hback,
    (hsynced s _ b a hs).1.2 hkept, hplain (ofPage 1 20) a b rfl⟩

end Store

end RecordGrid
