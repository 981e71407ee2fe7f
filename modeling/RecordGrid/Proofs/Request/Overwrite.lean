/-
**What merging a patch amounts to.**

A patch names some parts of a request, and merging it puts them in place of what stood there.  A
store that keeps its pagination in the address bar takes another way to the same end: page and page
size go to the address bar, and what results there is copied back.  The two ways part only over a
page size that is named without a page, which returns to the first page in the address bar.

Main definitions:

* `RecordGrid.Request.overwrite` — what a patch names in place of what stood there.

Main results:

* `RecordGrid.Store.merge_of_plain` — without the address bar, merging is overwriting;
* `RecordGrid.Store.InStep.request_merge` — **with it merging is overwriting too**;
* `RecordGrid.Store.get?_merge` — what merging a patch leaves under a key, either way.
-/

import RecordGrid.Proofs.Request.Synced

set_option relaxedAutoImplicit false
set_option autoImplicit false

namespace RecordGrid

namespace Request

/-- The request with what a patch names in place of what stood there; zero is read as one. -/
def overwrite (r : Request) (p : Patch) : Request :=
  { page := (p.page.map Count.positive).getD r.page
    size := (p.size.map Count.positive).getD r.size
    params := r.params.union p.params }

@[simp] theorem page_overwrite (r : Request) (p : Patch) :
    (r.overwrite p).page = (p.page.map Count.positive).getD r.page := rfl

@[simp] theorem size_overwrite (r : Request) (p : Patch) :
    (r.overwrite p).size = (p.size.map Count.positive).getD r.size := rfl

@[simp] theorem get?_overwrite (r : Request) (p : Patch) (key : String) :
    (r.overwrite p).get? key = (p.get? key).or (r.get? key) :=
  KeyMap.get?_union ..

end Request

namespace Store

/-- Without the address bar, merging a patch is overwriting. -/
theorem merge_of_plain {s : Store} (h : s.paging = none) (p : Patch) :
    s.merge p = { request := s.request.overwrite p } := by
  obtain ⟨r, paging⟩ := s
  obtain rfl : paging = none := h
  obtain ⟨page, size, params⟩ := p
  cases page <;> cases size <;> rfl

/-- **Merging through the address bar is overwriting**, unless a page size is named without a
page. -/
theorem InStep.request_merge {s : Store} {u : UrlPaging} (h : s.InStep u) {p : Patch}
    (hp : p.size = none ∨ p.page.isSome) : (s.merge p).request = s.request.overwrite p := by
  have hsize : u.size.positive = s.request.size :=
    (Count.positive_eq_self_iff.2 h.positive.size).trans (congrArg Prod.snd h.request).symm
  obtain ⟨page, size, params⟩ := p
  cases page with
  | none =>
      obtain rfl : size = none := hp.resolve_right (by simp)
      rw [merge_of_not_touches rfl]
      rfl
  | some page =>
      rw [merge_of_touches h.paging rfl]
      cases size with
      | none =>
          simp [Request.setPagination, Request.setPage, Request.setSize, Request.overwrite,
            UrlPaging.nextPage, UrlPaging.nextSize, hsize, setParams]
      | some size =>
          simp [Request.setPagination, Request.setPage, Request.setSize, Request.overwrite,
            UrlPaging.nextPage, UrlPaging.nextSize, setParams]

-- A page size that is named alone returns to the first page in the address bar, and only there.
example :
    let s := (ofPaging (.ofHistory {} (.ofAddress (.ofPath "/list")))).merge (.ofPage 2)
    ((s.merge { size := some 50 }).request, (ofPage 2 20).merge { size := some 50 }) =
      (.ofPage 1 50, ofPage 2 50) := by decide

/-- With the address bar or without it, the parameters of a patch are set. -/
theorem params_merge (s : Store) (p : Patch) :
    (s.merge p).request.params = s.request.params.union p.params := by
  cases hp : p.touchesPagination with
  | false => rw [merge_of_not_touches hp, setParams]
  | true =>
      cases hs : s.paging with
      | none => rw [merge_of_plain hs, Request.overwrite]
      | some u =>
          rw [merge_of_touches hs hp]
          rfl

/-- What the patch does not name stays. -/
theorem get?_merge (s : Store) (p : Patch) (key : String) :
    (s.merge p).request.get? key = (p.get? key).or (s.request.get? key) := by
  rw [Request.get?, params_merge]
  exact KeyMap.get?_union ..

end Store

end RecordGrid
