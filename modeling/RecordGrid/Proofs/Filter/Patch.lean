/-
**What the values of a filter form ask for.**

A filter with a mapping of its own may ask for anything.  Every other filter sets one parameter, and
when no two of them share a field, and no field is a name of pagination, they do not get in each
other's way: the patch of a form says under each field what the filter of that field makes of its
value, and it says nothing else.  A filter without a value is not left out.  It sets `null`, since a
request only ever takes things over, and what is not named would stay as it was.

Main definitions:

* `RecordGrid.FilterForm.Plain` — filters that do not get in each other's way;
* `RecordGrid.FilterForm.entries` — the parameters that some values stand for.

Main results:

* `RecordGrid.FilterItem.param_eq_null_iff` — `null` stands for nothing, and for nothing else;
* `RecordGrid.FilterForm.patchOf_eq` — **the patch of plain filters** has these parameters and no
  others;
* `RecordGrid.FilterForm.get?_patchOf` — each filter has its say;
* `RecordGrid.FilterForm.current_reset` — a reset leaves every filter at its default.
-/

import RecordGrid.Filter.Form
import RecordGrid.Request.Wire

set_option relaxedAutoImplicit false
set_option autoImplicit false

namespace RecordGrid

/-! ### Maps with one entry for each key -/

namespace KeyMap

variable {α : Type}

theorem get?_insertMany_of_forall_ne (m : KeyMap α) {es : List (String × α)} {k : String}
    (h : ∀ e ∈ es, e.1 ≠ k) : (m.insertMany es).get? k = m.get? k := by
  induction es generalizing m with
  | nil => rfl
  | cons e es ih =>
      obtain ⟨hne, hes⟩ := List.forall_mem_cons.1 h
      rw [insertMany_cons, ih _ hes, get?_insert, if_neg hne]

/-- With one entry for each key, every entry is found. -/
theorem get?_insertMany_of_mem (m : KeyMap α) {es : List (String × α)}
    (hd : (es.map (·.1)).Nodup) {e : String × α} (he : e ∈ es) :
    (m.insertMany es).get? e.1 = some e.2 := by
  induction es generalizing m with
  | nil => cases he
  | cons e' es ih =>
      obtain ⟨hnew, hd⟩ := List.nodup_cons.1 hd
      rw [insertMany_cons]
      rcases List.mem_cons.1 he with rfl | hmem
      · -- nothing that follows has the key of the first entry
        have hne : ∀ e' ∈ es, e'.1 ≠ e.1 := fun e' he' heq =>
          hnew (List.mem_map.2 ⟨e', he', heq⟩)
        rw [get?_insertMany_of_forall_ne _ hne, get?_insert_self]
      · exact ih _ hd hmem

end KeyMap

/-! ### One filter -/

namespace FilterItem

/-- **`null` stands for nothing, and for nothing else.** -/
theorem param_eq_null_iff (item : FilterItem) (value : FilterValue) :
    item.param value = .null ↔ value.isEmpty = true := by
  by_cases hempty : value.isEmpty = true
  · exact iff_of_true (if_pos hempty) hempty
  · refine iff_of_false (fun hnull => ?_) hempty
    unfold param at hnull
    rw [if_neg hempty] at hnull
    cases value with
    | empty => exact hempty rfl
    | text text => cases hnull
    | number n => cases hnull
    | choice options =>
        cases options with
        | nil => exact hempty rfl
        | cons option options =>
            dsimp only at hnull
            split at hnull <;> cases hnull
    | range start stop => cases hnull
    | custom value =>
        obtain rfl : value = .null := hnull
        exact hempty rfl

/-- A filter without a mapping sets the parameter under its field. -/
theorem patch_of_usual {item : FilterItem} (hfree : item.field ∉ paginationKeys)
    (husual : item.mapping = none) (value : FilterValue) :
    item.patch value = { params := KeyMap.empty.insert item.field (item.param value) } := by
  have hpage : item.field ≠ Patch.pageKey := fun h => hfree (by simp [paginationKeys, h])
  have hsize : item.field ≠ Patch.sizeKey := fun h => hfree (by simp [paginationKeys, h])
  rw [patch, husual]
  simp only [Patch.insert, if_neg hpage, if_neg hsize]
  rfl

end FilterItem

/-! ### All filters of a form -/

namespace FilterForm

/-- Filters that do not get in each other's way. -/
structure Plain (items : List FilterItem) : Prop where
  /-- No two of them write the same field. -/
  distinct : (items.map (·.field)).Nodup
  /-- None of them writes the pagination. -/
  free : ∀ item ∈ items, item.field ∉ paginationKeys
  /-- None of them has a mapping of its own. -/
  usual : ∀ item ∈ items, item.mapping = none

/-- The parameters that some values stand for, by field. -/
def entries (items : List FilterItem) (value : FilterItem → FilterValue) : List (String × Json) :=
  items.map fun item => (item.field, item.param (value item))

variable {items : List FilterItem}

theorem map_fst_entries (items : List FilterItem) (value : FilterItem → FilterValue) :
    (entries items value).map (·.1) = items.map (·.field) := by
  rw [entries, List.map_map]
  rfl

/-- **The patch of plain filters**: the parameters of their values, and nothing else. -/
theorem patchOf_eq (h : Plain items) (value : FilterItem → FilterValue) :
    patchOf items value = { params := .ofList (entries items value) } := by
  -- each filter adds its entry to the patch of those before it
  suffices hfrom : ∀ (rest : List FilterItem) (p : Patch), (∀ item ∈ rest, item ∈ items) →
      rest.foldl (fun p item => p.merge (item.patch (value item))) p =
        { p with params := p.params.insertMany (entries rest value) } from
    hfrom items .empty fun _ hitem => hitem
  intro rest
  induction rest with
  | nil => exact fun p _ => rfl
  | cons item rest ih =>
      intro p hrest
      obtain ⟨hitem, hrest⟩ := List.forall_mem_cons.1 hrest
      have hadds : p.merge (item.patch (value item)) =
          { p with params := p.params.insert item.field (item.param (value item)) } := by
        rw [FilterItem.patch_of_usual (h.free item hitem) (h.usual item hitem), Patch.merge,
          KeyMap.union_insert, KeyMap.union_empty]
        rfl
      rw [List.foldl_cons, hadds, ih _ hrest]
      rfl

/-- **Each filter has its say**: under its field stands what it makes of its value. -/
theorem get?_patchOf (h : Plain items) (value : FilterItem → FilterValue) {item : FilterItem}
    (hitem : item ∈ items) :
    (patchOf items value).get? item.field = some (item.param (value item)) := by
  rw [patchOf_eq h value]
  refine KeyMap.get?_insertMany_of_mem .empty ?_ (e := (item.field, item.param (value item)))
    (List.mem_map.2 ⟨item, hitem, rfl⟩)
  rw [map_fst_entries]
  exact h.distinct

/-- A reset puts the default of every filter under its field, if no two of them share one. -/
theorem value?_reset {form : FilterForm} (hd : (form.items.map (·.field)).Nodup)
    {item : FilterItem} (hitem : item ∈ form.items) :
    form.reset.value? item.field = some item.default := by
  refine KeyMap.get?_insertMany_of_mem form.values ?_ (e := (item.field, item.default))
    (List.mem_map.2 ⟨item, hitem, rfl⟩)
  rw [defaults, List.map_map]
  exact hd

/-- **A reset leaves every filter at its default**, if no two of them share a field. -/
theorem current_reset {form : FilterForm} (hd : (form.items.map (·.field)).Nodup)
    {item : FilterItem} (hitem : item ∈ form.items) : form.reset.current item = item.default := by
  rw [current, value?_reset hd hitem, Option.getD_some]

end FilterForm

end RecordGrid
