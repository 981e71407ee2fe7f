/-
**Editing a filter form.**

A value comes into a form in one of two ways: as the default of a filter, which is taken as it is,
or by being set, and then the filter has looked at it.  A value that is refused leaves no trace.  So
a field that holds anything else than its default holds a value that fits, and what the form asks
for has the form that belongs to the kind of the filter.

A reset puts one default after the other over what is there.  That it leaves nothing of the edits
behind takes two things: every value stands under the field of some filter, and where filters share
a field the last default wins, as it did when the form was new.

Main definitions:

* `RecordGrid.FilterForm.edit` — the form after a value was set, or refused;
* `RecordGrid.FilterForm.Change`, `RecordGrid.FilterForm.changes` — edits and resets, and a form
  after a list of them;
* `RecordGrid.FilterForm.Clean` — a form without values under foreign fields;
* `RecordGrid.FilterForm.Vetted` — each value is a default or was accepted.

Main results:

* `RecordGrid.FilterForm.edit_cases` — a value is refused, or it fits and is taken over;
* `RecordGrid.FilterForm.Clean.changes`, `RecordGrid.FilterForm.Vetted.changes` — what all edits
  keep;
* `RecordGrid.FilterForm.reset_starts_over` — **a reset makes the form new**;
* `RecordGrid.FilterForm.edited_values_fit` — **what an edited form asks for**.
-/

import Mathlib.Data.List.Nodup
import RecordGrid.Proofs.Filter.Kinds

set_option relaxedAutoImplicit false
set_option autoImplicit false

namespace RecordGrid.FilterForm

variable {f : FilterForm} {items : List FilterItem}

/-! ### Setting one value -/

/-- The form after a value was set; one that is not accepted changes nothing. -/
def edit (form : FilterForm) (field : String) (value : FilterValue) : FilterForm :=
  match form.set field value with
  | .ok form' => form'
  | .error _ => form

/-- A value is taken over if a filter has the field and the first of them accepts it. -/
theorem set_eq_ok_iff {field : String} {value : FilterValue} {f' : FilterForm} :
    f.set field value = .ok f' ↔
      ∃ item, f.item? field = some item ∧ item.check value = .ok () ∧
        { f with values := f.values.insert field value } = f' := by
  unfold set
  cases f.item? field with
  | none => simp
  | some item =>
      cases hcheck : item.check value with
      | error e => simp [hcheck, bind, Except.bind]
      | ok u => simp [hcheck, bind, Except.bind, pure, Except.pure]

/-- **A value is refused and nothing changes, or it fits and is taken over.** -/
theorem edit_cases (f : FilterForm) (field : String) (value : FilterValue) :
    (∃ e, f.set field value = .error e ∧ f.edit field value = f) ∨
      ∃ item, f.item? field = some item ∧ item.check value = .ok () ∧
        f.edit field value = { f with values := f.values.insert field value } := by
  unfold edit
  cases hset : f.set field value with
  | error e => exact Or.inl ⟨e, rfl, rfl⟩
  | ok f' =>
      obtain ⟨item, hitem, hcheck, rfl⟩ := set_eq_ok_iff.1 hset
      exact Or.inr ⟨item, hitem, hcheck, rfl⟩

/-- Setting a value leaves the filters as they are. -/
@[simp] theorem items_edit (form : FilterForm) (field : String) (value : FilterValue) :
    (form.edit field value).items = form.items := by
  rcases form.edit_cases field value with ⟨_, _, h⟩ | ⟨_, _, _, h⟩
  · rw [h]
  · rw [h]

theorem item?_some {field : String} {item : FilterItem} (h : f.item? field = some item) :
    item ∈ f.items ∧ item.field = field :=
  ⟨List.mem_of_find?_eq_some h, by simpa using List.find?_some h⟩

/-- With a field for each filter, every filter is found. -/
theorem item?_field (hd : (f.items.map (·.field)).Nodup) {item : FilterItem}
    (hitem : item ∈ f.items) : f.item? item.field = some item := by
  cases hfound : f.item? item.field with
  | none => exact absurd hitem fun h => by simpa using List.find?_eq_none.1 hfound item h
  | some item' =>
      obtain ⟨hitem', hfield⟩ := item?_some hfound
      rw [List.inj_on_of_nodup_map hd hitem' hitem hfield]

/-! ### Edits and resets -/

/-- What can be done to the values of a form. -/
inductive Change where
  /-- A value is set, or refused. -/
  | set (field : String) (value : FilterValue)
  /-- Every filter is put back to its default. -/
  | reset

/-- The form after a change. -/
def change (f : FilterForm) : Change → FilterForm
  | .set field value => f.edit field value
  | .reset => f.reset

/-- The form after a list of changes. -/
def changes (f : FilterForm) (cs : List Change) : FilterForm := cs.foldl change f

@[simp] theorem items_change (f : FilterForm) (c : Change) : (f.change c).items = f.items := by
  cases c with
  | set field value => exact f.items_edit field value
  | reset => rfl

@[simp] theorem items_changes (f : FilterForm) (cs : List Change) :
    (f.changes cs).items = f.items := by
  induction cs generalizing f with
  | nil => rfl
  | cons c cs ih => exact (ih (f.change c)).trans (f.items_change c)

/-! ### Values under the fields of filters -/

/-- No value stands under a field that no filter has. -/
def Clean (f : FilterForm) : Prop :=
  ∀ field, (∀ item ∈ f.items, item.field ≠ field) → f.value? field = none

theorem value?_ofItems_eq_none_iff {field : String} :
    (ofItems items).value? field = none ↔ ∀ item ∈ items, item.field ≠ field := by
  rw [value?, ofItems, KeyMap.get?_ofList_eq_none_iff, defaults, List.forall_mem_map]

/-- **A reset leaves the form as it was when it was new.** -/
theorem reset_eq_ofItems (h : f.Clean) : f.reset = ofItems f.items := by
  have hvalues : f.values.insertMany (defaults f.items) = .ofList (defaults f.items) := by
    refine KeyMap.ext_get? fun field => ?_
    rw [KeyMap.get?_insertMany]
    cases hnew : (KeyMap.ofList (defaults f.items)).get? field with
    | some value => rfl
    | none => exact h field (value?_ofItems_eq_none_iff.1 hnew)
  rw [reset, hvalues, ofItems]

namespace Clean

theorem ofItems (items : List FilterItem) : (ofItems items).Clean := by
  intro field hforeign
  exact value?_ofItems_eq_none_iff.2 hforeign

theorem change (h : f.Clean) (c : Change) : (f.change c).Clean := by
  cases c with
  | reset =>
      show f.reset.Clean
      rw [reset_eq_ofItems h]
      exact ofItems f.items
  | set field value =>
      show (f.edit field value).Clean
      rcases f.edit_cases field value with ⟨_, _, hedit⟩ | ⟨item, hitem, _, hedit⟩
      · rwa [hedit]
      · rw [hedit]
        intro other hforeign
        obtain ⟨hmem, hfield⟩ := item?_some hitem
        have hne : field ≠ other := fun heq => hforeign item hmem (hfield.trans heq)
        rw [value?, KeyMap.get?_insert, if_neg hne]
        exact h other hforeign

theorem changes (h : f.Clean) (cs : List Change) : (f.changes cs).Clean := by
  induction cs generalizing f with
  | nil => exact h
  | cons c cs ih => exact ih (h.change c)

end Clean

/-! ### Defaults and accepted values -/

/-- Every filter has a value: its default, or one that it accepts. -/
def Vetted (f : FilterForm) : Prop :=
  ∀ item ∈ f.items, ∃ v, f.value? item.field = some v ∧ (v = item.default ∨ item.check v = .ok ())

namespace Vetted

theorem reset (hd : (f.items.map (·.field)).Nodup) : f.reset.Vetted := by
  intro item hitem
  exact ⟨item.default, value?_reset hd hitem, Or.inl rfl⟩

theorem ofItems (hd : (items.map (·.field)).Nodup) : (ofItems items).Vetted := by
  have hreset : (FilterForm.ofItems items).reset = FilterForm.ofItems items :=
    reset_eq_ofItems (Clean.ofItems items)
  rw [← hreset]
  exact reset hd

theorem change (h : f.Vetted) (hd : (f.items.map (·.field)).Nodup) (c : Change) :
    (f.change c).Vetted := by
  cases c with
  | reset => exact reset hd
  | set field value =>
      show (f.edit field value).Vetted
      rcases f.edit_cases field value with ⟨_, _, hedit⟩ | ⟨item, hitem, hcheck, hedit⟩
      · rwa [hedit]
      · rw [hedit]
        intro other hother
        rw [value?, KeyMap.get?_insert]
        by_cases hfield : field = other.field
        · -- the filter that accepted the value is the only one with this field
          have hsame : item = other := by
            have hfound := item?_field hd hother
            rw [← hfield, hitem] at hfound
            exact Option.some.inj hfound
          exact ⟨value, if_pos hfield, Or.inr (hsame ▸ hcheck)⟩
        · rw [if_neg hfield]
          exact h other hother

theorem changes (h : f.Vetted) (hd : (f.items.map (·.field)).Nodup) (cs : List Change) :
    (f.changes cs).Vetted := by
  induction cs generalizing f with
  | nil => exact h
  | cons c cs ih =>
      refine ih (h.change hd c) ?_
      rwa [items_change]

end Vetted

/-! ### After a reset -/

theorem patchOf_congr {value value' : FilterItem → FilterValue}
    (h : ∀ item ∈ items, value item = value' item) :
    patchOf items value = patchOf items value' := by
  unfold patchOf
  refine List.foldl_ext _ _ _ fun p item hitem => ?_
  rw [h item hitem]

/-- Where no two filters share a field, a new form asks for the defaults. -/
theorem patch_ofItems (hd : (items.map (·.field)).Nodup) :
    (ofItems items).patch = (ofItems items).defaultPatch := by
  refine patchOf_congr fun item hitem => ?_
  have hcurrent : (ofItems items).reset.current item = item.default := current_reset hd hitem
  rwa [reset_eq_ofItems (Clean.ofItems items)] at hcurrent

/-- **A reset makes the form new**, whatever was set before it, shared fields or mappings or not;
and what the defaults ask for stays the same all the while.  Where no two filters share a field,
this is what the form asks for after the reset. -/
theorem reset_starts_over (items : List FilterItem) (cs : List Change) :
    ((ofItems items).changes cs).reset.values = (ofItems items).values ∧
      ((ofItems items).changes cs).defaultPatch = (ofItems items).defaultPatch ∧
      ((items.map (·.field)).Nodup →
        ((ofItems items).changes cs).reset.patch = ((ofItems items).changes cs).defaultPatch) := by
  have hitems : ((ofItems items).changes cs).items = items := items_changes _ cs
  have hreset : ((ofItems items).changes cs).reset = ofItems items := by
    rw [reset_eq_ofItems ((Clean.ofItems items).changes cs), hitems]
  have hdefault : ((ofItems items).changes cs).defaultPatch = (ofItems items).defaultPatch := by
    rw [defaultPatch, hitems]
    rfl
  refine ⟨by rw [hreset], hdefault, fun hd => ?_⟩
  rw [hreset, hdefault]
  exact patch_ofItems hd

/-- A filter with a mapping of its own shares its field with a plain one. -/
def sharedFilters : List FilterItem :=
  [{ field := "size", label := "Size", kind := .range, default := .range none (some (.bool true)),
      mapping := some fun v => { size := if v.isEmpty then none else some 50 } },
    { field := "size", label := "Exact size", kind := .input, default := .text "10" }]

/-- Filters on the names and ports of hosts. -/
def portFilters : List FilterItem :=
  [{ field := "name", label := "Name", kind := .input },
    { field := "port", label := "Port", kind := .numeric (some 1) (some 65535),
      default := .number (.nat 22) }]

/-- A range is taken over and a port refused. -/
def someEdits : List Change := [.set "size" (.range none none), .set "port" (.text "ssh"),
  .set "name" (.text "web")]

/-- The field that two filters share goes back to the default of the second, which accepts no range,
and a name that was looked for is forgotten. -/
theorem reset_starts_over_shared :
    ((ofItems sharedFilters).changes someEdits).value? "size" = some (.range none none) ∧
      ((ofItems sharedFilters).changes someEdits).reset.value? "size" = some (.text "10") ∧
      ((ofItems portFilters).changes someEdits).value? "name" = some (.text "web") ∧
      ((ofItems portFilters).changes someEdits).reset.patch =
        (ofItems portFilters).defaultPatch := by
  obtain ⟨hshared, -, -⟩ := reset_starts_over sharedFilters someEdits
  obtain ⟨-, hdefault, hpatch⟩ := reset_starts_over portFilters someEdits
  refine ⟨rfl, ?_, rfl, (hpatch (by decide)).trans hdefault⟩
  rw [value?, hshared]
  rfl

/-! ### What an edited form asks for -/

/-- **What an edited form asks for.**  Let no two filters share a field, and none have a mapping of
its own or write the pagination.  After any edits and resets:

* every filter holds its default or a value that it accepts;
* under its field the form asks for `null` exactly when that value is empty, and for an accepted
  value otherwise for a parameter that belongs to the kind of the filter;
* a value that no filter of its field accepts is refused and changes nothing, and any other one is
  taken over;
* the form asks for nothing else, and never for a page or a page size. -/
theorem edited_values_fit (hplain : Plain items) (cs : List Change) :
    let form := (ofItems items).changes cs
    (∀ item ∈ items, ∃ v j,
      form.value? item.field = some v ∧ (v = item.default ∨ item.check v = .ok ()) ∧
      form.patch.get? item.field = some j ∧ (j = .null ↔ v.isEmpty = true) ∧
      (item.check v = .ok () → j = .null ∨ item.kind.Asks j)) ∧
    (∀ field v, (∀ item ∈ items, item.field = field → item.check v ≠ .ok ()) →
      (∃ e, form.set field v = .error e) ∧ form.change (.set field v) = form) ∧
    (∀ item ∈ items, ∀ v, item.check v = .ok () →
      form.change (.set item.field v) =
        { form with values := form.values.insert item.field v }) ∧
    (∀ key, form.patch.get? key ≠ none → ∃ item ∈ items, item.field = key) ∧
    form.patch.touchesPagination = false := by
  intro form
  have hitems : form.items = items := items_changes _ cs
  have hd : (form.items.map (·.field)).Nodup := hitems ▸ hplain.distinct
  have hvetted : form.Vetted := (Vetted.ofItems hplain.distinct).changes hplain.distinct cs
  have hpatch : form.patch = patchOf items form.current := by rw [patch, hitems]
  refine ⟨?_, ?_, ?_, ?_, ?_⟩
  · intro item hitem
    obtain ⟨v, hv, hfrom⟩ := hvetted item (hitems ▸ hitem)
    have hcurrent : form.current item = v := by rw [current, hv, Option.getD_some]
    refine ⟨v, item.param v, hv, hfrom, ?_, item.param_eq_null_iff v, fun hcheck => ?_⟩
    · rw [hpatch, get?_patchOf hplain _ hitem, hcurrent]
    · exact FilterItem.exists_param_iff.1 ⟨v, hcheck, rfl⟩
  · intro field v hnone
    rcases form.edit_cases field v with ⟨e, hset, hedit⟩ | ⟨item, hitem, hcheck, -⟩
    · exact ⟨⟨e, hset⟩, hedit⟩
    · obtain ⟨hmem, hfield⟩ := item?_some hitem
      exact absurd hcheck (hnone item (hitems ▸ hmem) hfield)
  · intro item hitem v hcheck
    have hset := set_eq_ok_iff.2 ⟨item, item?_field hd (hitems ▸ hitem), hcheck, rfl⟩
    show form.edit item.field v = _
    rw [edit, hset]
  · intro key hkey
    rw [hpatch, patchOf_eq hplain] at hkey
    by_contra hforeign
    refine hkey (KeyMap.get?_ofList_eq_none_iff.2 ?_)
    rw [entries, List.forall_mem_map]
    exact fun item hitem heq => hforeign ⟨item, hitem, heq⟩
  · rw [hpatch, patchOf_eq hplain]
    rfl

/-- A filter on some systems, whose default is no value that it would accept. -/
def systemFilter : FilterItem :=
  { field := "os", label := "System", kind := .select ["linux", "windows"] true,
    default := .text "any" }

/-- One filter of each kind. -/
def hostFilters : List FilterItem :=
  portFilters ++
    [systemFilter,
      { field := "state", label := "State", kind := .select ["on", "off"] false,
        default := .choice ["on"] },
      { field := "since", label := "Since", kind := .range },
      { field := "tags", label := "Tags", kind := .custom }]

/-- Some values are set, among them one out of bounds and one too many. -/
def hostEdits : List Change :=
  [.set "name" (.text "web"), .reset, .set "port" (.number (.nat 8080)),
    .set "port" (.number (.nat 70000)), .set "state" (.choice ["on", "off"]),
    .set "os" (.choice ["linux", "windows"]), .set "since" (.range (some (.string "2024")) none)]

/-- Both systems are asked for, a system that is not offered is refused, and the port is still the
one that was accepted. -/
theorem edited_values_fit_hosts :
    let form := (ofItems hostFilters).changes hostEdits
    Plain hostFilters ∧
      form.patch.get? "port" = some (.number (.nat 8080)) ∧
      form.patch.get? "name" = some .null ∧
      form.change (.set "os" (.choice ["plan9"])) = form ∧
      form.patch.touchesPagination = false ∧
      ∃ j, form.patch.get? "os" = some j ∧ j ≠ .null ∧ systemFilter.kind.Asks j := by
  have hplain : Plain hostFilters :=
    ⟨by decide, by decide, by simp [hostFilters, portFilters, systemFilter]⟩
  obtain ⟨hvalues, hrefused, -, -, hpage⟩ := edited_values_fit hplain hostEdits
  have hsystem : systemFilter ∈ hostFilters := by simp [hostFilters]
  have hchosen : ((ofItems hostFilters).changes hostEdits).value? "os" =
      some (.choice ["linux", "windows"]) := by decide +kernel
  obtain ⟨v, j, hv, -, hj, hnull, hasks⟩ := hvalues systemFilter hsystem
  obtain rfl : .choice ["linux", "windows"] = v := Option.some.inj (hchosen.symm.trans hv)
  have hne : j ≠ .null := fun h => absurd (hnull.1 h) (by decide)
  have hplan9 := hrefused "os" (.choice ["plan9"]) (by decide +kernel)
  exact ⟨hplain, by decide +kernel, by decide +kernel, hplan9.2, hpage, j, hj, hne,
    (hasks rfl).resolve_left hne⟩

end RecordGrid.FilterForm
