/-
**Order and visibility of columns.**

The overlay is one list.  Hiding and showing change a flag in it, and reordering takes it apart and
puts it together again by first match.  As long as no two columns have the same key, the two do not
get in each other's way: the order is what the reorderings make of the keys, and a column is shown
unless it was last hidden.  The overlay of every run is laid out from these two, so a column that
comes back stands where it would have stood all along, however the others were moved meanwhile.

Main definitions:

* `RecordGrid.Columns.Change`, `RecordGrid.Columns.changes` — what a user can change, and columns
  after a list of changes;
* `RecordGrid.ColumnState.layout` — the overlay with a given order and given visibility;
* `RecordGrid.Columns.arranged` — the order of keys after a reordering;
* `RecordGrid.Columns.shownAfter` — whether a column is shown, by what was last said of it.

Main results:

* `RecordGrid.ColumnState.setVisible_layout`, `reorder_layout` — hiding and showing change the
  visibility, reordering changes the order;
* `RecordGrid.Columns.changes_ofSchema` — **every run in one equation**;
* `RecordGrid.Columns.order_and_visibility_apart` — what follows for hiding, showing and reordering.
-/

import Mathlib.Data.List.Induction
import Mathlib.Data.List.Nodup
import RecordGrid.Columns.Basic

set_option relaxedAutoImplicit false
set_option autoImplicit false

namespace RecordGrid

/-! ### Orders of keys -/

/-- The keys with those of `new` first, each where it is named first, and the others behind them as
they were. -/
def Columns.arranged (keys : List String) : List String → List String
  | [] => keys
  | key :: new =>
      if key ∈ keys then key :: arranged (keys.erase key) new else arranged keys new

/-- Reordering neither loses a key nor adds one. -/
theorem Columns.arranged_perm (keys new : List String) : (arranged keys new).Perm keys := by
  induction new generalizing keys with
  | nil => exact List.Perm.refl keys
  | cons key new ih =>
      rw [arranged]
      split
      · next hkey =>
          have hrest : (key :: arranged (keys.erase key) new).Perm (key :: keys.erase key) :=
            (ih (keys.erase key)).cons key
          exact hrest.trans (List.perm_cons_erase hkey).symm
      · exact ih keys

/-! ### Layouts -/

namespace ColumnState

/-- What an entry says apart from its place. -/
def face (s : ColumnState) : String × Bool := (s.key, s.visible)

/-- The overlay with the columns in the order of `keys`, shown as `shown` says. -/
def layout (keys : List String) (shown : String → Bool) : List ColumnState :=
  number (keys.map fun key => { key, visible := shown key, order := 0 })

/-- What does not read the place of an entry does not notice a numbering. -/
theorem map_numberFrom {α : Type} {f : ColumnState → α}
    (hf : ∀ (s : ColumnState) (order : Count), f { s with order } = f s) (n : Nat)
    (ss : List ColumnState) : (numberFrom n ss).map f = ss.map f := by
  induction ss generalizing n with
  | nil => rfl
  | cons s ss ih =>
      rw [numberFrom, List.map_cons, List.map_cons, ih, hf]

theorem map_face_numberFrom (n : Nat) (ss : List ColumnState) :
    (numberFrom n ss).map face = ss.map face := map_numberFrom (fun _ _ => rfl) n ss

/-- Places are numbered anew, whatever they were. -/
theorem numberFrom_congr {ss ts : List ColumnState} (h : ss.map face = ts.map face) (n : Nat) :
    numberFrom n ss = numberFrom n ts := by
  induction ss generalizing n ts with
  | nil =>
      obtain rfl : ts = [] := List.map_eq_nil_iff.1 h.symm
      rfl
  | cons s ss ih =>
      cases ts with
      | nil => cases h
      | cons t ts =>
          obtain ⟨hface, hrest⟩ := List.cons.inj h
          obtain ⟨hkey, hvisible⟩ := Prod.mk.inj hface
          rw [numberFrom, numberFrom, ih hrest, hkey, hvisible]

@[simp] theorem map_face_layout (keys : List String) (shown : String → Bool) :
    (layout keys shown).map face = keys.map fun key => (key, shown key) := by
  rw [layout, number, map_face_numberFrom, List.map_map]
  rfl

@[simp] theorem map_key_layout (keys : List String) (shown : String → Bool) :
    (layout keys shown).map (·.key) = keys := by
  have hkeys := congrArg (List.map Prod.fst) (map_face_layout keys shown)
  rw [List.map_map, List.map_map] at hkeys
  exact hkeys.trans (List.map_id keys)

/-- The overlay of a schema shows all columns. -/
theorem ofSchema_eq_layout (schema : List Column) :
    ofSchema schema = layout (schema.map (·.key)) fun _ => true := by
  rw [ofSchema, layout, List.map_map]
  rfl

/-! ### Hiding and showing -/

theorem setVisible_numberFrom (key : String) (visible : Bool) (n : Nat) (ss : List ColumnState) :
    setVisible key visible (numberFrom n ss) = numberFrom n (setVisible key visible ss) := by
  induction ss generalizing n with
  | nil => rfl
  | cons s ss ih =>
      rw [numberFrom, setVisible, setVisible]
      split
      · rfl
      · rw [ih, numberFrom]

/-- **Hiding or showing a column changes what is said of its key**, and nothing else.  A key that
occurs twice would keep what was said of its second place. -/
theorem setVisible_layout {keys : List String} (h : keys.Nodup) (shown : String → Bool)
    (key : String) (visible : Bool) :
    setVisible key visible (layout keys shown) =
      layout keys fun k => if k = key then visible else shown k := by
  rw [layout, number, setVisible_numberFrom, layout, number]
  congr 1
  induction keys with
  | nil => rfl
  | cons k keys ih =>
      obtain ⟨hk, hkeys⟩ := List.nodup_cons.1 h
      rw [List.map_cons, List.map_cons, setVisible]
      by_cases hkey : k = key
      · have hrest : ∀ j ∈ keys, j ≠ key := fun j hj he => hk (by rwa [hkey, ← he])
        rw [if_pos hkey, if_pos hkey]
        congr 1
        refine List.map_congr_left ?_
        intro j hj
        rw [if_neg (hrest j hj)]
      · rw [if_neg hkey, if_neg hkey, ih hkeys]

/-! ### Reordering -/

/-- An entry is taken out of the first place that its key has. -/
theorem extract?_of_map_face {ss : List ColumnState} {keys : List String} {shown : String → Bool}
    (h : ss.map face = keys.map fun key => (key, shown key)) (key : String) :
    if key ∈ keys then
      ∃ s rest, extract? key ss = some (s, rest) ∧ s.face = (key, shown key) ∧
        rest.map face = (keys.erase key).map fun key => (key, shown key)
    else extract? key ss = none := by
  induction ss generalizing keys with
  | nil =>
      obtain rfl : keys = [] := List.map_eq_nil_iff.1 h.symm
      rfl
  | cons s ss ih =>
      cases keys with
      | nil => cases h
      | cons k keys =>
          obtain ⟨hface, hrest⟩ := List.cons.inj h
          have hs : s.key = k := congrArg Prod.fst hface
          by_cases hkey : k = key
          · subst hkey
            rw [if_pos List.mem_cons_self, List.erase_cons_head]
            exact ⟨s, ss, by rw [extract?, if_pos hs], hface, hrest⟩
          · have hmem : key ∈ k :: keys ↔ key ∈ keys := by simp [Ne.symm hkey]
            have hne : ¬ s.key = key := hs ▸ hkey
            have hrec := ih hrest
            rw [extract?, if_neg hne]
            split at hrec
            · next hin =>
                obtain ⟨t, rest, hout, ht, hface'⟩ := hrec
                rw [if_pos (hmem.2 hin), List.erase_cons_tail (by simpa using hkey), hout]
                exact ⟨t, s :: rest, rfl, ht, by rw [List.map_cons, List.map_cons, hface, hface']⟩
            · next hout =>
                rw [if_neg fun hin => hout (hmem.1 hin), hrec]
                rfl

theorem map_face_arrange {ss : List ColumnState} {keys : List String} {shown : String → Bool}
    (h : ss.map face = keys.map fun key => (key, shown key)) (new : List String) :
    (arrange ss new).map face =
      (Columns.arranged keys new).map fun key => (key, shown key) := by
  induction new generalizing ss keys with
  | nil => exact h
  | cons key new ih =>
      have hextract := extract?_of_map_face h key
      rw [arrange, Columns.arranged]
      split at hextract
      · next hkey =>
          obtain ⟨s, rest, hout, hs, hrest⟩ := hextract
          rw [hout, if_pos hkey]
          show s.face :: (arrange rest new).map face = _
          rw [hs, ih hrest]
          rfl
      · next hkey =>
          rw [hextract, if_neg hkey]
          exact ih h

/-- **Reordering changes the order of the keys**, and nothing else. -/
theorem reorder_layout (keys : List String) (shown : String → Bool) (new : List String) :
    number (arrange (layout keys shown) new) = layout (Columns.arranged keys new) shown := by
  refine numberFrom_congr ?_ 0
  rw [map_face_arrange (map_face_layout keys shown), List.map_map]
  rfl

end ColumnState

/-! ### Runs -/

namespace Columns

/-- What a user can change about the columns of a schema. -/
inductive Change where
  /-- A column is hidden or shown. -/
  | setVisible (key : String) (visible : Bool)
  /-- The columns are reordered. -/
  | reorder (keys : List String)
  | setDensity (density : Density)

/-- The columns after a change. -/
def change (c : Columns) : Change → Columns
  | .setVisible key visible => c.setVisible key visible
  | .reorder keys => c.reorder keys
  | .setDensity density => c.setDensity density

/-- The columns after a list of changes. -/
def changes (c : Columns) (es : List Change) : Columns := es.foldl change c

theorem changes_concat (c : Columns) (es : List Change) (e : Change) :
    c.changes (es ++ [e]) = (c.changes es).change e := List.foldl_append

namespace Change

/-- What a change says of the visibility of a column. -/
def visible? (key : String) : Change → Option Bool
  | setVisible k visible => if k = key then some visible else none
  | _ => none

/-- The order that a change asks for. -/
def order? : Change → Option (List String)
  | reorder keys => some keys
  | _ => none

/-- The density that a change asks for. -/
def density? : Change → Option Density
  | setDensity density => some density
  | _ => none

end Change

/-- Whether a column is shown after some changes: what was said of it last, and shown if nothing
was said. -/
def shownAfter (es : List Change) (key : String) : Bool :=
  (es.filterMap (Change.visible? key)).getLast?.getD true

/-- The order of the keys after some changes. -/
def orderAfter (keys : List String) (es : List Change) : List String :=
  (es.filterMap Change.order?).foldl arranged keys

/-- The density after some changes. -/
def densityAfter (density : Density) (es : List Change) : Density :=
  (es.filterMap Change.density?).getLast?.getD density

theorem orderAfter_perm (keys : List String) (es : List Change) :
    (orderAfter keys es).Perm keys := by
  rw [orderAfter]
  generalize es.filterMap Change.order? = orders
  induction orders generalizing keys with
  | nil => exact List.Perm.refl keys
  | cons new orders ih => exact (ih (arranged keys new)).trans (arranged_perm keys new)

section Concat

variable (es : List Change)

theorem shownAfter_concat (e : Change) (key : String) :
    shownAfter (es ++ [e]) key = (e.visible? key).getD (shownAfter es key) := by
  rw [shownAfter, List.filterMap_append]
  cases h : e.visible? key with
  | none => simp [h, shownAfter]
  | some visible => simp [h]

theorem orderAfter_concat (keys : List String) (e : Change) :
    orderAfter keys (es ++ [e]) =
      (e.order?.map (arranged (orderAfter keys es))).getD (orderAfter keys es) := by
  rw [orderAfter, List.filterMap_append, List.foldl_append]
  cases h : e.order? with
  | none => simp [h, orderAfter]
  | some new => simp [h, orderAfter]

theorem densityAfter_concat (density : Density) (e : Change) :
    densityAfter density (es ++ [e]) = e.density?.getD (densityAfter density es) := by
  rw [densityAfter, List.filterMap_append]
  cases h : e.density? with
  | none => simp [h, densityAfter]
  | some density' => simp [h]

end Concat

variable {schema : List Column}

/-- **Every run in one equation**: the overlay is laid out in the order of the reorderings, with
each column as it was last said to be. -/
theorem changes_ofSchema (h : (schema.map (·.key)).Nodup) (density : Density)
    (es : List Change) :
    (ofSchema schema density).changes es =
      { schema
        overlay := ColumnState.layout (orderAfter (schema.map (·.key)) es) (shownAfter es)
        density := densityAfter density es } := by
  -- by induction on the run so far: each change adds to one of the three
  induction es using List.reverseRecOn with
  | nil =>
      rw [changes, List.foldl_nil, ofSchema, ColumnState.ofSchema_eq_layout]
      rfl
  | append_singleton es e ih =>
      rw [changes_concat, ih, orderAfter_concat, densityAfter_concat]
      cases e with
      | setVisible key visible =>
          have hkeys : (orderAfter (schema.map (·.key)) es).Nodup :=
            (orderAfter_perm _ es).nodup_iff.2 h
          have hshown : shownAfter (es ++ [.setVisible key visible]) =
              fun k => if k = key then visible else shownAfter es k := by
            funext k
            rw [shownAfter_concat, Change.visible?]
            by_cases hk : key = k
            · simp [hk]
            · simp [hk, Ne.symm hk]
          rw [hshown]
          show ({ schema, overlay := _, density := _ } : Columns) = _
          rw [ColumnState.setVisible_layout hkeys]
          rfl
      | reorder keys =>
          have hshown : shownAfter (es ++ [.reorder keys]) = shownAfter es := by
            funext k
            rw [shownAfter_concat]
            rfl
          rw [hshown]
          show ({ schema, overlay := _, density := _ } : Columns) = _
          rw [ColumnState.reorder_layout]
          rfl
      | setDensity density' =>
          have hshown : shownAfter (es ++ [.setDensity density']) = shownAfter es := by
            funext k
            rw [shownAfter_concat]
            rfl
          rw [hshown]
          rfl

/-- Runs that agree on the orders, on the densities, and on what was last said of each column, end
in the same columns. -/
theorem changes_congr (h : (schema.map (·.key)).Nodup) {density : Density} {es fs : List Change}
    (horder : es.filterMap Change.order? = fs.filterMap Change.order?)
    (hdensity : es.filterMap Change.density? = fs.filterMap Change.density?)
    (hshown : ∀ key, shownAfter es key = shownAfter fs key) :
    (ofSchema schema density).changes es = (ofSchema schema density).changes fs := by
  rw [changes_ofSchema h, changes_ofSchema h, orderAfter, orderAfter, densityAfter, densityAfter,
    horder, hdensity, funext hshown]

/-! ### The columns that are drawn -/

theorem column?_of_mem (h : (schema.map (·.key)).Nodup) {col : Column} (hcol : col ∈ schema) :
    schema.find? (·.key = col.key) = some col := by
  induction schema with
  | nil => cases hcol
  | cons c schema ih =>
      obtain ⟨hc, hschema⟩ := List.nodup_cons.1 h
      rcases List.mem_cons.1 hcol with rfl | hcol
      · simp
      · have hne : c.key ≠ col.key := fun he => hc (List.mem_map.2 ⟨col, hcol, he.symm⟩)
        rw [List.find?_cons_of_neg (by simpa using hne)]
        exact ih hschema hcol

/-- A layout draws the columns of the keys that are shown. -/
theorem visible_of_layout (keys : List String) (shown : String → Bool) (density : Density) :
    ({ schema, overlay := ColumnState.layout keys shown, density } : Columns).visible =
      (keys.filter shown).filterMap fun key => schema.find? (·.key = key) := by
  have hfaces : ({ schema, overlay := ColumnState.layout keys shown, density } : Columns).visible =
      (((ColumnState.layout keys shown).map ColumnState.face).filter (·.2)).filterMap fun p =>
        schema.find? (·.key = p.1) := by
    rw [List.filter_map, List.filterMap_map]
    rfl
  rw [hfaces, ColumnState.map_face_layout, List.filter_map, List.filterMap_map]
  rfl

/-- Keys of the schema are those of the columns found for them. -/
theorem map_key_filterMap_find? {keys : List String} (h : ∀ key ∈ keys, key ∈ schema.map (·.key)) :
    (keys.filterMap fun key => schema.find? (·.key = key)).map (·.key) = keys := by
  induction keys with
  | nil => rfl
  | cons key keys ih =>
      obtain ⟨hkey, hkeys⟩ := List.forall_mem_cons.1 h
      obtain ⟨col, hcol⟩ : ∃ col, schema.find? (·.key = key) = some col := by
        obtain ⟨c, hc, he⟩ := List.mem_map.1 hkey
        exact Option.isSome_iff_exists.1 (List.find?_isSome.2 ⟨c, hc, by simpa using he⟩)
      have he : col.key = key := by simpa using List.find?_some hcol
      simp only [List.filterMap_cons, hcol, List.map_cons, he, ih hkeys]

section Drawn

variable (h : (schema.map (·.key)).Nodup) (density : Density) (es : List Change)
include h

theorem map_key_visible :
    ((ofSchema schema density).changes es).visible.map (·.key) =
      (((ofSchema schema density).changes es).overlay.map (·.key)).filter (shownAfter es) := by
  have hperm := orderAfter_perm (schema.map (·.key)) es
  rw [changes_ofSchema h, visible_of_layout, ColumnState.map_key_layout]
  refine map_key_filterMap_find? ?_
  intro key hkey
  exact hperm.mem_iff.1 (List.mem_filter.1 hkey).1

theorem nodup_visible : ((ofSchema schema density).changes es).visible.Nodup := by
  have hkeys : (((ofSchema schema density).changes es).overlay.map (·.key)).Nodup := by
    rw [changes_ofSchema h, ColumnState.map_key_layout]
    exact (orderAfter_perm _ es).nodup_iff.2 h
  refine List.Nodup.of_map (·.key) ?_
  rw [map_key_visible h density es]
  exact hkeys.filter _

theorem mem_visible_iff (col : Column) :
    col ∈ ((ofSchema schema density).changes es).visible ↔
      col ∈ schema ∧ shownAfter es col.key = true := by
  have hperm := orderAfter_perm (schema.map (·.key)) es
  rw [changes_ofSchema h, visible_of_layout, List.mem_filterMap]
  constructor
  · rintro ⟨key, hkey, hfind⟩
    obtain rfl : col.key = key := by simpa using List.find?_some hfind
    exact ⟨List.mem_of_find?_eq_some hfind, (List.mem_filter.1 hkey).2⟩
  · rintro ⟨hcol, hshown⟩
    have hkey : col.key ∈ orderAfter (schema.map (·.key)) es :=
      hperm.mem_iff.2 (List.mem_map_of_mem hcol)
    exact ⟨col.key, List.mem_filter.2 ⟨hkey, hshown⟩, column?_of_mem h hcol⟩

/-- A column that is shown was not last hidden. -/
theorem shownAfter_of_isVisible {key : String}
    (hkey : ((ofSchema schema density).changes es).isVisible key = true) :
    shownAfter es key = true := by
  rw [changes_ofSchema h, isVisible, List.any_eq_true] at hkey
  obtain ⟨s, hs, hshown⟩ := hkey
  have hface : s.face ∈ (ColumnState.layout (orderAfter (schema.map (·.key)) es)
      (shownAfter es)).map ColumnState.face := List.mem_map_of_mem hs
  rw [ColumnState.map_face_layout, List.mem_map] at hface
  obtain ⟨k, -, hk⟩ := hface
  obtain ⟨hkk, hv⟩ := Prod.mk.inj hk
  simp only [Bool.and_eq_true, decide_eq_true_eq] at hshown
  rw [← hshown.1, ← hkk, hv, hshown.2]

end Drawn

/-! ### What follows -/

/-- A hide and a later show of a column that was shown leave no trace in what was last said, unless
something was said of it in between. -/
theorem shownAfter_hide_show {past between rest : List Change} {key : String}
    (hshown : shownAfter past key = true) (hquiet : ∀ visible, .setVisible key visible ∉ between)
    (k : String) :
    shownAfter (past ++ .setVisible key false :: between ++ .setVisible key true :: rest) k =
      shownAfter (past ++ between ++ rest) k := by
  by_cases hk : key = k
  · subst hk
    have hnone : between.filterMap (Change.visible? key) = [] := by
      rw [List.filterMap_eq_nil_iff]
      intro e he
      cases e with
      | setVisible j visible =>
          have hj : j ≠ key := fun hj => hquiet visible (hj ▸ he)
          exact if_neg hj
      | reorder keys => rfl
      | setDensity density => rfl
    rw [shownAfter] at hshown
    simp only [shownAfter, List.filterMap_append, List.filterMap_cons, Change.visible?, hnone,
      if_pos, List.append_nil]
    -- what is said later decides in both runs; else the one ends with the show, and the other one
    -- with what was said before the hide
    generalize rest.filterMap (Change.visible? key) = said
    rcases List.eq_nil_or_concat said with rfl | ⟨earlier, visible, rfl⟩
    · rw [List.append_nil, hshown, List.getLast?_concat]
      rfl
    · rw [List.concat_eq_append, ← List.cons_append, ← List.append_assoc, ← List.append_assoc,
        List.getLast?_concat, List.getLast?_concat]
  · simp [shownAfter, Change.visible?, hk]

/-- **Order and visibility do not get in each other's way.**  After any run of hiding, showing,
reordering and changing the density of the columns of a schema without repeated keys:

* hiding or showing a column and reordering come to the same in either order;
* the columns that are drawn are in the order of the overlay, each once, and they are just those
  columns of the schema that were not last hidden;
* if the run hides a column that was shown and shows it again later, with nothing said of that
  column in between, then it comes to the same as the run without that hide and that show. -/
theorem order_and_visibility_apart (h : (schema.map (·.key)).Nodup) (density : Density)
    (es : List Change) :
    (∀ key visible keys,
      (((ofSchema schema density).changes es).setVisible key visible).reorder keys =
        (((ofSchema schema density).changes es).reorder keys).setVisible key visible) ∧
    ((ofSchema schema density).changes es).visible.map (·.key) =
      (((ofSchema schema density).changes es).overlay.map (·.key)).filter (shownAfter es) ∧
    ((ofSchema schema density).changes es).visible.Nodup ∧
    (∀ col, col ∈ ((ofSchema schema density).changes es).visible ↔
      col ∈ schema ∧ shownAfter es col.key = true) ∧
    ∀ key past between rest,
      es = past ++ .setVisible key false :: between ++ .setVisible key true :: rest →
      ((ofSchema schema density).changes past).isVisible key = true →
      (∀ visible, .setVisible key visible ∉ between) →
      (ofSchema schema density).changes es =
        (ofSchema schema density).changes (past ++ between ++ rest) := by
  refine ⟨?_, map_key_visible h density es, nodup_visible h density es,
    mem_visible_iff h density es, ?_⟩
  · intro key visible keys
    -- both are runs, and what they say is said in another order only
    have hboth : (ofSchema schema density).changes
          (es ++ [.setVisible key visible] ++ [.reorder keys]) =
        (ofSchema schema density).changes (es ++ [.reorder keys] ++ [.setVisible key visible]) := by
      refine changes_congr h (by simp [Change.order?, List.filterMap_cons])
        (by simp [Change.density?, List.filterMap_cons]) fun k => ?_
      rw [shownAfter_concat, shownAfter_concat, shownAfter_concat, shownAfter_concat]
      rfl
    rw [changes_concat, changes_concat, changes_concat, changes_concat] at hboth
    exact hboth
  · rintro key past between rest rfl hvisible hquiet
    refine changes_congr h (by simp [Change.order?, List.filterMap_cons])
      (by simp [Change.density?, List.filterMap_cons]) ?_
    exact shownAfter_hide_show (shownAfter_of_isVisible h density past hvisible) hquiet

/-- The columns of a list of hosts. -/
def hostColumns : List Column :=
  [{ key := "name", title := "Name" }, { key := "ip", title := "IP", width := some 15 },
    { key := "os", title := "OS" }, { key := "status", title := "Status" }]

/-- While the addresses are hidden the columns are reordered, by a list with a key that does not
exist and one that is repeated, and another column is hidden for good. -/
def meanwhile : List Change :=
  [.reorder ["os", "bogus", "os", "name"], .setVisible "os" false, .setDensity .large]

/-- The addresses come back to the place to which the reordering would have moved them, and the next
reordering finds them there. -/
theorem order_and_visibility_apart_addresses :
    (hostColumns.map (·.key)).Nodup ∧ (ofSchema hostColumns .medium).isVisible "ip" = true ∧
      (∀ visible, .setVisible "ip" visible ∉ meanwhile) ∧
      (ofSchema hostColumns .medium).changes
          ([] ++ .setVisible "ip" false :: meanwhile ++
            .setVisible "ip" true :: [.reorder ["status"]]) =
        (ofSchema hostColumns .medium).changes ([] ++ meanwhile ++ [.reorder ["status"]]) ∧
      ((ofSchema hostColumns .medium).changes (meanwhile ++ [.reorder ["status"]])).visible.map
          (·.key) = ["status", "name", "ip"] := by
  have hkeys : (hostColumns.map (·.key)).Nodup := by decide
  have hquiet : ∀ visible, .setVisible "ip" visible ∉ meanwhile := by simp [meanwhile]
  obtain ⟨-, -, -, -, hback⟩ := order_and_visibility_apart hkeys .medium
    ([] ++ .setVisible "ip" false :: meanwhile ++ .setVisible "ip" true :: [.reorder ["status"]])
  exact ⟨hkeys, by decide, hquiet, hback "ip" [] meanwhile _ rfl (by decide) hquiet, by decide⟩

end Columns

end RecordGrid
