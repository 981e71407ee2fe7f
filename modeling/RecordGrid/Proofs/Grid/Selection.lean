/-
**What a grid has selected.**

The rows on a page come and go, and the selection stays: a load, an arrival, a search, a filter, a
turn of the page and a move in the address bar all leave it alone.  Only the host selects rows, or
the user by the select key.  The key flips the selection of the row under the cursor, by its key:
it takes away every selected row with that key, whichever page it came from, or adds the row at the
end.

Main definitions:

* `RecordGrid.Grid.SameSelection` — settings and selection do not differ;
* `RecordGrid.Grid.Happening.Selects` — something that happens selects rows.

Main results:

* `RecordGrid.Grid.SameSelection.happen` — what does not select rows leaves the selection alone;
* `RecordGrid.Grid.Reachable.listed` — the selection keeps the keys of its rows at all times;
* `RecordGrid.Grid.Reachable.selection_by_key` — **what is selected, and what the select key does
  to it**.
-/

import RecordGrid.Proofs.Grid.Reachable
import RecordGrid.Proofs.Selection

set_option relaxedAutoImplicit false
set_option autoImplicit false

namespace RecordGrid.Grid

/-! ### What leaves the selection alone -/

/-- Neither the settings nor the selection differ. -/
structure SameSelection (g h : Grid) : Prop where
  config : h.config = g.config
  selection : h.selection = g.selection

namespace SameSelection

variable {g h : Grid}

theorem refl (g : Grid) : g.SameSelection g := ⟨rfl, rfl⟩

theorem load (t : g.SameSelection h) (patch : Option Patch) (events : List GridEvent) :
    g.SameSelection (h.load patch events).1 := ⟨t.config, t.selection⟩

theorem readied (hh : g.Readied h) : g.SameSelection h := by
  cases hh with
  | _ => exact ⟨rfl, rfl⟩

theorem amounts {r : Grid × Effect} (hr : g.Amounts r) : g.SameSelection r.1 := by
  cases hr with
  | nothing => exact refl g
  | load hh patch events => exact (readied hh).load patch events
  | turn page size events => exact ⟨rfl, rfl⟩

theorem receive (g : Grid) (a : Arrival) : g.SameSelection (g.receive a).1 := by
  unfold Grid.receive
  dsimp only
  split
  · exact ⟨rfl, rfl⟩
  · exact refl g

theorem connect (g : Grid) (history : History) : g.SameSelection (g.connect history) := by
  unfold Grid.connect
  split
  · exact refl g
  · exact ⟨rfl, rfl⟩

end SameSelection

/-! ### What selects rows -/

variable {g : Grid} {p : KeyPress} {row : Row} {key : Json}

/-- Something that happens selects rows: the host does, or the select key is pressed on a row with
a key. -/
def Happening.Selects (g : Grid) : Happening → Prop
  | .operate (.selectRows _) => True
  | .operate (.press p) => ∃ row key, g.PressesRow p row key
  | _ => False

/-- **Nothing else changes the selection**, nor do the settings ever change. -/
theorem SameSelection.happen {e : Happening} (he : ¬ e.Selects g) :
    g.SameSelection (g.happen e) := by
  cases e with
  | operate o =>
      cases o with
      | start => exact amounts g.amounts_start
      | load patch => exact (refl g).load patch []
      | call c => exact amounts (g.amounts_call c)
      | edit field value =>
          rw [Grid.happen, operate, edit_eq]
          exact ⟨rfl, rfl⟩
      | urlChanged => exact amounts g.amounts_urlChanged
      | selectRows rows => exact absurd trivial he
      | press p =>
          rcases g.press_amounts p with hp | ⟨cursor, hp⟩ | hp
          · exact amounts hp
          · rw [Grid.happen, operate, hp]
            exact ⟨rfl, rfl⟩
          · exact absurd hp he
      | _ => exact ⟨rfl, rfl⟩
  | receive a => exact receive g a

/-- A run in which nothing selects rows leaves the selection as it was. -/
theorem selection_happenings {es : List Happening}
    (hes : ∀ past e rest, es = past ++ e :: rest → ¬ e.Selects (g.happenings past)) :
    (g.happenings es).selection = g.selection := by
  induction es generalizing g with
  | nil => rfl
  | cons e es ih =>
      have hrest : ((g.happen e).happenings es).selection = (g.happen e).selection :=
        ih fun past e' rest hes' => hes (e :: past) e' rest (by rw [hes', List.cons_append])
      exact hrest.trans (SameSelection.happen (hes [] e es rfl)).selection

/-! ### At all times -/

/-- Whatever selects rows lists their keys anew. -/
theorem listed_of_selects {e : Happening} (he : e.Selects g) :
    (g.happen e).selection.Listed ∧ (g.happen e).config = g.config ∧
      (g.happen e).selection.rowKey = g.selection.rowKey := by
  cases e with
  | operate o =>
      cases o with
      | selectRows rows => exact ⟨rfl, rfl, rfl⟩
      | press p =>
          obtain ⟨row, key, hpress⟩ := he
          rw [happen, operate, hpress.press_eq]
          exact ⟨rfl, rfl, rfl⟩
      | _ => exact he.elim
  | receive a => exact he.elim

/-- **The selection keeps the keys of its rows**, read from the field that the settings name. -/
theorem Reachable.listed (h : g.Reachable) :
    g.selection.Listed ∧ g.selection.rowKey = g.config.rowKey := by
  induction h with
  | ofSchema id config schema => exact ⟨rfl, rfl⟩
  | @connect g _ history ih =>
      have t := SameSelection.connect g history
      rwa [t.selection, t.config]
  | withParams _ p ih => exact ih
  | withForm _ form ih => exact ih
  | withMade _ hc ih => exact ih
  | @happen g _ e ih =>
      by_cases he : e.Selects g
      · obtain ⟨hlisted, hconfig, hrowKey⟩ := listed_of_selects he
        rw [hrowKey, hconfig]
        exact ⟨hlisted, ih.2⟩
      · have t := SameSelection.happen he
        rwa [t.selection, t.config]

/-- **Pressing the select key twice takes it back**, if the key of the row was not selected. -/
theorem PressesRow.press_press (h : g.PressesRow p row key) (hlisted : g.selection.Listed)
    (hkey : g.selection.isSelected key = false) : ((g.press p).1.press p).1 = g := by
  have hflip := hlisted.flip_flip h.hasKey hkey
  have hagain : (g.selectRows (g.selection.flip key row)).1.PressesRow p row key :=
    ⟨⟨h.target, h.down, h.up, h.select⟩, h.onRow, h.hasKey⟩
  rw [h.press_eq, hagain.press_eq]
  exact congrArg (fun selection => { g with selection }) hflip

/-- **What is selected, and what the select key does to it.**  In every grid that can come about,

* the selected keys are the values that the selected rows have in the field of the settings, each
  one where it comes up first and none twice, and a key counts as selected exactly when some
  selected row carries it;
* pressing the select key on a row with a key flips that key and leaves everything else as it is,
  and pressing it again takes that back if the key was not selected;
* whatever happens, the selection stays as it is until the host selects rows, or the select key is
  pressed on a row with a key. -/
theorem Reachable.selection_by_key (h : g.Reachable) :
    (g.selection.rowKey = g.config.rowKey ∧
      Selection.FirstOnes (Selection.valuesOf g.selection.rowKey g.selection.rows)
        g.selection.keys ∧
      (g.selection.keys.Pairwise fun j k => Json.same j k = false) ∧
      ∀ key, g.selection.isSelected key = true ↔
        ∃ row ∈ g.selection.rows, ∃ k, row.get? g.selection.rowKey = some k ∧
          Json.same key k = true) ∧
    (∀ p row key, g.PressesRow p row key →
      g.selection.Flipped key row (g.press p).1.selection ∧
      (g.selection.isSelected key = false → ((g.press p).1.press p).1 = g)) ∧
    ∀ es : List Happening,
      (∀ past e rest, es = past ++ e :: rest → ¬ e.Selects (g.happenings past)) →
        (g.happenings es).selection = g.selection := by
  obtain ⟨hlisted, hrowKey⟩ := h.listed
  have hkeys : g.selection.keys =
      Selection.distinct [] (Selection.valuesOf g.selection.rowKey g.selection.rows) := hlisted
  refine ⟨⟨hrowKey, ?_, ?_, hlisted.isSelected_iff⟩, fun p row key hpress => ⟨?_, ?_⟩,
    fun es hes => selection_happenings hes⟩
  · rw [hkeys]
    exact Selection.firstOnes_distinct _
  · rw [hkeys]
    exact Selection.pairwise_distinct _
  · rw [hpress.press_eq]
    exact hlisted.flipped hpress.hasKey
  · exact hpress.press_press hlisted

/-- Two records with one key. -/
def firstLamp : Row := .ofList [("id", .number (.nat 1)), ("name", .string "desk")]

def secondLamp : Row := .ofList [("id", .number (.nat 1)), ("name", .string "floor")]

def chair : Row := .ofList [("id", .number (.nat 2))]

/-- A record without a key. -/
def stray : Row := .ofList [("name", .string "stray")]

/-- The lamps are on the page, the cursor is on the first of them, and all records are selected. -/
def allSelected : Grid :=
  (ofSchema 0 {} []).happenings
    [.reconcile { rows := [firstLamp, secondLamp] },
      .operate (.selectRows [chair, stray, firstLamp, secondLamp])]

/-- The space bar. -/
def space : KeyPress := { key := .char ' ' }

/-- The select key takes away both lamps, and pressing it twice more changes nothing. -/
theorem selection_by_key_allSelected :
    allSelected.Reachable ∧ allSelected.PressesRow space firstLamp (.number (.nat 1)) ∧
      allSelected.selection.keys = [.number (.nat 2), .number (.nat 1)] ∧
      (allSelected.press space).1.selection.rows = [chair, stray] ∧
      (allSelected.press space).1.selection.keys = [.number (.nat 2)] ∧
      (((allSelected.press space).1.press space).1.press space).1 = (allSelected.press space).1 ∧
      (allSelected.happenings [.operate (.call (.search "lamp"))]).selection =
        allSelected.selection := by
  have hreach : allSelected.Reachable := (Reachable.ofSchema 0 {} []).happenings _
  have hpress : allSelected.PressesRow space firstLamp (.number (.nat 1)) :=
    ⟨⟨by decide +kernel, by decide +kernel, by decide +kernel, by decide +kernel⟩,
      by decide +kernel, by decide +kernel⟩
  obtain ⟨-, hflip, hstays⟩ := hreach.selection_by_key
  obtain ⟨hrows, hkeys⟩ := (hflip space _ _ hpress).1.removed (by decide +kernel)
  -- the cursor stays on the first lamp, which is no longer selected
  have hpressed : (allSelected.press space).1.Reachable := hreach.happen (.operate (.press space))
  have hagain : (allSelected.press space).1.PressesRow space firstLamp (.number (.nat 1)) :=
    ⟨⟨by decide +kernel, by decide +kernel, by decide +kernel, by decide +kernel⟩,
      by decide +kernel, by decide +kernel⟩
  obtain ⟨-, hflip', -⟩ := hpressed.selection_by_key
  refine ⟨hreach, hpress, by decide +kernel, ?_, ?_,
    (hflip' space _ _ hagain).2 (by decide +kernel), hstays _ fun past e rest hes => ?_⟩
  · rw [hrows]
    decide +kernel
  · rw [hkeys]
    decide +kernel
  · have he : e ∈ [Happening.operate (.call (.search "lamp"))] := by rw [hes]; simp
    rw [List.mem_singleton.1 he]
    exact id

end RecordGrid.Grid
