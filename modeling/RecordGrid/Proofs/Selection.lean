/-
**The keys of selected rows.**

Beside the selected rows a selection keeps the list of their keys.  Rows may lack a key and keys may
repeat, so the two lists differ in length, and pressing a row works on both.  Read from left to
right, the rows give their keys one by one, and a key is listed when none before it is the same.
This has three consequences: a key is listed exactly when some row carries it, taking away the rows
with a key takes away that key and no other, and a row at the end adds its key at the end or not at
all.

Main definitions:

* `RecordGrid.Selection.FirstOnes` — the values that are not the same as an earlier one, as a
  relation;
* `RecordGrid.Selection.Listed` — a selection keeps the keys of its rows;
* `RecordGrid.Selection.Flipped` — **what pressing a row with a key amounts to**.

Main results:

* `RecordGrid.Selection.distinct_concat` — one more value, in one equation;
* `RecordGrid.Selection.holds_keysOf`, `keysOf_concat`, `keysOf_filter` — the three consequences;
* `RecordGrid.Selection.Listed.flipped` — pressing a row flips its key and nothing else;
* `RecordGrid.Selection.Listed.flip_flip` — **pressing it again takes that back**.
-/

import Mathlib.Data.List.Induction
import RecordGrid.Selection

set_option relaxedAutoImplicit false
set_option autoImplicit false

namespace RecordGrid

/-- What is the same as one of two values that are the same is the same as the other. -/
theorem Json.same_congr {j k : Json} (h : same j k = true) : same j = same k :=
  funext fun i => by rw [same, same, same_iff.1 h]

namespace Selection

/-! ### Keys -/

theorem holds_congr {j k : Json} (h : Json.same j k = true) (keys : List Json) :
    holds keys j = holds keys k := by
  rw [holds, holds, Json.same_congr h]

@[simp] theorem holds_append (ks ls : List Json) (j : Json) :
    holds (ks ++ ls) j = (holds ks j || holds ls j) := List.any_append

@[simp] theorem holds_cons (k : Json) (ks : List Json) (j : Json) :
    holds (k :: ks) j = (Json.same j k || holds ks j) := List.any_cons

@[simp] theorem holds_nil (j : Json) : holds [] j = false := rfl

/-- One more value is listed at the end, unless an earlier one is the same. -/
theorem distinct_concat_seen (seen ks : List Json) (k : Json) :
    distinct seen (ks ++ [k]) =
      distinct seen ks ++ if holds (seen ++ ks) k then [] else [k] := by
  induction ks generalizing seen with
  | nil =>
      simp only [List.nil_append, List.append_nil, distinct]
  | cons a ks ih =>
      rw [List.cons_append, distinct, distinct]
      split
      · next ha =>
          -- what is the same as `a` has been seen as well
          have hseen : holds (seen ++ a :: ks) k = holds (seen ++ ks) k := by
            cases hka : Json.same k a with
            | false => simp [hka]
            | true => simp [holds_congr hka seen, ha]
          rw [ih, hseen]
      · have hseen : holds (a :: seen ++ ks) k = holds (seen ++ a :: ks) k := by
          simp [Bool.or_left_comm]
        rw [ih, hseen, List.cons_append]

/-- **One more value**: it is listed at the end, unless an earlier one is the same. -/
theorem distinct_concat (ks : List Json) (k : Json) :
    distinct [] (ks ++ [k]) = distinct [] ks ++ if holds ks k then [] else [k] :=
  distinct_concat_seen [] ks k

/-- The values that are the same as a given one are all listed as the first of them. -/
@[simp] theorem holds_distinct (ks : List Json) (j : Json) :
    holds (distinct [] ks) j = holds ks j := by
  induction ks using List.reverseRecOn with
  | nil => rfl
  | append_singleton ks k ih =>
      rw [distinct_concat, holds_append, holds_append, ih]
      split
      · next hk =>
          cases hjk : Json.same j k with
          | false => simp [hjk]
          | true => simp [holds_congr hjk, hk]
      · rfl

/-- No two listed values are the same. -/
theorem pairwise_distinct (ks : List Json) :
    (distinct [] ks).Pairwise fun a b => Json.same a b = false := by
  induction ks using List.reverseRecOn with
  | nil => exact List.Pairwise.nil
  | append_singleton ks k ih =>
      rw [distinct_concat]
      split
      · rwa [List.append_nil]
      · next hk =>
          have hnew : holds (distinct [] ks) k = false := by
            rw [holds_distinct]
            exact Bool.eq_false_iff.2 hk
          refine List.pairwise_append.2 ⟨ih, List.pairwise_singleton .., fun a ha b hb => ?_⟩
          obtain rfl := List.mem_singleton.1 hb
          rw [Json.same_comm]
          exact List.any_eq_false.1 hnew a ha |> Bool.eq_false_iff.2

/-- What is the same as a value that was taken away is gone, and nothing else. -/
theorem holds_filter (k : Json) (ks : List Json) (j : Json) :
    holds (ks.filter fun i => !Json.same k i) j = (!Json.same k j && holds ks j) := by
  rw [holds, List.any_filter]
  cases hkj : Json.same k j with
  | true =>
      rw [Json.same_congr hkj]
      simp
  | false =>
      refine List.any_congr rfl fun i => ?_
      cases hji : Json.same j i with
      | false => rw [Bool.and_false]
      | true =>
          rw [Json.same_comm k i, ← Json.same_congr hji, Json.same_comm j k, hkj]
          rfl

/-- Taking away all values that are the same as a given one takes that one away from the list. -/
theorem distinct_filter (k : Json) (ks : List Json) :
    distinct [] (ks.filter fun j => !Json.same k j) =
      (distinct [] ks).filter fun j => !Json.same k j := by
  induction ks using List.reverseRecOn with
  | nil => rfl
  | append_singleton ks a ih =>
      rw [distinct_concat, List.filter_append, List.filter_append, ← ih]
      cases ha : Json.same k a with
      | true =>
          rw [List.filter_cons_of_neg (by simp [ha])]
          split <;> simp [ha]
      | false =>
          -- what is the same as `a` stays, too
          have hstays : holds (ks.filter fun j => !Json.same k j) a = holds ks a := by
            rw [holds_filter, ha]
            rfl
          rw [List.filter_cons_of_pos (by simp [ha]), List.filter_nil, distinct_concat, hstays]
          split <;> simp [ha]

/-- Read from left to right, `ks` is the list of those of `vs` that are not the same as an earlier
one. -/
inductive FirstOnes : List Json → List Json → Prop where
  | nil : FirstOnes [] []
  | new {vs ks : List Json} {v : Json} (h : FirstOnes vs ks)
      (hnew : ∀ w ∈ vs, Json.same w v = false) : FirstOnes (vs ++ [v]) (ks ++ [v])
  | known {vs ks : List Json} {v : Json} (h : FirstOnes vs ks)
      (hknown : ∃ w ∈ vs, Json.same w v = true) : FirstOnes (vs ++ [v]) ks

theorem firstOnes_distinct (vs : List Json) : FirstOnes vs (distinct [] vs) := by
  induction vs using List.reverseRecOn with
  | nil => exact .nil
  | append_singleton vs v ih =>
      rw [distinct_concat]
      split
      · next hv =>
          obtain ⟨w, hw, hvw⟩ := List.any_eq_true.1 hv
          rw [List.append_nil]
          exact .known ih ⟨w, hw, by rwa [Json.same_comm]⟩
      · next hv =>
          refine .new ih fun w hw => ?_
          rw [Json.same_comm]
          exact Bool.eq_false_iff.2 fun hvw => hv (List.any_eq_true.2 ⟨w, hw, hvw⟩)

/-! ### Rows -/

variable {s : Selection} {k : Json} {row : Row}

/-- The values that some rows have in a field, row by row. -/
def valuesOf (field : String) (rows : List Row) : List Json := rows.filterMap (·.get? field)

theorem valuesOf_cons (field : String) (row : Row) (rows : List Row) :
    valuesOf field (row :: rows) = (row.get? field).toList ++ valuesOf field rows := by
  rw [valuesOf, List.filterMap_cons]
  cases row.get? field <;> rfl

theorem valuesOf_concat {field : String} (h : row.get? field = some k) (rows : List Row) :
    valuesOf field (rows ++ [row]) = valuesOf field rows ++ [k] := by
  have hrow : valuesOf field [row] = [k] := by
    rw [valuesOf_cons, h]
    rfl
  rw [valuesOf, List.filterMap_append]
  exact congrArg (valuesOf field rows ++ ·) hrow

theorem keysOf_eq (field : String) (rows : List Row) :
    keysOf field rows = distinct [] (valuesOf field rows) := rfl

theorem rowHasKey_iff {key : Json} :
    s.rowHasKey key row = true ↔ ∃ k, row.get? s.rowKey = some k ∧ Json.same key k = true :=
  Option.any_eq_true ..

theorem rowHasKey_of_get? (h : row.get? s.rowKey = some k) (key : Json) :
    s.rowHasKey key row = Json.same key k := by
  rw [rowHasKey, h]
  rfl

theorem rowHasKey_of_none (h : row.get? s.rowKey = none) (key : Json) :
    s.rowHasKey key row = false := by
  rw [rowHasKey, h]
  rfl

/-- **A key is listed exactly when some row carries it.** -/
theorem holds_keysOf (s : Selection) (rows : List Row) (key : Json) :
    holds (keysOf s.rowKey rows) key = rows.any (s.rowHasKey key) := by
  rw [keysOf_eq, holds_distinct]
  induction rows with
  | nil => rfl
  | cons row rows ih =>
      rw [valuesOf_cons, holds_append, ih, List.any_cons]
      cases hrow : row.get? s.rowKey with
      | none => simp [rowHasKey_of_none hrow]
      | some k => simp [rowHasKey_of_get? hrow]

/-- **A row at the end adds its key at the end**, unless the key is listed. -/
theorem keysOf_concat {field : String} (h : row.get? field = some k) (rows : List Row) :
    keysOf field (rows ++ [row]) =
      keysOf field rows ++ if holds (keysOf field rows) k then [] else [k] := by
  rw [keysOf_eq, keysOf_eq, valuesOf_concat h, distinct_concat, holds_distinct]

theorem valuesOf_filter (s : Selection) (k : Json) (rows : List Row) :
    valuesOf s.rowKey (rows.filter fun r => !s.rowHasKey k r) =
      (valuesOf s.rowKey rows).filter fun j => !Json.same k j := by
  induction rows with
  | nil => rfl
  | cons row rows ih =>
      rw [valuesOf_cons, List.filter_append, ← ih, List.filter_cons]
      cases hrow : row.get? s.rowKey with
      | none =>
          rw [rowHasKey_of_none hrow, if_pos (by rfl), valuesOf_cons, hrow]
          rfl
      | some j =>
          rw [rowHasKey_of_get? hrow]
          cases hj : Json.same k j with
          | true => simp [hj]
          | false => simp [hj, valuesOf_cons, hrow]

/-- **Taking away the rows with a key takes away that key**, and no other. -/
theorem keysOf_filter (s : Selection) (k : Json) (rows : List Row) :
    keysOf s.rowKey (rows.filter fun r => !s.rowHasKey k r) =
      (keysOf s.rowKey rows).filter fun j => !Json.same k j := by
  rw [keysOf_eq, valuesOf_filter, distinct_filter, ← keysOf_eq]

/-! ### Pressing rows -/

/-- The selection keeps the keys of its rows. -/
def Listed (s : Selection) : Prop := s.keys = keysOf s.rowKey s.rows

theorem listed_select (s : Selection) (rows : List Row) : (s.select rows).Listed := rfl

/-- **What pressing a row with a key amounts to.** -/
structure Flipped (s : Selection) (k : Json) (row : Row) (t : Selection) : Prop where
  /-- The key is selected where it was not, and no longer where it was; nothing changes for any
  other key. -/
  isSelected : ∀ j, t.isSelected j = if Json.same k j then !s.isSelected j else s.isSelected j
  /-- The rows that do not carry the key, with another key or without one, are the same as before,
  in the same order. -/
  others : (t.rows.filter fun r => !s.rowHasKey k r) = s.rows.filter fun r => !s.rowHasKey k r
  /-- If the key was selected, all rows that carry it are gone, and so is the key. -/
  removed : s.isSelected k = true →
    (t.rows = s.rows.filter fun r => !s.rowHasKey k r) ∧
      t.keys = s.keys.filter fun j => !Json.same k j
  /-- If it was not, the row stands behind the others, and so does its key. -/
  appended : s.isSelected k = false → t.rows = s.rows ++ [row] ∧ t.keys = s.keys ++ [k]

namespace Listed

theorem isSelected_eq (h : s.Listed) (key : Json) :
    s.isSelected key = s.rows.any (s.rowHasKey key) := by
  rw [isSelected, h, holds_keysOf]

/-- A key is selected exactly when some selected row carries it. -/
theorem isSelected_iff (h : s.Listed) (key : Json) :
    s.isSelected key = true ↔
      ∃ row ∈ s.rows, ∃ k, row.get? s.rowKey = some k ∧ Json.same key k = true := by
  rw [h.isSelected_eq, List.any_eq_true]
  simp only [rowHasKey_iff]

/-- No row carries a key that is not selected. -/
theorem filter_rows_eq_self (h : s.Listed) (hk : s.isSelected k = false) :
    (s.rows.filter fun r => !s.rowHasKey k r) = s.rows := by
  rw [h.isSelected_eq, List.any_eq_false] at hk
  exact List.filter_eq_self.2 fun r hr => by simp [hk r hr]

/-- The selection after a row with a selected key was pressed. -/
theorem select_flip_of_selected (h : s.Listed) (hk : s.isSelected k = true) :
    s.select (s.flip k row) =
      { s with
        rows := s.rows.filter fun r => !s.rowHasKey k r
        keys := s.keys.filter fun j => !Json.same k j } := by
  rw [flip, if_pos hk, select, keysOf_filter, ← h]

/-- The selection after a row with a key that is not selected was pressed. -/
theorem select_flip_of_not_selected (h : s.Listed) (hrow : row.get? s.rowKey = some k)
    (hk : s.isSelected k = false) :
    s.select (s.flip k row) = { s with rows := s.rows ++ [row], keys := s.keys ++ [k] } := by
  have hnew : holds (keysOf s.rowKey s.rows) k = false := by rwa [← h]
  rw [flip, if_neg (by simp [hk]), select, keysOf_concat hrow, hnew, ← h]
  rfl

/-- **Pressing a row flips its key**, and leaves everything else as it is. -/
theorem flipped (h : s.Listed) (hrow : row.get? s.rowKey = some k) :
    s.Flipped k row (s.select (s.flip k row)) := by
  have hcarries : s.rowHasKey k row = true := by rw [rowHasKey_of_get? hrow, Json.same_refl]
  cases hk : s.isSelected k with
  | true =>
      rw [h.select_flip_of_selected hk]
      refine ⟨fun j => ?_, ?_, fun _ => ⟨rfl, rfl⟩, fun hnot => ?_⟩
      · show holds (s.keys.filter fun j => !Json.same k j) j = _
        rw [holds_filter]
        cases hkj : Json.same k j with
        | false => rfl
        | true =>
            rw [isSelected, ← holds_congr hkj, ← isSelected, hk]
            rfl
      · rw [List.filter_filter]
        simp only [Bool.and_self]
      · rw [hk] at hnot
        cases hnot
  | false =>
      rw [h.select_flip_of_not_selected hrow hk]
      refine ⟨fun j => ?_, ?_, fun hsel => ?_, fun _ => ⟨rfl, rfl⟩⟩
      · show holds (s.keys ++ [k]) j = _
        rw [holds_append, holds_cons, holds_nil, Bool.or_false, Json.same_comm j k, isSelected]
        cases hkj : Json.same k j with
        | false => simp
        | true =>
            rw [← holds_congr hkj, ← isSelected, hk]
            rfl
      · rw [List.filter_append, List.filter_cons_of_neg (by simp [hcarries]), List.filter_nil,
          List.append_nil]
      · rw [hk] at hsel
        cases hsel

/-- **Pressing a row twice takes it back**, if its key was not selected before. -/
theorem flip_flip (h : s.Listed) (hrow : row.get? s.rowKey = some k)
    (hk : s.isSelected k = false) :
    (s.select (s.flip k row)).select ((s.select (s.flip k row)).flip k row) = s := by
  have hlisted : (s.select (s.flip k row)).Listed := listed_select ..
  have hnow : (s.select (s.flip k row)).isSelected k = true := by
    rw [(h.flipped hrow).isSelected, Json.same_refl, hk]
    rfl
  rw [hlisted.select_flip_of_selected hnow, h.select_flip_of_not_selected hrow hk]
  have hrows : ((s.rows ++ [row]).filter fun r => !s.rowHasKey k r) = s.rows := by
    rw [List.filter_append, h.filter_rows_eq_self hk,
      List.filter_cons_of_neg (by simp [rowHasKey_of_get? hrow]), List.filter_nil,
      List.append_nil]
  have hkeys : ((s.keys ++ [k]).filter fun j => !Json.same k j) = s.keys := by
    rw [List.filter_append, List.filter_cons_of_neg (by simp), List.filter_nil, List.append_nil]
    exact List.filter_eq_self.2 fun j hj => by simp [List.any_eq_false.1 hk j hj]
  exact congrArg₂ (fun rows keys => { s with rows, keys }) hrows hkeys

end Listed

end Selection

end RecordGrid
