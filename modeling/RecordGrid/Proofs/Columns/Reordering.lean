/-
**Reordering loses no column.**

Reordering takes entries out of the overlay one by one, for each key the first entry that is left
with it, and puts the rest behind them.  The keys that it is given may be unknown or repeated, and
so may those of the schema be repeated; whatever they are, the entries are only moved.  Each entry
that is taken out would be found first the next time, so doing it again changes nothing.

Main definitions:

* `RecordGrid.Columns.Covers` — **the invariant**: an overlay has an entry for each column of a
  schema, and each entry knows its place.

Main results:

* `RecordGrid.ColumnState.arrange_perm`, `arrange_arrange`, `arrange_keys` — arranging moves
  entries, comes to rest at once, and leaves the order alone in which they are;
* `RecordGrid.Columns.arranged_of_nodup` — the order after a reordering, if no key is repeated;
* `RecordGrid.Columns.Covers.changes` — what every run keeps;
* `RecordGrid.Columns.reordering_moves_entries` — **what follows for every run**.
-/

import RecordGrid.Proofs.Columns.Overlay

set_option relaxedAutoImplicit false
set_option autoImplicit false

namespace RecordGrid

namespace ColumnState

/-! ### Taking entries out -/

/-- The entry that is taken out is the first one with its key. -/
theorem extract?_eq_some {key : String} {ss : List ColumnState} {s : ColumnState}
    {rest : List ColumnState} (h : extract? key ss = some (s, rest)) :
    ∃ before after, ss = before ++ s :: after ∧ rest = before ++ after ∧ s.key = key ∧
      key ∉ before.map (·.key) := by
  induction ss generalizing rest with
  | nil => cases h
  | cons t ss ih =>
      rw [extract?] at h
      split at h
      · next hkey =>
          obtain ⟨rfl, rfl⟩ := Prod.mk.inj (Option.some.inj h)
          exact ⟨[], ss, rfl, rfl, hkey, List.not_mem_nil⟩
      · next hkey =>
          obtain ⟨⟨s', rest'⟩, hextract, hpair⟩ := Option.map_eq_some_iff.1 h
          obtain ⟨rfl, rfl⟩ := Prod.mk.inj hpair
          obtain ⟨before, after, rfl, rfl, hs, hbefore⟩ := ih hextract
          exact ⟨t :: before, after, rfl, rfl, hs, by simp [Ne.symm hkey, hbefore]⟩

/-- Nothing is taken out if there is no entry with the key. -/
theorem extract?_eq_none_iff {key : String} {ss : List ColumnState} :
    extract? key ss = none ↔ key ∉ ss.map (·.key) := by
  induction ss with
  | nil => simp [extract?]
  | cons t ss ih =>
      rw [extract?]
      split
      · next hkey => simp [hkey]
      · next hkey => simp [ih, Ne.symm hkey]

theorem extract?_cons_self (s : ColumnState) (ss : List ColumnState) :
    extract? s.key (s :: ss) = some (s, ss) := if_pos rfl

/-- **Arranging only moves entries.** -/
theorem arrange_perm (ss : List ColumnState) (keys : List String) :
    (arrange ss keys).Perm ss := by
  induction keys generalizing ss with
  | nil => exact List.Perm.refl ss
  | cons key keys ih =>
      rw [arrange]
      split
      · next s rest hextract =>
          obtain ⟨before, after, rfl, rfl, -, -⟩ := extract?_eq_some hextract
          exact ((ih _).cons s).trans List.perm_middle.symm
      · exact ih ss

/-- **Arranging comes to rest at once**: what was taken out first is found first. -/
theorem arrange_arrange (ss : List ColumnState) (keys : List String) :
    arrange (arrange ss keys) keys = arrange ss keys := by
  induction keys generalizing ss with
  | nil => rfl
  | cons key keys ih =>
      cases hextract : extract? key ss with
      | none =>
          have hss : arrange ss (key :: keys) = arrange ss keys := by rw [arrange, hextract]
          have hkeys : key ∉ (arrange ss keys).map (·.key) := fun hmem =>
            extract?_eq_none_iff.1 hextract (((arrange_perm ss keys).map _).mem_iff.1 hmem)
          rw [hss, arrange, extract?_eq_none_iff.2 hkeys]
          exact ih ss
      | some out =>
          obtain ⟨s, rest⟩ := out
          obtain ⟨-, -, -, -, rfl, -⟩ := extract?_eq_some hextract
          have hss : arrange ss (s.key :: keys) = s :: arrange rest keys := by
            rw [arrange, hextract]
          rw [hss, arrange, extract?_cons_self]
          exact congrArg (s :: ·) (ih rest)

/-- Entries that are in the order asked for stay there. -/
theorem arrange_keys (ss : List ColumnState) : arrange ss (ss.map (·.key)) = ss := by
  induction ss with
  | nil => rfl
  | cons s ss ih =>
      rw [List.map_cons, arrange, extract?_cons_self]
      exact congrArg (s :: ·) ih

/-- Where the keys go does not depend on anything else in the entries. -/
theorem map_key_arrange (ss : List ColumnState) (new : List String) :
    (arrange ss new).map (·.key) = Columns.arranged (ss.map (·.key)) new := by
  induction new generalizing ss with
  | nil => rfl
  | cons key new ih =>
      rw [arrange, Columns.arranged]
      split
      · next s rest hextract =>
          obtain ⟨before, after, rfl, rfl, rfl, hbefore⟩ := extract?_eq_some hextract
          have hrest : ((before ++ s :: after).map (·.key)).erase s.key =
              (before ++ after).map (·.key) := by
            rw [List.map_append, List.erase_append_right _ hbefore, List.map_cons,
              List.erase_cons_head, List.map_append]
          rw [if_pos (by simp), List.map_cons, ih, hrest]
      · next hextract => rw [if_neg (extract?_eq_none_iff.1 hextract), ih]

/-! ### Places -/

/-- An entry without a place. -/
def bare (s : ColumnState) : ColumnState := { s with order := 0 }

@[simp] theorem key_bare (s : ColumnState) : s.bare.key = s.key := rfl

theorem extract?_map_bare (key : String) (ss : List ColumnState) :
    extract? key (ss.map bare) =
      (extract? key ss).map fun out => (out.1.bare, out.2.map bare) := by
  induction ss with
  | nil => rfl
  | cons s ss ih =>
      rw [List.map_cons, extract?, extract?, key_bare]
      split
      · rfl
      · rw [ih, Option.map_map, Option.map_map]
        rfl

theorem arrange_map_bare (ss : List ColumnState) (keys : List String) :
    arrange (ss.map bare) keys = (arrange ss keys).map bare := by
  induction keys generalizing ss with
  | nil => rfl
  | cons key keys ih =>
      rw [arrange, arrange, extract?_map_bare]
      cases extract? key ss with
      | none => exact ih ss
      | some out => exact congrArg (out.1.bare :: ·) (ih out.2)

theorem map_face_map_bare (ss : List ColumnState) : (ss.map bare).map face = ss.map face := by
  rw [List.map_map]
  rfl

/-- The places that entries have had make no difference to where they are put. -/
theorem number_arrange_number (ss : List ColumnState) (keys : List String) :
    number (arrange (number ss) keys) = number (arrange ss keys) := by
  refine numberFrom_congr ?_ 0
  rw [← map_face_map_bare, ← arrange_map_bare, number, map_numberFrom fun _ _ => rfl,
    arrange_map_bare, map_face_map_bare]

@[simp] theorem number_number (ss : List ColumnState) : number (number ss) = number ss :=
  numberFrom_congr (map_face_numberFrom 0 ss) 0

/-- A place is the number of entries before it. -/
theorem getElem?_numberFrom (n i : Nat) (ss : List ColumnState) :
    (numberFrom n ss)[i]? = ss[i]?.map fun s => { s with order := UInt64.ofNat (n + i) } := by
  induction ss generalizing n i with
  | nil => rfl
  | cons s ss ih =>
      cases i with
      | zero => rfl
      | succ i =>
          rw [numberFrom, List.getElem?_cons_succ, List.getElem?_cons_succ, ih, Nat.add_right_comm,
            Nat.add_assoc]

theorem map_key_setVisible (key : String) (visible : Bool) (ss : List ColumnState) :
    (setVisible key visible ss).map (·.key) = ss.map (·.key) := by
  induction ss with
  | nil => rfl
  | cons s ss ih =>
      rw [setVisible]
      split
      · rfl
      · exact congrArg (s.key :: ·) ih

end ColumnState

namespace Columns

/-! ### Orders without repeated keys -/

/-- **The order after a reordering**, if no key is repeated among the columns: the keys that there
are, each where it is named first, and behind them those that are not named, as they were. -/
theorem arranged_of_nodup {keys : List String} (h : keys.Nodup) (new : List String) :
    arranged keys new = (new.filter (· ∈ keys)).eraseDups ++ keys.filter (· ∉ new) := by
  induction new generalizing keys with
  | nil => simp [arranged]
  | cons key new ih =>
      rw [arranged]
      split
      · next hkey =>
          -- the key is taken out, so it counts where it is named first only
          have hknown : (new.filter (· ∈ keys.erase key)) =
              (new.filter (· ∈ keys)).filter fun k => !k == key := by
            rw [List.filter_filter]
            refine List.filter_congr fun k _ => Bool.eq_iff_iff.2 ?_
            simp [h.mem_erase_iff]
          have hrest : keys.filter (· ∉ key :: new) = (keys.erase key).filter (· ∉ new) := by
            rw [h.erase_eq_filter, List.filter_filter]
            refine List.filter_congr fun k _ => Bool.eq_iff_iff.2 ?_
            simp [and_comm]
          rw [ih (h.erase key), List.filter_cons_of_pos (by simpa using hkey), List.eraseDups_cons,
            hknown, hrest, List.cons_append]
      · next hkey =>
          have hrest : keys.filter (· ∉ key :: new) = keys.filter (· ∉ new) := by
            refine List.filter_congr fun k hk => ?_
            have hne : k ≠ key := fun he => hkey (he ▸ hk)
            simp [hne]
          rw [ih h, List.filter_cons_of_neg (by simpa using hkey), hrest]

/-! ### Runs -/

/-- **An overlay covers a schema**: it has an entry for each column, and each entry knows its
place. -/
structure Covers (c : Columns) (schema : List Column) : Prop where
  keys : (c.overlay.map (·.key)).Perm (schema.map (·.key))
  places : ColumnState.number c.overlay = c.overlay

namespace Covers

variable {c : Columns} {schema : List Column}

theorem setSchema (c : Columns) (schema : List Column) : (c.setSchema schema).Covers schema := by
  constructor
  · show ((ColumnState.ofSchema schema).map (·.key)).Perm _
    rw [ColumnState.ofSchema_eq_layout, ColumnState.map_key_layout]
  · exact ColumnState.number_number _

/-- **Every change keeps the overlay covering the schema.** -/
theorem change (h : c.Covers schema) (e : Change) : (c.change e).Covers schema := by
  cases e with
  | setVisible key visible =>
      constructor
      · show ((ColumnState.setVisible key visible c.overlay).map (·.key)).Perm _
        rw [ColumnState.map_key_setVisible]
        exact h.keys
      · show ColumnState.number (ColumnState.setVisible key visible c.overlay) = _
        rw [ColumnState.number, ← ColumnState.setVisible_numberFrom]
        exact congrArg (ColumnState.setVisible key visible) h.places
  | reorder keys =>
      constructor
      · show ((ColumnState.number (ColumnState.arrange c.overlay keys)).map (·.key)).Perm _
        rw [ColumnState.number, ColumnState.map_numberFrom fun _ _ => rfl]
        exact ((ColumnState.arrange_perm c.overlay keys).map _).trans h.keys
      · exact ColumnState.number_number _
  | setDensity density => exact ⟨h.keys, h.places⟩

theorem changes (h : c.Covers schema) (es : List Change) : (c.changes es).Covers schema := by
  induction es generalizing c with
  | nil => exact h
  | cons e es ih => exact ih (h.change e)

/-- The place of an entry is its index. -/
theorem order_eq (h : c.Covers schema) {i : Nat} {s : ColumnState} (hs : c.overlay[i]? = some s) :
    s.order = UInt64.ofNat i := by
  rw [← h.places, ColumnState.number, ColumnState.getElem?_numberFrom] at hs
  obtain ⟨t, -, rfl⟩ := Option.map_eq_some_iff.1 hs
  rw [Nat.zero_add]

/-- Reordering by the order that there is changes nothing. -/
theorem reorder_self (h : c.Covers schema) : c.reorder (c.overlay.map (·.key)) = c := by
  rw [reorder, ColumnState.arrange_keys, h.places]

end Covers

/-- Reordering moves entries and leaves their visibility alone. -/
theorem map_face_reorder_perm (c : Columns) (keys : List String) :
    ((c.reorder keys).overlay.map ColumnState.face).Perm (c.overlay.map ColumnState.face) := by
  show ((ColumnState.number (ColumnState.arrange c.overlay keys)).map ColumnState.face).Perm _
  rw [ColumnState.number, ColumnState.map_face_numberFrom]
  exact (ColumnState.arrange_perm c.overlay keys).map _

/-- **Reordering twice is reordering once.** -/
theorem reorder_reorder (c : Columns) (keys : List String) :
    (c.reorder keys).reorder keys = c.reorder keys := by
  rw [reorder, reorder, ColumnState.number_arrange_number, ColumnState.arrange_arrange]

/-- The keys are reordered whatever the entries say besides. -/
theorem map_key_reorder (c : Columns) (keys : List String) :
    (c.reorder keys).overlay.map (·.key) = arranged (c.overlay.map (·.key)) keys := by
  show (ColumnState.number (ColumnState.arrange c.overlay keys)).map (·.key) = _
  rw [ColumnState.number, ColumnState.map_numberFrom fun _ _ => rfl, ColumnState.map_key_arrange]

/-- **Reordering loses no column.**  After any run of hiding, showing, reordering and changing the
density of the columns of a schema, whose keys may be repeated:

* the overlay has the keys of the schema, each as often as there, and the place of an entry is its
  index;
* reordering moves the entries and leaves their visibility alone;
* reordering twice is reordering once, and reordering by the order that there is changes nothing;
* if no key is repeated in the schema, a reordering puts the keys that there are in the order in
  which they are first named, and behind them those that are not named, as they were. -/
theorem reordering_moves_entries (c : Columns) (schema : List Column) (es : List Change) :
    (((c.setSchema schema).changes es).overlay.map (·.key)).Perm (schema.map (·.key)) ∧
    (∀ i s, ((c.setSchema schema).changes es).overlay[i]? = some s → s.order = UInt64.ofNat i) ∧
    (∀ keys, ((((c.setSchema schema).changes es).reorder keys).overlay.map ColumnState.face).Perm
      (((c.setSchema schema).changes es).overlay.map ColumnState.face)) ∧
    (∀ keys, (((c.setSchema schema).changes es).reorder keys).reorder keys =
      ((c.setSchema schema).changes es).reorder keys) ∧
    ((c.setSchema schema).changes es).reorder
        (((c.setSchema schema).changes es).overlay.map (·.key)) =
      (c.setSchema schema).changes es ∧
    ((schema.map (·.key)).Nodup → ∀ keys,
      (((c.setSchema schema).changes es).reorder keys).overlay.map (·.key) =
        (keys.filter (· ∈ schema.map (·.key))).eraseDups ++
          (((c.setSchema schema).changes es).overlay.map (·.key)).filter (· ∉ keys)) := by
  have hcovers := (Covers.setSchema c schema).changes es
  refine ⟨hcovers.keys, fun i s hs => hcovers.order_eq hs, map_face_reorder_perm _,
    reorder_reorder _, hcovers.reorder_self, fun hnodup keys => ?_⟩
  rw [map_key_reorder, arranged_of_nodup (hcovers.keys.nodup_iff.2 hnodup)]
  simp only [hcovers.keys.mem_iff]

/-- A schema that lists the name twice. -/
def echoColumns : List Column :=
  [{ key := "name", title := "Name" }, { key := "ip", title := "IP" },
    { key := "name", title := "Alias" }]

/-- Hiding and reordering by key take the first of the two names. -/
def hideAndSwap : List Change := [.setVisible "name" false, .reorder ["ip", "bogus", "name"]]

/-- The hidden name is the second entry, and says so.  Among the hosts a key that does not exist and
one that is repeated do no harm. -/
theorem reordering_moves_entries_hosts :
    (hostColumns.map (·.key)).Nodup ∧
      (((ofSchema [] .medium).setSchema echoColumns).changes hideAndSwap).overlay[1]? =
        some { key := "name", visible := false, order := UInt64.ofNat 1 } ∧
      ((((ofSchema [] .medium).setSchema echoColumns).changes hideAndSwap).overlay.map (·.key)).Perm
        ["name", "ip", "name"] ∧
      ((((ofSchema [] .medium).setSchema hostColumns).changes meanwhile).reorder
          ["status", "bogus", "status", "name"]).overlay.map (·.key) =
        ["status", "name", "os", "ip"] := by
  have hnodup : (hostColumns.map (·.key)).Nodup := by decide
  obtain ⟨hkeys, horder, -⟩ :=
    reordering_moves_entries (ofSchema [] .medium) echoColumns hideAndSwap
  obtain ⟨-, -, -, -, -, hnamed⟩ :=
    reordering_moves_entries (ofSchema [] .medium) hostColumns meanwhile
  have hhidden : (((ofSchema [] .medium).setSchema echoColumns).changes hideAndSwap).overlay[1]? =
      some { key := "name", visible := false, order := 1 } := by decide
  have hplace : (1 : Count) = UInt64.ofNat 1 := horder 1 _ hhidden
  exact ⟨hnodup, hplace ▸ hhidden, hkeys,
    (hnamed hnodup ["status", "bogus", "status", "name"]).trans (by decide)⟩

end Columns

end RecordGrid
