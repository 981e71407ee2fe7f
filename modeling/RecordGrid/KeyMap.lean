/-
**Maps from text to values, kept in key order.**

Rows, request parameters and form values are all maps from text to something, and all of them are
shown in the order of their keys.  A `KeyMap` is therefore the list of its entries, strictly
increasing in the key: order is part of the value, a key occurs at most once, and two maps with
the same look-ups are equal.

Main definitions:

* `RecordGrid.KeyMap` — the entries together with the proof that their keys increase;
* `RecordGrid.KeyMap.get?`, `insert`, `erase`, `union`, `ofList` — look-up and update.

Main results:

* `RecordGrid.KeyMap.get?_insert`, `get?_erase`, `get?_union` — what each update does to look-ups;
* `RecordGrid.KeyMap.ext_get?` — a map is determined by its look-ups;
* `RecordGrid.KeyMap.ofList_entries` — a map is rebuilt from its own entries.
-/

set_option relaxedAutoImplicit false
set_option autoImplicit false

namespace RecordGrid

/-! ### Entry lists -/

namespace Entries

variable {α : Type}

/-- The entries are strictly increasing in the key. -/
def Sorted (es : List (String × α)) : Prop :=
  es.Pairwise fun a b => a.1 < b.1

/-- The value at the first entry with key `k`. -/
def lookup (k : String) : List (String × α) → Option α
  | [] => none
  | (k', v) :: es => if k' = k then some v else lookup k es

/-- Puts `v` at `k`, in place of the value that was there or where the key order asks for it. -/
def put (k : String) (v : α) : List (String × α) → List (String × α)
  | [] => [(k, v)]
  | (k', v') :: es =>
      if k < k' then (k, v) :: (k', v') :: es
      else if k = k' then (k, v) :: es
      else (k', v') :: put k v es

/-- Drops every entry with key `k`. -/
def drop (k : String) (es : List (String × α)) : List (String × α) :=
  es.filter fun e => e.1 ≠ k

theorem mem_put {k : String} {v : α} {e : String × α} {es : List (String × α)} :
    e ∈ put k v es → e = (k, v) ∨ e ∈ es := by
  induction es with
  | nil => simp [put]
  | cons hd tl ih =>
      obtain ⟨k', v'⟩ := hd
      rw [put]
      split
      · grind
      · split <;> grind

theorem Sorted.put {k : String} {v : α} {es : List (String × α)} (h : Sorted es) :
    Sorted (put k v es) := by
  induction es with
  | nil => simp [Entries.put, Sorted]
  | cons hd tl ih =>
      obtain ⟨k', v'⟩ := hd
      have htl : Sorted tl := List.Pairwise.of_cons h
      have hlt : ∀ e ∈ tl, k' < e.1 := fun e he => List.rel_of_pairwise_cons h he
      rw [Entries.put]
      split
      · next hk =>
          refine List.Pairwise.cons (fun e he => ?_) h
          rcases List.mem_cons.1 he with rfl | he
          · exact hk
          · exact String.lt_trans hk (hlt e he)
      · split
        · next hk =>
            subst hk
            exact List.Pairwise.cons hlt htl
        · next hn hne =>
            refine List.Pairwise.cons (fun e he => ?_) (ih htl)
            rcases mem_put he with rfl | he
            · grind
            · exact hlt e he

theorem Sorted.drop {k : String} {es : List (String × α)} (h : Sorted es) :
    Sorted (drop k es) :=
  List.Pairwise.filter _ h

theorem lookup_put (k j : String) (v : α) (es : List (String × α)) :
    lookup j (put k v es) = if k = j then some v else lookup j es := by
  induction es with
  | nil => simp [put, lookup]
  | cons hd tl ih =>
      obtain ⟨k', v'⟩ := hd
      rw [put]
      split
      · simp [lookup]
      · split
        · next hk => subst hk; by_cases h : k = j <;> simp [lookup, h]
        · next hne =>
            by_cases h : k' = j
            · have : ¬ k = j := fun hkj => hne (hkj.trans h.symm)
              simp [lookup, h, this]
            · simp [lookup, h, ih]

theorem lookup_drop (k j : String) (es : List (String × α)) :
    lookup j (drop k es) = if k = j then none else lookup j es := by
  induction es with
  | nil => simp [drop, lookup]
  | cons hd tl ih =>
      obtain ⟨k', v'⟩ := hd
      simp only [drop, List.filter_cons] at ih ⊢
      by_cases hk : k' = k
      · subst hk
        by_cases h : k' = j <;> simp_all [lookup]
      · by_cases h : k' = j
        · subst h
          simp [lookup, hk, Ne.symm hk]
        · simp_all [lookup]

theorem lookup_eq_none_of_lt {k : String} {es : List (String × α)}
    (h : ∀ e ∈ es, k < e.1) : lookup k es = none := by
  induction es with
  | nil => rfl
  | cons hd tl ih =>
      obtain ⟨k', v'⟩ := hd
      have hk : k < k' := h (k', v') (by simp)
      have : ¬ k' = k := fun e => String.lt_irrefl k (e ▸ hk)
      simp [lookup, this, ih fun e he => h e (by simp [he])]

/-- Sorted entry lists with the same look-ups are equal. -/
theorem eq_of_lookup {es fs : List (String × α)} (he : Sorted es) (hf : Sorted fs)
    (h : ∀ k, lookup k es = lookup k fs) : es = fs := by
  induction es generalizing fs with
  | nil =>
      cases fs with
      | nil => rfl
      | cons f fs => simpa [lookup] using h f.1
  | cons e es ih =>
      obtain ⟨k, v⟩ := e
      cases fs with
      | nil => simpa [lookup] using h k
      | cons f fs =>
          obtain ⟨j, w⟩ := f
          have hel : ∀ e ∈ es, k < e.1 := fun e h => List.rel_of_pairwise_cons he h
          have hfl : ∀ e ∈ fs, j < e.1 := fun e h => List.rel_of_pairwise_cons hf h
          have hkj : k = j := by
            have hk := h k
            have hj := h j
            by_cases hlt : k < j
            · have h1 : ¬ j = k := fun e => String.lt_irrefl k (e ▸ hlt)
              simp [lookup, h1, lookup_eq_none_of_lt fun e he => String.lt_trans hlt (hfl e he)]
                at hk
            · by_cases hgt : j < k
              · have h1 : ¬ k = j := fun e => String.lt_irrefl j (e ▸ hgt)
                simp [lookup, h1,
                  lookup_eq_none_of_lt fun e he => String.lt_trans hgt (hel e he)] at hj
              · grind
          subst hkj
          have hv : v = w := by simpa [lookup] using h k
          subst hv
          congr 1
          refine ih (List.Pairwise.of_cons he) (List.Pairwise.of_cons hf) fun i => ?_
          by_cases hi : k = i
          · subst hi
            rw [lookup_eq_none_of_lt hel, lookup_eq_none_of_lt hfl]
          · simpa [lookup, hi] using h i

end Entries

/-! ### Maps -/

/-- A map from text to values: its entries in strictly increasing key order. -/
structure KeyMap (α : Type) where
  /-- The entries, in key order. -/
  entries : List (String × α)
  /-- The keys increase strictly. -/
  sorted : Entries.Sorted entries

namespace KeyMap

variable {α : Type}

@[ext] theorem ext {m n : KeyMap α} (h : m.entries = n.entries) : m = n := by
  cases m; cases n; cases h; rfl

instance [DecidableEq α] : DecidableEq (KeyMap α) := fun m n =>
  if h : m.entries = n.entries then isTrue (ext h)
  else isFalse fun e => h (e ▸ rfl)

/-- The map without entries. -/
def empty : KeyMap α := ⟨[], List.Pairwise.nil⟩

instance : EmptyCollection (KeyMap α) := ⟨empty⟩
instance : Inhabited (KeyMap α) := ⟨empty⟩

/-- The value at a key. -/
def get? (m : KeyMap α) (k : String) : Option α :=
  Entries.lookup k m.entries

/-- Sets the value at a key. -/
def insert (m : KeyMap α) (k : String) (v : α) : KeyMap α :=
  ⟨Entries.put k v m.entries, m.sorted.put⟩

/-- Removes a key. -/
def erase (m : KeyMap α) (k : String) : KeyMap α :=
  ⟨Entries.drop k m.entries, m.sorted.drop⟩

/-- Inserts pairs from left to right; a later pair overwrites an earlier one with its key. -/
def insertMany (m : KeyMap α) (es : List (String × α)) : KeyMap α :=
  es.foldl (fun m e => m.insert e.1 e.2) m

/-- The map of a list of pairs; the last pair with a key gives its value. -/
def ofList (es : List (String × α)) : KeyMap α :=
  empty.insertMany es

/-- The entries of both maps; `n` wins where both have a key. -/
def union (m n : KeyMap α) : KeyMap α :=
  m.insertMany n.entries

/-- Whether the map has no entry. -/
def isEmpty (m : KeyMap α) : Bool :=
  m.entries.isEmpty

/-- The keys, in increasing order. -/
def keys (m : KeyMap α) : List String :=
  m.entries.map (·.1)

@[simp] theorem entries_empty : (empty : KeyMap α).entries = [] := rfl

@[simp] theorem get?_empty (k : String) : (empty : KeyMap α).get? k = none := rfl

theorem get?_insert (m : KeyMap α) (k j : String) (v : α) :
    (m.insert k v).get? j = if k = j then some v else m.get? j :=
  Entries.lookup_put k j v m.entries

@[simp] theorem get?_insert_self (m : KeyMap α) (k : String) (v : α) :
    (m.insert k v).get? k = some v := by simp [get?_insert]

theorem get?_erase (m : KeyMap α) (k j : String) :
    (m.erase k).get? j = if k = j then none else m.get? j :=
  Entries.lookup_drop k j m.entries

/-- A map is determined by its look-ups. -/
theorem ext_get? {m n : KeyMap α} (h : ∀ k, m.get? k = n.get? k) : m = n :=
  ext (Entries.eq_of_lookup m.sorted n.sorted h)

@[simp] theorem insertMany_nil (m : KeyMap α) : m.insertMany [] = m := rfl

@[simp] theorem insertMany_cons (m : KeyMap α) (e : String × α) (es : List (String × α)) :
    m.insertMany (e :: es) = (m.insert e.1 e.2).insertMany es := rfl

/-- Inserting pairs: what they say of a key wins over what the map says. -/
theorem get?_insertMany (m : KeyMap α) (es : List (String × α)) (k : String) :
    (m.insertMany es).get? k = ((ofList es).get? k).or (m.get? k) := by
  induction es generalizing m with
  | nil => rfl
  | cons e es ih =>
      rw [ofList, insertMany_cons, insertMany_cons, ih, ih (insert _ _ _), get?_insert, get?_insert]
      by_cases he : e.1 = k <;> simp [he]

/-- Pairs with other keys make no difference to a key. -/
theorem get?_ofList_filter (es : List (String × α)) {p : String → Bool} {k : String}
    (hk : p k = true) : (ofList (es.filter (p ·.1))).get? k = (ofList es).get? k := by
  induction es with
  | nil => rfl
  | cons e es ih =>
      rw [List.filter_cons, ofList, ofList, insertMany_cons, get?_insertMany _ es]
      by_cases hp : p e.1 = true
      · rw [if_pos hp, insertMany_cons, get?_insertMany, ih]
      · have hne : e.1 ≠ k := fun heq => hp (heq ▸ hk)
        rw [if_neg hp, get?_insertMany, ih, get?_insert, if_neg hne]

/-- Inserting sorted entries: their look-ups win over those of the map. -/
theorem get?_insertMany_of_sorted (m : KeyMap α) {es : List (String × α)}
    (h : Entries.Sorted es) (k : String) :
    (m.insertMany es).get? k = (Entries.lookup k es).or (m.get? k) := by
  induction es generalizing m with
  | nil => simp [Entries.lookup]
  | cons e es ih =>
      obtain ⟨j, v⟩ := e
      have hl : ∀ e ∈ es, j < e.1 := fun e he => List.rel_of_pairwise_cons h he
      rw [insertMany_cons, ih _ (List.Pairwise.of_cons h), get?_insert]
      by_cases hj : j = k
      · subst hj
        simp [Entries.lookup, Entries.lookup_eq_none_of_lt hl]
      · simp [Entries.lookup, hj]

/-- A key is absent after inserting pairs exactly when it was absent and no pair has it. -/
theorem get?_insertMany_eq_none_iff (m : KeyMap α) (es : List (String × α)) (k : String) :
    (m.insertMany es).get? k = none ↔ m.get? k = none ∧ ∀ e ∈ es, e.1 ≠ k := by
  induction es generalizing m with
  | nil => simp
  | cons e es ih =>
      rw [insertMany_cons, ih, get?_insert, List.forall_mem_cons]
      by_cases he : e.1 = k <;> simp [he]

theorem get?_ofList_eq_none_iff {es : List (String × α)} {k : String} :
    (ofList es).get? k = none ↔ ∀ e ∈ es, e.1 ≠ k := by
  rw [ofList, get?_insertMany_eq_none_iff, get?_empty]
  simp

/-- Lists that give the same map still do so when some keys are left out of both. -/
theorem ofList_filter_congr {es fs : List (String × α)} (h : ofList es = ofList fs)
    (p : String → Bool) : ofList (es.filter (p ·.1)) = ofList (fs.filter (p ·.1)) := by
  refine ext_get? fun k => ?_
  cases hk : p k with
  | true => rw [get?_ofList_filter es hk, get?_ofList_filter fs hk, h]
  | false =>
      have hnone (gs : List (String × α)) : (ofList (gs.filter (p ·.1))).get? k = none := by
        rw [get?_ofList_eq_none_iff]
        intro e he heq
        have hp := (List.mem_filter.1 he).2
        rw [heq, hk] at hp
        cases hp
      rw [hnone, hnone]

theorem get?_union (m n : KeyMap α) (k : String) :
    (m.union n).get? k = (n.get? k).or (m.get? k) :=
  get?_insertMany_of_sorted m n.sorted k

theorem union_insert (m n : KeyMap α) (k : String) (v : α) :
    m.union (n.insert k v) = (m.union n).insert k v :=
  ext_get? fun j => by
    rw [get?_union, get?_insert, get?_insert, get?_union]
    split <;> rfl

theorem union_assoc (m n o : KeyMap α) : (m.union n).union o = m.union (n.union o) :=
  ext_get? fun k => by
    rw [get?_union, get?_union, get?_union, get?_union, Option.or_assoc]

/-- A map is rebuilt from its own entries. -/
@[simp] theorem ofList_entries (m : KeyMap α) : ofList m.entries = m :=
  ext_get? fun k => by
    rw [ofList, get?_insertMany_of_sorted _ m.sorted, get?_empty, Option.or_none, get?]

@[simp] theorem union_empty (m : KeyMap α) : m.union empty = m := rfl

@[simp] theorem empty_union (m : KeyMap α) : empty.union m = m := ofList_entries m

end KeyMap

end RecordGrid
