/-
**Setting and removing keys of a query.**

A key may occur in a query any number of times.  Setting it cuts the query at its first occurrence:
what stands before that stays, and of what stands behind it only the pairs with other keys do; a key
that does not occur goes to the end.  Setting therefore forgets the values that the key had, but not
its place, and two keys can be set in either order as soon as one of them has a place already.

Main results:

* `RecordGrid.Pairs.set_eq` — **setting a key in one equation**;
* `RecordGrid.Pairs.remove_set_self`, `remove_set_of_ne`, `value?_set_of_ne` — what setting leaves
  of the other pairs;
* `RecordGrid.Pairs.set_set`, `set_comm_iff` — setting one key twice, and setting two keys;
* `RecordGrid.Address.set_at_first_place` — **setting and removing keys of an address**.
-/

import RecordGrid.Url.Address

set_option relaxedAutoImplicit false
set_option autoImplicit false

namespace RecordGrid

namespace Pairs

variable {j k : String} {ps : List (String × String)}

/-! ### Removing -/

@[simp] theorem remove_cons_self (k w : String) (ps : List (String × String)) :
    remove k ((k, w) :: ps) = remove k ps := by
  simp [remove]

theorem remove_cons_of_ne (h : j ≠ k) (w : String) (ps : List (String × String)) :
    remove k ((j, w) :: ps) = (j, w) :: remove k ps := by
  simp [remove, h]

@[simp] theorem remove_remove (k : String) (ps : List (String × String)) :
    remove k (remove k ps) = remove k ps := by
  simp [remove]

/-- What is read of a key does not depend on the pairs with another one. -/
theorem value?_remove_of_ne (h : j ≠ k) (ps : List (String × String)) :
    value? j (remove k ps) = value? j ps := by
  induction ps with
  | nil => rfl
  | cons p ps ih =>
      obtain ⟨i, u⟩ := p
      by_cases hi : i = k
      · subst hi
        rw [remove_cons_self, ih, value?, if_neg h.symm]
      · rw [remove_cons_of_ne hi, value?, value?, ih]

/-! ### Setting -/

@[simp] theorem set_cons_self (k v w : String) (ps : List (String × String)) :
    set k v ((k, w) :: ps) = (k, v) :: remove k ps := if_pos rfl

theorem set_cons_of_ne (h : j ≠ k) (v w : String) (ps : List (String × String)) :
    set k v ((j, w) :: ps) = (j, w) :: set k v ps := if_neg h

/-- **Setting a key in one equation**: what stands before its first occurrence stays, and behind it
the pairs with other keys do. -/
theorem set_eq (k v : String) (ps : List (String × String)) :
    set k v ps =
      ps.takeWhile (·.1 ≠ k) ++ (k, v) :: remove k (ps.dropWhile (·.1 ≠ k)) := by
  induction ps with
  | nil => rfl
  | cons p ps ih =>
      obtain ⟨i, u⟩ := p
      by_cases hi : i = k
      · subst hi
        simp
      · simp [set_cons_of_ne hi, ih, hi]

/-- A key that does not occur goes to the end. -/
theorem set_of_value?_eq_none (h : value? k ps = none) (v : String) :
    set k v ps = ps ++ [(k, v)] := by
  induction ps with
  | nil => rfl
  | cons p ps ih =>
      obtain ⟨i, u⟩ := p
      by_cases hi : i = k
      · rw [value?, if_pos hi] at h
        cases h
      · rw [value?, if_neg hi] at h
        rw [set_cons_of_ne hi, ih h, List.cons_append]

/-- A key that was set occurs once, with its new value. -/
theorem filter_key_set (k v : String) (ps : List (String × String)) :
    (set k v ps).filter (·.1 = k) = [(k, v)] := by
  induction ps with
  | nil => simp [set]
  | cons p ps ih =>
      obtain ⟨i, u⟩ := p
      by_cases hi : i = k
      · subst hi
        simp [remove]
      · rw [set_cons_of_ne hi, List.filter_cons_of_neg (by simpa using hi), ih]

/-- It stands where it first stood, or at the end. -/
theorem getElem?_findIdx_set (k v : String) (ps : List (String × String)) :
    (set k v ps)[ps.findIdx (·.1 = k)]? = some (k, v) := by
  induction ps with
  | nil => rfl
  | cons p ps ih =>
      obtain ⟨i, u⟩ := p
      by_cases hi : i = k
      · subst hi
        simp [List.findIdx_cons]
      · simpa [set_cons_of_ne hi, List.findIdx_cons, hi] using ih

/-- Setting a key leaves the pairs with other keys as they are, in their order. -/
@[simp] theorem remove_set_self (k v : String) (ps : List (String × String)) :
    remove k (set k v ps) = remove k ps := by
  induction ps with
  | nil => simp [set, remove]
  | cons p ps ih =>
      obtain ⟨i, u⟩ := p
      by_cases hi : i = k
      · subst hi
        simp
      · rw [set_cons_of_ne hi, remove_cons_of_ne hi, remove_cons_of_ne hi, ih]

/-- A key can be removed before or after another one is set. -/
theorem remove_set_of_ne (h : j ≠ k) (v : String) (ps : List (String × String)) :
    remove j (set k v ps) = set k v (remove j ps) := by
  induction ps with
  | nil => simp [set, remove, h.symm]
  | cons p ps ih =>
      obtain ⟨i, u⟩ := p
      by_cases hk : i = k
      · subst hk
        have hboth : remove j (remove i ps) = remove i (remove j ps) := by
          simp [remove, List.filter_filter, Bool.and_comm]
        rw [set_cons_self, remove_cons_of_ne h.symm, remove_cons_of_ne h.symm, set_cons_self, hboth]
      · by_cases hj : i = j
        · subst hj
          rw [set_cons_of_ne hk, remove_cons_self, remove_cons_self, ih]
        · rw [set_cons_of_ne hk, remove_cons_of_ne hj, remove_cons_of_ne hj, set_cons_of_ne hk, ih]

theorem value?_set_of_ne (h : j ≠ k) (v : String) (ps : List (String × String)) :
    value? j (set k v ps) = value? j ps := by
  rw [← value?_remove_of_ne h, remove_set_self, value?_remove_of_ne h]

/-- The value that was set last counts, in the place of the one before. -/
theorem set_set (k v w : String) (ps : List (String × String)) :
    set k w (set k v ps) = set k w ps := by
  induction ps with
  | nil => simp [set, remove]
  | cons p ps ih =>
      obtain ⟨i, u⟩ := p
      by_cases hi : i = k
      · subst hi
        simp
      · rw [set_cons_of_ne hi, set_cons_of_ne hi, set_cons_of_ne hi, ih]

/-- Two keys can be set in either order if the second has a place already. -/
theorem set_comm_of_isSome (h : j ≠ k) (hj : (value? j ps).isSome) (v w : String) :
    set j w (set k v ps) = set k v (set j w ps) := by
  induction ps with
  | nil => cases hj
  | cons p ps ih =>
      obtain ⟨i, u⟩ := p
      by_cases hij : i = j
      · subst hij
        rw [set_cons_of_ne h, set_cons_self, set_cons_self, set_cons_of_ne h,
          remove_set_of_ne h]
      · by_cases hik : i = k
        · subst hik
          rw [set_cons_self, set_cons_of_ne h.symm, set_cons_of_ne h.symm, set_cons_self,
            remove_set_of_ne h.symm]
        · rw [value?, if_neg hij] at hj
          rw [set_cons_of_ne hik, set_cons_of_ne hij, set_cons_of_ne hij, set_cons_of_ne hik, ih hj]

/-- Two keys that have no place yet are placed in the order in which they are set. -/
theorem set_set_of_value?_eq_none (h : j ≠ k) (hj : value? j ps = none) (hk : value? k ps = none)
    (v w : String) : set j w (set k v ps) = ps ++ [(k, v), (j, w)] := by
  have hj' : value? j (set k v ps) = none := by rw [value?_set_of_ne h, hj]
  rw [set_of_value?_eq_none hj', set_of_value?_eq_none hk, List.append_assoc, List.singleton_append]

/-- **Two keys can be set in either order** exactly if one of them has a place already. -/
theorem set_comm_iff (h : j ≠ k) (v w : String) :
    set j w (set k v ps) = set k v (set j w ps) ↔
      (value? j ps).isSome ∨ (value? k ps).isSome := by
  constructor
  · intro heq
    cases hj : value? j ps with
    | some u => exact Or.inl rfl
    | none =>
        cases hk : value? k ps with
        | some u => exact Or.inr rfl
        | none =>
            rw [set_set_of_value?_eq_none h hj hk, set_set_of_value?_eq_none h.symm hk hj] at heq
            obtain ⟨hpair, -⟩ := List.cons.inj (List.append_cancel_left heq)
            exact absurd (congrArg Prod.fst hpair).symm h
  · rintro (hj | hk)
    · exact set_comm_of_isSome h hj v w
    · exact (set_comm_of_isSome h.symm hk w v).symm

end Pairs

namespace Address

/-- **Setting and removing keys of an address.**  Whatever the pairs of the query, and however often
a key occurs among them:

* setting a key changes nothing but the query; there it cuts at the first occurrence of the key, and
  puts the new pair between what stands before it and what stands behind it without the key;
* so the key occurs once, with its new value, where it first stood or at the end, and the pairs with
  other keys are those that were there, in their order;
* the value is read back, and all other keys keep theirs;
* of two values that are set for one key the second counts, and a key that is removed might as well
  not have been set;
* two keys come to the same in either order if and only if one of them occurs already. -/
theorem set_at_first_place (a : Address) (k v : String) :
    a.set k v = { a with query := (a.set k v).query } ∧
    (a.set k v).query =
      a.query.takeWhile (·.1 ≠ k) ++ (k, v) :: (a.query.dropWhile (·.1 ≠ k)).filter (·.1 ≠ k) ∧
    (a.set k v).query.filter (·.1 = k) = [(k, v)] ∧
    (a.set k v).query[a.query.findIdx (·.1 = k)]? = some (k, v) ∧
    (a.set k v).query.filter (·.1 ≠ k) = a.query.filter (·.1 ≠ k) ∧
    (a.set k v).value? k = some v ∧
    (∀ j, j ≠ k → (a.set k v).value? j = a.value? j) ∧
    (∀ w, (a.set k v).set k w = a.set k w) ∧
    (a.set k v).remove k = a.remove k ∧
    ∀ j w, j ≠ k →
      ((a.set k v).set j w = (a.set j w).set k v ↔ (a.value? j).isSome ∨ (a.value? k).isSome) := by
  refine ⟨rfl, Pairs.set_eq k v a.query, Pairs.filter_key_set k v a.query,
    Pairs.getElem?_findIdx_set k v a.query, Pairs.remove_set_self k v a.query,
    a.value?_set_self k v, fun j hj => Pairs.value?_set_of_ne hj v a.query, fun w => ?_, ?_,
    fun j w hj => ?_⟩
  · rw [set, set, set, Pairs.set_set]
  · rw [remove, remove, set, Pairs.remove_set_self]
  · rw [value?, value?, ← Pairs.set_comm_iff hj v w, set, set, set, set, mk.injEq]
    simp

/-- An address with two keys that both occur twice. -/
def tagged : Address :=
  { path := "/list", query := [("tag", "a"), ("page", "2"), ("tag", "b"), ("page", "3")] }

/-- The first tag is replaced and the second one dropped; the page and a new key do not mind. -/
theorem set_at_first_place_tagged :
    "page" ≠ "tag" ∧ "sort" ≠ "tag" ∧ (tagged.value? "tag").isSome ∧
      (tagged.set "tag" "c").query = [("tag", "c"), ("page", "2"), ("page", "3")] ∧
      (tagged.set "tag" "c").value? "page" = tagged.value? "page" ∧
      (tagged.set "tag" "c").set "sort" "name" = (tagged.set "sort" "name").set "tag" "c" := by
  have hpage : "page" ≠ "tag" := by decide
  have hsort : "sort" ≠ "tag" := by decide
  have htag : (tagged.value? "tag").isSome := by decide
  obtain ⟨-, hquery, -, -, -, -, hother, -, -, hcomm⟩ := tagged.set_at_first_place "tag" "c"
  exact ⟨hpage, hsort, htag, hquery.trans (by decide), hother "page" hpage,
    (hcomm "sort" "name" hsort).2 (Or.inr htag)⟩

end Address

end RecordGrid
