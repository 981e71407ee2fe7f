/-
**What each kind of filter takes, and what it asks for.**

Whether a filter accepts a value goes by its kind and the value side by side.  Which parameter a
value stands for goes by the value first, and by the kind only where a choice may be one option or
several.  Nothing in the two functions ties them together, yet whoever answers the requests has to
rely on it that a number comes from a numeric filter, within its bounds, and a list from one with
several options.  So it is for the values that are accepted: what they stand for is `null` or of the
form that belongs to the kind, and everything of that form comes from a value that is accepted.

Main definitions:

* `RecordGrid.FilterKind.Fits` — the values that fit a kind;
* `RecordGrid.FilterKind.Asks` — the parameters that belong to a kind, `null` apart.

Main results:

* `RecordGrid.FilterItem.check_eq_ok_iff` — **accepted is what fits**;
* `RecordGrid.FilterItem.exists_param_iff` — **accepted values stand for `null` and for the
  parameters that belong to the kind**, and for all of these.
-/

import RecordGrid.Proofs.Filter.Patch

set_option relaxedAutoImplicit false
set_option autoImplicit false

namespace RecordGrid

/-- An option may be chosen; without a list of options any may. -/
def Offered (options : List String) (option : String) : Prop := options = [] ∨ option ∈ options

namespace FilterKind

/-- The values that fit a kind. -/
inductive Fits : FilterKind → FilterValue → Prop where
  /-- The empty value fits every kind. -/
  | empty {k : FilterKind} : Fits k .empty
  | text (s : String) : Fits .input (.text s)
  | number {min max : Option Float} {n : Json.Number}
      (h : FilterItem.inBounds min max n.toFloat = true) : Fits (.numeric min max) (.number n)
  /-- No more options than asked for, and only offered ones. -/
  | choice {options : List String} {multiple : Bool} {chosen : List String}
      (hone : multiple = false → chosen.length ≤ 1)
      (hoffered : ∀ option ∈ chosen, Offered options option) :
      Fits (.select options multiple) (.choice chosen)
  | range (start stop : Option Json) : Fits .range (.range start stop)
  | custom (v : FilterValue) : Fits .custom v

/-- The parameters that belong to a kind, apart from `null`. -/
inductive Asks : FilterKind → Json → Prop where
  | input {s : String} (h : s ≠ "") : Asks .input (.string s)
  | numeric {min max : Option Float} {n : Json.Number}
      (h : FilterItem.inBounds min max n.toFloat = true) : Asks (.numeric min max) (.number n)
  | single {options : List String} {option : String} (h : Offered options option) :
      Asks (.select options false) (.string option)
  | multiple {options chosen : List String} (hne : chosen ≠ [])
      (h : ∀ option ∈ chosen, Offered options option) :
      Asks (.select options true) (.ofStrings chosen)
  | range (start stop : Json) : Asks .range (.array [start, stop])
  | custom (j : Json) : Asks .custom j

end FilterKind

namespace FilterItem

variable {item : FilterItem} {v : FilterValue}

/-! ### What is accepted -/

theorem checkChoice_eq_ok_iff {field : String} {options chosen : List String} {multiple : Bool} :
    checkChoice field options multiple chosen = .ok () ↔
      (multiple = false → chosen.length ≤ 1) ∧ ∀ option ∈ chosen, Offered options option := by
  unfold checkChoice
  by_cases hmany : !multiple ∧ 1 < chosen.length
  · rw [if_pos hmany]
    refine iff_of_false nofun fun h => ?_
    have hone := h.1 (by simpa using hmany.1)
    omega
  have hone : multiple = false → chosen.length ≤ 1 := by
    intro hm
    exact Nat.not_lt.1 fun hlt => hmany ⟨by rw [hm]; rfl, hlt⟩
  rw [if_neg hmany]
  by_cases hoptions : options = []
  · rw [if_pos (by simp [hoptions])]
    exact iff_of_true rfl ⟨hone, fun option _ => Or.inl hoptions⟩
  rw [if_neg (by simp [hoptions])]
  cases hfound : chosen.find? (· ∉ options) with
  | some option =>
      refine iff_of_false nofun fun h => ?_
      have hout : option ∉ options := by simpa using List.find?_some hfound
      exact (h.2 option (List.mem_of_find?_eq_some hfound)).elim hoptions hout
  | none =>
      refine iff_of_true rfl ⟨hone, fun option hoption => Or.inr ?_⟩
      simpa using List.find?_eq_none.1 hfound option hoption

/-- **Accepted is what fits.** -/
theorem check_eq_ok_iff : item.check v = .ok () ↔ item.kind.Fits v := by
  obtain ⟨field, label, kind, default, mapping⟩ := item
  constructor
  · intro h
    cases kind with
    | custom => exact .custom v
    | input =>
        cases v with
        | empty => exact .empty
        | text s => exact .text s
        | _ => cases h
    | range =>
        cases v with
        | empty => exact .empty
        | range start stop => exact .range start stop
        | _ => cases h
    | numeric min max =>
        cases v with
        | empty => exact .empty
        | number n =>
            by_cases hin : inBounds min max n.toFloat = true
            · exact .number hin
            · exact absurd ((if_neg hin).symm.trans h) nofun
        | _ => cases h
    | select options multiple =>
        cases v with
        | empty => exact .empty
        | choice chosen =>
            obtain ⟨hone, hoffered⟩ := checkChoice_eq_ok_iff.1 h
            exact .choice hone hoffered
        | _ => cases h
  · intro h
    cases h with
    | empty => cases kind <;> rfl
    | text s => rfl
    | number h => exact if_pos h
    | choice hone hoffered => exact checkChoice_eq_ok_iff.2 ⟨hone, hoffered⟩
    | range start stop => rfl
    | custom v => cases v <;> rfl

/-! ### What it stands for -/

/-- An accepted value stands for `null` or for a parameter that belongs to the kind. -/
theorem param_of_fits (h : item.kind.Fits v) :
    item.param v = .null ∨ item.kind.Asks (item.param v) := by
  by_cases hempty : v.isEmpty = true
  · exact Or.inl ((item.param_eq_null_iff v).2 hempty)
  refine Or.inr ?_
  obtain ⟨field, label, kind, default, mapping⟩ := item
  unfold param
  rw [if_neg hempty]
  cases h with
  | empty => exact absurd rfl hempty
  | text s => exact .input fun hs => hempty (by rw [hs]; rfl)
  | number h => exact .numeric h
  | range start stop => exact .range _ _
  | custom v => exact .custom _
  | @choice options multiple chosen hone hoffered =>
      cases multiple with
      | true => exact .multiple (fun hnil => hempty (by rw [hnil]; rfl)) hoffered
      | false =>
          cases chosen with
          | nil => exact absurd rfl hempty
          | cons option chosen => exact .single (hoffered option (List.mem_cons_self ..))

/-- Every parameter that belongs to the kind comes from a value that is accepted. -/
theorem exists_of_asks {j : Json} (h : item.kind.Asks j) :
    ∃ v, item.kind.Fits v ∧ item.param v = j := by
  obtain ⟨field, label, kind, default, mapping⟩ := item
  cases h with
  | @input s h =>
      refine ⟨.text s, .text s, if_neg ?_⟩
      simpa [FilterValue.isEmpty] using h
  | numeric h => exact ⟨_, .number h, rfl⟩
  | @single options option h =>
      refine ⟨.choice [option], .choice (fun _ => Nat.le_refl 1) ?_, rfl⟩
      intro option' hmem
      rwa [List.mem_singleton.1 hmem]
  | @multiple options chosen hne h =>
      refine ⟨.choice chosen, .choice nofun h, if_neg ?_⟩
      simpa [FilterValue.isEmpty] using hne
  | range start stop => exact ⟨.range (some start) (some stop), .range _ _, rfl⟩
  | custom j =>
      refine ⟨.custom j, .custom _, ?_⟩
      cases j <;> rfl

/-- **Accepted values stand for `null` and for the parameters that belong to the kind**, and for all
of these. -/
theorem exists_param_iff {j : Json} :
    (∃ v, item.check v = .ok () ∧ item.param v = j) ↔ j = .null ∨ item.kind.Asks j := by
  constructor
  · rintro ⟨v, hcheck, rfl⟩
    exact param_of_fits (check_eq_ok_iff.1 hcheck)
  · rintro (rfl | hasks)
    · exact ⟨.empty, check_eq_ok_iff.2 .empty, rfl⟩
    · obtain ⟨v, hfits, hv⟩ := exists_of_asks hasks
      exact ⟨v, check_eq_ok_iff.2 hfits, hv⟩

end FilterItem

end RecordGrid
