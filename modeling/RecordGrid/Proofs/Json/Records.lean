/-
**Reading back what was written, record by record.**

The writer and the reader of a record are separate functions, and nothing but their agreement on
every field makes one the inverse of the other.  What it takes is stated once, for any writer and
any reader: what is written is read back, and what was accepted is written in a form that is read as
the same value.  Beyond this it takes a few facts on members that may be missing, on lists, and on
members that nobody asks for.

Main definitions:

* `RecordGrid.Json.HasNumber`, `RecordGrid.Json.Draft.HasNumber` — a number occurs in a value, or in
  a draft;
* `RecordGrid.Json.Draft.Finite` — all numbers that occur are finite, as in every JSON value;
* `RecordGrid.Json.FaithfulOn`, `RecordGrid.Json.Faithful` — **a writer and a reader undo each
  other**, for some of what is read or for all of it;
* `RecordGrid.Json.Lossless` — they do so on every value.

Main results:

* `RecordGrid.Json.Draft.Finite.fieldsBy?`, `float?` — what is given to the fields of a record is
  finite, and so is a float that is read;
* `RecordGrid.Json.Draft.fieldsBy?_append` — members that nobody asks for make no difference;
* `RecordGrid.Json.FaithfulOn.of`, `RecordGrid.Json.Lossless.of` — what makes a writer and a reader
  faithful.
-/

import RecordGrid.Json.Fields
import RecordGrid.Proofs.Json.Floats

set_option relaxedAutoImplicit false
set_option autoImplicit false

namespace RecordGrid.Json

/-- What is in a list that was read comes from an item. -/
theorem exists_of_mem_mapM {α β : Type} {f : α → Option β} {as : List α} {bs : List β}
    (h : as.mapM f = some bs) {b : β} (hb : b ∈ bs) : ∃ a ∈ as, f a = some b := by
  induction as generalizing bs with
  | nil =>
      obtain rfl : [] = bs := Option.some.inj h
      cases hb
  | cons a as ih =>
      simp only [List.mapM_cons, Option.bind_eq_bind, Option.bind_eq_some_iff, Option.pure_def] at h
      obtain ⟨c, hc, cs, hcs, h⟩ := h
      obtain rfl := Option.some.inj h
      rcases List.mem_cons.1 hb with rfl | hb
      · exact ⟨a, List.mem_cons_self .., hc⟩
      · obtain ⟨a', ha', hf⟩ := ih hcs hb
        exact ⟨a', List.mem_cons_of_mem _ ha', hf⟩

/-! ### Numbers that occur -/

/-- A number occurs in a value. -/
inductive HasNumber : Json → Number → Prop where
  | here (n : Number) : HasNumber (.number n) n
  | item {js : List Json} {j : Json} {n : Number} (hj : j ∈ js) (h : HasNumber j n) :
      HasNumber (.array js) n
  | member {ms : List (String × Json)} {m : String × Json} {n : Number} (hm : m ∈ ms)
      (h : HasNumber m.2 n) : HasNumber (.object ms) n

@[simp] theorem not_hasNumber_null {n : Number} : ¬ Json.null.HasNumber n := nofun

@[simp] theorem not_hasNumber_string {s : String} {n : Number} : ¬ (Json.string s).HasNumber n :=
  nofun

@[simp] theorem hasNumber_number {k n : Number} : (Json.number k).HasNumber n ↔ n = k := by
  constructor
  · intro h
    cases h
    rfl
  · rintro rfl
    exact .here n

@[simp] theorem hasNumber_object {ms : List (String × Json)} {n : Number} :
    (Json.object ms).HasNumber n ↔ ∃ m ∈ ms, m.2.HasNumber n := by
  constructor
  · intro h
    cases h with
    | member hm h => exact ⟨_, hm, h⟩
  · rintro ⟨m, hm, h⟩
    exact .member hm h

namespace Draft

/-- A number occurs in a draft. -/
inductive HasNumber : Draft → Number → Prop where
  | value {j : Json} {n : Number} (h : j.HasNumber n) : HasNumber (.value j) n
  | item {ds : List Draft} {d : Draft} {n : Number} (hd : d ∈ ds) (h : HasNumber d n) :
      HasNumber (.array ds) n
  | member {ms : List (Option String × Draft)} {m : Option String × Draft} {n : Number}
      (hm : m ∈ ms) (h : HasNumber m.2 n) : HasNumber (.object ms) n

@[simp] theorem hasNumber_value {j : Json} {n : Number} :
    (Draft.value j).HasNumber n ↔ j.HasNumber n := by
  constructor
  · intro h
    cases h with
    | value h => exact h
  · exact .value

/-- All numbers in a draft are finite. -/
def Finite (d : Draft) : Prop := ∀ n, d.HasNumber n → n.Finite

namespace Finite

variable {d : Draft}

theorem of_members? (h : d.Finite) {ms : List (Option String × Draft)}
    (hms : d.members? = some ms) : ∀ m ∈ ms, m.2.Finite := by
  intro m hm n hn
  cases d with
  | value j =>
      cases j with
      | object js =>
          obtain rfl := Option.some.inj hms
          obtain ⟨m', hm', rfl⟩ := List.mem_map.1 hm
          exact h n (.value (.member hm' (hasNumber_value.1 hn)))
      | _ => cases hms
  | object ms' =>
      obtain rfl := Option.some.inj hms
      exact h n (.member hm hn)
  | _ => cases hms

theorem of_items? (h : d.Finite) {ds : List Draft} (hds : d.items? = some ds) :
    ∀ e ∈ ds, e.Finite := by
  intro e he n hn
  cases d with
  | value j =>
      cases j with
      | array js =>
          obtain rfl := Option.some.inj hds
          obtain ⟨j, hj, rfl⟩ := List.mem_map.1 he
          exact h n (.value (.item hj (hasNumber_value.1 hn)))
      | _ => cases hds
  | array ds' =>
      obtain rfl := Option.some.inj hds
      exact h n (.item he hn)
  | _ => cases hds

theorem object {ms : List (Option String × Draft)} (h : ∀ m ∈ ms, m.2.Finite) :
    (Draft.object ms).Finite := by
  intro n hn
  cases hn with
  | member hm hn => exact h _ hm n hn

theorem array {ds : List Draft} (h : ∀ e ∈ ds, e.Finite) : (Draft.array ds).Finite := by
  intro n hn
  cases hn with
  | item hd hn => exact h _ hd n hn

/-- What is given to the fields of a record is finite. -/
theorem fieldsBy? (h : d.Finite) {field : String → Option String} {names : List String}
    {fs : List (Option Draft)} (hfs : d.fieldsBy? field names = some fs) :
    ∀ e, some e ∈ fs → e.Finite := by
  intro e he
  unfold Draft.fieldsBy? at hfs
  split at hfs
  · next ms hms =>
      split at hfs
      · cases hfs
      · obtain ⟨name, -, hname⟩ := exists_of_mem_mapM hfs he
        have hgiven : e ∈ given field name ms := by
          split at hname
          · cases hname
          · next v hv =>
              obtain rfl : v = e := Option.some.inj (Option.some.inj hname)
              rw [hv]
              exact List.mem_singleton_self v
          · cases hname
        obtain ⟨m, hm, rfl⟩ := List.mem_map.1 hgiven
        exact h.of_members? hms m (List.mem_filter.1 hm).1
  · next ds hds =>
      split at hfs
      · obtain rfl := Option.some.inj hfs
        obtain ⟨i, -, hi⟩ := List.mem_map.1 he
        exact h.of_items? hds e (List.mem_of_getElem? hi)
      · cases hfs
  · cases hfs

/-- A float that is read is finite. -/
theorem float? (h : d.Finite) {x : Float} (hx : d.float? = some x) :
    Number.isFinite x = true := by
  obtain ⟨n, hn, rfl⟩ := Option.map_eq_some_iff.1 hx
  refine Number.isFinite_toFloat (h n ?_)
  cases d with
  | value j =>
      cases j with
      | number n' =>
          obtain rfl := Option.some.inj hn
          exact .value (.here _)
      | _ => cases hn
  | _ => cases hn

end Finite

/-! ### Members -/

/-- The drafts of the members of an object. -/
def ofMembers (ms : List (String × Json)) : List (Option String × Draft) :=
  ms.map fun m => (some m.1, .value m.2)

theorem ofMembers_append (ms js : List (String × Json)) :
    ofMembers (ms ++ js) = ofMembers ms ++ ofMembers js := List.map_append

theorem given_append (field : String → Option String) (name : String)
    (ks us : List (Option String × Draft)) :
    given field name (ks ++ us) = given field name ks ++ given field name us := by
  simp [given]

/-- Members that nobody asks for make no difference. -/
theorem fieldsBy?_append {field : String → Option String} {ks us : List (Option String × Draft)}
    (hus : ∀ m ∈ us, ∃ k, m.1 = some k ∧ field k = none) (names : List String) :
    (Draft.object (ks ++ us)).fieldsBy? field names =
      (Draft.object ks).fieldsBy? field names := by
  have hgiven (name : String) : given field name us = [] := by
    rw [given, List.map_eq_nil_iff, List.filter_eq_nil_iff]
    intro m hm
    obtain ⟨k, hk, hfield⟩ := hus m hm
    simp [hk, hfield]
  have hsome : us.any (fun m => m.1.isNone) = false := by
    rw [List.any_eq_false]
    intro m hm
    obtain ⟨k, hk, -⟩ := hus m hm
    simp [hk]
  simp only [Draft.fieldsBy?, members?, List.any_append, hsome, Bool.or_false, given_append, hgiven,
    List.append_nil]

theorem jsonMembers?_ofMembers (ms : List (String × Json)) :
    jsonMembers? (ofMembers ms) = some ms := by
  induction ms with
  | nil => rfl
  | cons m ms ih =>
      show (jsonMembers? (ofMembers ms)).bind (fun js => some (m :: js)) = _
      rw [ih]
      rfl

/-! ### Lists and missing members -/

section Parts

variable {α : Type} {f : Draft → Option α} {g : α → Json}

/-- A list is read back if its items are. -/
theorem list?_array (h : ∀ a, f (.value (g a)) = some a) (as : List α) :
    (Draft.value (.array (as.map g))).list? f = some as := by
  show ((as.map g).map Draft.value).mapM f = some as
  induction as with
  | nil => rfl
  | cons a as ih =>
      rw [List.map_cons, List.map_cons, List.mapM_cons, h, ih]
      rfl

/-- A member that is left out is read as missing, and any other one as what it is. -/
theorem defaulted_nullable? (h : ∀ a, f (.value (g a)) = some a) (hnull : ∀ a, g a ≠ .null)
    (o : Option α) :
    defaulted none (·.nullable? f) (o.map fun a => .value (g a)) = some o := by
  cases o with
  | none => rfl
  | some a =>
      have hvalue : (Draft.value (g a)).isNull = false := by
        cases hg : g a with
        | null => exact absurd hg (hnull a)
        | _ => rfl
      simp [defaulted, nullable?, hvalue, h]

end Parts

/-- Only `null` is read as `null`. -/
theorem isNull_of_json? {d : Draft} (h : d.json? = some .null) : d.isNull = true := by
  cases d with
  | value j =>
      obtain rfl := Option.some.inj h
      rfl
  | broken => cases h
  | array ds =>
      obtain ⟨js, -, hjs⟩ := Option.map_eq_some_iff.1 h
      cases hjs
  | object ms =>
      obtain ⟨js, -, hjs⟩ := Option.map_eq_some_iff.1 h
      cases hjs

end Draft

/-! ### Writers and readers -/

section Faithful

variable {α : Type} {toJson : α → Json} {decode? : Draft → Option α}

/-- **A writer and a reader undo each other**, as far as drafts are `sound`.  `proper` holds of the
values that are written in full, and `settled` is what a value is read back as. -/
structure FaithfulOn (sound : Draft → Prop) (toJson : α → Json) (decode? : Draft → Option α)
    (proper : α → Prop) (settled : α → α) : Prop where
  /-- What is written is read back. -/
  back : ∀ a, proper a → decode? (.value (toJson a)) = some (settled a)
  /-- What is accepted is written in full. -/
  accepted : ∀ d a, sound d → decode? d = some a → proper a
  /-- What was accepted is read back as the same value. -/
  again : ∀ d a, sound d → decode? d = some a → decode? (.value (toJson a)) = some a

/-- It is enough that what is accepted is written in full and settled. -/
theorem FaithfulOn.of {sound : Draft → Prop} {proper : α → Prop} {settled : α → α}
    (back : ∀ a, proper a → decode? (.value (toJson a)) = some (settled a))
    (accepted : ∀ d a, sound d → decode? d = some a → proper a ∧ settled a = a) :
    FaithfulOn sound toJson decode? proper settled where
  back := back
  accepted d a hd ha := (accepted d a hd ha).1
  again d a hd ha := by
    obtain ⟨hproper, hsettled⟩ := accepted d a hd ha
    rw [back a hproper, hsettled]

/-- A writer and a reader that undo each other, whatever is read. -/
abbrev Faithful (toJson : α → Json) (decode? : Draft → Option α) (proper : α → Prop)
    (settled : α → α) : Prop :=
  FaithfulOn (fun _ => True) toJson decode? proper settled

/-- A writer and a reader that undo each other on every value. -/
abbrev Lossless (toJson : α → Json) (decode? : Draft → Option α) : Prop :=
  Faithful toJson decode? (fun _ => True) id

/-- Where every value is read back as itself there is nothing else to show. -/
theorem Lossless.of (back : ∀ a, decode? (.value (toJson a)) = some a) :
    Lossless toJson decode? :=
  FaithfulOn.of (fun a _ => back a) fun _ _ _ _ => ⟨trivial, rfl⟩

end Faithful

end RecordGrid.Json
