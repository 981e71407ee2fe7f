/-
**Which descriptions of key presses are read.**

A description is a list of modifiers, each followed by a plus sign, and the name of a key: one of
twelve words, or a single character.  Every text of this form is read, with the modifiers that it
lists held and no others, and no other text is.  One key is left out: the plus sign is a character
like any other, but where it stands as the name it is taken for a separator, so a description of it
ends in a key without a name, and there is none.

Main definitions:

* `RecordGrid.Key.HasName` — what a key is called;
* `RecordGrid.KeyPress.description` — the description of a key with modifiers held;
* `RecordGrid.Modifiers.holds` — whether a modifier is held.

Main results:

* `RecordGrid.KeyPress.parse?_description` — **what a description is read as**;
* `RecordGrid.KeyPress.exists_description_of_parse?` — **what is read is a description**;
* `RecordGrid.KeyPress.descriptions_read` — both together;
* `RecordGrid.KeyPress.plus_not_read` — the plus sign cannot be described.
-/

import RecordGrid.Keys.Press
import RecordGrid.Proofs.Text.FormEncoding

set_option relaxedAutoImplicit false
set_option autoImplicit false

namespace RecordGrid

open Text.FormEncoding

/-! ### Modifiers -/

namespace Modifier

theorem ofName?_eq_some_iff {name : String} {m : Modifier} :
    ofName? name = some m ↔ name = m.name := by
  constructor
  · intro h
    have hname := List.find?_some h
    exact (of_decide_eq_true hname).symm
  · rintro rfl
    cases m <;> rfl

/-- The name of a modifier has no plus sign. -/
theorem plus_notMem_name (m : Modifier) : '+' ∉ m.name.toList := by
  cases m <;> decide

end Modifier

namespace Modifiers

/-- Whether a modifier is held. -/
def holds (ms : Modifiers) : Modifier → Bool
  | .alt => ms.alt
  | .ctrl => ms.ctrl
  | .shift => ms.shift

theorem holds_add (ms : Modifiers) (m n : Modifier) :
    (ms.add m).holds n = true ↔ n = m ∨ ms.holds n = true := by
  cases m <;> cases n <;> simp [add, holds]

theorem holds_foldl_add (ms : Modifiers) (held : List Modifier) (n : Modifier) :
    (held.foldl add ms).holds n = true ↔ n ∈ held ∨ ms.holds n = true := by
  induction held generalizing ms with
  | nil => simp
  | cons m held ih =>
      rw [List.foldl_cons, ih, holds_add, List.mem_cons, ← or_assoc, or_comm (a := n ∈ held)]

/-- **Of a list of modifiers exactly its members are held**, in whatever order and however often
they are listed. -/
theorem holds_ofList (held : List Modifier) (n : Modifier) :
    (ofList held).holds n = true ↔ n ∈ held := by
  rw [ofList, holds_foldl_add]
  cases n <;> simp [holds]

end Modifiers

/-! ### Names of keys -/

namespace Key

/-- What a key is called: twelve words are names, and every single character is one. -/
inductive HasName : Key → String → Prop where
  | left : HasName .left "left"
  | right : HasName .right "right"
  | up : HasName .up "up"
  | down : HasName .down "down"
  | pageUp : HasName .pageUp "pgup"
  | pageDown : HasName .pageDown "pgdown"
  | home : HasName .home "home"
  | «end» : HasName .«end» "end"
  | enter : HasName .enter "enter"
  | escape : HasName .escape "esc"
  | tab : HasName .tab "tab"
  | space : HasName (.char ' ') "space"
  | char (c : Char) : HasName (.char c) (.singleton c)

/-- No word of the table is a single character. -/
theorem find?_named_singleton (c : Char) : named.find? (·.1.toList = [c]) = none := by
  have hlength : ∀ e ∈ named, e.1.toList.length ≠ 1 := by decide
  rw [List.find?_eq_none]
  intro e he hc
  refine hlength e he ?_
  rw [of_decide_eq_true hc]
  rfl

theorem ofName?_of_hasName {key : Key} {name : String} (h : key.HasName name) :
    ofName? name.toList = some key := by
  cases h with
  | char c =>
      rw [String.toList_singleton, ofName?, find?_named_singleton]
  | _ => rfl

theorem hasName_of_mem_named {name : String} {key : Key} (h : (name, key) ∈ named) :
    key.HasName name := by
  simp only [named, List.mem_cons, Prod.mk.injEq, List.not_mem_nil, or_false] at h
  rcases h with ⟨rfl, rfl⟩ | ⟨rfl, rfl⟩ | ⟨rfl, rfl⟩ | ⟨rfl, rfl⟩ | ⟨rfl, rfl⟩ | ⟨rfl, rfl⟩ |
    ⟨rfl, rfl⟩ | ⟨rfl, rfl⟩ | ⟨rfl, rfl⟩ | ⟨rfl, rfl⟩ | ⟨rfl, rfl⟩ | ⟨rfl, rfl⟩ <;> constructor

/-- **A key is found under its names and under nothing else.** -/
theorem ofName?_eq_some_iff {key : Key} {name : String} :
    ofName? name.toList = some key ↔ key.HasName name := by
  constructor
  · intro h
    unfold ofName? at h
    split at h
    · next word key' hfind =>
        obtain rfl := Option.some.inj h
        have hword : word = name := by
          have hfound := List.find?_some hfind
          exact String.toList_inj.1 (of_decide_eq_true hfound)
        rw [← hword]
        exact hasName_of_mem_named (List.mem_of_find?_eq_some hfind)
    · split at h
      · next c hname =>
          obtain rfl := Option.some.inj h
          have hsingle : name = .singleton c := by
            rw [← String.toList_inj, hname, String.toList_singleton]
          rw [hsingle]
          exact .char c
      · cases h
  · exact ofName?_of_hasName

/-- Only the plus sign has a plus sign in its name. -/
theorem HasName.plus_notMem {key : Key} {name : String} (h : key.HasName name) (hne : name ≠ "+") :
    '+' ∉ name.toList := by
  cases h with
  | char c =>
      intro hc
      rw [String.toList_singleton, List.mem_singleton] at hc
      exact hne (hc ▸ rfl)
  | _ => decide

end Key

/-! ### Descriptions -/

namespace KeyPress

/-- The description of a key with modifiers held: each of them with a plus sign after it, and then
the name of the key. -/
def description (held : List Modifier) (name : String) : String :=
  held.foldr (fun m rest => m.name ++ "+" ++ rest) name

@[simp] theorem description_nil (name : String) : description [] name = name := rfl

theorem toList_description_cons (m : Modifier) (held : List Modifier) (name : String) :
    (description (m :: held) name).toList =
      m.name.toList ++ '+' :: (description held name).toList := by
  simp [description]

/-- A description falls into the names of its modifiers and the parts of its last name. -/
theorem splitOn_description (held : List Modifier) (name : String) :
    splitOn '+' (description held name).toList =
      held.map (·.name.toList) ++ splitOn '+' name.toList := by
  induction held with
  | nil => rfl
  | cons m held ih =>
      rw [toList_description_cons, splitOn_append m.plus_notMem_name, ih]
      rfl

/-- What falls into such parts is a description. -/
theorem eq_description_of_splitOn {text : String} {held : List Modifier} {name : List Char}
    (h : splitOn '+' text.toList = held.map (·.name.toList) ++ [name]) :
    text = description held (String.ofList name) := by
  have hlast : name ∈ splitOn '+' text.toList := by
    rw [h]
    exact List.mem_append_right _ (List.mem_singleton_self name)
  have hname : '+' ∉ name := sep_notMem_of_mem_splitOn hlast
  have hsplit := splitOn_description held (String.ofList name)
  rw [String.toList_ofList, splitOn_of_not_mem hname, ← h] at hsplit
  rw [← String.toList_inj, ← intercalate_splitOn '+' text.toList, ← hsplit, intercalate_splitOn]

/-- A part before the last one is the name of a modifier. -/
theorem ofParts?_cons (ms : Modifiers) (p : List Char) {ps : List (List Char)} (h : ps ≠ []) :
    ofParts? ms (p :: ps) =
      (Modifier.ofName? (String.ofList p)).bind fun m => ofParts? (ms.add m) ps := by
  obtain ⟨q, ps, rfl⟩ := List.exists_cons_of_ne_nil h
  rfl

/-- The names of modifiers are read one after the other. -/
theorem ofParts?_append (ms : Modifiers) (held : List Modifier) {ps : List (List Char)}
    (h : ps ≠ []) :
    ofParts? ms (held.map (·.name.toList) ++ ps) = ofParts? (held.foldl Modifiers.add ms) ps := by
  induction held generalizing ms with
  | nil => rfl
  | cons m held ih =>
      have hname : Modifier.ofName? (String.ofList m.name.toList) = some m := by
        rw [String.ofList_toList, Modifier.ofName?_eq_some_iff]
      rw [List.map_cons, List.cons_append, ofParts?_cons ms _ (by simp [h]), hname,
        Option.bind_some, ih, List.foldl_cons]

/-- **Parts that are read are names of modifiers and the name of a key.** -/
theorem exists_of_ofParts? {ms : Modifiers} {parts : List (List Char)} {k : KeyPress}
    (h : ofParts? ms parts = some k) :
    ∃ (held : List Modifier) (name : List Char),
      parts = held.map (·.name.toList) ++ [name] ∧ Key.ofName? name = some k.key := by
  induction parts generalizing ms with
  | nil => cases h
  | cons p parts ih =>
      cases parts with
      | nil =>
          obtain ⟨key, hkey, rfl⟩ := Option.map_eq_some_iff.1 h
          exact ⟨[], p, rfl, hkey⟩
      | cons q parts =>
          rw [ofParts?_cons ms p (List.cons_ne_nil q parts)] at h
          obtain ⟨m, hm, hrest⟩ := Option.bind_eq_some_iff.1 h
          obtain ⟨held, name, hparts, hname⟩ := ih hrest
          have hp : m.name.toList = p := by
            rw [← Modifier.ofName?_eq_some_iff.1 hm, String.toList_ofList]
          refine ⟨m :: held, name, ?_, hname⟩
          rw [hparts, ← hp]
          rfl

/-! ### Reading descriptions -/

/-- The modifiers of a description are held, and the rest is up to its last name. -/
theorem parse?_description_eq (held : List Modifier) (name : String) :
    parse? (description held name) =
      ofParts? (.ofList held) (splitOn '+' name.toList) := by
  rw [parse?, splitOn_description, ofParts?_append _ _ (splitOn_ne_nil '+' _)]
  rfl

/-- **A description is read as what it describes**, unless that is the plus sign. -/
theorem parse?_description {key : Key} {name : String} (h : key.HasName name)
    (held : List Modifier) :
    parse? (description held name) = if name = "+" then none else some ⟨key, .ofList held⟩ := by
  rw [parse?_description_eq]
  split
  · next hplus =>
      -- the plus sign separates two empty parts, and no modifier has an empty name
      subst hplus
      rfl
  · next hplus =>
      rw [splitOn_of_not_mem (h.plus_notMem hplus), ofParts?, Key.ofName?_of_hasName h,
        Option.map_some]

/-- **What is read is a description.** -/
theorem exists_description_of_parse? {text : String} {k : KeyPress} (h : parse? text = some k) :
    ∃ held name, k.key.HasName name ∧ text = description held name := by
  obtain ⟨held, name, hparts, hname⟩ := exists_of_ofParts? h
  refine ⟨held, String.ofList name, ?_, eq_description_of_splitOn hparts⟩
  rw [← Key.ofName?_eq_some_iff, String.toList_ofList]
  exact hname

/-- **Descriptions are read as what they describe**, unless that is the plus sign.

* A text that lists modifiers, in whatever order and however often, and after them the name of a
  key, one of the twelve words or a single character, is read as that key with exactly those
  modifiers held, but for one name, the plus sign.
* No other text is read. -/
theorem descriptions_read (text : String) :
    (∀ (held : List Modifier) (key : Key) (name : String), key.HasName name →
      text = description held name →
      ((∃ k, parse? text = some k ∧ k.key = key ∧ ∀ m, k.modifiers.holds m = true ↔ m ∈ held) ↔
        name ≠ "+")) ∧
    ((∀ (held : List Modifier) (key : Key) (name : String), key.HasName name →
      text ≠ description held name) →
      parse? text = none) := by
  constructor
  · rintro held key name hname rfl
    rw [parse?_description hname]
    by_cases hplus : name = "+"
    · rw [if_pos hplus]
      constructor
      · rintro ⟨k, hk, -⟩
        exact absurd hk nofun
      · intro hne
        exact absurd hplus hne
    · rw [if_neg hplus]
      exact ⟨fun _ => hplus, fun _ => ⟨_, rfl, rfl, Modifiers.holds_ofList held⟩⟩
  · intro hother
    cases h : parse? text with
    | none => rfl
    | some k =>
        obtain ⟨held, name, hname, htext⟩ := exists_description_of_parse? h
        exact absurd htext (hother held k.key name hname)

/-- A word with a modifier listed twice is read, and the empty text describes nothing. -/
theorem descriptions_read_controlEnd :
    (∃ k, parse? "ctrl+shift+ctrl+end" = some k ∧ k.key = .«end» ∧
        k.modifiers.holds .ctrl = true ∧ k.modifiers.holds .alt = false) ∧
      parse? "" = none := by
  have hempty : ∀ (held : List Modifier) (key : Key) (name : String), key.HasName name →
      "" ≠ description held name := by
    intro held key name hname heq
    have hlength := congrArg (·.toList.length) heq
    cases held with
    | nil => cases hname <;> simp at hlength
    | cons m held => simp [toList_description_cons] at hlength
  obtain ⟨k, hk, hkey, hheld⟩ :=
    ((descriptions_read "ctrl+shift+ctrl+end").1 [.ctrl, .shift, .ctrl] .«end» "end" .«end»
      (by decide)).2 (by decide)
  refine ⟨⟨k, hk, hkey, ?_, ?_⟩, (descriptions_read "").2 hempty⟩
  · rw [hheld]
    simp
  · rw [Bool.eq_false_iff, ne_eq, hheld]
    simp

/-- **The plus sign is a key with a name of its own, and yet its description is not read.** -/
theorem plus_not_read :
    Key.HasName (.char '+') "+" ∧ description [] "+" = "+" ∧ parse? "+" = none :=
  ⟨.char '+', rfl, rfl⟩

end KeyPress

end RecordGrid
