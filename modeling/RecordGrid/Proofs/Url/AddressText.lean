/-
**Which addresses are read back from their text.**

The text of an address is its path, and behind a question mark the pairs of its query.  The query
may hold anything at all, since it is encoded, but the path is written as it is: a path that does
not begin with a slash is refused when the text is read, and at a question mark or a number sign the
path that is read ends early.  Every other address is read back, and so is every address that was
itself read from a text, however oddly that text was spelled.

Main definitions:

* `RecordGrid.Address.IsPath` — what may be the path of an address that is read.

Main results:

* `RecordGrid.Address.isPath_of_parse` — the path of every address that is read is one of these;
* `RecordGrid.Address.parse_text_of_isPath` — addresses with such a path are read back;
* `RecordGrid.Address.parse_text_iff` — **exactly these are**.
-/

import RecordGrid.Proofs.Text.FormEncoding
import RecordGrid.Url.Address

set_option relaxedAutoImplicit false
set_option autoImplicit false

namespace RecordGrid.Address

open Text.FormEncoding

/-- Whether a text begins with a slash and has neither a question mark nor a number sign. -/
def IsPath (path : String) : Prop :=
  path.toList.head? = some '/' ∧ '?' ∉ path.toList ∧ '#' ∉ path.toList

instance (path : String) : Decidable (IsPath path) := inferInstanceAs (Decidable (_ ∧ _))

/-! ### Reading -/

/-- The address that a text stands for when it begins with a slash. -/
def ofChars (cs : List Char) : Address :=
  { path := String.ofList (splitFirst '?' (cs.takeWhile (· ≠ '#'))).1
    query := read (splitFirst '?' (cs.takeWhile (· ≠ '#'))).2 }

theorem parse_of_slash {text : String} (h : text.toList.head? = some '/') :
    parse text = .ok (ofChars text.toList) := by
  simp only [parse, h, if_true]
  rfl

theorem parse_of_not_slash {text : String} (h : text.toList.head? ≠ some '/') :
    parse text = .error (.notAbsolute text) := by
  simp only [parse, h, if_false]

/-- Exactly the texts that begin with a slash are read. -/
theorem parse_eq_ok_iff {text : String} {a : Address} :
    parse text = .ok a ↔ text.toList.head? = some '/' ∧ a = ofChars text.toList := by
  by_cases h : text.toList.head? = some '/'
  · rw [parse_of_slash h]
    constructor
    · intro ha
      exact ⟨h, (Except.ok.inj ha).symm⟩
    · intro ha
      rw [ha.2]
  · rw [parse_of_not_slash h]
    constructor
    · intro ha
      cases ha
    · intro ha
      exact absurd ha.1 h

theorem path_ofChars (cs : List Char) :
    (ofChars cs).path.toList = (cs.takeWhile (· ≠ '#')).takeWhile (· ≠ '?') :=
  String.toList_ofList

/-- **The path of an address that is read** begins with a slash, and ends before any question mark
or number sign. -/
theorem isPath_of_parse {text : String} {a : Address} (h : parse text = .ok a) :
    IsPath a.path := by
  obtain ⟨hslash, rfl⟩ := parse_eq_ok_iff.1 h
  refine ⟨?_, ?_, ?_⟩
  · rw [path_ofChars]
    cases hcs : text.toList with
    | nil =>
        rw [hcs] at hslash
        cases hslash
    | cons c cs =>
        obtain rfl : c = '/' := by
          rw [hcs] at hslash
          exact Option.some.inj hslash
        rfl
  · rw [path_ofChars]
    intro hmem
    have hall := List.all_eq_true.1 (List.all_takeWhile (p := (· ≠ '?'))) '?' hmem
    exact absurd rfl (of_decide_eq_true hall)
  · rw [path_ofChars]
    intro hmem
    have hmem' := (List.takeWhile_sublist _).subset hmem
    have hall := List.all_eq_true.1 (List.all_takeWhile (p := (· ≠ '#'))) '#' hmem'
    exact absurd rfl (of_decide_eq_true hall)

/-! ### Reading back -/

theorem toList_text_of_query {a : Address} (h : a.query ≠ []) :
    a.text.toList = a.path.toList ++ '?' :: write a.query := by
  have hq : a.query.isEmpty = false := List.isEmpty_eq_false_iff.2 h
  rw [text, hq, queryText]
  simp

/-- The text of an address, read as it is: nothing in the query ends it early. -/
theorem ofChars_text {a : Address} (h : IsPath a.path) :
    ofChars a.text.toList = { path := a.path, query := a.query } := by
  obtain ⟨-, hmark, hnumber⟩ := h
  by_cases hq : a.query = []
  · have htext : a.text.toList = a.path.toList := by
      rw [text, hq]
      rfl
    rw [ofChars, htext, takeWhile_ne_of_not_mem hnumber, splitFirst_of_not_mem hmark, hq,
      String.ofList_toList]
    rfl
  · have hwrite : '#' ∉ '?' :: write a.query := by
      intro hmem
      rcases List.mem_cons.1 hmem with hc | hw
      · exact absurd hc (by decide)
      · exact ne_of_mem_write hw rfl
    rw [ofChars, toList_text_of_query hq, takeWhile_ne_append hnumber,
      takeWhile_ne_of_not_mem hwrite, splitFirst_append hmark, read_write, String.ofList_toList]

/-- An address whose path begins with a slash, and has no question mark and no number sign, is read
back; its route is not part of the text. -/
theorem parse_text_of_isPath {a : Address} (h : IsPath a.path) :
    parse a.text = .ok { path := a.path, query := a.query } := by
  have hslash : a.text.toList.head? = some '/' := by
    by_cases hq : a.query = []
    · rw [text, hq]
      exact h.1
    · rw [toList_text_of_query hq, List.head?_append, h.1]
      rfl
  rw [parse_of_slash hslash, ofChars_text h]

/-- An address that was read is no more than its path and its query. -/
theorem eq_of_parse {text : String} {a : Address} (h : parse text = .ok a) :
    ({ path := a.path, query := a.query } : Address) = a := by
  obtain ⟨-, rfl⟩ := parse_eq_ok_iff.1 h
  rfl

/-- **Which addresses are read back from their text.**

* Path and query of an address are read back from its text exactly when the path begins with a slash
  and has neither a question mark nor a number sign, whatever the query holds.
* A text is read exactly when it begins with a slash.  The address that is read is then read back
  from the text it has itself, and that text is written again. -/
theorem parse_text_iff (a : Address) (t : String) :
    ((∃ b, parse a.text = .ok b ∧ b.path = a.path ∧ b.query = a.query) ↔
        a.path.toList.head? = some '/' ∧ '?' ∉ a.path.toList ∧ '#' ∉ a.path.toList) ∧
      ((∃ b, parse t = .ok b) ↔ t.toList.head? = some '/') ∧
      ∀ b, parse t = .ok b →
        parse b.text = .ok b ∧ (parse b.text).map Address.text = .ok b.text := by
  refine ⟨⟨?_, ?_⟩, ⟨?_, ?_⟩, ?_⟩
  · rintro ⟨b, hb, hpath, -⟩
    have h := isPath_of_parse hb
    rwa [hpath] at h
  · intro h
    exact ⟨_, parse_text_of_isPath h, rfl, rfl⟩
  · rintro ⟨b, hb⟩
    exact (parse_eq_ok_iff.1 hb).1
  · intro h
    exact ⟨_, parse_of_slash h⟩
  · intro b hb
    have hback : parse b.text = .ok b := by
      rw [parse_text_of_isPath (isPath_of_parse hb), eq_of_parse hb]
    refine ⟨hback, ?_⟩
    rw [hback]
    rfl

/-- A text with escapes in upper and lower case, a plus sign, an empty piece, an empty pair, a key
that is repeated, bytes that are no text, and a fragment. -/
def oddText : String := "/hosts/ü?q=a%2Fb+%c3%bc&&=&q=%ff%zz#top"

/-- What it is read as. -/
def oddlySpelled : Address :=
  { path := "/hosts/ü", query := [("q", "a/b ü"), ("", ""), ("q", "\ufffd%zz")] }

theorem parse_text_iff_oddText :
    parse oddText = .ok oddlySpelled ∧
      oddlySpelled.text = "/hosts/ü?q=a%2Fb+%C3%BC&=&q=%EF%BF%BD%25zz" ∧
      parse oddlySpelled.text = .ok oddlySpelled := by
  have hread : parse oddText = .ok oddlySpelled :=
    parse_eq_ok_iff.2 ⟨by decide, by decide +kernel⟩
  exact ⟨hread, by decide +kernel, ((parse_text_iff oddlySpelled oddText).2.2 _ hread).1⟩

end RecordGrid.Address
