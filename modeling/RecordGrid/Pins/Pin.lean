/-
**Pins: paths a user keeps at hand.**

A pin is a path with a name to show, and with what was last known about it.  Paths are normal when
they begin with one slash that is theirs and do not end in another.

Main definitions:

* `RecordGrid.Pin` — a pinned path;
* `RecordGrid.normalPath` — the normal form of a path;
* `RecordGrid.Pin.ofPath` — the pin of a path, named after its last segment;
* `RecordGrid.Pin.toJson`, `RecordGrid.Pin.decode?` — a pin on the wire.

Main results:

* `RecordGrid.normalPath_normalPath` — a normal form is its own normal form.
-/

import RecordGrid.Count
import RecordGrid.Json.Fields
import RecordGrid.Pins.NaturalOrder

set_option relaxedAutoImplicit false
set_option autoImplicit false

namespace RecordGrid

open Json (Draft required defaulted)

/-! ### Paths -/

/-- The normal form of a path: no slash at its end, and one at its beginning. -/
def normalChars (cs : List Char) : List Char :=
  let kept := (cs.reverse.dropWhile (· = '/')).reverse
  if kept.head? = some '/' then kept else '/' :: kept

/-- The normal form of a path. -/
def normalPath (path : String) : String := String.ofList (normalChars path.toList)

/-- A path that begins with a slash and does not end in one is in normal form. -/
theorem normalChars_eq_self {cs : List Char} (hfirst : cs.head? = some '/')
    (hlast : cs.reverse.head? ≠ some '/') : normalChars cs = cs := by
  have hkept : cs.reverse.dropWhile (· = '/') = cs.reverse :=
    List.dropWhile_beq_eq_self_of_head?_ne hlast
  simp only [normalChars, hkept, List.reverse_reverse, hfirst, if_true]

theorem normalChars_normalChars (cs : List Char) :
    normalChars (normalChars cs) = normalChars cs := by
  have hend : (cs.reverse.dropWhile (· = '/')).head? ≠ some '/' := by
    intro h
    have := List.head?_dropWhile_not (· = '/') cs.reverse
    simp [h] at this
  by_cases hfirst : (cs.reverse.dropWhile (· = '/')).reverse.head? = some '/'
  · have hn : normalChars cs = (cs.reverse.dropWhile (· = '/')).reverse := by
      simp only [normalChars, hfirst, if_true]
    rw [hn]
    exact normalChars_eq_self hfirst (by simpa only [List.reverse_reverse] using hend)
  · -- a slash was put in front, and it is the only character or not the last one
    have hn : normalChars cs = '/' :: (cs.reverse.dropWhile (· = '/')).reverse := by
      simp only [normalChars, hfirst, if_false]
    rw [hn]
    cases hr : cs.reverse.dropWhile (· = '/') with
    | nil => rfl
    | cons x xs =>
        refine normalChars_eq_self rfl ?_
        simpa [hr] using hend

/-- The normal form of a path is in normal form. -/
@[simp] theorem normalPath_normalPath (path : String) :
    normalPath (normalPath path) = normalPath path := by
  simp [normalPath, normalChars_normalChars]

/-- The characters after the last slash. -/
def lastSegment (cs : List Char) : List Char :=
  (cs.reverse.takeWhile (· ≠ '/')).reverse

/-- The name of a path: its last segment, or all of it when that is empty. -/
def pathName (path : String) : String :=
  match lastSegment path.toList with
  | [] => path
  | cs => String.ofList cs

/-! ### Pins -/

/-- A pinned path. -/
structure Pin where
  /-- The number under which it is stored, if it has one. -/
  id : Option Count := none
  /-- The path. -/
  path : String
  /-- The name that is shown. -/
  name : String
  /-- When the path was last looked for, in milliseconds. -/
  lastSeen : Option Count := none
  /-- Whether the path was there. -/
  present : Bool := true
deriving DecidableEq, Repr

namespace Pin

/-- The pin of a path, made at a time.  Without a name it is named after the path. -/
def ofPath (path : String) (name : Option String) (now : Count) : Pin :=
  let path := normalPath path
  { path
    name := (name.filter (!·.isEmpty)).getD (pathName path)
    lastSeen := some now }

/-- The pin with its path in normal form. -/
def normalized (p : Pin) : Pin := { p with path := normalPath p.path }

/-- Whether a pin may stand before another: its name does not come after the other's. -/
def le (p q : Pin) : Bool := (NaturalOrder.compareNames p.name q.name).isLE

/-- Pins in the natural order of their names; pins with one name keep their order. -/
def sort (ps : List Pin) : List Pin := ps.mergeSort le

/-- The object of a pin; a missing number or time is left out. -/
def toJson (p : Pin) : Json :=
  .object ((match p.id with
      | some n => [("id", .ofCount n)]
      | none => [])
    ++ [("path", .string p.path), ("name", .string p.name)]
    ++ (match p.lastSeen with
      | some t => [("last_seen", .ofCount t)]
      | none => [])
    ++ [("exists", .bool p.present)])

/-- Reads a pin.  Only path and name have to be given. -/
def decode? (d : Draft) : Option Pin := do
  match ← d.fields? ["id", "path", "name", "last_seen", "exists"] with
  | [id, path, name, lastSeen, present] =>
      some { id := ← defaulted none (·.nullable? Draft.count?) id
             path := ← required Draft.string? path
             name := ← required Draft.string? name
             lastSeen := ← defaulted none (·.nullable? Draft.count?) lastSeen
             present := ← defaulted true Draft.bool? present }
  | _ => none

end Pin

end RecordGrid
