/-
**Key presses.**

A key press is a key together with the modifiers held.  In configuration it is described by its
modifiers, each followed by a plus sign, and the name of the key; a key without a name is
described by its character.

Main definitions:

* `RecordGrid.Key`, `RecordGrid.Modifiers`, `RecordGrid.KeyPress`;
* `RecordGrid.KeyPress.parse?` — the key press of a description.
-/

import RecordGrid.Text.FormEncoding

set_option relaxedAutoImplicit false
set_option autoImplicit false

namespace RecordGrid

/-- A key. -/
inductive Key where
  | left
  | right
  | up
  | down
  | pageUp
  | pageDown
  | home
  | «end»
  | enter
  | escape
  | tab
  | backspace
  | delete
  | char (c : Char)
deriving DecidableEq, Repr

/-- The modifiers held with a key. -/
structure Modifiers where
  /-- The alternate key. -/
  alt : Bool := false
  /-- The control key. -/
  ctrl : Bool := false
  /-- The shift key. -/
  shift : Bool := false
deriving DecidableEq, Repr

/-- A key with the modifiers held. -/
structure KeyPress where
  /-- The key. -/
  key : Key
  /-- The modifiers. -/
  modifiers : Modifiers := {}
deriving DecidableEq, Repr

/-- A modifier. -/
inductive Modifier where
  | alt
  | ctrl
  | shift
deriving DecidableEq, Repr

namespace Modifier

/-- The name of a modifier. -/
def name : Modifier → String
  | .alt => "alt"
  | .ctrl => "ctrl"
  | .shift => "shift"

/-- The modifier with a name. -/
def ofName? (name : String) : Option Modifier :=
  [alt, ctrl, shift].find? (·.name = name)

end Modifier

namespace Modifiers

/-- One more modifier held. -/
def add (ms : Modifiers) : Modifier → Modifiers
  | .alt => { ms with alt := true }
  | .ctrl => { ms with ctrl := true }
  | .shift => { ms with shift := true }

/-- The modifiers of a list. -/
def ofList (ms : List Modifier) : Modifiers := ms.foldl add {}

end Modifiers

namespace Key

/-- The keys that have a name, with their names. -/
def named : List (String × Key) :=
  [("left", .left), ("right", .right), ("up", .up), ("down", .down), ("pgup", .pageUp),
    ("pgdown", .pageDown), ("home", .home), ("end", .«end»), ("enter", .enter), ("esc", .escape),
    ("tab", .tab), ("space", .char ' ')]

/-- The key that a name or a single character describes. -/
def ofName? (name : List Char) : Option Key :=
  match named.find? (·.1.toList = name) with
  | some (_, key) => some key
  | none => match name with
    | [c] => some (.char c)
    | _ => none

end Key

namespace KeyPress

/-- The key press of the parts of a description, the key last and modifiers before it. -/
def ofParts? (ms : Modifiers) : List (List Char) → Option KeyPress
  | [] => none
  | [name] => (Key.ofName? name).map fun key => ⟨key, ms⟩
  | m :: parts => do ofParts? (ms.add (← Modifier.ofName? (String.ofList m))) parts

/-- The key press of a description.  The plus sign always separates, so it describes no key. -/
def parse? (text : String) : Option KeyPress :=
  ofParts? {} (Text.FormEncoding.splitOn '+' text.toList)

end KeyPress

end RecordGrid
