/-
**Key bindings.**

A binding ties key presses to one action and says in a few words what the action does.

Main definitions:

* `RecordGrid.Binding` — key presses, help texts, and whether the binding is off;
* `RecordGrid.Binding.ofTexts` — a binding from descriptions of key presses;
* `RecordGrid.Binding.triggers` — whether a key press triggers the action.
-/

import RecordGrid.Keys.Press

set_option relaxedAutoImplicit false
set_option autoImplicit false

namespace RecordGrid

/-- What a help line says about a binding. -/
structure Help where
  /-- The keys in short. -/
  keys : String := ""
  /-- What the action does. -/
  action : String := ""
deriving DecidableEq, Repr

/-- Key presses that trigger an action. -/
structure Binding where
  /-- The key presses. -/
  presses : List KeyPress := []
  /-- The help line. -/
  help : Help := {}
  /-- Whether the binding is off. -/
  disabled : Bool := false
deriving DecidableEq, Repr

namespace Binding

/-- The key presses of some descriptions; those that describe none are skipped. -/
def pressesOf (texts : List String) : List KeyPress := texts.filterMap KeyPress.parse?

/-- A binding of described key presses. -/
def ofTexts (texts : List String) (help : Help) : Binding :=
  { presses := pressesOf texts, help }

/-- Whether a key press triggers the action. -/
def triggers (b : Binding) (press : KeyPress) : Bool :=
  !b.disabled && b.presses.any (· = press)

end Binding

end RecordGrid
