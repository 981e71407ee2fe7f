/-
**Characters without a shape.**

The property `Default_Ignorable_Code_Point`: joiners, selectors, fillers and other characters that
are not drawn unless a program knows them.

Main definitions:

* `RecordGrid.Text.isIgnorable` — whether a character has the property.
-/

import RecordGrid.Text.Ranges

set_option relaxedAutoImplicit false
set_option autoImplicit false

namespace RecordGrid.Text

/-- The ranges of characters with the property `Default_Ignorable_Code_Point`. -/
def ignorableRanges : List (Nat × Nat) :=
  [(0xad, 0xad), (0x34f, 0x34f), (0x61c, 0x61c), (0x115f, 0x1160), (0x17b4, 0x17b5),
   (0x180b, 0x180f), (0x200b, 0x200f), (0x202a, 0x202e), (0x2060, 0x206f), (0x3164, 0x3164),
   (0xfe00, 0xfe0f), (0xfeff, 0xfeff), (0xffa0, 0xffa0), (0xfff0, 0xfff8), (0x1bca0, 0x1bca3),
   (0x1d173, 0x1d17a), (0xe0000, 0xe0fff)]

/-- Whether a character has the property `Default_Ignorable_Code_Point`. -/
def isIgnorable (c : Char) : Bool :=
  inRanges ignorableRanges c

end RecordGrid.Text
