/-
**Quoted text.**

Messages show a text between quotation marks.  Quotation marks, backslashes and the usual controls
are written with a backslash; a character that is not shown or has no shape, or that would be drawn
onto the quotation mark before it, is written by its number.

Main definitions:

* `RecordGrid.Text.quoteChar` — the characters written for one character;
* `RecordGrid.Text.quote` — the quoted form of a text.
-/

import RecordGrid.Text.Extending
import RecordGrid.Text.Ignorable
import RecordGrid.Text.Unprintable

set_option relaxedAutoImplicit false
set_option autoImplicit false

namespace RecordGrid.Text

/-- A character written by its number, in hexadecimal digits of lower case. -/
def numbered (c : Char) : List Char :=
  ['\\', 'u', '\x7b'] ++ Nat.toDigits 16 c.toNat ++ ['\x7d']

/-- The characters written for one character between quotation marks. -/
def quoteChar (c : Char) : List Char :=
  if c = '\x00' then ['\\', '0']
  else if c = '\t' then ['\\', 't']
  else if c = '\r' then ['\\', 'r']
  else if c = '\n' then ['\\', 'n']
  else if c = '"' then ['\\', '"']
  else if c = '\\' then ['\\', '\\']
  else if isOverdrawn c || isIgnorable c || isUnprintable c then numbered c
  else [c]

/-- The quoted form of a text, quotation marks included. -/
def quote (s : String) : String :=
  String.ofList ('"' :: s.toList.flatMap quoteChar ++ ['"'])

end RecordGrid.Text
