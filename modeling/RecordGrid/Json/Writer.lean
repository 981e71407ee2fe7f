/-
**Compact JSON text.**

No space is written.  A quotation mark, a backslash and the control characters below the space are
escaped and every other character stands for itself.  Whole numbers are written in decimal; floats
by their shortest decimal, positionally from `0.00001` up to below `1e+16` with at least one
decimal place, otherwise with a signed exponent.

Main definitions:

* `RecordGrid.Json.floatLayout` — the written form of floats;
* `RecordGrid.Json.escape` — the characters written for one character of a text;
* `RecordGrid.Json.text` — the text of a value.
-/

import RecordGrid.Json.Basic
import RecordGrid.Decimal.Layout

set_option relaxedAutoImplicit false
set_option autoImplicit false

namespace RecordGrid.Json

/-- Floats are positional from `10 ^ -5` up to below `10 ^ 16`, keep a point when whole, and have
a sign on every exponent. -/
def floatLayout : Decimal.Layout :=
  { least := some (-5), greatest := some 15, wholePoint := true, plusSign := true }

/-- The text of a number; a float that is not finite is `null`. -/
def Number.text : Number → String
  | .nat n => toString n.toNat
  | .negSucc n => "-" ++ toString (n.val + 1)
  | .float x => if isFinite x then floatLayout.write x else "null"

/-- A hexadecimal digit in lower case. -/
def hexDigit (n : Nat) : Char :=
  Nat.digitChar (n % 16)

/-- The characters written for one character of a text. -/
def escape (c : Char) : List Char :=
  if c = '"' then ['\\', '"']
  else if c = '\\' then ['\\', '\\']
  else if c = '\x08' then ['\\', 'b']
  else if c = '\t' then ['\\', 't']
  else if c = '\n' then ['\\', 'n']
  else if c = '\x0c' then ['\\', 'f']
  else if c = '\r' then ['\\', 'r']
  else if c.toNat < 0x20 then ['\\', 'u', '0', '0', hexDigit (c.toNat / 16), hexDigit c.toNat]
  else [c]

/-- The text of a string value, quotation marks included. -/
def quote (s : String) : String :=
  String.ofList ('"' :: s.toList.flatMap escape ++ ['"'])

mutual

/-- The compact text of a value. -/
def text : Json → String
  | .null => "null"
  | .bool true => "true"
  | .bool false => "false"
  | .number n => n.text
  | .string s => quote s
  | .array items => "[" ++ ",".intercalate (itemTexts items) ++ "]"
  | .object members => "\x7b" ++ ",".intercalate (memberTexts members) ++ "\x7d"

/-- The texts of the items of an array. -/
def itemTexts : List Json → List String
  | [] => []
  | j :: js => text j :: itemTexts js

/-- The texts of the members of an object. -/
def memberTexts : List (String × Json) → List String
  | [] => []
  | (k, j) :: js => (quote k ++ ":" ++ text j) :: memberTexts js

end

end RecordGrid.Json
