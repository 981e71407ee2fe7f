/-
**Form-urlencoded pairs.**

Query strings hold pairs of texts in the encoding of web forms: pairs are separated by `&`, a name
is separated from its value by the first `=`, a space is written `+`, and any other byte outside a
small safe set is written as `%` and two upper-case hexadecimal digits.  Reading accepts every
text: a percent sign without two digits stands for itself, and bytes that are not UTF-8 are
replaced.

Main definitions:

* `RecordGrid.Text.FormEncoding.encode`, `decode` — one name or value;
* `RecordGrid.Text.FormEncoding.write`, `read` — a list of pairs.
-/

import RecordGrid.Text.Utf8

set_option relaxedAutoImplicit false
set_option autoImplicit false

namespace RecordGrid.Text.FormEncoding

/-! ### Names and values -/

/-- Whether a byte is written as the character it is. -/
def isSafe (b : UInt8) : Bool :=
  let c := Char.ofNat b.toNat
  c.isAlphanum || c == '*' || c == '-' || c == '.' || c == '_'

/-- The upper-case hexadecimal digit of a number below sixteen. -/
def hexDigit (n : Nat) : Char :=
  if n < 10 then Char.ofNat (48 + n) else Char.ofNat (55 + n)

/-- The characters written for one byte. -/
def encodeByte (b : UInt8) : List Char :=
  if isSafe b then [Char.ofNat b.toNat]
  else if b = 0x20 then ['+']
  else ['%', hexDigit (b.toNat / 16), hexDigit (b.toNat % 16)]

/-- The characters written for a name or value. -/
def encode (cs : List Char) : List Char :=
  (Utf8.encode cs).flatMap encodeByte

/-- The value of a hexadecimal digit of either case. -/
def hexValue? (b : UInt8) : Option UInt8 :=
  if 0x30 ≤ b ∧ b ≤ 0x39 then some (b - 0x30)
  else if 0x41 ≤ b ∧ b ≤ 0x46 then some (b - 0x37)
  else if 0x61 ≤ b ∧ b ≤ 0x66 then some (b - 0x57)
  else none

/-- The bytes that written bytes stand for. -/
def decodeBytes : List UInt8 → List UInt8
  | [] => []
  | 0x2b :: bs => 0x20 :: decodeBytes bs
  | [0x25] => [0x25]
  | [0x25, a] => 0x25 :: decodeBytes [a]
  | 0x25 :: a :: b :: bs =>
      match hexValue? a, hexValue? b with
      | some x, some y => (16 * x + y) :: decodeBytes bs
      | _, _ => 0x25 :: decodeBytes (a :: b :: bs)
  | b :: bs => b :: decodeBytes bs

/-- The name or value that some characters stand for. -/
def decode (cs : List Char) : List Char :=
  Utf8.decode (decodeBytes (Utf8.encode cs))

/-! ### Pairs -/

/-- The parts of a list between the elements equal to `sep`. -/
def splitOn {α : Type} [DecidableEq α] (sep : α) : List α → List (List α)
  | [] => [[]]
  | a :: as =>
      if a = sep then [] :: splitOn sep as
      else match splitOn sep as with
        | [] => [[a]]
        | p :: ps => (a :: p) :: ps

/-- The elements before the first one equal to `sep`, and those after it. -/
def splitFirst {α : Type} [DecidableEq α] (sep : α) (as : List α) : List α × List α :=
  (as.takeWhile (· ≠ sep), (as.dropWhile (· ≠ sep)).drop 1)

/-- The pair that one piece of a query string stands for. -/
def readPair (cs : List Char) : String × String :=
  let (name, value) := splitFirst '=' cs
  (String.ofList (decode name), String.ofList (decode value))

/-- The pairs of a query string; empty pieces are skipped. -/
def read (cs : List Char) : List (String × String) :=
  ((splitOn '&' cs).filter (!·.isEmpty)).map readPair

/-- The characters written for a pair; the equals sign is always there. -/
def writePair (p : String × String) : List Char :=
  encode p.1.toList ++ '=' :: encode p.2.toList

/-- The query string of some pairs. -/
def write (ps : List (String × String)) : List Char :=
  ['&'].intercalate (ps.map writePair)

end RecordGrid.Text.FormEncoding
