/-
**Numbers and strings as JSON text writes them.**

A number is read without arbitrary precision: its first digits, as many as fit 64 bits, make a
significand, and the significand is scaled by one power of ten in binary64 arithmetic.  Whole
numbers that fit 64 bits stay whole.  A string is read in two passes: first its pieces, then the
text they spell, which fails when half of a surrogate pair stands alone.

Main definitions:

* `RecordGrid.Json.NumberLexeme` — the parts of a written number, and `NumberLexeme.number?`;
* `RecordGrid.Json.StringPiece` — one element of a written string, and `StringPiece.spell?`;
* `RecordGrid.Json.takeNumber?`, `takeString?` — the lexeme at the start of some characters.
-/

import RecordGrid.Json.Basic

set_option relaxedAutoImplicit false
set_option autoImplicit false

namespace RecordGrid.Json

/-! ### Numbers -/

/-- The parts of a written number. -/
structure NumberLexeme where
  /-- Whether a minus sign comes first. -/
  negative : Bool
  /-- The digits before the point. -/
  whole : List Char
  /-- The digits after the point, if there is one. -/
  fraction : Option (List Char)
  /-- Whether the exponent is negative, and its digits, if there is one. -/
  exponent : Option (Bool × List Char)

/-- The value of a decimal digit. -/
def digitValue (c : Char) : Nat := c.toNat - '0'.toNat

/-- The value of a list of decimal digits. -/
def digitsValue (ds : List Char) : Nat :=
  ds.foldl (fun n c => 10 * n + digitValue c) 0

/-- Appends decimal digits to `n` as long as the result fits 64 bits.  Returns the result and the
number of digits left over. -/
def appendDigits (n : Nat) : List Char → Nat × Nat
  | [] => (n, 0)
  | c :: cs =>
      let n' := 10 * n + digitValue c
      if n' < UInt64.size then appendDigits n' cs else (n, cs.length + 1)

/-- The power of ten nearest to which a float is scaled in one step. -/
def powerOfTen (n : Nat) : Float := Float.ofScientific 1 false n

/-- Divides by `10 ^ n` in steps of at most `10 ^ 308`. -/
def scaleDown (x : Float) (n : Nat) : Float :=
  if n ≤ 308 then x / powerOfTen n
  else if x == 0 then x
  else scaleDown (x / powerOfTen 308) (n - 308)
termination_by n

/-- Scales by `10 ^ e`; `none` when the result is too large. -/
def scale (x : Float) (e : Int) : Option Float :=
  if e < 0 then some (scaleDown x e.natAbs)
  else if 308 < e then if x == 0 then some x else none
  else
    let y := x * powerOfTen e.toNat
    if Number.isFinite y then some y else none

namespace NumberLexeme

/-- The number that was written; `none` when it is too large for a float. -/
def number? (l : NumberLexeme) : Option Number :=
  let (n, skipped) := appendDigits 0 l.whole
  if l.fraction.isNone && l.exponent.isNone && skipped == 0
      && (!l.negative || (0 < n && n ≤ 0x8000000000000000)) then
    if l.negative then some (.negSucc (Fin.ofNat _ (n - 1)))
    else some (.nat (UInt64.ofNat n))
  else
    let fraction := l.fraction.getD []
    let (m, dropped) := appendDigits n fraction
    let shift : Int := skipped - ((fraction.length - dropped : Nat) : Int)
    let power : Int := match l.exponent with
      | some (true, ds) => -(digitsValue ds : Int)
      | some (false, ds) => digitsValue ds
      | none => 0
    (scale (UInt64.ofNat m).toFloat (shift + power)).map fun x =>
      .float (if l.negative then -x else x)

end NumberLexeme

/-- The longest run of digits at the start, and what follows it. -/
def takeDigits (cs : List Char) : List Char × List Char :=
  (cs.takeWhile Char.isDigit, cs.dropWhile Char.isDigit)

/-- The fraction at the start, if a point is there; a point asks for a digit. -/
def takeFraction? : List Char → Option (Option (List Char) × List Char)
  | '.' :: cs =>
      let (ds, rest) := takeDigits cs
      if ds.isEmpty then none else some (some ds, rest)
  | cs => some (none, cs)

/-- The digits of an exponent after its letter; at least one is asked for. -/
def takeExponentDigits? (negative : Bool) (cs : List Char) :
    Option (Option (Bool × List Char) × List Char) :=
  let (ds, rest) := takeDigits cs
  if ds.isEmpty then none else some (some (negative, ds), rest)

/-- The exponent at the start, if an `e` is there. -/
def takeExponent? : List Char → Option (Option (Bool × List Char) × List Char)
  | c :: cs =>
      if c = 'e' ∨ c = 'E' then
        match cs with
        | '-' :: rest => takeExponentDigits? true rest
        | '+' :: rest => takeExponentDigits? false rest
        | rest => takeExponentDigits? false rest
      else some (none, c :: cs)
  | [] => some (none, [])

/-- The number at the start.  Its whole part has no superfluous zero. -/
def takeNumber? (cs : List Char) : Option (NumberLexeme × List Char) := do
  let (negative, cs) := match cs with
    | '-' :: rest => (true, rest)
    | rest => (false, rest)
  let (whole, rest) := takeDigits cs
  if whole.isEmpty || (whole.head? == some '0' && 1 < whole.length) then none
  else
    let (fraction, rest) ← takeFraction? rest
    let (exponent, rest) ← takeExponent? rest
    some (⟨negative, whole, fraction, exponent⟩, rest)

/-! ### Strings -/

/-- One element of a written string. -/
inductive StringPiece where
  /-- A character, plain or after a backslash. -/
  | char (c : Char)
  /-- A sixteen-bit unit given by four hexadecimal digits. -/
  | unit (n : Nat)

/-- The value of a hexadecimal digit of either case. -/
def hexValue? (c : Char) : Option Nat :=
  if '0' ≤ c ∧ c ≤ '9' then some (c.toNat - '0'.toNat)
  else if 'a' ≤ c ∧ c ≤ 'f' then some (c.toNat - 'a'.toNat + 10)
  else if 'A' ≤ c ∧ c ≤ 'F' then some (c.toNat - 'A'.toNat + 10)
  else none

/-- The character that a one-letter escape stands for. -/
def escaped? (c : Char) : Option Char :=
  if c = '"' ∨ c = '\\' ∨ c = '/' then some c
  else if c = 'b' then some '\x08'
  else if c = 'f' then some '\x0c'
  else if c = 'n' then some '\n'
  else if c = 'r' then some '\r'
  else if c = 't' then some '\t'
  else none

/-- The pieces up to the closing quotation mark, and what follows it. -/
def takePieces? (acc : List StringPiece) : List Char → Option (List StringPiece × List Char)
  | [] => none
  | '"' :: rest => some (acc.reverse, rest)
  | '\\' :: 'u' :: a :: b :: c :: d :: rest =>
      match hexValue? a, hexValue? b, hexValue? c, hexValue? d with
      | some a, some b, some c, some d =>
          takePieces? (.unit (4096 * a + 256 * b + 16 * c + d) :: acc) rest
      | _, _, _, _ => none
  | '\\' :: c :: rest =>
      match escaped? c with
      | some e => takePieces? (.char e :: acc) rest
      | none => none
  | c :: rest => if c.toNat < 0x20 ∨ c = '\\' then none else takePieces? (.char c :: acc) rest

namespace StringPiece

/-- The text that pieces spell.  A high surrogate takes the low one after it; either alone is
refused. -/
def spell? : List StringPiece → Option (List Char)
  | [] => some []
  | .char c :: ps => (spell? ps).map (c :: ·)
  | .unit n :: ps =>
      if n < 0xd800 ∨ 0xdfff < n then (spell? ps).map (Char.ofNat n :: ·)
      else match ps with
        | .unit m :: ps =>
            if n < 0xdc00 ∧ 0xdc00 ≤ m ∧ m ≤ 0xdfff then
              (spell? ps).map (Char.ofNat (0x10000 + 0x400 * (n - 0xd800) + (m - 0xdc00)) :: ·)
            else none
        | _ => none

end StringPiece

/-- The text of the string whose opening quotation mark was just passed, and what follows it.  The
text is `none` when a surrogate stands alone. -/
def takeString? (cs : List Char) : Option (Option String × List Char) := do
  let (pieces, rest) ← takePieces? [] cs
  some ((StringPiece.spell? pieces).map String.ofList, rest)

end RecordGrid.Json
