/-
**The shortest decimal that reads back.**

A binary64 number stands for every real that rounds to it.  Of the decimals among those reals one
with the fewest digits is written, and of several the one nearest to the number itself.  The
digits are found by exact integer arithmetic: the number and the two ends of its interval are
integers over a common denominator, and for one digit, two digits and so on the two neighbours of
the number on that decimal grid are tested.

Main definitions:

* `RecordGrid.Decimal.Magnitude` — a positive number `mantissa * 2 ^ (exponent - 2)` with the ends
  of its rounding interval on the same scale;
* `RecordGrid.Decimal.Digits` — digits and the power of ten of the first one;
* `RecordGrid.Decimal.shortest` — the digits of the absolute value of a float.
-/

set_option relaxedAutoImplicit false
set_option autoImplicit false

namespace RecordGrid.Decimal

/-! ### Rounding intervals -/

/-- A positive binary number with the ends of the interval of reals that round to it.  All three
are multiples of `2 ^ scale`, and `low < value < high`. -/
structure Magnitude where
  /-- The number. -/
  value : Nat
  /-- The lower end of its interval. -/
  low : Nat
  /-- The upper end of its interval. -/
  high : Nat
  /-- The common power of two. -/
  scale : Int
  /-- Whether the ends round to the number too. -/
  closed : Bool
deriving Repr, DecidableEq

/-- The magnitude of a finite float that is not zero, from its bits.  Below a power of two the
floats lie twice as dense, so the lower end is then nearer. -/
def Magnitude.ofBits (bits : UInt64) : Magnitude :=
  let fraction := (bits &&& 0xfffffffffffff).toNat
  let field := ((bits >>> 52) &&& 0x7ff).toNat
  let mantissa := if field = 0 then fraction else fraction + 0x10000000000000
  let exponent : Int := (if field = 0 then 1 else field) - 1075
  { value := 4 * mantissa
    low := if fraction = 0 ∧ 1 < field then 4 * mantissa - 1 else 4 * mantissa - 2
    high := 4 * mantissa + 2
    scale := exponent - 2
    closed := mantissa % 2 = 0 }

/-! ### Digits -/

/-- A decimal: its digits, and the power of ten that the first of them counts. -/
structure Digits where
  /-- The digits, most significant first. -/
  digits : List Char
  /-- The power of ten of the first digit. -/
  exponent : Int
deriving Repr, DecidableEq

/-- The digits of zero. -/
def Digits.zero : Digits := ⟨['0'], 0⟩

/-- The number of decimal digits of a natural number. -/
def width (n : Nat) : Nat := (Nat.toDigits 10 n).length

/-- The greatest `k` with `10 ^ k ≤ num / den`, for positive `num` and `den`. -/
def order (num den : Nat) : Int :=
  if den ≤ num then (width (num / den) : Int) - 1
  else -(width ((den + num - 1) / num - 1) : Int)

/-- Digits without the zeros at their end. -/
def Digits.ofNat (n : Nat) (unit : Int) : Digits :=
  let ds := Nat.toDigits 10 n
  let kept := (ds.reverse.dropWhile (· = '0')).reverse
  ⟨kept, unit + ds.length - 1⟩

namespace Magnitude

/-- `n * 2 ^ scale / 10 ^ unit` as a fraction. -/
def fraction (m : Magnitude) (n : Nat) (unit : Int) : Nat × Nat :=
  (n * Nat.pow 2 m.scale.toNat * Nat.pow 10 (-unit).toNat,
    Nat.pow 2 (-m.scale).toNat * Nat.pow 10 unit.toNat)

/-- Whether `c * 10 ^ unit` rounds to the number. -/
def accepts (m : Magnitude) (unit : Int) (c : Nat) : Bool :=
  let (low, den) := m.fraction m.low unit
  let (high, _) := m.fraction m.high unit
  if m.closed then low ≤ c * den && c * den ≤ high else low < c * den && c * den < high

/-- The multiple of `10 ^ unit` that rounds to the number and is nearest to it, if there is one.
Only the neighbours of the number on the grid need a look; on a tie the even one is taken. -/
def onGrid (m : Magnitude) (unit : Int) : Option Nat :=
  let (num, den) := m.fraction m.value unit
  let below := num / den
  let above := below + 1
  match m.accepts unit below, m.accepts unit above with
  | false, false => none
  | true, false => some below
  | false, true => some above
  | true, true =>
      let rest := 2 * (num % den)
      if rest < den then some below
      else if den < rest then some above
      else if below % 2 = 0 then some below else some above

/-- The shortest decimal in the interval.  Seventeen digits always suffice. -/
def shortest (m : Magnitude) : Digits :=
  let (num, den) := m.fraction m.value 0
  let k := order num den
  let found := (List.range 17).findSome? fun n : Nat =>
    (m.onGrid (k - n)).map fun c => Digits.ofNat c (k - n)
  found.getD .zero

end Magnitude

/-- The shortest decimal of the absolute value of a finite float. -/
def shortest (x : Float) : Digits :=
  let bits := x.toBits &&& 0x7fffffffffffffff
  if bits = 0 then .zero else (Magnitude.ofBits bits).shortest

end RecordGrid.Decimal
