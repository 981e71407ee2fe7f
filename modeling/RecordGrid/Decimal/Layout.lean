/-
**Writing a decimal.**

Which digits a float has is one question (`RecordGrid.Decimal.shortest`), how they are laid out
another.  A `Layout` holds the decisions of one written form; each form the library writes is one
value of this type, declared where the form is written.

Main definitions:

* `RecordGrid.Decimal.Layout` — where positional writing ends and how the rest looks;
* `RecordGrid.Decimal.Layout.write` — the text of a finite float.
-/

import RecordGrid.Decimal.Shortest

set_option relaxedAutoImplicit false
set_option autoImplicit false

namespace RecordGrid.Decimal

/-- The decisions of one written form of floats. -/
structure Layout where
  /-- The least power of ten of a first digit that is still written positionally. -/
  least : Option Int
  /-- The greatest power of ten of a first digit that is still written positionally. -/
  greatest : Option Int
  /-- Whether a whole number written positionally ends in `.0`. -/
  wholePoint : Bool
  /-- Whether a positive exponent has a plus sign. -/
  plusSign : Bool

namespace Layout

/-- Whether a decimal whose first digit counts `10 ^ k` is written positionally. -/
def positional (l : Layout) (k : Int) : Bool :=
  l.least.all (· ≤ k) && l.greatest.all (k ≤ ·)

/-- The text of a decimal without sign. -/
def writeDigits (l : Layout) (d : Digits) : String :=
  if l.positional d.exponent then
    if d.exponent < 0 then
      "0." ++ "".pushn '0' (-d.exponent - 1).toNat ++ String.ofList d.digits
    else
      let n := d.exponent.toNat + 1
      let whole := d.digits.take n ++ List.replicate (n - d.digits.length) '0'
      let fraction := d.digits.drop n
      String.ofList whole ++
        (if fraction.isEmpty then (if l.wholePoint then ".0" else "")
         else "." ++ String.ofList fraction)
  else
    let fraction := d.digits.drop 1
    String.ofList (d.digits.take 1) ++
      (if fraction.isEmpty then "" else "." ++ String.ofList fraction) ++ "e" ++
      (if d.exponent < 0 then "-" else if l.plusSign then "+" else "") ++
      toString d.exponent.natAbs

/-- The text of a finite float; a negative zero keeps its sign. -/
def write (l : Layout) (x : Float) : String :=
  (if x.toBits >>> 63 = 0 then "" else "-") ++ l.writeDigits (shortest x)

end Layout

end RecordGrid.Decimal
