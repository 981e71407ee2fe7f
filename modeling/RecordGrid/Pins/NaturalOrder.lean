/-
**The natural order of names.**

Names are compared as people read them: runs of digits by the number they denote, and all else
without regard to case.  Two names are read side by side, a run of digits against a run of digits
and otherwise a character against a character, up to the first difference.  Where there is none
the names are put in the reverse of their plain order, so that lower case comes first.

Main definitions:

* `RecordGrid.NaturalOrder.number`, `RecordGrid.NaturalOrder.compareNumbers` — the number at the
  beginning of a text, and the order of numbers by value;
* `RecordGrid.NaturalOrder.scan` — reads two texts side by side;
* `RecordGrid.NaturalOrder.compareNames` — the order.
-/

import RecordGrid.Text.Lowercase

set_option relaxedAutoImplicit false
set_option autoImplicit false

namespace RecordGrid.NaturalOrder

/-- The digits at the beginning of a text, without leading zeros. -/
def number (cs : List Char) : List Char :=
  (cs.takeWhile Char.isDigit).dropWhile (· = '0')

/-- The order of numbers without leading zeros: the one with more digits is greater. -/
def compareNumbers (ds es : List Char) : Ordering :=
  (compare ds.length es.length).then (compare ds es)

/-- The first difference of two texts that are read side by side.  Where both go on with a digit,
the numbers that stand there are compared, and otherwise the lower-case forms of the next
characters.  A text that ends first comes first. -/
def scan : List Char → List Char → Ordering
  | [], [] => .eq
  | [], _ :: _ => .lt
  | _ :: _, [] => .gt
  | a :: as, b :: bs =>
      if a.isDigit && b.isDigit then
        (compareNumbers (number (a :: as)) (number (b :: bs))).then
          (scan (as.dropWhile Char.isDigit) (bs.dropWhile Char.isDigit))
      else (compare (Text.lower a) (Text.lower b)).then (scan as bs)
termination_by as => as.length
decreasing_by
  · exact Nat.lt_succ_of_le (List.dropWhile_sublist _).length_le
  · exact Nat.lt_succ_self _

/-- The order of names. -/
def compareNames (a b : String) : Ordering :=
  (scan a.toList b.toList).then (compare b a)

end RecordGrid.NaturalOrder
