/-
**JSON values.**

Cells, request parameters and wire formats all carry JSON.  Numbers keep the form they were
written in: a whole number that fits 64 bits stays whole, anything else is a binary64 float, so
`1` and `1.0` are different values.  The members of an object form a list; every object that the
library builds or reads lists its keys in increasing order, each once (`Json.ofMap`).

Main definitions:

* `RecordGrid.Json.Number`, `RecordGrid.Json` — the values;
* `RecordGrid.Json.plainZeros` — the value with every negative zero made positive;
* `RecordGrid.Json.same` — equality up to the sign of zero, by which row keys are compared.

Main results:

* `RecordGrid.Json.beq_iff` — equality of values is decidable;
* `RecordGrid.Json.same_refl`, `same_comm`, `same_trans` — `same` is an equivalence.
-/

import RecordGrid.KeyMap

set_option relaxedAutoImplicit false
set_option autoImplicit false

namespace RecordGrid

/-! ### Numbers -/

/-- A JSON number, in one of its three forms. -/
inductive Json.Number where
  /-- A whole number from zero up. -/
  | nat (n : UInt64)
  /-- The whole number `-(n + 1)`. -/
  | negSucc (n : Fin 0x8000000000000000)
  /-- A binary64 number; finite in every value that was read from text. -/
  | float (x : Float)
deriving DecidableEq

namespace Json.Number

/-- Whether a binary64 number is neither infinite nor a NaN: its exponent field is not full. -/
def isFinite (x : Float) : Bool :=
  x.toBits &&& 0x7ff0000000000000 != 0x7ff0000000000000

/-- The number of a float, if it is finite. -/
def ofFloat? (x : Float) : Option Number :=
  if isFinite x then some (.float x) else none

/-- The nearest binary64 number. -/
def toFloat : Number → Float
  | .nat n => n.toFloat
  | .negSucc n => -(UInt64.ofNat (n.val + 1)).toFloat
  | .float x => x

/-- The number as a count: only the form `nat` is one. -/
def toCount? : Number → Option UInt64
  | .nat n => some n
  | _ => none

/-- The number with a negative zero made positive. -/
def plainZero : Number → Number
  | .float x => .float (if x.toBits = 0x8000000000000000 then Float.ofBits 0 else x)
  | n => n

end Json.Number

/-! ### Values -/

/-- A JSON value. -/
inductive Json where
  /-- The value `null`. -/
  | null
  /-- A truth value. -/
  | bool (b : Bool)
  /-- A number. -/
  | number (n : Json.Number)
  /-- A text. -/
  | string (s : String)
  /-- A list of values. -/
  | array (items : List Json)
  /-- Named members. -/
  | object (members : List (String × Json))

namespace Json

instance : Inhabited Json := ⟨.null⟩

/-- The object with the entries of a map. -/
def ofMap (m : KeyMap Json) : Json := .object m.entries

/-- A count as a value. -/
def ofCount (n : UInt64) : Json := .number (.nat n)

/-- A float as a value; `null` stands for a float that is not finite. -/
def ofFloat (x : Float) : Json :=
  match Number.ofFloat? x with
  | some n => .number n
  | none => .null

/-- The list of texts as a value. -/
def ofStrings (ss : List String) : Json := .array (ss.map .string)

/-- The value that an optional value stands for; `null` when there is none. -/
def ofOption : Option Json → Json
  | some j => j
  | none => .null

/-- Whether the value is `null`. -/
def isNull : Json → Bool
  | .null => true
  | _ => false

/-- The text of a string value. -/
def string? : Json → Option String
  | .string s => some s
  | _ => none

/-- The count of a number value, if it is one. -/
def count? : Json → Option UInt64
  | .number n => n.toCount?
  | _ => none

/-! ### Equality -/

mutual

/-- Whether two values are equal. -/
def beq : Json → Json → Bool
  | .null, .null => true
  | .bool a, .bool b => a == b
  | .number a, .number b => a == b
  | .string a, .string b => a == b
  | .array a, .array b => beqItems a b
  | .object a, .object b => beqMembers a b
  | _, _ => false

/-- Whether two lists of values are equal. -/
def beqItems : List Json → List Json → Bool
  | [], [] => true
  | a :: as, b :: bs => beq a b && beqItems as bs
  | _, _ => false

/-- Whether two lists of members are equal. -/
def beqMembers : List (String × Json) → List (String × Json) → Bool
  | [], [] => true
  | (k, a) :: as, (j, b) :: bs => k == j && beq a b && beqMembers as bs
  | _, _ => false

end

mutual

theorem beq_iff : ∀ a b : Json, beq a b = true ↔ a = b
  | .null, b => by cases b <;> simp [beq]
  | .bool a, b => by cases b <;> simp [beq]
  | .number a, b => by cases b <;> simp [beq]
  | .string a, b => by cases b <;> simp [beq]
  | .array a, b => by cases b <;> simp [beq, beqItems_iff a]
  | .object a, b => by cases b <;> simp [beq, beqMembers_iff a]

theorem beqItems_iff : ∀ a b : List Json, beqItems a b = true ↔ a = b
  | [], b => by cases b <;> simp [beqItems]
  | a :: as, b => by cases b <;> simp [beqItems, beq_iff a, beqItems_iff as]

theorem beqMembers_iff : ∀ a b : List (String × Json), beqMembers a b = true ↔ a = b
  | [], b => by cases b <;> simp [beqMembers]
  | (k, a) :: as, b => by
      cases b with
      | nil => simp [beqMembers]
      | cons hd tl =>
          obtain ⟨j, b⟩ := hd
          simp [beqMembers, beq_iff a, beqMembers_iff as]

end

instance : DecidableEq Json := fun a b =>
  decidable_of_iff (beq a b = true) (beq_iff a b)

/-! ### Equality up to the sign of zero -/

mutual

/-- The value with every negative zero made positive. -/
def plainZeros : Json → Json
  | .number n => .number n.plainZero
  | .array items => .array (plainZerosItems items)
  | .object members => .object (plainZerosMembers members)
  | j => j

/-- The values with every negative zero made positive. -/
def plainZerosItems : List Json → List Json
  | [] => []
  | j :: js => plainZeros j :: plainZerosItems js

/-- The members with every negative zero made positive. -/
def plainZerosMembers : List (String × Json) → List (String × Json)
  | [] => []
  | (k, j) :: js => (k, plainZeros j) :: plainZerosMembers js

end

/-- Whether two values are equal when zeros of either sign count as equal. -/
def same (a b : Json) : Bool :=
  decide (a.plainZeros = b.plainZeros)

theorem same_iff {a b : Json} : same a b = true ↔ a.plainZeros = b.plainZeros := by
  simp [same]

@[simp] theorem same_refl (a : Json) : same a a = true := by simp [same]

theorem same_comm (a b : Json) : same a b = same b a := by
  simp [same, eq_comm]

theorem same_trans {a b c : Json} (hab : same a b = true) (hbc : same b c = true) :
    same a c = true :=
  same_iff.2 ((same_iff.1 hab).trans (same_iff.1 hbc))

end Json

end RecordGrid
