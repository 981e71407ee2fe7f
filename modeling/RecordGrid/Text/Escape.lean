/-
**Escape sequences.**

A terminal does not draw the sequences that begin with an escape character.  They are read one
character at a time: a control sequence ends in a letter, a command in a bell, a device string in
the byte `0x9c`, and each of them, as well as any other string, in a cancel, a substitute or the
next escape character.  A sequence that is not finished hides the rest of the text.

Main definitions:

* `RecordGrid.Text.Escape.State` — where the reader stands;
* `RecordGrid.Text.Escape.step` — what one character draws, and where the reader stands after it;
* `RecordGrid.Text.Escape.strip` — what a terminal draws of a text.

Main results:

* `RecordGrid.Text.Escape.strip_eq_self` — a text without controls is drawn as it is.
-/

import RecordGrid.Text.Utf8

set_option relaxedAutoImplicit false
set_option autoImplicit false

namespace RecordGrid.Text.Escape

/-! ### States -/

/-- The parts of the head of a device string. -/
inductive DevicePart where
  /-- Nothing yet. -/
  | start
  /-- Numbers. -/
  | numbers
  /-- Marks, after which no number may follow. -/
  | marks
deriving DecidableEq, Repr

/-- Where a reader of a text with escape sequences stands. -/
inductive State where
  /-- In text. -/
  | text
  /-- After an escape character. -/
  | escape
  /-- After an escape character and marks. -/
  | marked
  /-- In a control sequence. -/
  | control
  /-- In a command for the window. -/
  | command
  /-- In the head of a device string. -/
  | device (part : DevicePart)
  /-- In the contents of a device string. -/
  | contents
  /-- In any other string. -/
  | string
deriving DecidableEq, Repr

/-! ### Steps -/

/-- Whether a character is a control that draws nothing. -/
def isControl (c : Char) : Bool := c.toNat < 0x20 || 0x80 ≤ c.toNat && c.toNat < 0xa0

/-- Whether a character breaks off every sequence. -/
def isCancel (c : Char) : Bool := c = '\x18' || c = '\x1a'

/-- The state after an escape character and `c`. -/
def afterEscape (c : Char) : State :=
  if 0x20 ≤ c.toNat ∧ c.toNat ≤ 0x2f then .marked
  else if c = '[' then .control
  else if c = ']' then .command
  else if c = 'P' then .device .start
  else if c = 'X' ∨ c = '^' ∨ c = '_' then .string
  else if 0x30 ≤ c.toNat ∧ c.toNat ≤ 0x7e then .text
  else .escape

/-- The state after a character in the head of a device string. -/
def afterDevice (part : DevicePart) (c : Char) : State :=
  let n := c.toNat
  if 0x40 ≤ n ∧ n ≤ 0x7e then .contents
  else if 0x20 ≤ n ∧ n ≤ 0x2f then .device .marks
  else if 0x30 ≤ n ∧ n ≤ 0x3f then
    match part with
    | .start => .device .numbers
    | .numbers => if n ≤ 0x3b then .device .numbers else .string
    | .marks => .string
  else .device part

/-- What remains of a character in which a device string ends, if it ends there.  The byte that
ends it may be one of several, and then those after it are not text any more: some are controls,
and the others are replaced. -/
def remains? (c : Char) : Option (List Char) :=
  match (Utf8.encode [c]).dropWhile (· ≠ 0x9c) with
  | [] => none
  | _ :: bs => some ((bs.filter (0x9f < ·)).map fun _ => Utf8.replacement)

/-- What a character draws, and where the reader stands after it. -/
def step (s : State) (c : Char) : List Char × State :=
  if c = '\x1b' then ([], .escape)
  else if isCancel c then ([], .text)
  else match s with
    | .text => (if isControl c then [] else [c], .text)
    | .escape => ([], afterEscape c)
    | .marked => ([], if 0x30 ≤ c.toNat ∧ c.toNat ≤ 0x7e then .text else .marked)
    | .control => ([], if 0x40 ≤ c.toNat ∧ c.toNat ≤ 0x7e then .text else .control)
    | .command => ([], if c = '\x07' then .text else .command)
    | .device part => ([], afterDevice part c)
    | .contents =>
        match remains? c with
        | some cs => (cs, .text)
        | none => ([], .contents)
    | .string => ([], .string)

/-! ### Texts -/

/-- What a terminal draws of some characters. -/
def stripFrom : State → List Char → List Char
  | _, [] => []
  | s, c :: cs => (step s c).1 ++ stripFrom (step s c).2 cs

/-- What a terminal draws of a text. -/
def strip (cs : List Char) : List Char := stripFrom .text cs

@[simp] theorem strip_nil : strip [] = [] := rfl

/-- A text without controls is drawn as it is. -/
theorem strip_eq_self {cs : List Char} (h : ∀ c ∈ cs, isControl c = false) : strip cs = cs := by
  induction cs with
  | nil => rfl
  | cons c cs ih =>
      have hc : isControl c = false := h c (by simp)
      have hesc : c ≠ '\x1b' := by
        intro h
        simp [h, isControl] at hc
      have hcancel : isCancel c = false := by
        cases hd : isCancel c with
        | false => rfl
        | true =>
            rcases Bool.or_eq_true_iff.1 hd with h | h <;> simp_all [isControl]
      have hstep : step .text c = ([c], .text) := by simp [step, hesc, hcancel, hc]
      have hcs : stripFrom .text cs = cs := ih fun d hd => h d (by simp [hd])
      simp [strip, stripFrom, hstep, hcs]

end RecordGrid.Text.Escape
