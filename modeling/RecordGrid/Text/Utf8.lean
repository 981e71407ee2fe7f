/-
**UTF-8, read leniently.**

Characters are written as one to four bytes.  Reading never fails: each maximal run of bytes that
starts a character but does not complete it, and each byte that starts none, becomes one
replacement character.  The reader goes byte by byte and remembers the character it is inside of.

Main definitions:

* `RecordGrid.Text.Utf8.encode` — the bytes of some characters;
* `RecordGrid.Text.Utf8.Pending` — an incomplete character;
* `RecordGrid.Text.Utf8.decode` — the characters of some bytes.
-/

set_option relaxedAutoImplicit false
set_option autoImplicit false

namespace RecordGrid.Text.Utf8

/-- The bytes of some characters. -/
def encode (cs : List Char) : List UInt8 :=
  cs.flatMap String.utf8EncodeChar

@[simp] theorem encode_nil : encode [] = [] := rfl

@[simp] theorem encode_cons (c : Char) (cs : List Char) :
    encode (c :: cs) = String.utf8EncodeChar c ++ encode cs := rfl

theorem encode_append (cs ds : List Char) : encode (cs ++ ds) = encode cs ++ encode ds := by
  simp [encode]

/-- What an incomplete sequence of bytes is read as. -/
def replacement : Char := '\ufffd'

/-- An incomplete character: its bits so far, the number of bytes still owed, and the bounds of
the next byte. -/
structure Pending where
  /-- The bits read so far. -/
  bits : Nat
  /-- The number of bytes owed, the next one not counted. -/
  more : Nat
  /-- The least next byte. -/
  least : UInt8
  /-- The greatest next byte. -/
  greatest : UInt8
deriving DecidableEq

/-- What the first byte of a character announces. -/
inductive Lead where
  /-- The byte is a character of its own. -/
  | single (c : Char)
  /-- More bytes follow. -/
  | multiple (p : Pending)
  /-- No character starts like this. -/
  | invalid
deriving DecidableEq

/-- What a first byte announces.  The bounds of the second byte exclude overlong forms, surrogates
and numbers beyond the last character. -/
def lead (b : UInt8) : Lead :=
  let n := b.toNat
  if n < 0x80 then .single (Char.ofNat n)
  else if n < 0xc2 then .invalid
  else if n < 0xe0 then .multiple ⟨n - 0xc0, 0, 0x80, 0xbf⟩
  else if n = 0xe0 then .multiple ⟨0, 1, 0xa0, 0xbf⟩
  else if n = 0xed then .multiple ⟨0xd, 1, 0x80, 0x9f⟩
  else if n < 0xf0 then .multiple ⟨n - 0xe0, 1, 0x80, 0xbf⟩
  else if n = 0xf0 then .multiple ⟨0, 2, 0x90, 0xbf⟩
  else if n < 0xf4 then .multiple ⟨n - 0xf0, 2, 0x80, 0xbf⟩
  else if n = 0xf4 then .multiple ⟨4, 2, 0x80, 0x8f⟩
  else .invalid

/-- Reads a byte that follows a complete character: the characters it yields, and the character
it opens. -/
def start (b : UInt8) : List Char × Option Pending :=
  match lead b with
  | .single c => ([c], none)
  | .multiple p => ([], some p)
  | .invalid => ([replacement], none)

/-- Reads one byte. -/
def step : Option Pending → UInt8 → List Char × Option Pending
  | none, b => start b
  | some p, b =>
      if p.least ≤ b ∧ b ≤ p.greatest then
        let bits := 64 * p.bits + (b.toNat - 0x80)
        match p.more with
        | 0 => ([Char.ofNat bits], none)
        | n + 1 => ([], some ⟨bits, n, 0x80, 0xbf⟩)
      else
        let (cs, q) := start b
        (replacement :: cs, q)

/-- Reads bytes after an incomplete character, or after a complete one. -/
def decodeFrom : Option Pending → List UInt8 → List Char
  | none, [] => []
  | some _, [] => [replacement]
  | p, b :: bs =>
      let (cs, q) := step p b
      cs ++ decodeFrom q bs

/-- The characters of some bytes. -/
def decode (bs : List UInt8) : List Char :=
  decodeFrom none bs

end RecordGrid.Text.Utf8
