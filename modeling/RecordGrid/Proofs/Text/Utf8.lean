/-
**UTF-8 that was written is read back.**

The reader accepts any bytes, and puts a replacement character wherever they are not UTF-8.  On the
bytes of some characters it has nothing to replace: the first byte of each character announces how
many bytes follow and what the next of them may be, and the bytes that follow keep within these
bounds, because the character is neither a surrogate nor beyond the last one and was written with as
few bytes as it needs.

Main definitions:

* `RecordGrid.Text.Utf8.tail` — the bytes that follow the first one.

Main results:

* `RecordGrid.Text.Utf8.decodeFrom_utf8EncodeChar` — one character is read back, whatever follows;
* `RecordGrid.Text.Utf8.decode_encode` — **characters that were written are read back**.
-/

import RecordGrid.Text.Utf8

set_option relaxedAutoImplicit false
set_option autoImplicit false

namespace RecordGrid.Text.Utf8

/-! ### First bytes -/

theorem lead_one : ∀ n < 0x80, lead (UInt8.ofNat n) = .single (Char.ofNat n) := by
  decide

theorem lead_two : ∀ n < 0x20, 2 ≤ n →
    lead (UInt8.ofNat (n + 0xc0)) = .multiple ⟨n, 0, 0x80, 0xbf⟩ := by
  decide

theorem lead_three : ∀ n < 0x10,
    lead (UInt8.ofNat (n + 0xe0)) =
      .multiple ⟨n, 1, if n = 0 then 0xa0 else 0x80, if n = 0xd then 0x9f else 0xbf⟩ := by
  decide

theorem lead_four : ∀ n < 5,
    lead (UInt8.ofNat (n + 0xf0)) =
      .multiple ⟨n, 2, if n = 0 then 0x90 else 0x80, if n = 4 then 0x8f else 0xbf⟩ := by
  decide

/-! ### The bytes that follow -/

/-- The byte with the lowest six bits of a number, as it follows the first byte of a character. -/
def tail (n : Nat) : UInt8 := UInt8.ofNat (n % 0x40 + 0x80)

theorem toNat_tail (n : Nat) : (tail n).toNat = n % 0x40 + 0x80 :=
  UInt8.toNat_ofNat_of_lt' (by show n % 0x40 + 0x80 < 0x100; omega)

theorem ofNat_le_tail_iff {m : Nat} (hm : m < 0x100) (n : Nat) :
    UInt8.ofNat m ≤ tail n ↔ m ≤ n % 0x40 + 0x80 := by
  rw [UInt8.le_iff_toNat_le, toNat_tail, UInt8.toNat_ofNat_of_lt' hm]

theorem tail_le_ofNat_iff {m : Nat} (hm : m < 0x100) (n : Nat) :
    tail n ≤ UInt8.ofNat m ↔ n % 0x40 + 0x80 ≤ m := by
  rw [UInt8.le_iff_toNat_le, toNat_tail, UInt8.toNat_ofNat_of_lt' hm]

theorem tail_bounds (n : Nat) : 0x80 ≤ tail n ∧ tail n ≤ 0xbf := by
  constructor
  · exact (ofNat_le_tail_iff (m := 0x80) (by decide) n).2 (by omega)
  · exact (tail_le_ofNat_iff (m := 0xbf) (by decide) n).2 (by omega)

theorem decodeFrom_single {b : UInt8} {c : Char} (h : lead b = .single c) (bs : List UInt8) :
    decodeFrom none (b :: bs) = c :: decodeFrom none bs := by
  rw [decodeFrom, step, start, h]
  rfl

theorem decodeFrom_multiple {b : UInt8} {p : Pending} (h : lead b = .multiple p)
    (bs : List UInt8) : decodeFrom none (b :: bs) = decodeFrom (some p) bs := by
  rw [decodeFrom, step, start, h]
  rfl

/-- The last byte of a character completes it. -/
theorem decodeFrom_tail_last {bits n : Nat} {least greatest : UInt8}
    (h : least ≤ tail n ∧ tail n ≤ greatest) (bs : List UInt8) :
    decodeFrom (some ⟨bits, 0, least, greatest⟩) (tail n :: bs) =
      Char.ofNat (0x40 * bits + n % 0x40) :: decodeFrom none bs := by
  rw [decodeFrom, step, if_pos h, toNat_tail, Nat.add_sub_cancel]
  rfl

/-- Any other byte adds its six bits. -/
theorem decodeFrom_tail_more {bits more n : Nat} {least greatest : UInt8}
    (h : least ≤ tail n ∧ tail n ≤ greatest) (bs : List UInt8) :
    decodeFrom (some ⟨bits, more + 1, least, greatest⟩) (tail n :: bs) =
      decodeFrom (some ⟨0x40 * bits + n % 0x40, more, 0x80, 0xbf⟩) bs := by
  rw [decodeFrom, step, if_pos h, toNat_tail, Nat.add_sub_cancel]
  rfl

/-! ### Characters -/

/-- A character of two bytes. -/
theorem decodeFrom_two {v : Nat} (hlow : 0x80 ≤ v) (hhigh : v < 0x800) (bs : List UInt8) :
    decodeFrom none (UInt8.ofNat (v / 0x40 % 0x20 + 0xc0) :: tail v :: bs) =
      Char.ofNat v :: decodeFrom none bs := by
  have hlead := lead_two (v / 0x40 % 0x20) (by omega) (by omega)
  have hv : 0x40 * (v / 0x40 % 0x20) + v % 0x40 = v := by omega
  rw [decodeFrom_multiple hlead, decodeFrom_tail_last (tail_bounds v), hv]

/-- A character of three bytes. -/
theorem decodeFrom_three {v : Nat} (hlow : 0x800 ≤ v) (hhigh : v < 0x10000)
    (hvalid : v < 0xd800 ∨ 0xdfff < v) (bs : List UInt8) :
    decodeFrom none (UInt8.ofNat (v / 0x1000 % 0x10 + 0xe0) :: tail (v / 0x40) :: tail v :: bs) =
      Char.ofNat v :: decodeFrom none bs := by
  have hlead := lead_three (v / 0x1000 % 0x10) (by omega)
  have hleast : (if v / 0x1000 % 0x10 = 0 then 0xa0 else 0x80 : UInt8) ≤ tail (v / 0x40) := by
    split
    · exact (ofNat_le_tail_iff (m := 0xa0) (by decide) _).2 (by omega)
    · exact (tail_bounds _).1
  have hgreatest : tail (v / 0x40) ≤ (if v / 0x1000 % 0x10 = 0xd then 0x9f else 0xbf : UInt8) := by
    split
    · -- what begins with these four bits and is no surrogate goes on with a zero
      exact (tail_le_ofNat_iff (m := 0x9f) (by decide) _).2 (by omega)
    · exact (tail_bounds _).2
  have hv : 0x40 * (0x40 * (v / 0x1000 % 0x10) + v / 0x40 % 0x40) + v % 0x40 = v := by omega
  rw [decodeFrom_multiple hlead, decodeFrom_tail_more ⟨hleast, hgreatest⟩,
    decodeFrom_tail_last (tail_bounds v), hv]

/-- A character of four bytes. -/
theorem decodeFrom_four {v : Nat} (hlow : 0x10000 ≤ v) (hhigh : v < 0x110000) (bs : List UInt8) :
    decodeFrom none (UInt8.ofNat (v / 0x40000 % 8 + 0xf0) :: tail (v / 0x1000) :: tail (v / 0x40) ::
        tail v :: bs) =
      Char.ofNat v :: decodeFrom none bs := by
  have hlead := lead_four (v / 0x40000 % 8) (by omega)
  have hleast : (if v / 0x40000 % 8 = 0 then 0x90 else 0x80 : UInt8) ≤ tail (v / 0x1000) := by
    split
    · exact (ofNat_le_tail_iff (m := 0x90) (by decide) _).2 (by omega)
    · exact (tail_bounds _).1
  have hgreatest : tail (v / 0x1000) ≤ (if v / 0x40000 % 8 = 4 then 0x8f else 0xbf : UInt8) := by
    split
    · -- the last character begins with these three bits, and goes on with zeros
      exact (tail_le_ofNat_iff (m := 0x8f) (by decide) _).2 (by omega)
    · exact (tail_bounds _).2
  have hv : 0x40 * (0x40 * (0x40 * (v / 0x40000 % 8) + v / 0x1000 % 0x40) + v / 0x40 % 0x40) +
      v % 0x40 = v := by omega
  rw [decodeFrom_multiple hlead, decodeFrom_tail_more ⟨hleast, hgreatest⟩,
    decodeFrom_tail_more (tail_bounds _), decodeFrom_tail_last (tail_bounds v), hv]

/-- **One character is read back**, whatever follows. -/
theorem decodeFrom_utf8EncodeChar (c : Char) (bs : List UInt8) :
    decodeFrom none (String.utf8EncodeChar c ++ bs) = c :: decodeFrom none bs := by
  have hvalid : c.val.toNat < 0xd800 ∨ 0xdfff < c.val.toNat ∧ c.val.toNat < 0x110000 := c.valid
  have hself : Char.ofNat c.val.toNat = c := Char.ofNat_toNat c
  simp only [String.utf8EncodeChar]
  split
  · next h =>
      have hlead := lead_one c.val.toNat (by omega)
      rw [hself] at hlead
      exact decodeFrom_single hlead bs
  split
  · next h₁ h₂ =>
      have h := decodeFrom_two (v := c.val.toNat) (by omega) (by omega) bs
      rwa [hself] at h
  split
  · next h₁ h₂ h₃ =>
      have h := decodeFrom_three (v := c.val.toNat) (by omega) (by omega) (by omega) bs
      rwa [hself] at h
  · next h₁ h₂ h₃ =>
      have h := decodeFrom_four (v := c.val.toNat) (by omega) (by omega) bs
      rwa [hself] at h

/-- **Characters that were written are read back.** -/
theorem decode_encode (cs : List Char) : decode (encode cs) = cs := by
  rw [decode]
  induction cs with
  | nil => rfl
  | cons c cs ih => rw [encode_cons, decodeFrom_utf8EncodeChar, ih]

end RecordGrid.Text.Utf8
