/-
**Whole numbers have finite floats.**

A number that is read as a float is taken at its nearest binary64 value, and a whole number of 64
bits is far from the largest of these.  So nothing that is read from finite numbers overflows.

The proof follows the way in which a float is made of a whole number: its digits are shifted into 53
bits, rounded, and shifted once more if the rounding has carried over.  Only the exponent matters
for overflow, so all that is kept along the way is a generous bound on it.

Main definitions:

* `RecordGrid.Json.Number.Finite` — a number whose float, if it is one, is finite;
* `RecordGrid.Json.Number.Moderate` — an exponent that does not overflow.

Main results:

* `RecordGrid.Json.Number.moderate_ofUInt64` — a whole number of 64 bits does not overflow;
* `RecordGrid.Json.Number.isFinite_toFloat` — **the nearest float of a finite number is finite**.
-/

import Mathlib.Algebra.Group.Nat.Defs
import RecordGrid.Json.Basic

set_option relaxedAutoImplicit false
set_option autoImplicit false

namespace RecordGrid.Json.Number

open Float.Model
open Float.Model.UnpackedFloat (ExtendedMantissa Accuracy shiftToTargetExponent shiftToExponent
  roundWithAccuracy)

/-- A number that is whole, or a finite float. -/
def Finite : Number → Prop
  | .float x => isFinite x = true
  | _ => True

/-! ### The exponent field -/

/-- The exponent field of a binary64 pattern. -/
def exponentField (b : BitVec 64) : BitVec 11 :=
  @UnpackedFloat.unpackExponent Format.binary64 b

theorem exponentField_and (b m : BitVec 64) :
    exponentField (b &&& m) = exponentField b &&& exponentField m := by
  apply BitVec.eq_of_getLsbD_eq
  intro i hi
  have hi' : i ≤ 10 := by omega
  simp [exponentField, UnpackedFloat.unpackExponent, hi', -BitVec.getLsbD_eq_getElem]

theorem exponentField_mask : exponentField 0x7ff0000000000000#64 = BitVec.allOnes 11 := by decide

theorem isFinite_of_exponentField {x : Float}
    (h : (exponentField x.toBits.toBitVec).toNat < 2047) : isFinite x = true := by
  rw [isFinite, bne_iff_ne]
  intro hfull
  have hand : x.toBits.toBitVec &&& 0x7ff0000000000000#64 = 0x7ff0000000000000#64 :=
    congrArg UInt64.toBitVec hfull
  have hfield := congrArg exponentField hand
  rw [exponentField_and, exponentField_mask, BitVec.and_allOnes] at hfield
  rw [hfield] at h
  exact absurd h (by decide)

/-! ### Packing and unpacking -/

/-- A float that does not overflow when it is packed. -/
def Moderate : UnpackedFloat → Prop
  | .zero _ => True
  | .finite _ _ e _ => e ≤ 971
  | .infinity _ | .notANumber => False

theorem moderate_dite {p : Prop} [Decidable p] {f : p → UnpackedFloat} {g : ¬p → UnpackedFloat}
    (hf : ∀ h, Moderate (f h)) (hg : ∀ h, Moderate (g h)) : Moderate (dite p f g) := by
  by_cases h : p
  · rw [dif_pos h]
    exact hf h
  · rw [dif_neg h]
    exact hg h

/-- A finite float is packed as an infinity, as a normal number or as a subnormal one. -/
theorem pack_finite (s : UnpackedFloat.Sign) (m : Nat) (e : Int) (hm : 0 < m) :
    UnpackedFloat.pack Format.binary64 (.finite s m e hm) =
      if 2048 ≤ (e + 1023 + 52).toNat + 1 then UnpackedFloat.packedInfinity Format.binary64 s
      else if m.log2 + 1 = 53 then
        UnpackedFloat.packComponents Format.binary64 s (BitVec.ofNat 11 (e + 1023 + 52).toNat)
          (BitVec.ofNat 52 m)
      else UnpackedFloat.packComponents Format.binary64 s 0#11 (BitVec.ofNat 52 m) := rfl

theorem exponentField_pack {f : UnpackedFloat} (h : Moderate f) :
    (exponentField (UnpackedFloat.pack Format.binary64 f)).toNat < 2047 := by
  cases f with
  | infinity s => exact h.elim
  | notANumber => exact h.elim
  | zero s =>
      show (exponentField (UnpackedFloat.packedZero Format.binary64 s)).toNat < 2047
      rw [exponentField, UnpackedFloat.packedZero, UnpackedFloat.unpackExponent_packComponents]
      decide
  | finite s m e hm =>
      have he : e ≤ 971 := h
      have hbias : (e + 1023 + 52).toNat < 2047 := by omega
      rw [exponentField, pack_finite, if_neg (by omega)]
      split
      · rw [UnpackedFloat.unpackExponent_packComponents, BitVec.toNat_ofNat]
        exact Nat.lt_of_le_of_lt (Nat.mod_le _ _) hbias
      · rw [UnpackedFloat.unpackExponent_packComponents]
        decide

theorem moderate_unpack {b : BitVec 64} (h : (exponentField b).toNat < 2047) :
    Moderate (UnpackedFloat.unpack Format.binary64 b) := by
  have hne : @UnpackedFloat.unpackExponent Format.binary64 b ≠ -1#_ := by
    intro hfull
    rw [exponentField, hfull] at h
    exact absurd h (by decide)
  have hle : ((exponentField b).toNat : Int) - 1075 ≤ 971 := by omega
  show Moderate (if @UnpackedFloat.unpackExponent Format.binary64 b = -1#_ then _ else _)
  rw [if_neg hne]
  -- The least exponent field is shared by the zeros and the subnormal numbers.
  by_cases hzero : @UnpackedFloat.unpackExponent Format.binary64 b = 0#_
  · rw [if_pos hzero]
    refine moderate_dite (fun _ => trivial) fun _ => ?_
    rw [hzero]
    exact (by decide : (-1074 : Int) ≤ 971)
  · rw [if_neg hzero]
    exact hle

theorem moderate_neg {f : UnpackedFloat} (h : Moderate f) : Moderate f.neg := by
  cases f <;> exact h

/-! ### Rounding -/

/-- A number below `2 ^ t` is shifted until 53 of its digits are left, but not below the least
exponent. -/
theorem targetExponent_binary64 (t : Int) :
    Format.binary64.targetExponent t = max (t - 53) (-1074) := rfl

theorem log2_le {m M : Nat} (hm : m < 2 ^ M) : m.log2 ≤ M := by
  by_cases h0 : m = 0
  · simp [h0]
  · exact Nat.le_of_lt ((Nat.log2_lt h0).2 hm)

theorem mantissa_shiftRight_le (em : ExtendedMantissa) (k : Nat) :
    (em >>> k).mantissa ≤ em.mantissa := by
  induction k with
  | zero => exact Nat.le_refl _
  | succ k ih => exact Nat.le_trans (Nat.div_le_self _ 2) ih

theorem roundedMantissa_le (em : ExtendedMantissa) : em.roundedMantissa ≤ em.mantissa + 1 := by
  obtain ⟨m, roundBit, stickyBit⟩ := em
  have heven : m + m % 2 ≤ m + 1 := by omega
  cases roundBit <;> cases stickyBit <;>
    simp [ExtendedMantissa.roundedMantissa, ExtendedMantissa.accuracy,
      Accuracy.roundToNearestEven, heven]

/-- Shifting drops digits and raises the exponent, by no more than there are digits. -/
theorem shift_bounds {m M : Nat} (hm : m < 2 ^ M) {e : Int} (he : -1074 ≤ e) :
    (shiftToTargetExponent Format.binary64 m e .exact).1.mantissa ≤ m ∧
      e ≤ (shiftToTargetExponent Format.binary64 m e .exact).2 ∧
      (shiftToTargetExponent Format.binary64 m e .exact).2 ≤ e + M := by
  have hlog := log2_le hm
  refine ⟨mantissa_shiftRight_le _ _, ?_⟩
  simp only [shiftToTargetExponent, shiftToExponent, targetExponent_binary64, totalExponent]
  omega

theorem moderate_roundWithAccuracy (s : UnpackedFloat.Sign) {m : Nat} (hm : m < 2 ^ 116) {e : Int}
    (he : -1074 ≤ e) (he' : e ≤ 0) :
    Moderate (roundWithAccuracy Format.binary64 s m e .exact) := by
  obtain ⟨hm₁, hlow, hhigh⟩ := shift_bounds hm he
  -- rounding may carry over into one more digit, and then there is a second shift
  have hrounded := roundedMantissa_le (shiftToTargetExponent Format.binary64 m e .exact).1
  obtain ⟨-, -, hhigh'⟩ := shift_bounds
    (show (shiftToTargetExponent Format.binary64 m e .exact).1.roundedMantissa < 2 ^ 117 by omega)
    (show -1074 ≤ (shiftToTargetExponent Format.binary64 m e .exact).2 by omega)
  have hexponent := Int.le_trans hhigh' (show _ ≤ (971 : Int) by omega)
  exact moderate_dite (fun _ => trivial) fun _ => hexponent

theorem moderate_round (s : UnpackedFloat.Sign) {m : Nat} (hm : m < 2 ^ 64) :
    Moderate (UnpackedFloat.round Format.binary64 s m 0) := by
  have hk : (0 - Format.binary64.targetExponent (totalExponent m 0)).toNat ≤ 52 := by
    rw [targetExponent_binary64, totalExponent]
    omega
  have hshift : m <<< (0 - Format.binary64.targetExponent (totalExponent m 0)).toNat <
      2 ^ 116 := by
    rw [Nat.shiftLeft_eq]
    calc m * 2 ^ _ < 2 ^ 64 * 2 ^ _ := Nat.mul_lt_mul_of_pos_right hm (Nat.two_pow_pos _)
      _ ≤ 2 ^ 64 * 2 ^ 52 := Nat.mul_le_mul_left _ (Nat.pow_le_pow_right (by decide) hk)
      _ = 2 ^ 116 := by decide
  exact moderate_roundWithAccuracy s hshift (by omega) (by omega)

/-- A whole number of 64 bits does not overflow. -/
theorem moderate_ofUInt64 (n : UInt64) :
    Moderate (UnpackedFloat.ofUInt64 Format.binary64 n) := by
  have hn : n.toNat < 2 ^ 64 := n.toNat_lt
  simp only [UnpackedFloat.ofUInt64, UnpackedFloat.ofNat, UnpackedFloat.ofInt,
    UnpackedFloat.normalize]
  split
  · exact moderate_round _ (by omega)
  · trivial
  · exact moderate_round _ (by omega)

/-! ### The nearest float -/

/-- **The nearest float of a finite number is finite.** -/
theorem isFinite_toFloat {n : Number} (h : n.Finite) : isFinite n.toFloat = true := by
  cases n with
  | nat n => exact isFinite_of_exponentField (exponentField_pack (moderate_ofUInt64 n))
  | negSucc n =>
      have hnat := exponentField_pack (moderate_ofUInt64 (UInt64.ofNat (n.val + 1)))
      exact isFinite_of_exponentField (exponentField_pack (moderate_neg (moderate_unpack hnat)))
  | float x => exact h

end RecordGrid.Json.Number
