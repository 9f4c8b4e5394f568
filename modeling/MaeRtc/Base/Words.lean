import Mathlib

/-!
# Words that hold small numbers

What a conversion to a type of fixed width keeps of a number.  Numbers that a signed word
of 32 bits can hold survive the conversions between words of 32 and 64 bits, signed or not,
and so does a difference of two of them.
-/

namespace MaeRtc.Base

def int32 (value : Int) : Int :=
  value.bmod (2 ^ 32)

def int64 (value : Int) : Int :=
  value.bmod (2 ^ 64)

def uint32 (value : Int) : Nat :=
  (value % 2 ^ 32).toNat

def uint64 (value : Int) : Nat :=
  (value % 2 ^ 64).toNat

namespace Words

theorem int32_of_small {value : Int} (above : -2 ^ 31 ≤ value) (below : value < 2 ^ 31) :
    int32 value = value := by
  refine Int.bmod_eq_of_le_mul_two ?_ ?_ <;> omega

theorem int64_of_small {value : Int} (above : -2 ^ 63 ≤ value) (below : value < 2 ^ 63) :
    int64 value = value := by
  refine Int.bmod_eq_of_le_mul_two ?_ ?_ <;> omega

theorem uint32_of_nonneg {value : Int} (nonneg : 0 ≤ value) (small : value < 2 ^ 32) :
    (uint32 value : Int) = value := by
  rw [uint32, Int.emod_eq_of_lt nonneg small, Int.toNat_of_nonneg nonneg]

theorem uint64_of_nonneg {value : Int} (nonneg : 0 ≤ value) (small : value < 2 ^ 64) :
    (uint64 value : Int) = value := by
  rw [uint64, Int.emod_eq_of_lt nonneg small, Int.toNat_of_nonneg nonneg]

theorem toInt_ofNat_of_small {width number : Nat} (small : 2 * number < 2 ^ width) :
    (BitVec.ofNat width number).toInt = number := by
  have same : (BitVec.ofNat width number).toNat = number := by
    rw [BitVec.toNat_ofNat, Nat.mod_eq_of_lt (by omega)]
  rw [BitVec.toInt_eq_toNat_of_lt (by rw [same]; exact small), same]

theorem signExtend_ofNat {number : Nat} (small : number < 2 ^ 31) :
    (BitVec.ofNat 32 number).signExtend 64 = BitVec.ofNat 64 number := by
  refine BitVec.eq_of_toInt_eq ?_
  rw [BitVec.toInt_signExtend_of_le (by decide), toInt_ofNat_of_small (by omega),
    toInt_ofNat_of_small (by omega)]

/-- A difference, which may be negative, is the same in both widths. -/
theorem signExtend_ofNat_sub {one two : Nat} (oneSmall : one < 2 ^ 31) (twoSmall : two < 2 ^ 31) :
    (BitVec.ofNat 32 one - BitVec.ofNat 32 two).signExtend 64 =
      BitVec.ofNat 64 one - BitVec.ofNat 64 two := by
  refine BitVec.eq_of_toInt_eq ?_
  rw [BitVec.toInt_signExtend_of_le (by decide), BitVec.toInt_sub, BitVec.toInt_sub,
    toInt_ofNat_of_small (by omega), toInt_ofNat_of_small (by omega),
    toInt_ofNat_of_small (by omega), toInt_ofNat_of_small (by omega),
    Int.bmod_eq_of_le (by omega) (by omega), Int.bmod_eq_of_le (by omega) (by omega)]

theorem setWidth_ofNat (number : Nat) :
    (BitVec.ofNat 64 number).setWidth 32 = BitVec.ofNat 32 number := by
  refine BitVec.eq_of_toNat_eq ?_
  rw [BitVec.toNat_setWidth, BitVec.toNat_ofNat, BitVec.toNat_ofNat]
  omega

end Words

end MaeRtc.Base
