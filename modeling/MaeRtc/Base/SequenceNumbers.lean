import MaeRtc.Base.SeqNumUnwrapper

/-!
# Comparison of sequence numbers

The comparisons of `sequence_number_util.h` for sequence numbers of sixteen bits.  A
number is ahead of those in the half of the circle behind it; of two opposite numbers the
larger one is ahead.  On less than half of the circle this is an order.
-/

namespace MaeRtc.Base

abbrev SeqNum := BitVec 16

def aheadOf (a b : SeqNum) : Bool :=
  a ≠ b && aheadOrAt 0 a b

/-- `DescendingSeqNumComp`: the older of two numbers comes first. -/
def descendingSeqNumComp (a b : SeqNum) : Bool :=
  aheadOf b a

namespace SeqNum

/-- How far `older` is behind `newer`. -/
def behind (newer older : SeqNum) : Nat :=
  (newer - older).toNat

theorem behind_eq (newer older : SeqNum) :
    behind newer older = (65536 - older.toNat + newer.toNat) % 65536 :=
  BitVec.toNat_sub newer older

theorem behind_lt (newer older : SeqNum) : behind newer older < 65536 :=
  (newer - older).isLt

theorem behind_eq_zero_iff {newer older : SeqNum} : behind newer older = 0 ↔ older = newer := by
  rw [behind_eq, ← BitVec.toNat_inj]
  omega

theorem eq_of_behind_eq {newer one two : SeqNum} (same : behind newer one = behind newer two) :
    one = two := by
  rw [behind_eq, behind_eq] at same
  rw [← BitVec.toNat_inj]
  omega

/-- The distance between two numbers that are both behind a third. -/
theorem behind_of_behind {newer one two : SeqNum} :
    behind one two = (65536 + behind newer two - behind newer one) % 65536 := by
  rw [behind_eq, behind_eq, behind_eq]
  omega

variable {a b : SeqNum}

theorem toNat_eq_iff : a.toNat = b.toNat ↔ behind a b = 0 := by
  rw [behind_eq_zero_iff, BitVec.toNat_inj, eq_comm]

theorem aheadOf_iff :
    aheadOf a b = true ↔ (0 < behind a b ∧ behind a b < 32768) ∨
      (behind a b = 32768 ∧ b.toNat < a.toNat) := by
  have half : (BitVec.ofNat 16 ((2 ^ 16 - 1) / 2 + 1)).toNat = 32768 := rfl
  have same := @toNat_eq_iff a b
  unfold aheadOf aheadOrAt forwardDiff
  simp only [if_true, Bool.and_eq_true, decide_not,
    Bool.not_eq_eq_eq_not, Bool.not_true, decide_eq_false_iff_not, ← BitVec.toNat_inj, half]
  by_cases opposite : (a - b).toNat = 32768
  · have isBehind : behind a b = 32768 := opposite
    rw [if_pos opposite, decide_eq_true_eq, BitVec.lt_def]
    omega
  · have isBehind : behind a b ≠ 32768 := opposite
    rw [if_neg opposite, decide_eq_true_eq, BitVec.lt_def, half]
    change ¬ a.toNat = b.toNat ∧ behind a b < 32768 ↔ _
    omega

theorem behind_add_comm (differ : a ≠ b) : behind a b + behind b a = 65536 := by
  have notSame : a.toNat ≠ b.toNat := fun same => differ (BitVec.eq_of_toNat_eq same)
  rw [behind_eq, behind_eq]
  omega

/-- Of two numbers one is ahead of the other. -/
theorem aheadOf_or (a b : SeqNum) : a = b ∨ aheadOf a b = true ∨ aheadOf b a = true := by
  by_cases same : a = b
  · exact .inl same
  have total := behind_add_comm same
  have notSame : a.toNat ≠ b.toNat := fun equal => same (BitVec.eq_of_toNat_eq equal)
  have lower : behind a b ≠ 0 := fun zero => same (behind_eq_zero_iff.mp zero).symm
  right
  rw [aheadOf_iff, aheadOf_iff]
  rcases lt_trichotomy (behind a b) 32768 with near | opposite | far
  · exact .inl (.inl ⟨Nat.pos_of_ne_zero lower, near⟩)
  · omega
  · exact .inr (.inl ⟨by have := behind_lt a b; omega, by omega⟩)

theorem not_aheadOf_self (a : SeqNum) : aheadOf a a = false := by
  simp [aheadOf]

end SeqNum

end MaeRtc.Base
