import Mathlib

/-!
# Unwrapping of wrapping sequence numbers

`SeqNumUnwrapper` of `rtc_base/numerics`, with the comparison functions of
`sequence_number_util.h` and `mod_ops.h`.  A wrapped value of an unsigned type
of `w` bits is a `BitVec w`; the template argument `M` is the number of values
in use, and `M = 0` stands for the full range of the type.  The 64-bit
unwrapped values are integers.
-/

namespace MaeRtc.Base

variable {w : Nat}

/-- Distance from `a` forward to `b`. -/
def forwardDiff (M a b : BitVec w) : BitVec w :=
  if M = 0 then b - a else if a ≤ b then b - a else M - (a - b)

/-- Distance from `a` backward to `b`. -/
def reverseDiff (M a b : BitVec w) : BitVec w :=
  if M = 0 then a - b else if b ≤ a then a - b else M - (b - a)

/-- The smaller of the two distances. -/
def minDiff (M a b : BitVec w) : BitVec w :=
  if forwardDiff M a b ≤ reverseDiff M a b then forwardDiff M a b
  else reverseDiff M a b

/-- Whether `a` is ahead of or at `b`; of two numbers at maximal distance the
larger one is ahead. -/
def aheadOrAt (M a b : BitVec w) : Bool :=
  if M = 0 then
    let maxDist := BitVec.ofNat w ((2 ^ w - 1) / 2 + 1)
    if a - b = maxDist then decide (b < a)
    else decide (forwardDiff M b a < maxDist)
  else
    let maxDist := BitVec.ofNat w (M.toNat / 2)
    if M.toNat % 2 = 0 ∧ minDiff M a b = maxDist then decide (b < a)
    else decide (forwardDiff M b a ≤ maxDist)

/-- The number of values in use. -/
def modulus (M : BitVec w) : Nat :=
  if M = 0 then 2 ^ w else M.toNat

theorem toNat_forwardDiff {M a b : BitVec w} (aLt : a.toNat < modulus M) (bLt : b.toNat < modulus M) :
    (forwardDiff M a b).toNat =
      if a.toNat ≤ b.toNat then b.toNat - a.toNat else modulus M - (a.toNat - b.toNat) := by
  have aBits := a.isLt
  have mBits := M.isLt
  unfold forwardDiff modulus at *
  by_cases full : M = 0
  · rw [if_pos full] at *
    rw [if_pos full, BitVec.toNat_sub]
    split_ifs
    · rw [show 2 ^ w - a.toNat + b.toNat = b.toNat - a.toNat + 2 ^ w by omega, Nat.add_mod_right,
        Nat.mod_eq_of_lt (by omega)]
    · rw [Nat.mod_eq_of_lt (by omega)]
      omega
  · rw [if_neg full] at *
    simp only [if_neg full, BitVec.le_def]
    split_ifs with ordered
    · exact BitVec.toNat_sub_of_le ordered
    · have inner := BitVec.toNat_sub_of_le (BitVec.le_def.mpr (Nat.le_of_not_le ordered))
      rw [BitVec.toNat_sub_of_le (BitVec.le_def.mpr (by rw [inner]; omega)), inner]

theorem toNat_maxDist (positive : 0 < w) (M : BitVec w) :
    (BitVec.ofNat w (if M = 0 then (2 ^ w - 1) / 2 + 1 else M.toNat / 2)).toNat = modulus M / 2 := by
  have mBits := M.isLt
  obtain ⟨n, rfl⟩ : ∃ n, w = n + 1 := ⟨w - 1, by omega⟩
  rw [BitVec.toNat_ofNat, modulus]
  split_ifs
  · rw [Nat.mod_eq_of_lt] <;> omega
  · exact Nat.mod_eq_of_lt (by omega)

/-- Ahead is at most half of the way forward, and behind at least half of it. -/
theorem forwardDiff_of_aheadOrAt (positive : 0 < w) {M a b : BitVec w} (aLt : a.toNat < modulus M)
    (bLt : b.toNat < modulus M) :
    (aheadOrAt M b a = true → 2 * (forwardDiff M a b).toNat ≤ modulus M) ∧
      (aheadOrAt M b a = false → modulus M ≤ 2 * (forwardDiff M a b).toNat) := by
  have half := toNat_maxDist positive M
  have around : (forwardDiff M a b).toNat + (forwardDiff M b a).toNat = modulus M ∨
      (forwardDiff M a b).toNat = (forwardDiff M b a).toNat := by
    rw [toNat_forwardDiff aLt bLt, toNat_forwardDiff bLt aLt]
    split_ifs <;> omega
  by_cases full : M = 0
  · have even : modulus M % 2 = 0 := by
      obtain ⟨n, rfl⟩ : ∃ n, w = n + 1 := ⟨w - 1, by omega⟩
      rw [modulus, if_pos full, Nat.pow_succ, Nat.mul_mod_left]
    have direct : b - a = forwardDiff M a b := by rw [forwardDiff, if_pos full]
    rw [if_pos full] at half
    rw [aheadOrAt, if_pos full, direct]
    simp only [BitVec.lt_def, ← BitVec.toNat_inj, half]
    generalize (forwardDiff M a b).toNat = forward at *
    by_cases middle : forward = modulus M / 2
    · omega
    · simp only [if_neg middle, decide_eq_true_eq, decide_eq_false_iff_not]
      omega
  · have isM : modulus M = M.toNat := if_neg full
    rw [if_neg full, ← isM] at half
    rw [aheadOrAt, if_neg full, minDiff, show reverseDiff M b a = forwardDiff M a b from rfl]
    simp only [BitVec.lt_def, BitVec.le_def, ← BitVec.toNat_inj, half, ← isM,
      apply_ite BitVec.toNat]
    generalize (forwardDiff M a b).toNat = forward at *
    generalize (forwardDiff M b a).toNat = backward at *
    by_cases middle : modulus M % 2 = 0 ∧
        (if backward ≤ forward then backward else forward) = modulus M / 2
    · obtain ⟨even, least⟩ := middle
      split at least <;> omega
    · simp only [if_neg middle, decide_eq_true_eq, decide_eq_false_iff_not]
      omega

/-- The state of an unwrapper of the values `0, …, M - 1`. -/
structure SeqNumUnwrapper (w : Nat) where
  lastUnwrapped : Int := 0
  lastValue : Option (BitVec w) := none
  deriving DecidableEq, Repr

namespace SeqNumUnwrapper

/-- Signed distance from the last value to the new one. -/
def delta (M lastValue newValue : BitVec w) : Int :=
  let result : Int := (forwardDiff M lastValue newValue).toNat
  if aheadOrAt M newValue lastValue then result
  else result - (if M = 0 then 2 ^ w else (M.toNat : Int))

/-- The unwrapped value, without a change of state. -/
def peekUnwrap (M : BitVec w) (unwrapper : SeqNumUnwrapper w)
    (value : BitVec w) : Int :=
  match unwrapper.lastValue with
  | none => value.toNat
  | some lastValue => unwrapper.lastUnwrapped + delta M lastValue value

/-- The unwrapped value, and the state that remembers it. -/
def unwrap (M : BitVec w) (unwrapper : SeqNumUnwrapper w)
    (value : BitVec w) : Int × SeqNumUnwrapper w :=
  let unwrapped := peekUnwrap M unwrapper value
  (unwrapped, ⟨unwrapped, some value⟩)

@[simp] theorem unwrap_fst (M : BitVec w) (unwrapper : SeqNumUnwrapper w)
    (value : BitVec w) : (unwrap M unwrapper value).1 = peekUnwrap M unwrapper value :=
  rfl

/-- The signed distance is the difference, up to turns, and at most half of a turn. -/
theorem delta_spec (positive : 0 < w) {M lastValue newValue : BitVec w}
    (lastLt : lastValue.toNat < modulus M) (newLt : newValue.toNat < modulus M) :
    2 * |delta M lastValue newValue| ≤ modulus M ∧ ∃ turns : Int,
      delta M lastValue newValue = newValue.toNat - lastValue.toNat + modulus M * turns := by
  have forward := toNat_forwardDiff lastLt newLt
  have adjustment : (if M = 0 then 2 ^ w else (M.toNat : Int)) = modulus M := by
    rw [modulus, Nat.cast_ite, Nat.cast_pow, Nat.cast_two]
  obtain ⟨isAhead, isBehind⟩ := forwardDiff_of_aheadOrAt positive lastLt newLt
  unfold delta
  rw [adjustment]
  cases ahead : aheadOrAt M newValue lastValue with
  | true =>
    have near := isAhead ahead
    rw [if_pos rfl, abs_of_nonneg (by omega)]
    refine ⟨by omega, if lastValue.toNat ≤ newValue.toNat then 0 else 1, ?_⟩
    split_ifs at forward ⊢ <;> omega
  | false =>
    have far := isBehind ahead
    rw [if_neg Bool.false_ne_true, abs_of_nonpos (by split_ifs at forward <;> omega)]
    refine ⟨by omega, if lastValue.toNat ≤ newValue.toNat then -1 else 0, ?_⟩
    split_ifs at forward ⊢ <;> omega

/-- The last value is the last unwrapped value, up to turns. -/
def InStep (M : BitVec w) (unwrapper : SeqNumUnwrapper w) : Prop :=
  ∃ last : BitVec w, unwrapper.lastValue = some last ∧ last.toNat < modulus M ∧
    unwrapper.lastUnwrapped % modulus M = last.toNat

/-- Every result is congruent to the value, and at most half of a turn away. -/
theorem peekUnwrap_spec (positive : 0 < w) {M : BitVec w} {unwrapper : SeqNumUnwrapper w}
    (inStep : unwrapper.InStep M) {value : BitVec w} (small : value.toNat < modulus M) :
    peekUnwrap M unwrapper value % modulus M = value.toNat ∧
      2 * |peekUnwrap M unwrapper value - unwrapper.lastUnwrapped| ≤ modulus M := by
  obtain ⟨last, isLast, lastLt, congruent⟩ := inStep
  obtain ⟨near, turns, isDelta⟩ := delta_spec positive lastLt small
  unfold peekUnwrap
  rw [isLast]
  dsimp only
  refine ⟨?_, by rwa [add_sub_cancel_left]⟩
  rw [Int.emod_def] at congruent
  rw [isDelta, ← congruent]
  have regroup : unwrapper.lastUnwrapped + (value.toNat - (unwrapper.lastUnwrapped -
      modulus M * (unwrapper.lastUnwrapped / modulus M)) + modulus M * turns) =
      value.toNat + modulus M * (unwrapper.lastUnwrapped / modulus M + turns) := by ring
  rw [regroup, Int.add_mul_emod_self_left]
  exact Int.emod_eq_of_lt (by omega) (by omega)

/-! ## The full range of the type -/

/-- The last value is the last unwrapped value, wrapped. -/
def Tracks (unwrapper : SeqNumUnwrapper w) : Prop :=
  unwrapper.lastValue = some (BitVec.ofInt w unwrapper.lastUnwrapped)

section

variable {unwrapper : SeqNumUnwrapper w} (positive : 0 < w) (tracks : unwrapper.Tracks)
  (value : BitVec w)
include positive tracks

/-- Wrapping an unwrapped value gives the value back. -/
theorem ofInt_peekUnwrap : BitVec.ofInt w (peekUnwrap 0 unwrapper value) = value := by
  have full : modulus (0 : BitVec w) = 2 ^ w := if_pos rfl
  have nonneg : 0 ≤ unwrapper.lastUnwrapped % (2 ^ w : Nat) := Int.emod_nonneg _ (by positivity)
  have inStep : unwrapper.InStep 0 := by
    refine ⟨_, tracks, ?_, ?_⟩
    · rw [full]
      exact (BitVec.ofInt w _).isLt
    · rw [full, BitVec.toNat_ofInt, Int.toNat_of_nonneg nonneg]
  have congruent := (peekUnwrap_spec positive inStep (full ▸ value.isLt)).1
  rw [full] at congruent
  refine BitVec.eq_of_toNat_eq ?_
  rw [BitVec.toNat_ofInt, congruent, Int.toNat_natCast]

theorem Tracks.unwrap : (unwrap 0 unwrapper value).2.Tracks :=
  congrArg some (ofInt_peekUnwrap positive tracks value).symm

end

/-- The first value is unwrapped as it is. -/
theorem tracks_unwrap_new (value : BitVec w) : (unwrap 0 {} value).2.Tracks := by
  refine congrArg some ?_
  change value = BitVec.ofInt w (value.toNat : Int)
  rw [BitVec.ofInt_natCast, BitVec.ofNat_toNat, BitVec.setWidth_eq]

end SeqNumUnwrapper

end MaeRtc.Base
