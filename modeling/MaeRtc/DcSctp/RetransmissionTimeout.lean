import MaeRtc.Base.Checked

/-!
# The retransmission timeout

`RetransmissionTimeout` smooths the measured round trip times in scaled integers.
Every intermediate result has to fit into an `int32_t`.  The smoothed time and the
variance are bounded together, since the difference that enters the variance is one
between two values of at most `rtt_max`.
-/

namespace MaeRtc.DcSctp

open MaeRtc.Base

/-- The options that concern the timeout, in milliseconds. -/
structure RtoOptions where
  rtoInitial : Int := 500
  rtoMin : Int := 400
  rtoMax : Int := 60000
  rttMax : Int := 60000
  minRttVariance : Int := 220
  deriving DecidableEq

inductive Overflow where
  | int32
  deriving DecidableEq

/-- The result of an operation on `int32_t`. -/
def int32 (value : Int) : Except Overflow Int :=
  if -2 ^ 31 ≤ value ∧ value < 2 ^ 31 then .ok value else .error .int32

/-- The members that are copies of options are left in the options. -/
structure RetransmissionTimeout where
  options : RtoOptions
  firstMeasurement : Bool := true
  scaledSrtt : Int
  scaledRttVar : Int := 0
  rto : Int
  deriving DecidableEq

namespace RetransmissionTimeout

def kRttShift : Nat := 3

def kRttVarShift : Nat := 2

/-- The shift of the initial timeout drops what does not fit. -/
def new (options : RtoOptions) : RetransmissionTimeout where
  options := options
  scaledSrtt := (options.rtoInitial * 2 ^ kRttShift).bmod (2 ^ 32)
  rto := options.rtoInitial

def srtt (timeout : RetransmissionTimeout) : Int :=
  timeout.scaledSrtt >>> kRttShift

def absolute (rttDiff : Int) : Except Overflow Int :=
  if rttDiff < 0 then int32 (-rttDiff) else .ok rttDiff

/-- The smoothed time and the variance after a measurement, both scaled. -/
def smooth (timeout : RetransmissionTimeout) (rtt : Int) : Except Overflow (Int × Int) :=
  if timeout.firstMeasurement then do
    let scaledSrtt ← int32 (rtt * 2 ^ kRttShift)
    let scaledRttVar ← int32 (rtt / 2 * 2 ^ kRttVarShift)
    .ok (scaledSrtt, scaledRttVar)
  else do
    let rttDiff ← int32 (rtt - timeout.scaledSrtt >>> kRttShift)
    let scaledSrtt ← int32 (timeout.scaledSrtt + rttDiff)
    let rttDiff ← absolute rttDiff
    let rttDiff ← int32 (rttDiff - timeout.scaledRttVar >>> kRttVarShift)
    let scaledRttVar ← int32 (timeout.scaledRttVar + rttDiff)
    .ok (scaledSrtt, scaledRttVar)

def observeRtt (timeout : RetransmissionTimeout) (rtt : Int) :
    Except Overflow RetransmissionTimeout :=
  if rtt < 0 ∨ rtt > timeout.options.rttMax then .ok timeout
  else do
    let (scaledSrtt, scaledRttVar) ← timeout.smooth rtt
    let scaledRttVar := if scaledRttVar < timeout.options.minRttVariance then
      timeout.options.minRttVariance else scaledRttVar
    let rto ← int32 (scaledSrtt >>> kRttShift + scaledRttVar)
    .ok { timeout with
      firstMeasurement := false
      scaledSrtt, scaledRttVar
      rto := min (max rto timeout.options.rtoMin) timeout.options.rtoMax }

/-! ## Bounds -/

/-- What is assumed of the options; in particular a time and the least variance add up. -/
structure Valid (options : RtoOptions) : Prop where
  nonnegMin : 0 ≤ options.rtoMin
  ordered : options.rtoMin ≤ options.rtoMax
  nonnegRtt : 0 ≤ options.rttMax
  smallRtt : options.rttMax < 2 ^ 27
  nonnegVariance : 0 ≤ options.minRttVariance
  smallSum : options.rttMax + options.minRttVariance < 2 ^ 31

/-- Between calls, as soon as a measurement from a range was accepted, and no other. -/
structure Bounded (low high : Int) (options : RtoOptions) (timeout : RetransmissionTimeout) :
    Prop where
  atLeast : 8 * low ≤ timeout.scaledSrtt
  srtt : timeout.scaledSrtt ≤ 8 * high + 7
  variance : options.minRttVariance ≤ timeout.scaledRttVar
  atMost : timeout.scaledRttVar ≤ max options.minRttVariance (4 * options.rttMax)
  rto : options.rtoMin ≤ timeout.rto ∧ timeout.rto ≤ options.rtoMax

theorem int32_ensures {value : Int} (fits : -2 ^ 31 ≤ value ∧ value < 2 ^ 31) :
    Ensures (int32 value) (· = value) :=
  ⟨value, if_pos fits, rfl⟩

theorem shift_eq (value : Int) :
    value >>> kRttShift = value / 8 ∧ value >>> kRttVarShift = value / 4 :=
  ⟨Int.shiftRight_eq_div_pow value 3, Int.shiftRight_eq_div_pow value 2⟩

section

variable {timeout : RetransmissionTimeout} {low high : Int} (nonneg : 0 ≤ low)
  (small : high ≤ timeout.options.rttMax) (valid : Valid timeout.options)
  (bounded : timeout.firstMeasurement = false → Bounded low high timeout.options timeout)
include nonneg small valid bounded

theorem smooth_ensures {rtt : Int} (within : low ≤ rtt ∧ rtt ≤ high) :
    Ensures (timeout.smooth rtt) fun result =>
      8 * low ≤ result.1 ∧ result.1 ≤ 8 * high + 7 ∧
      result.2 ≤ max timeout.options.minRttVariance (4 * timeout.options.rttMax) := by
  obtain ⟨-, -, -, smallRtt, nonnegVariance, smallSum⟩ := valid
  unfold smooth
  split_ifs with first
  · simp only [kRttShift, kRttVarShift]
    refine (int32_ensures (by omega)).bind ?_
    rintro _ rfl
    refine (int32_ensures (by omega)).bind ?_
    rintro _ rfl
    exact .ok (by dsimp only; omega)
  · obtain ⟨atLeast, srtt, variance, atMost, -⟩ := bounded (by simpa using first)
    simp only [shift_eq]
    refine (int32_ensures (by omega)).bind ?_
    rintro _ rfl
    refine (int32_ensures (by omega)).bind ?_
    rintro _ rfl
    -- the difference is one between two times of at most `rttMax`
    have absolute : Ensures (absolute (rtt - timeout.scaledSrtt / 8)) fun rttDiff =>
        0 ≤ rttDiff ∧ rttDiff ≤ timeout.options.rttMax := by
      unfold absolute
      split_ifs
      · exact (int32_ensures (by omega)).weaken (by omega)
      · exact .ok (by omega)
    refine absolute.bind fun rttDiff inRange => ?_
    refine (int32_ensures (by omega)).bind ?_
    rintro _ rfl
    refine (int32_ensures (by omega)).bind ?_
    rintro _ rfl
    exact .ok (by dsimp only; omega)

/-- One call: a measurement is skipped, or the bounds hold after it. -/
theorem observeRtt_ensures {rtt : Int}
    (within : 0 ≤ rtt → rtt ≤ timeout.options.rttMax → low ≤ rtt ∧ rtt ≤ high) :
    Ensures (timeout.observeRtt rtt) fun next => next.options = timeout.options ∧
      (next.firstMeasurement = false → Bounded low high next.options next) ∧
      (timeout.firstMeasurement = false ∨ 0 ≤ rtt ∧ rtt ≤ timeout.options.rttMax →
        next.firstMeasurement = false) := by
  unfold observeRtt
  split_ifs with skipped
  · exact .ok ⟨rfl, bounded, fun accepted => accepted.resolve_right (by omega)⟩
  refine (smooth_ensures nonneg small valid bounded (within (by omega) (by omega))).bind ?_
  rintro ⟨scaledSrtt, scaledRttVar⟩ ⟨atLeast, srtt, atMost⟩
  obtain ⟨-, ordered, -, smallRtt, nonnegVariance, smallSum⟩ := valid
  simp only [shift_eq]
  refine (int32_ensures (by omega)).bind ?_
  rintro rto -
  refine .ok ⟨rfl, fun _ => ⟨atLeast, srtt, ?_, ?_, ?_⟩, fun _ => rfl⟩ <;> dsimp only <;> omega

/-- A run: no result overflows, and one accepted measurement is enough for the bounds. -/
theorem foldlM_ensures {measured : List Int}
    (within : ∀ rtt ∈ measured, 0 ≤ rtt → rtt ≤ timeout.options.rttMax → low ≤ rtt ∧ rtt ≤ high) :
    Ensures (measured.foldlM observeRtt timeout) fun last =>
      (timeout.firstMeasurement = false ∨
        ∃ rtt ∈ measured, 0 ≤ rtt ∧ rtt ≤ timeout.options.rttMax) →
      Bounded low high timeout.options last := by
  induction measured generalizing timeout with
  | nil => exact .ok fun accepted => bounded (accepted.resolve_right nofun)
  | cons rtt rest ih =>
    rw [List.foldlM_cons]
    obtain ⟨first, others⟩ := List.forall_mem_cons.mp within
    refine (observeRtt_ensures nonneg small valid bounded first).bind ?_
    rintro next ⟨same, nextBounded, notFirst⟩
    rw [← same] at small valid others notFirst ⊢
    refine (ih small valid nextBounded others).weaken fun last later accepted => later ?_
    rcases accepted with before | ⟨other, member, isAccepted⟩
    · exact .inl (notFirst (.inl before))
    · rcases List.mem_cons.mp member with rfl | restMember
      · exact .inl (notFirst (.inr isAccepted))
      · exact .inr ⟨other, restMember, isAccepted⟩

end

theorem bounds_of_measurements (options : RtoOptions) (valid : Valid options)
    (measured : List Int) :
    Ensures (measured.foldlM observeRtt (new options)) fun last =>
      (∃ rtt ∈ measured, 0 ≤ rtt ∧ rtt ≤ options.rttMax) →
        (0 ≤ last.srtt ∧ last.srtt ≤ options.rttMax) ∧
        (options.minRttVariance ≤ last.scaledRttVar ∧
          last.scaledRttVar ≤ max options.minRttVariance (8 * options.rttMax)) ∧
        options.rtoMin ≤ last.rto ∧ last.rto ≤ options.rtoMax := by
  refine (@foldlM_ensures (new options) 0 options.rttMax le_rfl le_rfl valid nofun measured
    fun _ _ nonneg small => ⟨nonneg, small⟩).weaken ?_
  intro last bounded accepted
  obtain ⟨atLeast, srtt, variance, atMost, rto⟩ := bounded (.inr accepted)
  have nonnegRtt := valid.nonnegRtt
  dsimp only [new] at srtt atMost variance rto
  rw [RetransmissionTimeout.srtt, (shift_eq _).1]
  exact ⟨by omega, by omega, rto⟩

theorem valid_defaults : Valid {} := by
  constructor <;> decide

theorem bounds_of_defaults : Valid {} ∧
    Ensures ([100, -5, 300].foldlM observeRtt (new {})) fun last =>
      0 ≤ last.srtt ∧ last.rto ≤ 60000 := by
  refine ⟨valid_defaults, (bounds_of_measurements {} valid_defaults [100, -5, 300]).weaken
    fun last bounds => ?_⟩
  have inRange := bounds ⟨100, by decide⟩
  exact ⟨inRange.1.1, inRange.2.2.2⟩

/-- The largest variance overflows with a time of one millisecond. -/
theorem overflow_of_largeVariance : ∃ options : RtoOptions,
    (0 ≤ options.rtoMin ∧ options.rtoMin ≤ options.rtoMax ∧ 0 ≤ options.rttMax ∧
      options.rttMax < 2 ^ 27 ∧ 0 ≤ options.minRttVariance ∧ options.minRttVariance < 2 ^ 31) ∧
    [1].foldlM observeRtt (new options) = .error .int32 :=
  ⟨{ minRttVariance := 2147483647 }, by decide, by decide⟩

/-- The smoothed time stays within any range that holds the accepted measurements. -/
theorem srtt_among_measurements (options : RtoOptions) (valid : Valid options) {low high : Int}
    (nonneg : 0 ≤ low) (small : high ≤ options.rttMax) (measured : List Int)
    (within : ∀ rtt ∈ measured, 0 ≤ rtt → rtt ≤ options.rttMax → low ≤ rtt ∧ rtt ≤ high) :
    Ensures (measured.foldlM observeRtt (new options)) fun last =>
      (∃ rtt ∈ measured, 0 ≤ rtt ∧ rtt ≤ options.rttMax) → low ≤ last.srtt ∧ last.srtt ≤ high := by
  refine (@foldlM_ensures (new options) low high nonneg small valid nofun measured within).weaken ?_
  intro last bounded accepted
  obtain ⟨atLeast, srtt, -⟩ := bounded (.inr accepted)
  rw [RetransmissionTimeout.srtt, (shift_eq _).1]
  omega

theorem srtt_among_two : Ensures ([100, -5, 300].foldlM observeRtt (new {})) fun last =>
    100 ≤ last.srtt ∧ last.srtt ≤ 300 :=
  (srtt_among_measurements {} valid_defaults (by decide) (by decide) [100, -5, 300]
    (by decide)).weaken fun last bounds => bounds ⟨100, by decide⟩

end RetransmissionTimeout

end MaeRtc.DcSctp
