import MaeRtc.Base.Machine
import MaeRtc.Base.SequenceNumbers
import MaeRtc.Base.Words

/-!
# The fraction of lost packets

`StreamStatisticianImpl` of `receive_statistics_impl.cc`, as far as it counts losses.  A
report compares the packets lost and expected since the last one.  Two packets in sequence
far from all others are taken for a restart of the stream; then only one of the two values
of the last report is moved.
-/

namespace MaeRtc.Rtp

open Base

/-- In microseconds. -/
def kStatisticsTimeout : Int := 8000000

structure StreamStatistician where
  maxReorderingThreshold : Int
  cumulativeLoss : Int := 0
  cumulativeLossRtcpOffset : Int := 0
  lastReceiveTime : Option Int := none
  seqUnwrapper : SeqNumUnwrapper 16 := {}
  receivedSeqFirst : Int := -1
  receivedSeqMax : Int := -1
  /-- The first packet of what may be a restart. -/
  receivedSeqOutOfOrder : Option SeqNum := none
  lastReportCumulativeLoss : Int := 0
  lastReportSeqMax : Int := -1
  deriving DecidableEq, Repr

structure ReportBlock where
  fractionLost : BitVec 8 := 0
  cumulativeLost : Int := 0
  extHighestSeqNum : BitVec 32 := 0
  deriving DecidableEq, Repr

namespace StreamStatistician

/-- The end of `UpdateOutOfOrder`: whether the packet is out of order. -/
def checkReordering (stat : StreamStatistician) (value : SeqNum) (sequenceNumber : Int) :
    Bool × StreamStatistician :=
  if |sequenceNumber - stat.receivedSeqMax| > stat.maxReorderingThreshold then
    -- counting this packet is postponed
    (true, { stat with
      receivedSeqOutOfOrder := some value
      cumulativeLoss := int32 (stat.cumulativeLoss + 1) })
  else (!decide (sequenceNumber > stat.receivedSeqMax), stat)

def updateOutOfOrder (stat : StreamStatistician) (value : SeqNum) (sequenceNumber : Int) :
    Bool × StreamStatistician :=
  match stat.receivedSeqOutOfOrder with
  | none => stat.checkReordering value sequenceNumber
  | some outOfOrder =>
    let stat := { stat with
      cumulativeLoss := int32 (stat.cumulativeLoss - 1)
      receivedSeqOutOfOrder := none }
    if value = outOfOrder + 1 then
      (false, { stat with
        lastReportSeqMax := sequenceNumber - 2
        receivedSeqMax := sequenceNumber - 2 })
    else stat.checkReordering value sequenceNumber

/-- The end of `UpdateCounters` for a packet in order. -/
def countInOrder (stat : StreamStatistician) (value : SeqNum) (sequenceNumber now : Int) :
    StreamStatistician :=
  { stat with
    cumulativeLoss := int32 (stat.cumulativeLoss + (sequenceNumber - stat.receivedSeqMax))
    receivedSeqMax := sequenceNumber
    seqUnwrapper := (SeqNumUnwrapper.unwrap 0 stat.seqUnwrapper value).2
    lastReceiveTime := some now }

def updateCounters (stat : StreamStatistician) (value : SeqNum) (now : Int) :
    StreamStatistician :=
  let stat := { stat with cumulativeLoss := int32 (stat.cumulativeLoss - 1) }
  let sequenceNumber := SeqNumUnwrapper.peekUnwrap 0 stat.seqUnwrapper value
  if stat.lastReceiveTime = none then
    countInOrder { stat with
      receivedSeqFirst := sequenceNumber
      lastReportSeqMax := sequenceNumber - 1
      receivedSeqMax := sequenceNumber - 1 } value sequenceNumber now
  else
    match stat.updateOutOfOrder value sequenceNumber with
    | (true, stat) => stat
    | (false, stat) => stat.countInOrder value sequenceNumber now

def expSinceLast (stat : StreamStatistician) : Int :=
  stat.receivedSeqMax - stat.lastReportSeqMax

def lostSinceLast (stat : StreamStatistician) : Int :=
  int32 (stat.cumulativeLoss - stat.lastReportCumulativeLoss)

/-- What `SetFractionLost` is called with: a product of `int32_t`, then a division. -/
def scaledLoss (stat : StreamStatistician) : Int :=
  (int32 (255 * stat.lostSinceLast)).tdiv stat.expSinceLast

def fractionLost (stat : StreamStatistician) : BitVec 8 :=
  if stat.expSinceLast > 0 ∧ stat.lostSinceLast > 0 then BitVec.ofInt 8 stat.scaledLoss else 0

/-- The offset of the reported loss, such that it is not negative. -/
def rtcpOffset (stat : StreamStatistician) : Int :=
  if int32 (stat.cumulativeLoss + stat.cumulativeLossRtcpOffset) < 0 then
    int32 (-stat.cumulativeLoss)
  else stat.cumulativeLossRtcpOffset

def packetsLost (stat : StreamStatistician) : Int :=
  let packetsLost := int32 (stat.cumulativeLoss + stat.cumulativeLossRtcpOffset)
  if packetsLost < 0 then 0 else if packetsLost > 0x7fffff then 0x7fffff else packetsLost

def maybeAppendReportBlockAndReset (stat : StreamStatistician) (now : Int) :
    Option ReportBlock × StreamStatistician :=
  match stat.lastReceiveTime with
  | none => (none, stat)
  | some lastReceiveTime =>
    if now - lastReceiveTime ≥ kStatisticsTimeout then (none, stat)
    else
      (some {
        fractionLost := stat.fractionLost
        cumulativeLost := stat.packetsLost
        extHighestSeqNum := BitVec.ofInt 32 stat.receivedSeqMax },
      { stat with
        cumulativeLossRtcpOffset := stat.rtcpOffset
        lastReportCumulativeLoss := stat.cumulativeLoss
        lastReportSeqMax := stat.receivedSeqMax })

/-- The packet follows one that was far from the others. -/
def Restarts (stat : StreamStatistician) (value : SeqNum) : Prop :=
  ∃ outOfOrder ∈ stat.receivedSeqOutOfOrder, value = outOfOrder + 1

end StreamStatistician

/-! ## Runs -/

inductive StatisticsCall where
  | updateCounters (value : SeqNum) (now : Int)
  | maybeAppendReportBlockAndReset (now : Int)
  deriving DecidableEq, Repr

/-- Packets with any numbers at any times, and reports. -/
def countPackets : Machine StreamStatistician StatisticsCall where
  pre _ _ := True
  next stat
    | .updateCounters value now => stat.updateCounters value now
    | .maybeAppendReportBlockAndReset now => (stat.maybeAppendReportBlockAndReset now).2

namespace StreamStatistician

/--
Before a packet, the numbers are far from the ends of `int32_t`, also when they are scaled.
If the packet is taken for a restart, at most two packets were lost since the last report.
-/
def Regular (stat : StreamStatistician) : StatisticsCall → Prop
  | .updateCounters value _ =>
    -2 ^ 29 ≤ stat.cumulativeLoss ∧ stat.cumulativeLoss ≤ 2 ^ 29 ∧
    stat.cumulativeLoss - stat.lastReportCumulativeLoss ≤ 8000000 ∧
    (stat.Restarts value → stat.cumulativeLoss - stat.lastReportCumulativeLoss ≤ 2)
  | .maybeAppendReportBlockAndReset _ => True

/-- Not more packets are lost than expected since the last report, and no number overflows. -/
structure Counted (stat : StreamStatistician) : Prop where
  nonneg : 0 ≤ stat.expSinceLast
  bounded : stat.cumulativeLoss - stat.lastReportCumulativeLoss ≤ stat.expSinceLast
  few : stat.cumulativeLoss - stat.lastReportCumulativeLoss ≤ 8000000 + 2 ^ 18
  above : -2 ^ 29 - 2 ^ 18 ≤ stat.cumulativeLoss
  below : stat.cumulativeLoss ≤ 2 ^ 29 + 2 ^ 18
  lastAbove : -2 ^ 29 - 2 ^ 18 ≤ stat.lastReportCumulativeLoss
  lastBelow : stat.lastReportCumulativeLoss ≤ 2 ^ 29 + 2 ^ 18
  fresh : stat.lastReceiveTime = none →
    stat.cumulativeLoss ≤ stat.lastReportCumulativeLoss
  tracks : stat.lastReceiveTime ≠ none →
    stat.seqUnwrapper.lastValue ≠ none ∧ stat.seqUnwrapper.lastUnwrapped = stat.receivedSeqMax

theorem counted_new (threshold : Int) : Counted { maxReorderingThreshold := threshold } := by
  constructor <;> simp [expSinceLast]

/-- The next number is less than twice the half of the circle away from the last one. -/
theorem near_peekUnwrap {unwrapper : SeqNumUnwrapper 16} (some : unwrapper.lastValue ≠ none)
    (value : SeqNum) :
    unwrapper.lastUnwrapped - 2 ^ 16 ≤ SeqNumUnwrapper.peekUnwrap 0 unwrapper value ∧
    SeqNumUnwrapper.peekUnwrap 0 unwrapper value ≤ unwrapper.lastUnwrapped + 2 ^ 16 := by
  cases isLast : unwrapper.lastValue with
  | none => exact absurd isLast some
  | some lastValue =>
    unfold SeqNumUnwrapper.peekUnwrap SeqNumUnwrapper.delta
    rw [isLast]
    dsimp only
    split <;> omega

section

variable {stat : StreamStatistician} {value : SeqNum} {now sequenceNumber : Int}

/-- What counting a packet in order changes, if the numbers do not overflow. -/
theorem countInOrder_eq (above : -2 ^ 31 ≤ stat.cumulativeLoss + (sequenceNumber - stat.receivedSeqMax))
    (below : stat.cumulativeLoss + (sequenceNumber - stat.receivedSeqMax) < 2 ^ 31) :
    stat.countInOrder value sequenceNumber now = { stat with
      cumulativeLoss := stat.cumulativeLoss + (sequenceNumber - stat.receivedSeqMax)
      receivedSeqMax := sequenceNumber
      seqUnwrapper := (SeqNumUnwrapper.unwrap 0 stat.seqUnwrapper value).2
      lastReceiveTime := some now } := by
  rw [countInOrder, Words.int32_of_small above below]

/-- What is left to show after a packet: the two bounds, and how far the loss has moved. -/
theorem Counted.of_update (counted : stat.Counted) (next : StreamStatistician)
    (regular : stat.Regular (.updateCounters value now))
    (sameLast : next.lastReportCumulativeLoss = stat.lastReportCumulativeLoss)
    (nonneg : 0 ≤ next.expSinceLast)
    (bounded : next.cumulativeLoss - next.lastReportCumulativeLoss ≤ next.expSinceLast)
    (more : next.cumulativeLoss ≤ stat.cumulativeLoss + 2 ^ 17)
    (less : stat.cumulativeLoss - 2 ^ 17 ≤ next.cumulativeLoss)
    (received : next.lastReceiveTime ≠ none)
    (tracks : next.seqUnwrapper.lastValue ≠ none ∧
      next.seqUnwrapper.lastUnwrapped = next.receivedSeqMax) : next.Counted := by
  obtain ⟨above, below, few, _⟩ := regular
  have lastAbove := counted.lastAbove
  have lastBelow := counted.lastBelow
  refine ⟨nonneg, bounded, ?_, ?_, ?_, ?_, ?_, fun isNone => absurd isNone received,
    fun _ => tracks⟩ <;> omega

/-- A packet that is out of order, one that is in order, or a restart. -/
inductive Ordering (stat : StreamStatistician) (value : SeqNum) (sequenceNumber : Int) :
    Bool × StreamStatistician → Prop where
  | outOfOrder (loss : Int) (pending : Option SeqNum) (less : stat.cumulativeLoss - 1 ≤ loss)
      (more : loss ≤ stat.cumulativeLoss + 1) :
      Ordering stat value sequenceNumber
        (true, { stat with cumulativeLoss := loss, receivedSeqOutOfOrder := pending })
  | inOrder (loss : Int) (less : stat.cumulativeLoss - 1 ≤ loss) (more : loss ≤ stat.cumulativeLoss)
      (later : stat.receivedSeqMax < sequenceNumber) :
      Ordering stat value sequenceNumber
        (false, { stat with cumulativeLoss := loss, receivedSeqOutOfOrder := none })
  | restart (restarts : stat.Restarts value) :
      Ordering stat value sequenceNumber
        (false, { stat with
          cumulativeLoss := stat.cumulativeLoss - 1
          receivedSeqOutOfOrder := none
          lastReportSeqMax := sequenceNumber - 2
          receivedSeqMax := sequenceNumber - 2 })

theorem checkReordering_ordering {loss : Int} (less : stat.cumulativeLoss - 1 ≤ loss)
    (more : loss ≤ stat.cumulativeLoss) (above : -2 ^ 31 ≤ loss) (below : loss + 1 < 2 ^ 31) :
    Ordering stat value sequenceNumber (checkReordering
      { stat with cumulativeLoss := loss, receivedSeqOutOfOrder := none } value sequenceNumber) := by
  unfold checkReordering
  by_cases far : |sequenceNumber - stat.receivedSeqMax| > stat.maxReorderingThreshold
  · rw [if_pos far, Words.int32_of_small (by omega) below]
    exact .outOfOrder _ _ (by omega) (by omega)
  rw [if_neg far]
  by_cases later : sequenceNumber > stat.receivedSeqMax
  · rw [decide_eq_true later]
    exact .inOrder loss less more later
  · rw [decide_eq_false later]
    exact .outOfOrder loss none less (by omega)

theorem updateOutOfOrder_ordering (above : -2 ^ 31 < stat.cumulativeLoss)
    (below : stat.cumulativeLoss + 1 < 2 ^ 31) :
    Ordering stat value sequenceNumber (stat.updateOutOfOrder value sequenceNumber) := by
  unfold updateOutOfOrder
  cases pending : stat.receivedSeqOutOfOrder with
  | none =>
    have same : stat = { stat with
        cumulativeLoss := stat.cumulativeLoss, receivedSeqOutOfOrder := none } := by
      rw [← pending]
    nth_rewrite 2 [same]
    exact checkReordering_ordering (by omega) le_rfl (by omega) below
  | some outOfOrder =>
    dsimp only
    rw [Words.int32_of_small (by omega) (by omega)]
    by_cases follows : value = outOfOrder + 1
    · rw [if_pos follows]
      exact .restart ⟨outOfOrder, pending, follows⟩
    · rw [if_neg follows]
      exact checkReordering_ordering le_rfl (by omega) (by omega) (by omega)

variable (counted : stat.Counted)
include counted

theorem Counted.updateCounters (regular : stat.Regular (.updateCounters value now)) :
    (stat.updateCounters value now).Counted := by
  have ⟨above, below, few, restart⟩ := regular
  have nonneg := counted.nonneg
  have bounded := counted.bounded
  unfold expSinceLast at nonneg bounded
  unfold StreamStatistician.updateCounters
  rw [Words.int32_of_small (by omega) (by omega)]
  by_cases isFirst : stat.lastReceiveTime = none
  · have fresh := counted.fresh isFirst
    rw [if_pos isFirst, countInOrder_eq (by dsimp only; omega) (by dsimp only; omega)]
    refine counted.of_update _ regular rfl ?_ ?_ ?_ ?_ nofun ⟨nofun, rfl⟩ <;>
      dsimp only [expSinceLast] <;> omega
  · obtain ⟨hasValue, isMax⟩ := counted.tracks isFirst
    have near := near_peekUnwrap hasValue value
    rw [if_neg isFirst]
    have ordering := @updateOutOfOrder_ordering
      { stat with cumulativeLoss := stat.cumulativeLoss - 1 } value
      (SeqNumUnwrapper.peekUnwrap 0 stat.seqUnwrapper value) (by dsimp only; omega)
      (by dsimp only; omega)
    generalize updateOutOfOrder { stat with cumulativeLoss := stat.cumulativeLoss - 1 } value
      (SeqNumUnwrapper.peekUnwrap 0 stat.seqUnwrapper value) = result at ordering ⊢
    cases ordering with
    | outOfOrder loss pending less more =>
      dsimp only at less more ⊢
      refine counted.of_update _ regular rfl ?_ ?_ ?_ ?_ isFirst ⟨hasValue, isMax⟩ <;>
        dsimp only [expSinceLast] <;> omega
    | inOrder loss less more later =>
      dsimp only at less more later ⊢
      rw [countInOrder_eq (by dsimp only; omega) (by dsimp only; omega)]
      refine counted.of_update _ regular rfl ?_ ?_ ?_ ?_ nofun ⟨nofun, rfl⟩ <;>
        dsimp only [expSinceLast] <;> omega
    | restart restarts =>
      have lost := restart restarts
      dsimp only
      rw [countInOrder_eq (by dsimp only; omega) (by dsimp only; omega)]
      refine counted.of_update _ regular rfl ?_ ?_ ?_ ?_ nofun ⟨nofun, rfl⟩ <;>
        dsimp only [expSinceLast] <;> omega

theorem Counted.report (now : Int) : (stat.maybeAppendReportBlockAndReset now).2.Counted := by
  unfold maybeAppendReportBlockAndReset
  cases received : stat.lastReceiveTime with
  | none => exact counted
  | some lastReceiveTime =>
    dsimp only
    by_cases inactive : now - lastReceiveTime ≥ kStatisticsTimeout
    · rw [if_pos inactive]
      exact counted
    rw [if_neg inactive]
    refine ⟨?_, ?_, ?_, counted.above, counted.below, counted.above, counted.below, ?_,
      fun _ => counted.tracks (by rw [received]; exact nofun)⟩
    · exact (Int.sub_self _).ge
    · dsimp only [expSinceLast]
      omega
    · dsimp only
      omega
    · exact fun _ => le_rfl

theorem Counted.next {call : StatisticsCall} (regular : stat.Regular call) :
    (countPackets.next stat call).Counted := by
  cases call with
  | updateCounters value now => exact counted.updateCounters regular
  | maybeAppendReportBlockAndReset now => exact counted.report now

theorem Counted.lostSinceLast_eq :
    stat.lostSinceLast = stat.cumulativeLoss - stat.lastReportCumulativeLoss := by
  obtain ⟨_, _, _, _, _, _, _, _, _⟩ := counted
  exact Words.int32_of_small (by omega) (by omega)

theorem Counted.scaledLoss_le (expected : 0 < stat.expSinceLast) (lost : 0 < stat.lostSinceLast) :
    0 ≤ stat.scaledLoss ∧ stat.scaledLoss ≤ 255 := by
  have few := counted.few
  have bounded := counted.bounded
  rw [← counted.lostSinceLast_eq] at few bounded
  unfold scaledLoss
  rw [Words.int32_of_small (by omega) (by omega), Int.tdiv_eq_ediv_of_nonneg (by omega)]
  refine ⟨Int.ediv_nonneg (by omega) expected.le, ?_⟩
  refine Int.ediv_le_of_le_mul expected ?_
  omega

end

theorem counted_of_run {threshold : Int} {calls : List StatisticsCall} {last : StreamStatistician}
    (run : (countPackets.restrict Regular).Run { maxReorderingThreshold := threshold } calls last) :
    last.Counted :=
  run.invariant (fun _ stat => stat.Counted) (counted_new threshold)
    fun _ _ _ _ counted admissible => counted.next admissible.2

/--
In every run with regular packets the packets expected since the last report are never
negative.  If there are any and some are lost, not more are lost than expected, and what is
set as the fraction has eight bits.
-/
theorem fraction_of_run (threshold : Int) (calls : List StatisticsCall)
    (last : StreamStatistician)
    (run : (countPackets.restrict Regular).Run { maxReorderingThreshold := threshold } calls last) :
    0 ≤ last.expSinceLast ∧
    (0 < last.expSinceLast → 0 < last.lostSinceLast →
      last.lostSinceLast ≤ last.expSinceLast ∧ 0 ≤ last.scaledLoss ∧ last.scaledLoss ≤ 255 ∧
      (last.fractionLost.toNat : Int) = last.scaledLoss) := by
  have counted := counted_of_run run
  refine ⟨counted.nonneg, fun expected lost => ?_⟩
  obtain ⟨nonneg, atMost⟩ := counted.scaledLoss_le expected lost
  refine ⟨counted.lostSinceLast_eq ▸ counted.bounded, nonneg, atMost, ?_⟩
  rw [fractionLost, if_pos ⟨expected, lost⟩, BitVec.toNat_ofInt]
  omega

instance decidableRestarts (stat : StreamStatistician) (value : SeqNum) :
    Decidable (stat.Restarts value) :=
  decidable_of_iff (stat.receivedSeqOutOfOrder = some (value - 1))
    ⟨fun isPending => ⟨value - 1, isPending, (BitVec.sub_add_cancel value 1).symm⟩,
      fun ⟨outOfOrder, isPending, follows⟩ => by
        rw [follows, BitVec.add_sub_cancel]
        exact isPending⟩

instance decidableRegularCount (stat : StreamStatistician) : ∀ call, Decidable (stat.Regular call)
  | .updateCounters _ _ => inferInstanceAs (Decidable (_ ∧ _ ∧ _ ∧ (_ → _)))
  | .maybeAppendReportBlockAndReset _ => isTrue trivial

instance decidableCountStep (stat : StreamStatistician) (call : StatisticsCall) :
    Decidable ((countPackets.restrict Regular).pre stat call) :=
  inferInstanceAs (Decidable (True ∧ stat.Regular call))

/-- Two packets are lost, then the stream restarts. -/
def restartedStream : List StatisticsCall :=
  [.updateCounters 65534 0, .updateCounters 1 10, .updateCounters 0 20,
    .maybeAppendReportBlockAndReset 30, .updateCounters 4 40, .updateCounters 1000 50,
    .updateCounters 1001 60]

theorem fraction_restarted : ∃ last,
    (countPackets.restrict Regular).Run { maxReorderingThreshold := 50 } restartedStream last ∧
    0 < last.lostSinceLast ∧ last.scaledLoss ≤ 255 := by
  have admitted : (countPackets.restrict Regular).Admits
      { maxReorderingThreshold := 50 } restartedStream := by
    decide +kernel
  have lost : 0 < (countPackets.outcome { maxReorderingThreshold := 50 }
      restartedStream).lostSinceLast := by
    decide +kernel
  obtain ⟨_, bounds⟩ := fraction_of_run _ _ _ admitted.run
  obtain ⟨_, _, atMost, _⟩ := bounds (by decide +kernel) lost
  exact ⟨_, admitted.run, lost, atMost⟩

/-- Many packets are lost, then the stream restarts. -/
def restartAfterLosses : List StatisticsCall :=
  [.updateCounters 0 0, .updateCounters 50 10, .updateCounters 1000 20, .updateCounters 1001 30]

/-- Two packets are expected and 49 are lost since the last report. -/
theorem fraction_truncated :
    countPackets.Run { maxReorderingThreshold := 50 } restartAfterLosses
      (countPackets.outcome { maxReorderingThreshold := 50 } restartAfterLosses) ∧
    (countPackets.outcome { maxReorderingThreshold := 50 } restartAfterLosses).expSinceLast = 2 ∧
    (countPackets.outcome { maxReorderingThreshold := 50 } restartAfterLosses).lostSinceLast = 49 ∧
    (countPackets.outcome { maxReorderingThreshold := 50 } restartAfterLosses).scaledLoss = 6247 ∧
    (countPackets.outcome { maxReorderingThreshold := 50 } restartAfterLosses).fractionLost =
      103 := by
  have admitted : countPackets.Admits { maxReorderingThreshold := 50 } restartAfterLosses :=
    Machine.admits_of_forall (fun _ _ _ => trivial) _
  refine ⟨admitted.run, ?_⟩
  decide +kernel

end StreamStatistician

end MaeRtc.Rtp
