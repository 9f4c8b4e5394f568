import MaeRtc.GoogCc.NetworkController

/-!
# Publication of the overuse level

Every published target rate carries the aggressiveness of the delay detector.
Whether a target rate is published depends on five other estimates.  Over whole
runs of feedback reports the level published last is the level after the last
report that updated the estimate, exactly if the delay-based estimator, run on the
reports by itself, never moves its level between two successive updates for which
the five estimates read the same.
-/

namespace MaeRtc.GoogCc

open MaeRtc.Base

/-- The five estimates that are compared with the ones published last. -/
structure ComparedEstimates where
  lossBasedTargetRateBps : Nat
  fractionLoss : Nat
  roundTripTimeUs : Option Int
  pushbackTargetRateBps : Nat
  stableTargetRateBps : Nat
  deriving DecidableEq

def BandwidthReadings.compared (readings : BandwidthReadings) : ComparedEstimates :=
  ⟨readings.targetRateBps, readings.fractionLoss, some readings.roundTripTimeUs,
    NetworkController.pushbackTargetRate readings, NetworkController.stableTargetRate readings⟩

/-- A report as the delay-based estimator sees it, if the controller hands it over. -/
def DelayBasedBwe.onReport (self : DelayBasedBwe) (report : TransportFeedback) :
    Bool × DelayBasedBwe :=
  if report.hasFeedbacks then
    let (result, next) := self.incomingPacketFeedbackVector report.packets report.feedbackTimeUs
      report.ackedBitrate report.probeBitrate report.rateControl
    (result.updated, next)
  else (false, self)

/-- The estimator by itself: its level after each report that updates it, with what the five
estimates read then. -/
def DelayBasedBwe.levels (self : DelayBasedBwe) :
    List TransportFeedback → List (ComparedEstimates × Option ℚ)
  | [] => []
  | report :: later =>
    let next := (self.onReport report).2
    if (self.onReport report).1 then
      (report.readings.compared, some next.aggressiveState) :: next.levels later
    else next.levels later

theorem DelayBasedBwe.roundTripTime_of_mem_levels (self : DelayBasedBwe)
    (reports : List TransportFeedback) :
    ∀ entry ∈ self.levels reports, entry.1.roundTripTimeUs ≠ none := by
  induction reports generalizing self with
  | nil => exact fun _ member => absurd member List.not_mem_nil
  | cons report later ih =>
    intro entry member
    unfold DelayBasedBwe.levels at member
    dsimp only at member
    split_ifs at member
    · rcases List.mem_cons.mp member with rfl | isLater
      · exact Option.some_ne_none _
      · exact ih _ entry isLater
    · exact ih _ entry member

/-- Two successive updates have the same level if the five estimates read the same. -/
def MovesVisibly (one two : ComparedEstimates × Option ℚ) : Prop :=
  one.1 = two.1 → one.2 = two.2

namespace NetworkController

/--
A controller with the level it published last and the level of the delay
detector after the last report that updated the delay-based estimate.
-/
structure Audited where
  self : NetworkController
  published : Option ℚ
  updatedLevel : Option ℚ

def machine : Machine Audited TransportFeedback where
  pre _ _ := True
  next state report :=
    let (msg, self) := state.self.onTransportPacketsFeedback report
    let (updated, estimator) := state.self.delayBasedBwe.onReport report
    { self := self
      published := (msg.map (·.isOverusedForEncoder)).or state.published
      updatedLevel := if updated then some estimator.aggressiveState else state.updatedLevel }

/-- The last published level is the level after the last updating report. -/
def LevelPublished (state : Audited) : Prop :=
  state.published = state.updatedLevel

def compared (self : NetworkController) : ComparedEstimates :=
  ⟨self.lastLossBasedTargetRateBps, self.lastEstimatedFractionLoss,
    self.lastEstimatedRoundTripTimeUs, self.lastPushbackTargetRateBps,
    self.lastStableTargetRateBps⟩

theorem networkChanged_iff (self : NetworkController) (readings : BandwidthReadings) :
    self.networkChanged readings = true ↔ readings.compared ≠ self.compared := by
  simp only [networkChanged, compared, BandwidthReadings.compared, Bool.or_eq_true, bne_iff_ne,
    Ne, ComparedEstimates.mk.injEq, not_and_or, or_assoc]

theorem next_of_not_updated {state : Audited} {report : TransportFeedback}
    (quiet : (state.self.delayBasedBwe.onReport report).1 = false) :
    machine.next state report = { state with
      self := { state.self with
        delayBasedBwe := (state.self.delayBasedBwe.onReport report).2 } } := by
  unfold DelayBasedBwe.onReport at quiet
  simp only [machine, onTransportPacketsFeedback, DelayBasedBwe.onReport, estimateDelay]
  cases handled : report.hasFeedbacks with
  | false => simp
  | true =>
    simp only [handled, if_true] at quiet
    simp [quiet]

/-- An update publishes its level exactly if a compared estimate has changed. -/
theorem next_of_updated {state : Audited} {report : TransportFeedback}
    (updated : (state.self.delayBasedBwe.onReport report).1 = true) :
    let level := some (state.self.delayBasedBwe.onReport report).2.aggressiveState
    let next := machine.next state report
    next.self.delayBasedBwe = (state.self.delayBasedBwe.onReport report).2 ∧
      next.self.compared = report.readings.compared ∧ next.updatedLevel = level ∧
      next.published =
        if report.readings.compared = state.self.compared then state.published else level := by
  have handled : report.hasFeedbacks = true := by
    by_contra unhandled
    simp [DelayBasedBwe.onReport, unhandled] at updated
  let estimated := { state.self with
    delayBasedBwe := (state.self.delayBasedBwe.onReport report).2 }
  have isNext : machine.next state report =
      { self := (estimated.maybeTriggerOnNetworkChanged report.readings report.feedbackTimeUs).2
        published := ((estimated.maybeTriggerOnNetworkChanged report.readings
          report.feedbackTimeUs).1.map (·.isOverusedForEncoder)).or state.published
        updatedLevel := some estimated.delayBasedBwe.aggressiveState } := by
    simp only [DelayBasedBwe.onReport, handled, if_true] at updated
    simp only [machine, onTransportPacketsFeedback, estimateDelay, estimated,
      DelayBasedBwe.onReport, handled, updated, Bool.not_true, Bool.false_eq_true, if_false,
      if_true]
  have changes : estimated.networkChanged report.readings = true ↔
      report.readings.compared ≠ state.self.compared := networkChanged_iff _ _
  rw [isNext]
  unfold maybeTriggerOnNetworkChanged
  by_cases same : report.readings.compared = state.self.compared
  · rw [if_neg (by simpa [changes] using same)]
    exact ⟨rfl, same.symm, rfl, (if_pos same).symm⟩
  · rw [if_pos (changes.mpr same)]
    exact ⟨rfl, rfl, rfl, (if_neg same).symm⟩

/-- The run from any state in which the level is published. -/
theorem levelPublished_iff_isChain {state : Audited} (published : LevelPublished state)
    (reports : List TransportFeedback) :
    (∀ count, LevelPublished (machine.outcome state (reports.take count))) ↔
      ((state.self.compared, state.updatedLevel) ::
        state.self.delayBasedBwe.levels reports).IsChain MovesVisibly := by
  induction reports generalizing state with
  | nil => simpa [DelayBasedBwe.levels] using published
  | cons report later ih =>
    let next := machine.next state report
    have split : (∀ count, LevelPublished (machine.outcome state ((report :: later).take count))) ↔
        ∀ count, LevelPublished (machine.outcome next (later.take count)) := by
      refine ⟨fun always count => always (count + 1), fun always count => ?_⟩
      cases count with
      | zero => exact published
      | succ count => exact always count
    rw [split, DelayBasedBwe.levels]
    cases updated : (state.self.delayBasedBwe.onReport report).1 with
    | false =>
      have isNext : next = _ := next_of_not_updated updated
      have nextPublished : LevelPublished next := by
        rw [isNext]
        exact published
      rw [ih nextPublished, isNext, if_neg Bool.false_ne_true]
      rfl
    | true =>
      obtain ⟨estimator, compared, level, publication⟩ := next_of_updated updated
      have here : LevelPublished next ↔ MovesVisibly (state.self.compared, state.updatedLevel)
          (report.readings.compared,
            some (state.self.delayBasedBwe.onReport report).2.aggressiveState) := by
        rw [LevelPublished, publication, level, published, MovesVisibly]
        by_cases same : report.readings.compared = state.self.compared
        · simp [same]
        · simp [same, Ne.symm same]
      rw [if_pos rfl, List.isChain_cons_cons, ← here, ← level, ← estimator, ← compared]
      refine ⟨fun always => ⟨always 0, (ih (always 0)).mp always⟩, fun holds => ?_⟩
      exact (ih holds.1).mpr holds.2

/--
In every run of a new controller, the level published last is after every report the level
after the last updating report, exactly if the delay-based estimator, run on the reports by
itself, has the same level after any two successive updates for which the five compared
estimates read the same.
-/
theorem levelPublished_always_iff (estimator : DelayBasedBwe) (dropFrameOnly : Bool)
    (startingRateBps : Nat) (reports : List TransportFeedback) :
    (∀ count, LevelPublished (machine.outcome
        ⟨create estimator dropFrameOnly startingRateBps, none, none⟩ (reports.take count))) ↔
      (estimator.levels reports).IsChain MovesVisibly := by
  refine (levelPublished_iff_isChain (show LevelPublished ⟨_, none, none⟩ from rfl) reports).trans
    ?_
  -- a new controller knows no round trip time, so the first update is always published
  have known := estimator.roundTripTime_of_mem_levels reports
  change (_ :: estimator.levels reports).IsChain MovesVisibly ↔ _
  cases isLevels : estimator.levels reports with
  | nil => simp
  | cons first later =>
    rw [List.isChain_cons_cons, and_iff_right]
    intro same
    exact absurd (congrArg ComparedEstimates.roundTripTimeUs same).symm
      (known first (isLevels ▸ List.mem_cons_self))

def estimator : DelayBasedBwe :=
  .create ⟨false, false, 7, 7, 0⟩ ⟨false, 10, 1000000⟩

/-- A report of packets while the estimates read a target rate of 2 Mbps. -/
def reportOf (packets : List PacketResult) (feedbackTimeUs : Int) : TransportFeedback where
  feedbackTimeUs := feedbackTimeUs
  hasFeedbacks := true
  packets := packets
  ackedBitrate := none
  probeBitrate := none
  rateControl := ⟨false, false, true, 2000000, 2000000⟩
  readings :=
    { fractionLoss := 0
      roundTripTimeUs := 50000
      targetRateBps := 2000000
      estimatedLinkCapacityBps := 2000000
      minBitrateBps := 5000
      bwePeriodUs := 1000000
      pushbackRateBps := none }

/-- Packets sent at intervals of 10 ms that arrive with the same delay. -/
def packetsOf (first count : Nat) (delayUs : Int) : List PacketResult :=
  (List.range' first count).map fun index =>
    ⟨false, index, 10000 * index, 10000 * index + delayUs, 1200, none⟩

/--
At the configured maximal rate the five estimates stay as they are.  Two packets that are
100 ms late then raise the level without any publication: the last published level is still
the one of a link without overuse.
-/
theorem level_unpublished_at_max_rate :
    let reports := [reportOf (packetsOf 0 12 0) 200000, reportOf (packetsOf 12 2 100000) 400000]
    let last := machine.outcome ⟨create estimator false 300000, none, none⟩ reports
    last.published = some 1 ∧ last.updatedLevel = some 16 := by
  decide +kernel

end NetworkController

end MaeRtc.GoogCc
