import MaeRtc.Base.Machine
import MaeRtc.GoogCc.TrendlineEstimator

/-!
# The level of aggressiveness warns of an overuse

The detector keeps reporting an overuse until the scaled slope falls to the
threshold again, and the threshold moves with every step.  The level is computed
anew in every step from the threshold the slope was compared with, so a reported
overuse always comes with a level above two.
-/

namespace MaeRtc.GoogCc.TrendlineEstimator

open MaeRtc.Base

/-- The arguments of a detection, with the number of samples counted so far. -/
structure Detection where
  numOfDeltas : Nat
  trend : ℚ
  tsDelta : ℚ
  nowMs : Int

/-- Detections one after the other; between them only the samples are counted. -/
def detections : Machine TrendlineEstimator Detection where
  pre _ _ := True
  next self detection :=
    detect { self with numOfDeltas := detection.numOfDeltas } detection.trend
      detection.tsDelta detection.nowMs

/-- The threshold is within its bounds, and an overuse comes with a level above two. -/
structure Warns (estimator : TrendlineEstimator) : Prop where
  thresholdLower : 6 ≤ estimator.threshold
  thresholdUpper : estimator.threshold ≤ 600
  warned : estimator.hypothesis = .overusing → 2 < estimator.hypothesisAggresive

theorem warns_create (settings : TrendlineEstimatorSettings) : Warns (create settings) := by
  constructor
  · norm_num [create]
  · norm_num [create]
  · rintro ⟨⟩

theorem updateThreshold_bounds (self : TrendlineEstimator) (lower : 6 ≤ self.threshold)
    (upper : self.threshold ≤ 600) (modifiedTrend : ℚ) (nowMs : Int) :
    6 ≤ (self.updateThreshold modifiedTrend nowMs).threshold ∧
      (self.updateThreshold modifiedTrend nowMs).threshold ≤ 600 := by
  unfold updateThreshold
  dsimp only
  split
  · -- a spike leaves the threshold as it is
    exact ⟨lower, upper⟩
  · constructor
    · exact le_max_left _ _
    · exact max_le (by norm_num) (min_le_left _ _)

theorem updateThreshold_decided (self : TrendlineEstimator) (modifiedTrend : ℚ) (nowMs : Int) :
    (self.updateThreshold modifiedTrend nowMs).hypothesis = self.hypothesis ∧
      (self.updateThreshold modifiedTrend nowMs).hypothesisAggresive =
        self.hypothesisAggresive := by
  unfold updateThreshold
  dsimp only
  split
  · exact ⟨rfl, rfl⟩
  · exact ⟨rfl, rfl⟩

/-- An overuse, new or old, is only reported while the slope exceeds the threshold. -/
theorem threshold_lt_of_detectUsage {self : TrendlineEstimator} {trend modifiedTrend tsDelta : ℚ}
    (overusing : (self.detectUsage trend modifiedTrend tsDelta).hypothesis = .overusing) :
    self.threshold < modifiedTrend := by
  by_contra! below
  unfold detectUsage at overusing
  rw [if_neg below.not_gt] at overusing
  split at overusing
  · cases overusing
  · cases overusing

theorem detectUsage_threshold (self : TrendlineEstimator) (trend modifiedTrend tsDelta : ℚ) :
    (self.detectUsage trend modifiedTrend tsDelta).threshold = self.threshold := by
  unfold detectUsage
  dsimp only
  split_ifs
  all_goals rfl

theorem two_lt_aggressiveness {threshold modifiedTrend : ℚ} (positive : 0 < threshold)
    (exceeds : threshold < modifiedTrend) : 2 < aggressiveness threshold modifiedTrend := by
  have half : modifiedTrend > threshold * (1 / 2) := by linarith
  unfold aggressiveness
  rw [if_pos half, lt_div_iff₀ (by linarith)]
  linarith

/-- The step lemma; what was counted before does not matter. -/
theorem Warns.detect {self : TrendlineEstimator} (lower : 6 ≤ self.threshold)
    (upper : self.threshold ≤ 600) (trend tsDelta : ℚ) (nowMs : Int) :
    Warns (self.detect trend tsDelta nowMs) := by
  unfold TrendlineEstimator.detect
  split
  · refine ⟨lower, upper, ?_⟩
    rintro ⟨⟩
  generalize ((min self.numOfDeltas minNumDeltas : Nat) : ℚ) * trend * thresholdGain = modifiedTrend
  have kept := detectUsage_threshold self trend modifiedTrend tsDelta
  let decidedUsage : TrendlineEstimator :=
    { self.detectUsage trend modifiedTrend tsDelta with
      hypothesisAggresive := aggressiveness self.threshold modifiedTrend
      prevTrend := trend }
  have bounds := updateThreshold_bounds decidedUsage (lower.trans_eq kept.symm)
    (kept.trans_le upper) modifiedTrend nowMs
  have decided := updateThreshold_decided decidedUsage modifiedTrend nowMs
  refine ⟨bounds.1, bounds.2, ?_⟩
  intro overusing
  rw [decided.1] at overusing
  rw [decided.2]
  exact two_lt_aggressiveness (by linarith) (threshold_lt_of_detectUsage overusing)

/--
After every detection the threshold is within its bounds, and if an overuse is
reported then the level exceeds the one from which on the encoder reacts.
-/
theorem warns_of_detections (settings : TrendlineEstimatorSettings) (steps : List Detection) :
    6 ≤ (detections.outcome (create settings) steps).threshold ∧
      (detections.outcome (create settings) steps).threshold ≤ 600 ∧
      ((detections.outcome (create settings) steps).hypothesis = .overusing →
        2 < (detections.outcome (create settings) steps).hypothesisAggresive) := by
  have run : detections.Run (create settings) steps
      (detections.outcome (create settings) steps) :=
    (Machine.admits_of_forall (fun _ _ _ => trivial) _).run
  have warns : Warns (detections.outcome (create settings) steps) := by
    refine run.invariant (fun _ state => Warns state) (warns_create settings) ?_
    intro _ state detection _ warns _
    refine Warns.detect ?_ ?_ _ _ _
    · exact warns.thresholdLower
    · exact warns.thresholdUpper
  exact ⟨warns.thresholdLower, warns.thresholdUpper, warns.warned⟩

end MaeRtc.GoogCc.TrendlineEstimator
