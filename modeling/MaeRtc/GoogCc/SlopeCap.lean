import MaeRtc.Base.Machine
import MaeRtc.GoogCc.TrendlineEstimator

/-!
# The history handed to the slope cap

The cap of the slope looks at some samples at the beginning and at the end of the
history.  Their numbers are validated against a window counted in packets, but the
history is trimmed to the last 100 ms.  So the cap finds enough samples exactly if
enough of them have arrived in that time.
-/

namespace MaeRtc.GoogCc

open MaeRtc.Base

/-! ## Settings -/

/-- The settings as the field trials give them. -/
structure TrendlineFieldTrials where
  enableSort : Bool
  enableCap : Bool
  beginningPackets : Nat
  endPackets : Nat
  capUncertainty : ℚ
  windowSize : Nat

def defaultTrendlineWindowSize : Nat := 20

namespace TrendlineEstimatorSettings

def withoutCap (settings : TrendlineEstimatorSettings) : TrendlineEstimatorSettings :=
  { settings with enableCap := false, beginningPackets := 0, endPackets := 0,
                  capUncertainty := 0 }

/-- The validation of the settings by the constructor. -/
def create (trials : TrendlineFieldTrials) : TrendlineEstimatorSettings :=
  let windowSize :=
    if trials.windowSize < 10 ∨ 200 < trials.windowSize then defaultTrendlineWindowSize
    else trials.windowSize
  let settings : TrendlineEstimatorSettings :=
    { enableSort := trials.enableSort
      enableCap := trials.enableCap
      beginningPackets := trials.beginningPackets
      endPackets := trials.endPackets
      capUncertainty := trials.capUncertainty }
  if settings.enableCap then
    let settings :=
      if settings.beginningPackets < 1 ∨ settings.endPackets < 1 ∨
          settings.beginningPackets > windowSize ∨ settings.endPackets > windowSize then
        settings.withoutCap
      else settings
    let settings :=
      if settings.beginningPackets + settings.endPackets > windowSize then
        settings.withoutCap
      else settings
    if settings.capUncertainty < 0 ∨ 1 / 40 < settings.capUncertainty then
      { settings with capUncertainty := 0 }
    else settings
  else settings

/-- Settings that are left enabled ask for a sample at both ends. -/
theorem create_enabled {trials : TrendlineFieldTrials}
    (enabled : (create trials).enableCap = true) :
    1 ≤ (create trials).beginningPackets ∧ 1 ≤ (create trials).endPackets := by
  revert enabled
  unfold create
  dsimp only
  split_ifs
  all_goals simp_all only [withoutCap, Bool.false_eq_true, false_implies, true_implies]
  all_goals omega

end TrendlineEstimatorSettings

/-- What the cap of the slope asserts about the history it is given. -/
def CapAssertions (settings : TrendlineEstimatorSettings) (packets : List PacketTiming) : Prop :=
  (1 ≤ settings.beginningPackets ∧ settings.beginningPackets < packets.length) ∧
    (1 ≤ settings.endPackets ∧ settings.endPackets < packets.length) ∧
    settings.beginningPackets + settings.endPackets ≤ packets.length

namespace TrendlineEstimator

/-! ## The history of an update -/

/-- The arguments of an update that the estimator uses. -/
structure Sample where
  recvDeltaMs : ℚ
  sendDeltaMs : ℚ
  arrivalTimeMs : Int

def updates : Machine TrendlineEstimator Sample where
  pre _ _ := True
  next self sample :=
    self.updateTrendline sample.recvDeltaMs sample.sendDeltaMs sample.arrivalTimeMs

def firstArrival (self : TrendlineEstimator) (sample : Sample) : Int :=
  if self.firstArrivalTimeMs = -1 then sample.arrivalTimeMs else self.firstArrivalTimeMs

def relativeArrival (self : TrendlineEstimator) (sample : Sample) : ℚ :=
  (sample.arrivalTimeMs - self.firstArrival sample : Int)

def timing (self : TrendlineEstimator) (sample : Sample) : PacketTiming :=
  let accumulatedDelay := self.accumulatedDelay + (sample.recvDeltaMs - sample.sendDeltaMs)
  ⟨self.relativeArrival sample,
    smoothingCoef * self.smoothedDelay + (1 - smoothingCoef) * accumulatedDelay,
    accumulatedDelay⟩

/-- The history with the new sample, before it is trimmed. -/
def extended (self : TrendlineEstimator) (sample : Sample) : List PacketTiming :=
  insertSample self.settings.enableSort self.delayHist (self.timing sample)

def lastArrival (hist : List PacketTiming) : ℚ :=
  (hist.getLast?.map (·.arrivalTimeMs)).getD 0

def window (self : TrendlineEstimator) (sample : Sample) : List PacketTiming :=
  trimWindow (lastArrival (self.extended sample)) (self.extended sample)

/-- The history that an update hands to the cap of the slope, if it does. -/
def slopeCapHistory (self : TrendlineEstimator) (sample : Sample) : Option (List PacketTiming) :=
  if (self.window sample).length < (self.extended sample).length ∧
      self.settings.enableCap = true then
    some (self.window sample)
  else none

/-- The trend that an update detects with; the cap is computed of the history above. -/
def trendOf (self : TrendlineEstimator) (sample : Sample) : ℚ :=
  if (self.window sample).length < (self.extended sample).length then
    let trend := (linearFitSlope (self.window sample)).getD self.prevTrend
    match self.slopeCapHistory sample with
    | some hist =>
      match computeSlopeCap hist self.settings with
      | some cap => if trend ≥ 0 ∧ trend > cap then cap else trend
      | none => trend
    | none => trend
  else self.prevTrend

/-- An update is a detection with that trend, and it stores the trimmed history. -/
theorem updateTrendline_eq (self : TrendlineEstimator) (sample : Sample) :
    updates.next self sample =
      detect
        { self with
          numOfDeltas := min (self.numOfDeltas + 1) deltaCounterMax
          firstArrivalTimeMs := self.firstArrival sample
          accumulatedDelay := (self.timing sample).rawDelayMs
          smoothedDelay := (self.timing sample).smoothedDelayMs
          delayHist := self.window sample }
        (self.trendOf sample) sample.sendDeltaMs sample.arrivalTimeMs := by
  have trends : self.trendOf sample =
      if decide ((self.window sample).length < (self.extended sample).length) then
        self.fittedTrend (self.window sample)
      else self.prevTrend := by
    unfold trendOf slopeCapHistory fittedTrend
    by_cases trimmed : (self.window sample).length < (self.extended sample).length
    · cases cap : self.settings.enableCap with
      | true =>
        cases slope : computeSlopeCap (self.window sample) self.settings with
        | none => simp only [trimmed, slope, and_self, if_true, decide_true]
        | some cap => simp only [trimmed, slope, and_self, if_true, decide_true]
      | false => simp
    · simp [trimmed]
  rw [trends]
  rfl

theorem detect_settings (self : TrendlineEstimator) (trend tsDelta : ℚ) (nowMs : Int) :
    (self.detect trend tsDelta nowMs).settings = self.settings ∧
      (self.detect trend tsDelta nowMs).delayHist = self.delayHist := by
  unfold detect detectUsage updateThreshold
  dsimp only
  split_ifs
  all_goals exact ⟨rfl, rfl⟩

/-! ## Trimming -/

def Recent (last : ℚ) (arrivalTimeMs : ℚ) : Prop :=
  last - arrivalTimeMs ≤ 100

instance decidableRecent (last arrivalTimeMs : ℚ) : Decidable (Recent last arrivalTimeMs) :=
  inferInstanceAs (Decidable (_ ≤ _))

theorem trimWindow_suffix (last : ℚ) (hist : List PacketTiming) :
    trimWindow last hist <:+ hist := by
  fun_induction trimWindow last hist with
  | case1 front second third rest old ih => exact ih.trans (List.suffix_cons _ _)
  | case2 front second third rest recent => exact List.suffix_rfl
  | case3 hist short => exact List.suffix_rfl

variable {self : TrendlineEstimator} {hist : List PacketTiming}

theorem length_le_two
    (short : ∀ front second third rest, hist = front :: second :: third :: rest → False) :
    hist.length ≤ 2 := by
  rcases hist with - | ⟨front, - | ⟨second, - | ⟨third, rest⟩⟩⟩
  · simp
  · simp
  · simp
  · exact absurd rfl (short front second third rest)

theorem two_le_length_trimWindow (last : ℚ) (two_le : 2 ≤ hist.length) :
    2 ≤ (trimWindow last hist).length := by
  fun_induction trimWindow last hist with
  | case1 front second third rest old ih => exact ih (by simp)
  | case2 front second third rest recent => exact two_le
  | case3 hist short => exact two_le

/-- Nothing is dropped from a short history, nor from one that starts recently. -/
theorem trimWindow_eq_self_iff (last : ℚ) (hist : List PacketTiming) :
    ¬ (trimWindow last hist).length < hist.length ↔
      hist.length ≤ 2 ∨ ∃ front ∈ hist.head?, Recent last front.arrivalTimeMs := by
  fun_cases trimWindow last hist with
  | case1 front second third rest old =>
    have shorter := (trimWindow_suffix last (second :: third :: rest)).length_le
    have long : ¬ (front :: second :: third :: rest).length ≤ 2 := by simp
    have dropped : (trimWindow last (second :: third :: rest)).length <
        (front :: second :: third :: rest).length := Nat.lt_succ_of_le shorter
    constructor
    · exact fun kept => absurd dropped kept
    · rintro (short | ⟨first, isFront, recent⟩)
      · exact absurd short long
      · obtain rfl : front = first := Option.some.inj isFront
        exact absurd old recent.not_gt
  | case2 front second third rest recent =>
    refine iff_of_true (lt_irrefl _) (.inr ⟨front, rfl, not_lt.mp recent⟩)
  | case3 hist short =>
    exact iff_of_true (lt_irrefl _) (.inl (length_le_two short))

/-- What is left has a number of samples if one with so many behind it is recent. -/
theorem le_length_trimWindow_iff (last : ℚ) (hist : List PacketTiming) {count : Nat}
    (two_lt : 2 < count) :
    count ≤ (trimWindow last hist).length ↔
      ∃ packet ∈ hist.take (hist.length + 1 - count), Recent last packet.arrivalTimeMs := by
  fun_induction trimWindow last hist with
  | case1 front second third rest old ih =>
    rw [ih]
    by_cases long : count ≤ (second :: third :: rest).length + 1
    · have more : (front :: second :: third :: rest).length + 1 - count =
          (second :: third :: rest).length + 1 - count + 1 := by
        rw [List.length_cons]
        omega
      have notRecent : ¬ Recent last front.arrivalTimeMs := not_le.mpr old
      rw [more, List.take_succ_cons, List.exists_mem_cons_iff]
      exact (or_iff_right notRecent).symm
    · have none : (front :: second :: third :: rest).length + 1 - count = 0 := by
        rw [List.length_cons]
        omega
      have noneBehind : (second :: third :: rest).length + 1 - count = 0 := by omega
      rw [none, noneBehind]
      simp
  | case2 front second third rest recent =>
    constructor
    · intro enough
      have some : (front :: second :: third :: rest).length + 1 - count =
          (front :: second :: third :: rest).length - count + 1 := by omega
      rw [some, List.take_succ_cons]
      exact ⟨front, List.mem_cons_self, not_lt.mp recent⟩
    · rintro ⟨packet, member, -⟩
      have positive := List.length_pos_of_mem member
      rw [List.length_take] at positive
      omega
  | case3 hist short =>
    have atMost := length_le_two short
    have none : hist.length + 1 - count = 0 := by omega
    rw [none]
    simp only [List.take_zero, List.not_mem_nil, false_and, exists_false, iff_false]
    omega

/-! ## Enough recent samples -/

/--
There are at most two samples, or two are asked for, or a recent one is the first of
all or has enough samples behind it.
-/
def EnoughRecent (count : Nat) (times : List ℚ) : Prop :=
  times.length ≤ 2 ∨ count ≤ 2 ∨
    ∃ time ∈ times.take (max 1 (times.length + 1 - count)), Recent (times.getLast?.getD 0) time

instance decidableEnoughRecent (count : Nat) (times : List ℚ) :
    Decidable (EnoughRecent count times) :=
  inferInstanceAs (Decidable (_ ∨ _ ∨ _))

/-- A trimmed history has enough samples, by the times of the samples before. -/
theorem enough_of_trimmed_iff (hist : List PacketTiming) (count : Nat) :
    ((trimWindow (lastArrival hist) hist).length < hist.length →
        count ≤ (trimWindow (lastArrival hist) hist).length) ↔
      EnoughRecent count (hist.map (·.arrivalTimeMs)) := by
  have last : (hist.map (·.arrivalTimeMs)).getLast?.getD 0 = lastArrival hist := by
    rw [List.getLast?_map]
    rfl
  have untouched := trimWindow_eq_self_iff (lastArrival hist) hist
  unfold EnoughRecent
  rw [last, List.length_map, ← List.map_take]
  by_cases trimmed : (trimWindow (lastArrival hist) hist).length < hist.length
  · have long : ¬ hist.length ≤ 2 := fun short => untouched.mpr (.inl short) trimmed
    have old : ¬ ∃ front ∈ hist.head?, Recent (lastArrival hist) front.arrivalTimeMs :=
      fun recent => untouched.mpr (.inr recent) trimmed
    simp only [trimmed, true_implies, long, false_or, List.mem_map, exists_exists_and_eq_and]
    rcases Nat.lt_or_ge 2 count with two_lt | le_two
    · rw [le_length_trimWindow_iff _ _ two_lt, or_iff_right (by omega)]
      rcases Nat.eq_zero_or_pos (hist.length + 1 - count) with none | some
      · -- the first sample would have to be recent
        rw [none]
        cases hist with
        | nil => simp
        | cons front rest =>
          simp only [List.head?_cons, Option.mem_def, Option.some.injEq, exists_eq_left']
            at old
          simp [old]
      · rw [max_eq_right (by omega)]
    · refine iff_of_true ?_ (.inl le_two)
      exact le_two.trans (two_le_length_trimWindow _ (by omega))
  · refine iff_of_true (fun dropped => absurd dropped trimmed) ?_
    rcases untouched.mp trimmed with short | ⟨front, isFront, recent⟩
    · exact .inl short
    refine .inr (.inr ⟨front.arrivalTimeMs, ?_, recent⟩)
    cases hist with
    | nil => cases isFront
    | cons first rest =>
      obtain rfl : first = front := Option.some.inj isFront
      have one : max 1 ((first :: rest).length + 1 - count) =
          max 1 ((first :: rest).length + 1 - count) - 1 + 1 := by omega
      rw [one, List.take_succ_cons, List.map_cons]
      exact List.mem_cons_self

/-! ## The order of the history -/

def Ascending (hist : List PacketTiming) : Prop :=
  hist.Pairwise fun one two => one.arrivalTimeMs ≤ two.arrivalTimeMs

/-- The times of the history with that of the new sample, in the order of the history. -/
def arrivalTimes (self : TrendlineEstimator) (sample : Sample) : List ℚ :=
  let times := self.delayHist.map (·.arrivalTimeMs) ++ [self.relativeArrival sample]
  if self.settings.enableSort then times.insertionSort (· ≤ ·) else times

theorem ascending_insertSample (ascending : Ascending hist) (sample : PacketTiming) :
    Ascending (insertSample true hist sample) := by
  let later : PacketTiming → Bool := fun packet =>
    decide (sample.arrivalTimeMs < packet.arrivalTimeMs)
  have parts : hist.rdropWhile later ++ hist.rtakeWhile later = hist :=
    List.rdropWhile_append_rtakeWhile
  have behind : ∀ packet ∈ hist.rtakeWhile later,
      sample.arrivalTimeMs ≤ packet.arrivalTimeMs := by
    intro packet member
    have isLater : later packet = true := List.mem_rtakeWhile_imp member
    exact le_of_lt (of_decide_eq_true isLater)
  unfold Ascending at ascending
  rw [← parts, List.pairwise_append] at ascending
  have before : ∀ packet ∈ hist.rdropWhile later,
      packet.arrivalTimeMs ≤ sample.arrivalTimeMs := by
    intro packet member
    have nonempty := List.ne_nil_of_mem member
    have lastLe := not_lt.mp fun less =>
      List.rdropWhile_last_not later hist nonempty (decide_eq_true less)
    refine le_trans ?_ lastLe
    rw [← List.dropLast_append_getLast nonempty, List.mem_append, List.mem_singleton] at member
    rcases member with earlier | rfl
    · have split := ascending.1
      rw [← List.dropLast_append_getLast nonempty, List.pairwise_append] at split
      exact split.2.2 packet earlier _ (List.mem_singleton_self _)
    · exact le_rfl
  change Ascending (hist.rdropWhile later ++ sample :: hist.rtakeWhile later)
  unfold Ascending
  rw [List.pairwise_append, List.pairwise_cons]
  refine ⟨ascending.1, ⟨behind, ascending.2.1⟩, ?_⟩
  intro packet member other otherMember
  rcases List.mem_cons.mp otherMember with rfl | inBehind
  · exact before packet member
  · exact (before packet member).trans (behind other inBehind)

theorem insertSample_perm (enableSort : Bool) (hist : List PacketTiming)
    (sample : PacketTiming) : (insertSample enableSort hist sample).Perm (hist ++ [sample]) := by
  cases enableSort with
  | false => exact .refl _
  | true =>
    refine List.perm_middle.trans ?_
    rw [List.rdropWhile_append_rtakeWhile]
    exact (List.perm_append_singleton sample hist).symm

/-- A history that has to be sorted is sorted. -/
def InOrder (self : TrendlineEstimator) : Prop :=
  self.settings.enableSort = true → Ascending self.delayHist

theorem InOrder.extended (inOrder : self.InOrder) (sorted : self.settings.enableSort = true)
    (sample : Sample) : Ascending (self.extended sample) := by
  unfold TrendlineEstimator.extended
  rw [sorted]
  exact ascending_insertSample (inOrder sorted) _

theorem InOrder.update (inOrder : self.InOrder) (sample : Sample) :
    (updates.next self sample).InOrder := by
  intro sorted
  rw [updateTrendline_eq, (detect_settings _ _ _ _).1] at sorted
  rw [updateTrendline_eq, (detect_settings _ _ _ _).2]
  exact (inOrder.extended sorted sample).sublist (trimWindow_suffix _ _).sublist

theorem InOrder.times_extended (inOrder : self.InOrder) (sample : Sample) :
    (self.extended sample).map (·.arrivalTimeMs) = self.arrivalTimes sample := by
  unfold arrivalTimes
  split_ifs with sorted
  · have perm : ((self.extended sample).map (·.arrivalTimeMs)).Perm
        (self.delayHist.map (·.arrivalTimeMs) ++ [self.relativeArrival sample]) := by
      have := (insertSample_perm self.settings.enableSort self.delayHist
        (self.timing sample)).map (·.arrivalTimeMs)
      rwa [List.map_append] at this
    refine (perm.trans (List.perm_insertionSort _ _).symm).eq_of_pairwise
      (fun _ _ _ _ => le_antisymm) ?_ (List.pairwise_insertionSort _ _)
    exact List.pairwise_map.mpr (inOrder.extended sorted sample)
  · have unsorted : self.settings.enableSort = false := by simpa using sorted
    unfold TrendlineEstimator.extended insertSample
    rw [unsorted, if_neg (by simp), List.map_append]
    rfl

/-! ## Runs -/

theorem settings_of_run {settings : TrendlineEstimatorSettings} {samples : List Sample}
    (run : updates.Run (create settings) samples self) :
    self.settings = settings ∧ self.InOrder := by
  refine run.invariant (fun _ state => state.settings = settings ∧ state.InOrder)
    ⟨rfl, fun _ => List.Pairwise.nil⟩ ?_
  intro _ state sample _ holds _
  refine ⟨?_, holds.2.update sample⟩
  rw [updateTrendline_eq, (detect_settings _ _ _ _).1]
  exact holds.1

/--
Settings whose cap was left enabled, after any updates: the next update hands the cap
a history that satisfies its assertions, or none, exactly if there are enough recent
samples.
-/
theorem slopeCap_asserts_iff {trials : TrendlineFieldTrials}
    (enabled : (TrendlineEstimatorSettings.create trials).enableCap = true)
    {samples : List Sample} {self : TrendlineEstimator}
    (run : updates.Run (create (TrendlineEstimatorSettings.create trials)) samples self)
    (sample : Sample) :
    (∀ hist ∈ self.slopeCapHistory sample, CapAssertions self.settings hist) ↔
      EnoughRecent (self.settings.beginningPackets + self.settings.endPackets)
        (self.arrivalTimes sample) := by
  obtain ⟨settingsEq, inOrder⟩ := settings_of_run run
  have positive := TrendlineEstimatorSettings.create_enabled enabled
  rw [← settingsEq] at enabled positive
  rw [← inOrder.times_extended sample, ← enough_of_trimmed_iff]
  have assertions (hist : List PacketTiming) : CapAssertions self.settings hist ↔
      self.settings.beginningPackets + self.settings.endPackets ≤ hist.length := by
    unfold CapAssertions
    omega
  unfold slopeCapHistory
  simp only [enabled, and_true, assertions]
  constructor
  · intro safe trimmed
    exact safe _ (if_pos trimmed)
  · intro enough hist called
    split_ifs at called with trimmed
    · cases called
      exact enough trimmed
    · cases called

/-- Settings that ask for the same number of samples at both ends of 20 packets. -/
def cappedBy (count : Nat) : TrendlineFieldTrials where
  enableSort := false
  enableCap := true
  beginningPackets := count
  endPackets := count
  capUncertainty := 0
  windowSize := 20

/-- Samples without a change of the delay that arrive at the given times. -/
def arrivingAt (times : List Int) : List Sample :=
  times.map fun time => ⟨0, 0, time⟩

/-- Samples that arrive in quick succession. -/
theorem slopeCap_asserts_steady :
    let self := updates.outcome (create (TrendlineEstimatorSettings.create (cappedBy 2)))
      (arrivingAt [0, 50, 60, 70, 80])
    (self.slopeCapHistory ⟨0, 0, 120⟩).isSome = true ∧
      ∀ hist ∈ self.slopeCapHistory ⟨0, 0, 120⟩, CapAssertions self.settings hist := by
  have run : updates.Run (create (TrendlineEstimatorSettings.create (cappedBy 2)))
      (arrivingAt [0, 50, 60, 70, 80]) _ :=
    (Machine.admits_of_forall (fun _ _ _ => trivial) _).run
  refine ⟨by decide +kernel, ?_⟩
  exact (slopeCap_asserts_iff (by decide +kernel) run _).mpr (by decide +kernel)

/-- After a gap only two samples are left, but seven are asked for at both ends. -/
theorem slopeCap_fails_gap :
    let self := updates.outcome (create (TrendlineEstimatorSettings.create (cappedBy 7)))
      (arrivingAt [0, 50])
    self.settings.enableCap = true ∧
      (self.settings.beginningPackets = 7 ∧ self.settings.endPackets = 7) ∧
      (self.slopeCapHistory ⟨0, 0, 200⟩).map List.length = some 2 ∧
      ¬ ∀ hist ∈ self.slopeCapHistory ⟨0, 0, 200⟩, CapAssertions self.settings hist := by
  intro self
  have seven : self.settings.beginningPackets = 7 := by decide +kernel
  have two : (self.slopeCapHistory ⟨0, 0, 200⟩).map List.length = some 2 := by decide +kernel
  refine ⟨by decide +kernel, ⟨seven, by decide +kernel⟩, two, ?_⟩
  intro safe
  obtain ⟨hist, called, length⟩ := Option.map_eq_some_iff.mp two
  have below := (safe hist called).1.2
  omega

end TrendlineEstimator

end MaeRtc.GoogCc
