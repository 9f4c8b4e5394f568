import Mathlib

/-!
# The trendline estimator

A line is fitted to the delays of the packets that arrived in the last 100 ms.
Its slope, scaled by the number of samples, is compared with an adaptive
threshold.  The outcome is the usage of the bandwidth and, in addition, a level
of aggressiveness that is passed on to the encoder.  Delays and slopes are
rational numbers.
-/

namespace MaeRtc.GoogCc

inductive BandwidthUsage where
  | normal
  | underusing
  | overusing
  deriving DecidableEq, Repr

structure PacketTiming where
  arrivalTimeMs : ℚ
  smoothedDelayMs : ℚ
  rawDelayMs : ℚ
  deriving DecidableEq

structure TrendlineEstimatorSettings where
  enableSort : Bool
  enableCap : Bool
  beginningPackets : Nat
  endPackets : Nat
  capUncertainty : ℚ

def smoothingCoef : ℚ := 9 / 10

def thresholdGain : ℚ := 4

def kUp : ℚ := 87 / 10000

def kDown : ℚ := 39 / 1000

def overusingTimeThreshold : ℚ := 10

def maxAdaptOffsetMs : ℚ := 15

def minNumDeltas : Nat := 60

def deltaCounterMax : Nat := 1000

/-- The least-squares slope; there is none if all packets arrive at once. -/
def linearFitSlope (packets : List PacketTiming) : Option ℚ :=
  let xAvg := (packets.map (·.arrivalTimeMs)).sum / packets.length
  let yAvg := (packets.map (·.smoothedDelayMs)).sum / packets.length
  let numerator := (packets.map fun packet =>
    (packet.arrivalTimeMs - xAvg) * (packet.smoothedDelayMs - yAvg)).sum
  let denominator := (packets.map fun packet =>
    (packet.arrivalTimeMs - xAvg) * (packet.arrivalTimeMs - xAvg)).sum
  if denominator = 0 then none else some (numerator / denominator)

def leastDelayed (first : PacketTiming) (others : List PacketTiming) : PacketTiming :=
  others.foldl (fun best packet => if packet.rawDelayMs < best.rawDelayMs then packet else best)
    first

/-- An upper bound for the slope from the least delayed packets at both ends. -/
def computeSlopeCap (packets : List PacketTiming) (settings : TrendlineEstimatorSettings) :
    Option ℚ :=
  match packets.take settings.beginningPackets,
    packets.drop (packets.length - settings.endPackets) with
  | firstEarly :: earlies, firstLate :: lates =>
    let early := leastDelayed firstEarly earlies
    let late := leastDelayed firstLate lates
    if late.arrivalTimeMs - early.arrivalTimeMs < 1 then none
    else some ((late.rawDelayMs - early.rawDelayMs) /
      (late.arrivalTimeMs - early.arrivalTimeMs) + settings.capUncertainty)
  | _, _ => none

structure TrendlineEstimator where
  settings : TrendlineEstimatorSettings
  numOfDeltas : Nat
  firstArrivalTimeMs : Int
  accumulatedDelay : ℚ
  smoothedDelay : ℚ
  delayHist : List PacketTiming
  threshold : ℚ
  lastUpdateMs : Int
  prevTrend : ℚ
  timeOverUsing : ℚ
  overuseCounter : Nat
  hypothesis : BandwidthUsage
  hypothesisPredicted : Option BandwidthUsage
  hypothesisAggresive : ℚ

namespace TrendlineEstimator

def create (settings : TrendlineEstimatorSettings) : TrendlineEstimator where
  settings := settings
  numOfDeltas := 0
  firstArrivalTimeMs := -1
  accumulatedDelay := 0
  smoothedDelay := 0
  delayHist := []
  threshold := 25 / 2
  lastUpdateMs := -1
  prevTrend := 0
  timeOverUsing := -1
  overuseCounter := 0
  hypothesis := .normal
  hypothesisPredicted := none
  hypothesisAggresive := 1

def updateThreshold (self : TrendlineEstimator) (modifiedTrend : ℚ) (nowMs : Int) :
    TrendlineEstimator :=
  let lastUpdateMs := if self.lastUpdateMs = -1 then nowMs else self.lastUpdateMs
  if |modifiedTrend| > self.threshold + maxAdaptOffsetMs then
    { self with lastUpdateMs := nowMs }
  else
    let k := if |modifiedTrend| < self.threshold then kDown else kUp
    let timeDeltaMs := min (nowMs - lastUpdateMs) 100
    let threshold := self.threshold + k * (|modifiedTrend| - self.threshold) * timeDeltaMs
    { self with threshold := max 6 (min 600 threshold), lastUpdateMs := nowMs }

/-- The usage that a scaled slope stands for, with the timer of an overuse. -/
def detectUsage (self : TrendlineEstimator) (trend modifiedTrend tsDelta : ℚ) :
    TrendlineEstimator :=
  if modifiedTrend > self.threshold then
    let timeOverUsing := if self.timeOverUsing = -1 then tsDelta / 2
      else self.timeOverUsing + tsDelta
    let overuseCounter := self.overuseCounter + 1
    if timeOverUsing > overusingTimeThreshold ∧ overuseCounter > 1 ∧
        trend ≥ self.prevTrend then
      { self with timeOverUsing := 0, overuseCounter := 0, hypothesis := .overusing }
    else
      { self with timeOverUsing := timeOverUsing, overuseCounter := overuseCounter }
  else
    { self with
      timeOverUsing := -1
      overuseCounter := 0
      hypothesis := if modifiedTrend < -self.threshold then .underusing else .normal }

/-- How far a scaled slope exceeds half of the threshold. -/
def aggressiveness (threshold modifiedTrend : ℚ) : ℚ :=
  let aggressiveRatio : ℚ := 1 / 2
  if modifiedTrend > threshold * aggressiveRatio then
    modifiedTrend / (threshold * aggressiveRatio)
  else 1

def detect (self : TrendlineEstimator) (trend tsDelta : ℚ) (nowMs : Int) :
    TrendlineEstimator :=
  if self.numOfDeltas < 2 then
    { self with hypothesis := .normal, hypothesisAggresive := 1 }
  else
    let modifiedTrend := (min self.numOfDeltas minNumDeltas : Nat) * trend * thresholdGain
    updateThreshold
      { self.detectUsage trend modifiedTrend tsDelta with
        hypothesisAggresive := aggressiveness self.threshold modifiedTrend
        prevTrend := trend } modifiedTrend nowMs

/-- A new sample at the end of the window, moved forward if the window is sorted. -/
def insertSample (enableSort : Bool) (hist : List PacketTiming) (sample : PacketTiming) :
    List PacketTiming :=
  if enableSort then
    hist.rdropWhile (fun packet => sample.arrivalTimeMs < packet.arrivalTimeMs) ++
      sample :: hist.rtakeWhile (fun packet => sample.arrivalTimeMs < packet.arrivalTimeMs)
  else hist ++ [sample]

/-- Drop samples from the front until the window spans at most 100 ms or two samples. -/
def trimWindow (lastArrivalTime : ℚ) : List PacketTiming → List PacketTiming
  | front :: second :: third :: rest =>
    if lastArrivalTime - front.arrivalTimeMs > 100 then
      trimWindow lastArrivalTime (second :: third :: rest)
    else front :: second :: third :: rest
  | short => short

def fittedTrend (self : TrendlineEstimator) (hist : List PacketTiming) : ℚ :=
  let trend := (linearFitSlope hist).getD self.prevTrend
  if self.settings.enableCap then
    match computeSlopeCap hist self.settings with
    | some cap => if trend ≥ 0 ∧ trend > cap then cap else trend
    | none => trend
  else trend

def updateTrendline (self : TrendlineEstimator) (recvDeltaMs sendDeltaMs : ℚ)
    (arrivalTimeMs : Int) : TrendlineEstimator :=
  let firstArrivalTimeMs := if self.firstArrivalTimeMs = -1 then arrivalTimeMs
    else self.firstArrivalTimeMs
  let accumulatedDelay := self.accumulatedDelay + (recvDeltaMs - sendDeltaMs)
  let smoothedDelay := smoothingCoef * self.smoothedDelay +
    (1 - smoothingCoef) * accumulatedDelay
  let hist := insertSample self.settings.enableSort self.delayHist
    ⟨(arrivalTimeMs - firstArrivalTimeMs : Int), smoothedDelay, accumulatedDelay⟩
  let window := trimWindow ((hist.getLast?.map (·.arrivalTimeMs)).getD 0) hist
  -- the line is fitted only when samples have left the window
  let doFit := decide (window.length < hist.length)
  let trend := if doFit then self.fittedTrend window else self.prevTrend
  detect
    { self with
      numOfDeltas := min (self.numOfDeltas + 1) deltaCounterMax
      firstArrivalTimeMs := firstArrivalTimeMs
      accumulatedDelay := accumulatedDelay
      smoothedDelay := smoothedDelay
      delayHist := window } trend sendDeltaMs arrivalTimeMs

/--
A packet, with the deltas of its group if there are any.  `predicted` is the
answer of the network state predictor, if one is injected.
-/
def update (self : TrendlineEstimator) (deltas : Option (ℚ × ℚ)) (arrivalTimeMs : Int)
    (predicted : Option BandwidthUsage) : TrendlineEstimator :=
  let self := match deltas with
    | some (recvDeltaMs, sendDeltaMs) =>
      self.updateTrendline recvDeltaMs sendDeltaMs arrivalTimeMs
    | none => self
  { self with hypothesisPredicted := predicted }

def state (self : TrendlineEstimator) : BandwidthUsage :=
  self.hypothesisPredicted.getD self.hypothesis

def aggresiveState (self : TrendlineEstimator) : ℚ :=
  self.hypothesisAggresive

end TrendlineEstimator

end MaeRtc.GoogCc
