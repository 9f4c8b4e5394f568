import MaeRtc.Base.DivideRound
import MaeRtc.Base.Machine
import MaeRtc.GoogCc.InterArrivalDelta
import MaeRtc.GoogCc.TrendlineEstimator

/-!
# Transport feedback in the network controller

A feedback report is first given to the delay-based estimator.  If that
estimator is updated, the controller compares the estimates with those it
published last and publishes a new target rate if one of them has changed.  The
grouping of packets and the delay detectors are modelled; the rate control and the
loss-based estimator are not, and a report brings the values they compute.
-/

namespace MaeRtc.GoogCc

open MaeRtc.Base

/-- A received packet of a report, with what the network state predictor says of it. -/
structure PacketResult where
  audio : Bool
  sequenceNumber : Int
  sendTimeUs : Int
  receiveTimeUs : Int
  size : Nat
  predicted : Option BandwidthUsage

def PacketResult.receiveTimeOrder (lhs rhs : PacketResult) : Bool :=
  if lhs.receiveTimeUs ≠ rhs.receiveTimeUs then lhs.receiveTimeUs < rhs.receiveTimeUs
  else if lhs.sendTimeUs ≠ rhs.sendTimeUs then lhs.sendTimeUs < rhs.sendTimeUs
  else lhs.sequenceNumber < rhs.sequenceNumber

/-- What the rate control answers while a report is handled. -/
structure RateControlAnswers where
  timeToReduceFurther : Bool
  initialTimeToReduceFurther : Bool
  validEstimate : Bool
  updatedRateBps : Nat
  latestEstimateBps : Nat

structure SeparateAudioSettings where
  enabled : Bool
  packetThreshold : Nat
  timeThresholdUs : Int

structure DelayBasedBwe where
  trendlineSettings : TrendlineEstimatorSettings
  separateAudio : SeparateAudioSettings
  audioPacketsSinceLastVideo : Nat
  lastVideoPacketRecvTimeUs : Option Int
  videoDelayDetector : TrendlineEstimator
  audioDelayDetector : TrendlineEstimator
  videoInterArrivalDelta : InterArrivalDelta
  audioInterArrivalDelta : InterArrivalDelta
  audioDetectorActive : Bool
  lastSeenPacketUs : Option Int

structure DelayBasedResult where
  updated : Bool
  probe : Bool
  targetBitrateBps : Nat
  recoveredFromOveruse : Bool
  delayDetectorState : BandwidthUsage

namespace DelayBasedBwe

def streamTimeOutUs : Int := 2000000

def sendTimeGroupLengthUs : Int := 5000

def create (trendlineSettings : TrendlineEstimatorSettings)
    (separateAudio : SeparateAudioSettings) : DelayBasedBwe where
  trendlineSettings := trendlineSettings
  separateAudio := separateAudio
  audioPacketsSinceLastVideo := 0
  lastVideoPacketRecvTimeUs := none
  videoDelayDetector := .create trendlineSettings
  audioDelayDetector := .create trendlineSettings
  videoInterArrivalDelta := ⟨sendTimeGroupLengthUs, none, none, 0⟩
  audioInterArrivalDelta := ⟨sendTimeGroupLengthUs, none, none, 0⟩
  audioDetectorActive := false
  lastSeenPacketUs := none

def activeDelayDetector (self : DelayBasedBwe) : TrendlineEstimator :=
  if self.audioDetectorActive then self.audioDelayDetector else self.videoDelayDetector

def aggressiveState (self : DelayBasedBwe) : ℚ :=
  self.activeDelayDetector.aggresiveState

/-- Start over if no packet was seen for too long. -/
def resetIfTimedOut (self : DelayBasedBwe) (atTimeUs : Int) : DelayBasedBwe :=
  let timedOut := match self.lastSeenPacketUs with
    | none => true
    | some lastSeen => decide (atTimeUs - lastSeen > streamTimeOutUs)
  let self := if timedOut then
      { self with
        videoInterArrivalDelta := self.videoInterArrivalDelta.reset
        audioInterArrivalDelta := self.audioInterArrivalDelta.reset
        videoDelayDetector := .create self.trendlineSettings
        audioDelayDetector := .create self.trendlineSettings
        audioDetectorActive := false }
    else self
  { self with lastSeenPacketUs := some atTimeUs }

/-- Choose the active detector by the kind of the packet. -/
def chooseDetector (self : DelayBasedBwe) (packet : PacketResult) : DelayBasedBwe :=
  if self.separateAudio.enabled then
    if packet.audio then
      let audioPackets := self.audioPacketsSinceLastVideo + 1
      let videoIsOld := match self.lastVideoPacketRecvTimeUs with
        | none => true
        | some lastVideo =>
          decide (packet.receiveTimeUs - lastVideo > self.separateAudio.timeThresholdUs)
      { self with
        audioPacketsSinceLastVideo := audioPackets
        audioDetectorActive := self.audioDetectorActive ||
          decide (audioPackets > self.separateAudio.packetThreshold) && videoIsOld }
    else
      { self with
        audioPacketsSinceLastVideo := 0
        lastVideoPacketRecvTimeUs := some (match self.lastVideoPacketRecvTimeUs with
          | none => packet.receiveTimeUs
          | some lastVideo => max lastVideo packet.receiveTimeUs)
        audioDetectorActive := false }
  else self

def incomingPacketFeedback (self : DelayBasedBwe) (packet : PacketResult) (atTimeUs : Int) :
    DelayBasedBwe :=
  let self := (self.resetIfTimedOut atTimeUs).chooseDetector packet
  let arrivalTimeMs := divideRoundToNearest packet.receiveTimeUs 1000
  let arrived : ArrivedPacket := ⟨packet.sendTimeUs, packet.receiveTimeUs, atTimeUs, packet.size⟩
  let inMs (deltas : GroupDeltas) : ℚ × ℚ :=
    ((deltas.arrivalTimeDelta : ℚ) / 1000, (deltas.sendTimeDelta : ℚ) / 1000)
  if self.separateAudio.enabled && packet.audio then
    let (deltas, interArrivalDelta) := self.audioInterArrivalDelta.computeDeltas arrived
    { self with
      audioInterArrivalDelta := interArrivalDelta
      audioDelayDetector :=
        self.audioDelayDetector.update (deltas.map inMs) arrivalTimeMs packet.predicted }
  else
    let (deltas, interArrivalDelta) := self.videoInterArrivalDelta.computeDeltas arrived
    { self with
      videoInterArrivalDelta := interArrivalDelta
      videoDelayDetector :=
        self.videoDelayDetector.update (deltas.map inMs) arrivalTimeMs packet.predicted }

/-- Take the packets as they arrive; the flag says whether an underuse ended on the way. -/
def incomingPackets (self : DelayBasedBwe) (packets : List PacketResult) (atTimeUs : Int) :
    Bool × DelayBasedBwe :=
  let sorted := packets.insertionSort fun lhs rhs => rhs.receiveTimeOrder lhs = false
  sorted.foldl (fun (recovered, current) packet =>
    let next := current.incomingPacketFeedback packet atTimeUs
    (recovered || decide (current.activeDelayDetector.state = .underusing ∧
      next.activeDelayDetector.state = .normal), next)) (false, self)

def maybeUpdateEstimate (self : DelayBasedBwe) (ackedBitrate probeBitrate : Option Nat)
    (recoveredFromOveruse : Bool) (rateControl : RateControlAnswers) : DelayBasedResult :=
  let usage := self.activeDelayDetector.state
  let unchanged : DelayBasedResult := ⟨false, false, 0, false, usage⟩
  if usage = .overusing then
    match ackedBitrate with
    | some _ =>
      if rateControl.timeToReduceFurther then
        ⟨rateControl.validEstimate, false, rateControl.updatedRateBps, false, usage⟩
      else unchanged
    | none =>
      if rateControl.validEstimate && rateControl.initialTimeToReduceFurther then
        ⟨true, false, rateControl.latestEstimateBps, false, usage⟩
      else unchanged
  else
    match probeBitrate with
    | some _ => ⟨true, true, rateControl.latestEstimateBps, false, usage⟩
    | none => ⟨rateControl.validEstimate, false, rateControl.updatedRateBps,
        recoveredFromOveruse, usage⟩

/-- A report without received packets updates nothing. -/
def incomingPacketFeedbackVector (self : DelayBasedBwe) (packets : List PacketResult)
    (feedbackTimeUs : Int) (ackedBitrate probeBitrate : Option Nat)
    (rateControl : RateControlAnswers) : DelayBasedResult × DelayBasedBwe :=
  if packets.isEmpty then (⟨false, false, 0, false, .normal⟩, self)
  else
    let (recovered, self) := self.incomingPackets packets feedbackTimeUs
    (self.maybeUpdateEstimate ackedBitrate probeBitrate recovered rateControl, self)

end DelayBasedBwe

structure BandwidthReadings where
  fractionLoss : Nat
  roundTripTimeUs : Int
  targetRateBps : Nat
  estimatedLinkCapacityBps : Nat
  minBitrateBps : Nat
  bwePeriodUs : Int
  /-- The rate the congestion window allows, if pushback is in use. -/
  pushbackRateBps : Option Nat

/-- A report of transport feedback with what the estimators make of it. -/
structure TransportFeedback where
  feedbackTimeUs : Int
  /-- Whether the report has any packet, lost ones included. -/
  hasFeedbacks : Bool
  packets : List PacketResult
  ackedBitrate : Option Nat
  probeBitrate : Option Nat
  rateControl : RateControlAnswers
  readings : BandwidthReadings

/-- The published target rate, as far as this controller decides about it. -/
structure TargetTransferRate where
  atTimeUs : Int
  targetRateBps : Nat
  stableTargetRateBps : Nat
  cwndReduceRatio : ℚ
  roundTripTimeUs : Int
  fractionLoss : Nat
  bwePeriodUs : Int
  isOverusedForEncoder : ℚ

structure NetworkController where
  delayBasedBwe : DelayBasedBwe
  useCongestionWindowDropFrameOnly : Bool
  lastLossBasedTargetRateBps : Nat
  lastPushbackTargetRateBps : Nat
  lastStableTargetRateBps : Nat
  lastEstimatedFractionLoss : Nat
  lastEstimatedRoundTripTimeUs : Option Int

namespace NetworkController

/-- A controller that has published nothing yet; no round trip time is known. -/
def create (delayBasedBwe : DelayBasedBwe) (useCongestionWindowDropFrameOnly : Bool)
    (startingRateBps : Nat) : NetworkController where
  delayBasedBwe := delayBasedBwe
  useCongestionWindowDropFrameOnly := useCongestionWindowDropFrameOnly
  lastLossBasedTargetRateBps := startingRateBps
  lastPushbackTargetRateBps := startingRateBps
  lastStableTargetRateBps := startingRateBps
  lastEstimatedFractionLoss := 0
  lastEstimatedRoundTripTimeUs := none

def pushbackTargetRate (readings : BandwidthReadings) : Nat :=
  match readings.pushbackRateBps with
  | some pushbackRate => max readings.minBitrateBps pushbackRate
  | none => readings.targetRateBps

def stableTargetRate (readings : BandwidthReadings) : Nat :=
  min readings.estimatedLinkCapacityBps (pushbackTargetRate readings)

/-- One of the five compared estimates differs from the one published last. -/
def networkChanged (self : NetworkController) (readings : BandwidthReadings) : Bool :=
  readings.targetRateBps != self.lastLossBasedTargetRateBps ||
    readings.fractionLoss != self.lastEstimatedFractionLoss ||
    some readings.roundTripTimeUs != self.lastEstimatedRoundTripTimeUs ||
    pushbackTargetRate readings != self.lastPushbackTargetRateBps ||
    stableTargetRate readings != self.lastStableTargetRateBps

def cwndReduceRatio (self : NetworkController) (readings : BandwidthReadings) : ℚ :=
  match readings.pushbackRateBps with
  | some _ =>
    if self.useCongestionWindowDropFrameOnly then
      ((readings.targetRateBps : ℚ) - pushbackTargetRate readings) / readings.targetRateBps
    else 0
  | none => 0

def targetRateMsg (self : NetworkController) (readings : BandwidthReadings)
    (atTimeUs : Int) : TargetTransferRate where
  atTimeUs := atTimeUs
  targetRateBps := if self.useCongestionWindowDropFrameOnly then readings.targetRateBps
    else pushbackTargetRate readings
  stableTargetRateBps := stableTargetRate readings
  cwndReduceRatio := if self.useCongestionWindowDropFrameOnly then
      self.cwndReduceRatio readings else 0
  roundTripTimeUs := readings.roundTripTimeUs
  fractionLoss := readings.fractionLoss
  bwePeriodUs := readings.bwePeriodUs
  isOverusedForEncoder := self.delayBasedBwe.aggressiveState

def maybeTriggerOnNetworkChanged (self : NetworkController) (readings : BandwidthReadings)
    (atTimeUs : Int) : Option TargetTransferRate × NetworkController :=
  if self.networkChanged readings then
    (some (self.targetRateMsg readings atTimeUs),
      { self with
        lastLossBasedTargetRateBps := readings.targetRateBps
        lastPushbackTargetRateBps := pushbackTargetRate readings
        lastStableTargetRateBps := stableTargetRate readings
        lastEstimatedFractionLoss := readings.fractionLoss
        lastEstimatedRoundTripTimeUs := some readings.roundTripTimeUs })
  else (none, self)

def estimateDelay (self : NetworkController) (report : TransportFeedback) :
    DelayBasedResult × NetworkController :=
  let (result, delayBasedBwe) := self.delayBasedBwe.incomingPacketFeedbackVector
    report.packets report.feedbackTimeUs report.ackedBitrate report.probeBitrate
    report.rateControl
  (result, { self with delayBasedBwe := delayBasedBwe })

def onTransportPacketsFeedback (self : NetworkController) (report : TransportFeedback) :
    Option TargetTransferRate × NetworkController :=
  if !report.hasFeedbacks then (none, self)
  else
    let (result, self) := self.estimateDelay report
    if result.updated then
      self.maybeTriggerOnNetworkChanged report.readings report.feedbackTimeUs
    else (none, self)

end NetworkController

end MaeRtc.GoogCc
