import MaeRtc.Base.DivideRound
import MaeRtc.Base.Machine
import MaeRtc.Call.AllocateBitrates

/-!
# The bitrate allocator

`BitrateAllocator` keeps the latest network estimate and tells every registered
observer its bitrate together with the state of the network.  It does so when a
new estimate arrives, and again when an observer is added.  The second path
builds its messages from what the first one has stored, and that is not all of
the estimate.  What an observer answers is not modelled: every call brings the
protection bitrates the observers answer with.
-/

namespace MaeRtc.Call

open MaeRtc.Base

/-- A new estimate of the network; times are in microseconds. -/
structure TargetTransferRate where
  targetRateBps : Nat
  stableTargetRateBps : Nat
  lossRateRatio : ℚ
  roundTripTimeUs : Int
  bwePeriodUs : Int
  cwndReduceRatio : ℚ
  isOverusedForEncoder : ℚ

/-- What an observer is told; the last two fields are zero unless they are set. -/
structure BitrateAllocationUpdate where
  targetBitrateBps : Nat
  stableTargetBitrateBps : Nat
  packetLossRatio : ℚ
  roundTripTimeUs : Int
  bwePeriodUs : Int
  cwndReduceRatio : ℚ := 0
  isOverusedForEncoder : ℚ := 0

structure BitrateAllocationLimits where
  minAllocatableRate : Nat
  maxPaddingRate : Nat
  maxAllocatableRate : Nat

structure BitrateAllocator (Observer : Type*) where
  allocatableTracks : List (AllocatableTrack Observer)
  lastTargetBps : Nat
  lastStableTargetBps : Nat
  lastNonZeroBitrateBps : Nat
  lastFractionLoss : Int
  lastRttMs : Int
  lastBwePeriodMs : Int
  numPauseEvents : Nat
  currentLimits : BitrateAllocationLimits

def toMs (timeUs : Int) : Int := divideRoundToNearest timeUs 1000

/-- The part of the bitrate used for media; the subtraction is one of 32 bits. -/
def mediaRatioOf (allocatedBitrate protectionBitrate : Nat) : ℚ :=
  if protectionBitrate = 0 then 1
  else
    let mediaBitrate : Int := ((allocatedBitrate : Int) - protectionBitrate) % 2 ^ 32
    mediaBitrate / allocatedBitrate

namespace BitrateAllocator

variable {Observer : Type*} [DecidableEq Observer]

def create : BitrateAllocator Observer where
  allocatableTracks := []
  lastTargetBps := 0
  lastStableTargetBps := 0
  lastNonZeroBitrateBps := 300000
  lastFractionLoss := 0
  lastRttMs := 0
  lastBwePeriodMs := 1000
  numPauseEvents := 0
  currentLimits := ⟨0, 0, 0⟩

/-- The protection bitrate every observer answers an update with. -/
abbrev Answers (Observer : Type*) := Observer → BitrateAllocationUpdate → Nat

abbrev Deliveries (Observer : Type*) := List (Observer × BitrateAllocationUpdate)

def updateAllocationLimits (self : BitrateAllocator Observer) : BitrateAllocator Observer :=
  let padding (track : AllocatableTrack Observer) : Nat :=
    if track.config.enforceMinBitrate then track.config.padUpBitrateBps
    else if track.allocatedBitrateBps = some 0 then
      max track.minBitrateWithHysteresis track.config.padUpBitrateBps
    else track.config.padUpBitrateBps
  { self with
    currentLimits :=
      { minAllocatableRate := (self.allocatableTracks.map fun track =>
          if track.config.enforceMinBitrate then track.config.minBitrateBps else 0).sum
        maxPaddingRate := (self.allocatableTracks.map padding).sum
        maxAllocatableRate :=
          (self.allocatableTracks.map fun track => track.config.maxBitrateBps).sum } }

def storedUpdate (self : BitrateAllocator Observer) (targetBps stableTargetBps : Nat) :
    BitrateAllocationUpdate where
  targetBitrateBps := targetBps
  stableTargetBitrateBps := stableTargetBps
  packetLossRatio := self.lastFractionLoss / 256
  roundTripTimeUs := self.lastRttMs * 1000
  bwePeriodUs := self.lastBwePeriodMs * 1000

/-- A track after its observer was given a rate and answered with its protection. -/
def settleTrack (track : AllocatableTrack Observer) (allocatedBitrate protectionBitrate : Nat) :
    AllocatableTrack Observer :=
  { track with
    mediaRatio := if allocatedBitrate > 0 then mediaRatioOf allocatedBitrate protectionBitrate
      else track.mediaRatio
    allocatedBitrateBps := some allocatedBitrate }

def toggles (track : AllocatableTrack Observer) (allocatedBitrate : Nat) : Bool :=
  match track.allocatedBitrateBps with
  | none => false
  | some last => allocatedBitrate == 0 && last != 0 || allocatedBitrate != 0 && last == 0

/-- The rates of the current tracks for the stored targets. -/
def allocatedRates (self : BitrateAllocator Observer) (observer : Observer) : Nat × Nat :=
  (uint32 (allocateBitrates self.allocatableTracks self.lastTargetBps observer),
    uint32 (allocateBitrates self.allocatableTracks self.lastStableTargetBps observer))

/-- Tell all observers their rates; `complete` fills in the rest of an update. -/
def deliver (self : BitrateAllocator Observer) (answers : Answers Observer)
    (complete : BitrateAllocationUpdate → BitrateAllocationUpdate) :
    Deliveries Observer × List (AllocatableTrack Observer) :=
  let updateFor (track : AllocatableTrack Observer) : BitrateAllocationUpdate :=
    let (target, stableTarget) := self.allocatedRates track.observer
    complete (self.storedUpdate target stableTarget)
  (self.allocatableTracks.map fun track => (track.observer, updateFor track),
    self.allocatableTracks.map fun track =>
      settleTrack track (self.allocatedRates track.observer).1
        (answers track.observer (updateFor track)))

def storeEstimate (self : BitrateAllocator Observer) (msg : TargetTransferRate) :
    BitrateAllocator Observer :=
  let targetBps := msg.targetRateBps % 2 ^ 32
  { self with
    lastTargetBps := targetBps
    lastStableTargetBps := msg.stableTargetRateBps % 2 ^ 32
    lastNonZeroBitrateBps := if targetBps > 0 then targetBps else self.lastNonZeroBitrateBps
    lastFractionLoss := max 0 (min 255 (truncate (msg.lossRateRatio * 255)))
    lastRttMs := toMs msg.roundTripTimeUs
    lastBwePeriodMs := toMs msg.bwePeriodUs }

def onNetworkEstimateChanged (self : BitrateAllocator Observer) (msg : TargetTransferRate)
    (answers : Answers Observer) : Deliveries Observer × BitrateAllocator Observer :=
  let self := self.storeEstimate msg
  let (deliveries, tracks) := self.deliver answers fun update =>
    { update with
      cwndReduceRatio := msg.cwndReduceRatio
      isOverusedForEncoder := msg.isOverusedForEncoder }
  let pauseEvents := if self.lastTargetBps > 0 then
      self.allocatableTracks.countP fun track =>
        toggles track (self.allocatedRates track.observer).1
    else 0
  (deliveries, updateAllocationLimits
    { self with
      allocatableTracks := tracks
      numPauseEvents := self.numPauseEvents + pauseEvents })

/-- Replace the settings of a known observer, or append a new track. -/
def register (tracks : List (AllocatableTrack Observer)) (observer : Observer)
    (config : MediaStreamAllocationConfig) : List (AllocatableTrack Observer) :=
  match tracks with
  | [] => [{ observer, config, allocatedBitrateBps := none, mediaRatio := 1 }]
  | track :: rest =>
    if track.observer = observer then { track with config } :: rest
    else track :: register rest observer config

def addObserver (self : BitrateAllocator Observer) (observer : Observer)
    (config : MediaStreamAllocationConfig) (answers : Answers Observer) :
    Deliveries Observer × BitrateAllocator Observer :=
  let self := { self with
    allocatableTracks := register self.allocatableTracks observer config }
  if self.lastTargetBps > 0 then
    let (deliveries, tracks) := self.deliver answers id
    (deliveries, updateAllocationLimits { self with allocatableTracks := tracks })
  else
    -- the observer learns that it must not send yet
    ([(observer, self.storedUpdate 0 0)], self.updateAllocationLimits)

def removeObserver (self : BitrateAllocator Observer) (observer : Observer) :
    BitrateAllocator Observer :=
  updateAllocationLimits { self with
    allocatableTracks := self.allocatableTracks.eraseP fun track => track.observer = observer }

def updateStartRate (self : BitrateAllocator Observer) (startRateBps : Nat) :
    BitrateAllocator Observer :=
  { self with lastNonZeroBitrateBps := startRateBps }

end BitrateAllocator

end MaeRtc.Call
