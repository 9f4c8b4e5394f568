import MaeRtc.Base.Machine
import MaeRtc.Video.VideoBitrateAllocation

/-!
# Rate control of the video stream encoder

`VideoStreamEncoder` turns bitrate updates of the network into `SetRates` calls
of the encoder.  It keeps the last settings, applies them again from time to
time, and calls the encoder only if the rate control parameters compare
unequal.  The comparison leaves out the overuse signal of the network, so an
update may be swallowed.  The rate allocator and the bitrate adjuster are not
modelled: each call brings the functions they compute at that moment.
-/

namespace MaeRtc.Video

open MaeRtc.Base

structure RateControlParameters where
  targetBitrate : VideoBitrateAllocation
  bitrate : VideoBitrateAllocation
  framerateFps : ℚ
  bandwidthAllocation : Nat
  currentRtt : Int
  isOverusedForEncoder : ℚ

/-- The comparison of the source: three of the six fields. -/
instance : BEq RateControlParameters where
  beq one two :=
    one.bitrate == two.bitrate && one.framerateFps == two.framerateFps &&
      one.bandwidthAllocation == two.bandwidthAllocation

structure EncoderRateSettings where
  rateControl : RateControlParameters
  encoderTarget : Nat
  stableEncoderTarget : Nat

instance : BEq EncoderRateSettings where
  beq one two :=
    one.rateControl == two.rateControl && one.encoderTarget == two.encoderTarget &&
      one.stableEncoderTarget == two.stableEncoderTarget

/-- What the rate allocator and the bitrate adjuster answer at one moment. -/
structure Allocators where
  rateAllocator : Option (Nat → Nat → ℚ → VideoBitrateAllocation)
  bitrateAdjuster : Option (RateControlParameters → VideoBitrateAllocation)

/-- A bitrate update as the network side reports it. -/
structure BitrateUpdate where
  targetBitrate : Nat
  stableTargetBitrate : Nat
  linkAllocation : Nat
  roundTripTimeMs : Int
  cwndReduceRatio : ℚ
  isOverusedForEncoder : ℚ

/--
The state of the encoder that takes part in rate control.  `setRatesCalls`
lists the parameters of all `SetRates` calls made so far, the latest first.
-/
structure VideoStreamEncoder where
  encoder : Bool
  minBitrateKbps : Nat
  maxFramerate : Option Nat
  lastEncoderRateSettings : Option EncoderRateSettings
  cwndFrameDropInterval : Option Nat
  encoderTargetBitrateBps : Option Nat
  pendingEncoderReconfiguration : Bool
  lastParametersUpdateMs : Option Int
  setRatesCalls : List RateControlParameters

namespace VideoStreamEncoder

def parameterUpdateIntervalMs : Int := 1000

/-- The target less the share the congestion window asks for. -/
def updateTargetBitrate (self : VideoStreamEncoder) (targetBitrate : Nat)
    (_cwndReduceRatio : ℚ) : Nat × VideoStreamEncoder :=
  -- dropping frames is disabled by overwriting the ratio that was passed in
  let cwndReduceRatio : ℚ := 0
  let reduceBitrateBps := min ⌊targetBitrate * cwndReduceRatio⌋.toNat
    (targetBitrate - self.minBitrateKbps * 1000)
  if cwndReduceRatio > 1 / 100 ∧ targetBitrate > 0 ∧
      targetBitrate > self.minBitrateKbps * 1000 ∧ reduceBitrateBps > 0 then
    let interval := max 2 (targetBitrate / reduceBitrateBps)
    (targetBitrate - targetBitrate / interval,
      { self with cwndFrameDropInterval := some interval })
  else
    (targetBitrate, { self with cwndFrameDropInterval := none })

def updateBitrateAllocation (allocators : Allocators)
    (rateSettings : EncoderRateSettings) : EncoderRateSettings :=
  let newAllocation := match allocators.rateAllocator with
    | some allocate =>
      if rateSettings.encoderTarget > 0 then
        allocate rateSettings.encoderTarget rateSettings.stableEncoderTarget
          rateSettings.rateControl.framerateFps
      else .empty
    | none => .empty
  let rateControl :=
    { rateSettings.rateControl with
      targetBitrate := newAllocation
      bitrate := newAllocation
      bandwidthAllocation :=
        max rateSettings.rateControl.bandwidthAllocation newAllocation.getSumBps }
  match allocators.bitrateAdjuster with
  | some adjust =>
    { rateSettings with rateControl := { rateControl with bitrate := adjust rateControl } }
  | none => { rateSettings with rateControl := rateControl }

def getInputFramerateFps (self : VideoStreamEncoder) (inputFps : Option Nat) : Nat :=
  match inputFps with
  | none | some 0 => self.maxFramerate.getD 30
  | some _ => 30

/-- The parameters differ from those applied last, as far as they are compared. -/
def rateControlChanged (self : VideoStreamEncoder) (rateSettings : EncoderRateSettings) :
    Bool :=
  match self.lastEncoderRateSettings with
  | none => true
  | some last => last.rateControl != rateSettings.rateControl

/-- Remember the settings unless equal ones are already there. -/
def remember (self : VideoStreamEncoder) (rateSettings : EncoderRateSettings) :
    Option EncoderRateSettings :=
  match self.lastEncoderRateSettings with
  | none => some rateSettings
  | some last => if last != rateSettings then some rateSettings else some last

def setEncoderRates (self : VideoStreamEncoder) (rateSettings : EncoderRateSettings) :
    VideoStreamEncoder :=
  let changed := self.rateControlChanged rateSettings
  let self := { self with lastEncoderRateSettings := self.remember rateSettings }
  if !self.encoder then self
  else if rateSettings.rateControl.bitrate.getSumBps = 0 then self
  else if changed then
    { self with setRatesCalls := rateSettings.rateControl :: self.setRatesCalls }
  else self

def settingsOfUpdate (allocators : Allocators) (targetBitrate : Nat)
    (update : BitrateUpdate) : EncoderRateSettings :=
  updateBitrateAllocation allocators
    { rateControl :=
        { targetBitrate := .empty
          bitrate := .empty
          framerateFps := 30
          bandwidthAllocation := update.linkAllocation
          currentRtt := update.roundTripTimeMs
          isOverusedForEncoder := update.isOverusedForEncoder }
      encoderTarget := targetBitrate
      stableEncoderTarget := update.stableTargetBitrate }

/-- A bitrate update, posted to the encoder queue and run there. -/
def onBitrateUpdated (self : VideoStreamEncoder) (allocators : Allocators)
    (update : BitrateUpdate) : VideoStreamEncoder :=
  let (targetBitrate, self) :=
    self.updateTargetBitrate update.targetBitrate update.cwndReduceRatio
  let self := self.setEncoderRates (settingsOfUpdate allocators targetBitrate update)
  { self with
    encoderTargetBitrateBps :=
      if targetBitrate ≠ 0 then some targetBitrate else self.encoderTargetBitrateBps }

/-- The last settings with a fresh frame rate and a fresh allocation. -/
def refreshedSettings (self : VideoStreamEncoder) (allocators : Allocators)
    (framerateFps : Nat) : Option EncoderRateSettings :=
  self.lastEncoderRateSettings.map fun last =>
    updateBitrateAllocation allocators
      { last with rateControl := { last.rateControl with framerateFps := framerateFps } }

structure Codec where
  minBitrateKbps : Nat
  maxFramerate : Nat

/-- The settings a reconfiguration applies again, if it has an allocator for them. -/
def reconfiguredSettings (self : VideoStreamEncoder) (codec : Codec)
    (allocators : Allocators) (inputFps : Option Nat) : Option EncoderRateSettings :=
  match allocators.rateAllocator with
  | some _ =>
    self.refreshedSettings allocators
      ({ self with maxFramerate := some codec.maxFramerate }.getInputFramerateFps inputFps)
  | none => none

/-- A reconfiguration that keeps or replaces the encoder and applies the rates again. -/
def reconfigureEncoder (self : VideoStreamEncoder) (codec : Codec)
    (allocators : Allocators) (inputFps : Option Nat) : VideoStreamEncoder :=
  let configured := { self with
    minBitrateKbps := codec.minBitrateKbps
    maxFramerate := some codec.maxFramerate
    pendingEncoderReconfiguration := false }
  match self.reconfiguredSettings codec allocators inputFps with
  | some rateSettings =>
    -- the cache is cleared so that the change reaches all listeners
    { configured with lastEncoderRateSettings := none }.setEncoderRates rateSettings
  | none => configured

def refreshRates (self : VideoStreamEncoder) (allocators : Allocators)
    (framerateFps : Nat) : VideoStreamEncoder :=
  match self.refreshedSettings allocators framerateFps with
  | some rateSettings => self.setEncoderRates rateSettings
  | none => self

def refreshDue (self : VideoStreamEncoder) (nowMs : Int) : Bool :=
  match self.lastParametersUpdateMs with
  | none => true
  | some last => decide (nowMs - last ≥ parameterUpdateIntervalMs)

/-- A frame arrives: reconfigure if that is pending, or refresh the rates if due. -/
def maybeEncodeVideoFrame (self : VideoStreamEncoder) (codec : Codec)
    (allocators : Allocators) (frameInfoChanged : Bool) (inputFps : Option Nat)
    (nowMs : Int) : VideoStreamEncoder :=
  let self := if frameInfoChanged then { self with pendingEncoderReconfiguration := true }
    else self
  let framerateFps := self.getInputFramerateFps inputFps
  if self.pendingEncoderReconfiguration then
    { self.reconfigureEncoder codec allocators inputFps with
      lastParametersUpdateMs := some nowMs }
  else if self.refreshDue nowMs then
    { self.refreshRates allocators framerateFps with lastParametersUpdateMs := some nowMs }
  else self

/-- A new configuration is applied at once if a frame was seen before. -/
def configureEncoder (self : VideoStreamEncoder) (codec : Codec)
    (allocators : Allocators) (frameSeen : Bool) (inputFps : Option Nat) : VideoStreamEncoder :=
  let self := { self with pendingEncoderReconfiguration := true }
  if frameSeen then self.reconfigureEncoder codec allocators inputFps else self

end VideoStreamEncoder

end MaeRtc.Video
