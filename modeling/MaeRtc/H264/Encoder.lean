import MaeRtc.Video.VideoStreamEncoder

/-!
# The H.264 encoder

`H264EncoderImpl` wraps an encoder of the x264 library.  Its state is spread
over the flag `inited`, the handle of the library and vectors with one entry
for each stream.  Every access to a vector and every use of the handle is
checked in the model: an access out of range, or a use of a handle that is not
open, is a fault.  The library itself is not modelled; each call brings the
results the library returns.
-/

namespace MaeRtc.H264

open MaeRtc.Video

/-- What the handle of the library points to. -/
inductive Handle where
  | null
  | live
  /-- The constructor leaves the handle uninitialised. -/
  | stray
  deriving DecidableEq, Repr

/-- Undefined behaviour the encoder may run into. -/
inductive Fault where
  | encodeHandle
  | reconfigHandle
  | configurations
  | encodedImages
  | svcControllers
  deriving DecidableEq, Repr

inductive Status where
  | ok
  | error
  | errParameter
  | errSimulcastParametersNotSupported
  | uninitialized
  | encoderFailure
  deriving DecidableEq, Repr

inductive VideoFrameType where
  | empty
  | key
  | delta
  deriving DecidableEq, Repr

/-- The settings of one stream, with the defaults of a new vector entry. -/
structure LayerConfig where
  simulcastIdx : Nat := 0
  width : Int := -1
  height : Int := -1
  sending : Bool := true
  keyFrameRequest : Bool := false
  maxFrameRate : ℚ := 0
  targetBps : Nat := 0
  maxBps : Nat := 0
  numTemporalLayers : Nat := 1

def LayerConfig.setStreamState (config : LayerConfig) (sendStream : Bool) : LayerConfig :=
  { config with
    keyFrameRequest := config.keyFrameRequest || sendStream && !config.sending
    sending := sendStream }

structure SimulcastStream where
  width : Nat
  height : Nat
  maxFramerate : ℚ
  maxBitrate : Nat
  numberOfTemporalLayers : Nat

def maxSimulcastStreams : Nat := 3

/-- The codec settings; there are never more streams than entries for them. -/
structure VideoCodec where
  isH264 : Bool
  width : Nat
  height : Nat
  maxFramerate : Nat
  startBitrateKbps : Nat
  maxBitrateKbps : Nat
  numberOfTemporalLayers : Nat
  numberOfSimulcastStreams : Nat
  simulcastStream : Nat → SimulcastStream
  streams_le : numberOfSimulcastStreams ≤ maxSimulcastStreams

/-- Simulcast needs streams with a bitrate; otherwise there is one stream. -/
def numberOfSimulcastStreams (codec : VideoCodec) : Nat :=
  let streams := if codec.numberOfSimulcastStreams < 1 then 1
    else codec.numberOfSimulcastStreams
  if ((List.range streams).map fun i => (codec.simulcastStream i).maxBitrate).sum = 0 then 1
  else streams

def validSimulcastParameters (codec : VideoCodec) (numStreams : Nat) : Bool :=
  codec.width == (codec.simulcastStream (numStreams - 1)).width &&
    codec.height == (codec.simulcastStream (numStreams - 1)).height &&
    (List.range numStreams).all (fun i =>
      codec.width * (codec.simulcastStream i).height ==
        codec.height * (codec.simulcastStream i).width) &&
    (List.range (numStreams - 1)).all (fun i =>
      (codec.simulcastStream i).width ≤ (codec.simulcastStream (i + 1)).width &&
        decide (|(codec.simulcastStream (i + 1)).maxFramerate -
          (codec.simulcastStream i).maxFramerate| ≤ 1 / 10 ^ 9) &&
        (codec.simulcastStream i).numberOfTemporalLayers ==
          (codec.simulcastStream (i + 1)).numberOfTemporalLayers)

/-- The number of temporal layers has a scalability mode. -/
def hasScalabilityMode (numTemporalLayers : Nat) : Bool :=
  1 ≤ numTemporalLayers && numTemporalLayers ≤ 3

/-- What the library answers while a stream is initialised. -/
structure InitResults where
  presetOk : Bool
  profileOk : Bool
  pictureOk : Bool
  openOk : Bool
  structureOk : Bool

structure RateParams where
  bitrateKbps : Nat
  vbvMaxBitrateKbps : Nat
  vbvBufferSizeKbit : Nat
  filler : Bool
  deriving DecidableEq

structure H264Encoder where
  codecChoose : Int
  inited : Bool
  encoder : Handle
  callbackSet : Bool
  configurations : List LayerConfig
  encodedImages : List Nat
  /-- Whether an entry holds a controller. -/
  svcControllers : List Bool
  rateParams : RateParams

structure DeliveredFrame where
  idrFrame : Bool
  simulcastIdx : Nat
  size : Nat
  deriving DecidableEq

/-- A call of `Encode` with the results of the library. -/
structure EncodeCall where
  convertible : Bool
  frameTypes : Option (List VideoFrameType)
  frameSize : Int
  nalSizes : List Nat
  layerTemporalId : Nat

def access {α : Type} (entries : List α) (index : Nat) (fault : Fault) : Except Fault α :=
  match entries[index]? with
  | some entry => .ok entry
  | none => .error fault

namespace H264Encoder

/-- A new encoder; the flag and the handle are not initialised. -/
def create (codecChoose : Int) (inited : Bool) (encoder : Handle) : H264Encoder where
  codecChoose := codecChoose
  inited := inited
  encoder := encoder
  callbackSet := false
  configurations := []
  encodedImages := []
  svcControllers := []
  rateParams := ⟨0, 0, 0, false⟩

def registerEncodeCompleteCallback (self : H264Encoder) (callbackSet : Bool) : H264Encoder :=
  { self with callbackSet := callbackSet }

/-- The handle is dropped and the vectors are cleared; `inited` stays. -/
def release (self : H264Encoder) : H264Encoder :=
  { self with
    encoder := .null
    configurations := []
    encodedImages := []
    svcControllers := [] }

/-- The share of a second of bitrate that the buffer holds, by the mode of the codec. -/
def vbvRatio (codecMode : Int) (isOverusedForEncoder : ℚ) : ℚ :=
  if codecMode ≥ 4 then
    if isOverusedForEncoder > 2 then 4 / 100 else 1 / 2
  else if codecMode = 3 ∨ codecMode = 5 then 4 / 100
  else 1 / 2

def setRates (self : H264Encoder) (parameters : RateControlParameters) :
    Except Fault H264Encoder :=
  if self.encoder = .null then .ok self
  else if parameters.framerateFps < 1 then .ok self
  else if parameters.bitrate.getSumBps = 0 then
    .ok { self with configurations := self.configurations.map (·.setStreamState false) }
  else do
    let config ← access self.configurations 0 .configurations
    let config := { config with
      targetBps := parameters.bitrate.getSpatialLayerSum 0
      maxFrameRate := parameters.framerateFps }
    if config.targetBps ≠ 0 then
      let bitrateKbps := config.targetBps / 1000
      if self.encoder ≠ .live then .error .reconfigHandle
      else .ok { self with
        configurations := self.configurations.set 0 (config.setStreamState true)
        rateParams := { self.rateParams with
          bitrateKbps := bitrateKbps
          vbvMaxBitrateKbps := bitrateKbps
          vbvBufferSizeKbit :=
            ⌊bitrateKbps * vbvRatio self.codecChoose parameters.isOverusedForEncoder⌋₊ } }
    else
      .ok { self with
        configurations := self.configurations.set 0 (config.setStreamState false) }

/-- The parameters a stream is opened with: 3000 kbps, and a small buffer in mode 5. -/
def initialRateParams (codecChoose : Int) : RateParams :=
  if codecChoose = 5 then ⟨3000, 3000, 120, true⟩ else ⟨3000, 3000, 1500, false⟩

/-- The settings of a stream, taken from the codec settings; it does not send yet. -/
def configureLayer (codec : VideoCodec) (idx : Nat) (config : LayerConfig) : LayerConfig :=
  let stream := codec.simulcastStream idx
  { config with
    simulcastIdx := idx
    sending := false
    width := if codec.numberOfSimulcastStreams = 0 then codec.width else stream.width
    height := if codec.numberOfSimulcastStreams = 0 then codec.height else stream.height
    maxFrameRate := codec.maxFramerate
    numTemporalLayers := max codec.numberOfTemporalLayers stream.numberOfTemporalLayers
    maxBps := codec.maxBitrateKbps * 1000
    targetBps := codec.startBitrateKbps * 1000 }

/-- The part of a round that fills in the entries of a stream. -/
def initLayer (codec : VideoCodec) (idx i : Nat) (structureOk : Bool) (self : H264Encoder) :
    Except Fault (Bool × H264Encoder) := do
  let config ← access self.configurations i .configurations
  let config := configureLayer codec idx config
  let _ ← access self.encodedImages i .encodedImages
  let self := { self with
    configurations := self.configurations.set i config
    encodedImages := self.encodedImages.set i 0 }
  if hasScalabilityMode config.numTemporalLayers then
    let _ ← access self.svcControllers i .svcControllers
    if structureOk then
      .ok (true, { self with svcControllers := self.svcControllers.set i true })
    else .ok (false, self.release)
  else .ok (true, self)

/--
One round of the loop over the streams; the flag says whether it succeeded.  A
failed round leaves no handle, and the parameters are not read without one.
-/
def initStream (codec : VideoCodec) (numberOfStreams i : Nat) (results : InitResults)
    (self : H264Encoder) : Except Fault (Bool × H264Encoder) :=
  if results.presetOk && results.profileOk && results.pictureOk && results.openOk then
    initLayer codec (numberOfStreams - 1 - i) i results.structureOk
      { self with
        encoder := .live
        inited := true
        rateParams := initialRateParams self.codecChoose }
  else .ok (false, { self with encoder := .null })

def initStreams (codec : VideoCodec) (numberOfStreams : Nat) (results : Nat → InitResults) :
    List Nat → H264Encoder → Except Fault (Bool × H264Encoder)
  | [], self => .ok (true, self)
  | i :: rest, self => do
    let (succeeded, self) ← initStream codec numberOfStreams i (results i) self
    if succeeded then initStreams codec numberOfStreams results rest self
    else .ok (false, self)

def resize (self : H264Encoder) (numberOfStreams : Nat) : H264Encoder :=
  { self with
    configurations := List.replicate numberOfStreams {}
    encodedImages := List.replicate numberOfStreams 0
    svcControllers := List.replicate numberOfStreams false }

/-- `startRates` are the rates the initial allocator computes from the codec settings. -/
def initEncode (self : H264Encoder) (inst : Option VideoCodec) (results : Nat → InitResults)
    (startRates : RateControlParameters) : Except Fault (Status × H264Encoder) :=
  match inst with
  | none => .ok (.errParameter, self)
  | some codec =>
    if !codec.isH264 || codec.maxFramerate == 0 || codec.width < 1 || codec.height < 1 then
      .ok (.errParameter, self)
    else
      let self := self.release
      let streams := H264.numberOfSimulcastStreams codec
      if streams > 1 && !validSimulcastParameters codec streams then
        .ok (.errSimulcastParametersNotSupported, self)
      else do
        let (succeeded, self) ←
          initStreams codec streams results (List.range streams) (self.resize streams)
        if succeeded then
          let self ← self.setRates startRates
          .ok (.ok, self)
        else .ok (.error, self)

/-- The entry of the stream in the frame types asks for a key frame. -/
def explicitKey (config : LayerConfig) (call : EncodeCall) : Bool :=
  match call.frameTypes with
  | some frameTypes => frameTypes[config.simulcastIdx]? == some .key
  | none => false

/-- The first entry of the frame types asks to skip the frame. -/
def skipsFrame (call : EncodeCall) : Bool :=
  match call.frameTypes with
  | some (.empty :: _) => true
  | _ => false

/-- The frame is for a temporal layer that was not asked for. -/
def wrongLayer (config : LayerConfig) (controller : Bool) (call : EncodeCall) : Bool :=
  config.numTemporalLayers > 1 && controller && call.layerTemporalId != 0

/-- The frame is encoded by the library, and delivered unless the library dropped it. -/
def encodeFrame (self : H264Encoder) (config : LayerConfig) (controller sendKeyFrame : Bool)
    (call : EncodeCall) : Except Fault (Status × Option DeliveredFrame × H264Encoder) :=
  if self.encoder ≠ .live then .error .encodeHandle
  else if call.frameSize < 0 then .ok (.error, none, { self with encoder := .null })
  else do
    let _ ← access self.encodedImages 0 .encodedImages
    let size := call.nalSizes.sum
    let self := { self with encodedImages := self.encodedImages.set 0 size }
    if size = 0 then .ok (.ok, none, self)
    else if wrongLayer config controller call then .ok (.ok, none, self)
    else .ok (.ok, some ⟨sendKeyFrame, config.simulcastIdx, size⟩, self)

def encode (self : H264Encoder) (call : EncodeCall) :
    Except Fault (Status × Option DeliveredFrame × H264Encoder) :=
  if !self.inited then .ok (.uninitialized, none, self)
  else if !self.callbackSet then .ok (.uninitialized, none, self)
  else if !call.convertible then .ok (.encoderFailure, none, self)
  else do
    let isKeyframeNeeded := self.configurations.any fun config =>
      config.keyFrameRequest && config.sending
    let config ← access self.configurations 0 .configurations
    if !config.sending then .ok (.ok, none, self)
    else if skipsFrame call then .ok (.ok, none, self)
    else
      -- a request is not taken back once it has led to a key frame
      let sendKeyFrame := isKeyframeNeeded || explicitKey config call
      let controller ← access self.svcControllers 0 .svcControllers
      self.encodeFrame config controller sendKeyFrame call

end H264Encoder

end MaeRtc.H264
