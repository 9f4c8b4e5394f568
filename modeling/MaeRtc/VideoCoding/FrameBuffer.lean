import MaeRtc.Base.SeqNumUnwrapper
import MaeRtc.VideoCoding.DecodedFramesHistory

/-!
# The frame buffer

`FrameBuffer` of `frame_buffer.cc`: frames ordered by id, grouped into temporal units by
timestamp.  A unit may be extracted once every frame it refers to outside of the unit was
decoded.  The map is the list of its entries in the order of their ids; an iterator is the
id of the entry it points to.
-/

namespace MaeRtc.VideoCoding

open Base

def kMaxFrameReferences : Nat := 5

structure EncodedFrame where
  id : Int
  rtpTimestamp : BitVec 32
  references : List Int := []
  isLastSpatialLayer : Bool := true
  numReferences_le : references.length ≤ kMaxFrameReferences := by decide
  deriving DecidableEq, Repr

namespace EncodedFrame

def isKeyframe (frame : EncodedFrame) : Bool :=
  frame.references.length = 0

theorem noReferences_le : ([] : List Int).length ≤ kMaxFrameReferences := by decide

theorem zeroReference_le : [(0 : Int)].length ≤ kMaxFrameReferences := by decide

end EncodedFrame

/-- All references point backwards, and no two are the same. -/
def validReferencesOf (id : Int) : List Int → Bool
  | [] => true
  | reference :: rest => reference < id && reference ∉ rest && validReferencesOf id rest

def validReferences (frame : EncodedFrame) : Bool :=
  validReferencesOf frame.id frame.references

/-- `AheadOf` for timestamps. -/
def timestampAheadOf (a b : BitVec 32) : Bool :=
  a ≠ b && aheadOrAt 0 a b

/-- An entry of the map; `moved` says that its `encoded_frame` was moved out. -/
structure FrameInfo where
  encodedFrame : EncodedFrame
  moved : Bool := false
  continuous : Bool := false
  deriving DecidableEq, Repr

namespace FrameInfo

def frameId (it : FrameInfo) : Int :=
  it.encodedFrame.id

def timestamp (it : FrameInfo) : BitVec 32 :=
  it.encodedFrame.rtpTimestamp

def references (it : FrameInfo) : List Int :=
  it.encodedFrame.references.take kMaxFrameReferences

def isLastFrameInTemporalUnit (it : FrameInfo) : Bool :=
  it.encodedFrame.isLastSpatialLayer

end FrameInfo

/-- Both frames are in the unit. -/
structure TemporalUnit where
  firstFrame : Int
  lastFrame : Int
  deriving DecidableEq, Repr

structure DecodabilityInfo where
  nextRtpTimestamp : BitVec 32
  lastRtpTimestamp : BitVec 32
  deriving DecidableEq, Repr

structure FrameBuffer where
  legacyFrameIdJumpBehavior : Bool := true
  maxSize : Nat
  frames : List FrameInfo := []
  nextDecodableTemporalUnit : Option TemporalUnit := none
  decodableTemporalUnitsInfo : Option DecodabilityInfo := none
  lastContinuousFrameId : Option Int := none
  lastContinuousTemporalUnitFrameId : Option Int := none
  decodedFrameHistory : DecodedFramesHistory
  numContinuousTemporalUnits : Nat := 0
  numDroppedFrames : Nat := 0
  deriving DecidableEq, Repr

namespace FrameBuffer

def new (legacyFrameIdJumpBehavior : Bool) (maxSize maxDecodeHistory : Nat) : FrameBuffer where
  legacyFrameIdJumpBehavior := legacyFrameIdJumpBehavior
  maxSize := maxSize
  decodedFrameHistory := .new maxDecodeHistory

def clear (buffer : FrameBuffer) : FrameBuffer :=
  { buffer with
    frames := []
    nextDecodableTemporalUnit := none
    decodableTemporalUnitsInfo := none
    lastContinuousFrameId := none
    lastContinuousTemporalUnitFrameId := none
    decodedFrameHistory := buffer.decodedFrameHistory.clear }

/-- The last id, if the new one is not higher; no value is less than any. -/
def raise (last : Option Int) (id : Int) : Option Int :=
  if last.all (· < id) then some id else last

def isContinuous (history : DecodedFramesHistory) (frames : List FrameInfo) (it : FrameInfo) :
    Bool :=
  it.references.all fun reference =>
    history.wasDecoded reference ||
    (frames.find? fun other => other.frameId = reference).any fun other => other.continuous

/-- What is counted when a frame becomes continuous. -/
def countContinuous (buffer : FrameBuffer) (it : FrameInfo) : FrameBuffer :=
  let buffer := { buffer with
    lastContinuousFrameId := raise buffer.lastContinuousFrameId it.frameId }
  if it.isLastFrameInTemporalUnit then
    { buffer with
      numContinuousTemporalUnits := buffer.numContinuousTemporalUnits + 1
      lastContinuousTemporalUnitFrameId :=
        raise buffer.lastContinuousTemporalUnitFrameId it.frameId }
  else buffer

/-- The loop from an entry on; `before` are the entries it has passed. -/
def propagateContinuity (buffer : FrameBuffer) (before : List FrameInfo) :
    List FrameInfo → FrameBuffer
  | [] => { buffer with frames := before }
  | it :: rest =>
    if !it.continuous && isContinuous buffer.decodedFrameHistory (before ++ it :: rest) it then
      (buffer.countContinuous it).propagateContinuity
        (before ++ [{ it with continuous := true }]) rest
    else buffer.propagateContinuity (before ++ [it]) rest

/-- The entries from `first_frame_it` to the next one: a frame with another timestamp is
the first of a new unit. -/
def extendUnit (unit : List FrameInfo) (it : FrameInfo) : List FrameInfo :=
  if unit.head?.all (·.timestamp = it.timestamp) then unit ++ [it] else [it]

/-- Every reference was decoded or is in the unit. -/
def temporalUnitDecodable (history : DecodedFramesHistory) (unit : List FrameInfo) : Bool :=
  unit.all fun it => it.references.all fun reference =>
    history.wasDecoded reference || reference ∈ unit.map FrameInfo.frameId

/-- The loop over the frames; `unit` are the entries of the unit so far, whose ids are
`frames_in_temporal_unit`. -/
def findDecodable (history : DecodedFramesHistory) (lastContinuous : Int) :
    List FrameInfo → List FrameInfo → Option TemporalUnit → BitVec 32 →
      Option TemporalUnit × BitVec 32
  | [], _, next, lastTimestamp => (next, lastTimestamp)
  | it :: rest, unit, next, lastTimestamp =>
    if it.frameId > lastContinuous then (next, lastTimestamp)
    else
      let unit := extendUnit unit it
      let firstFrame := unit.headD it
      if it.isLastFrameInTemporalUnit && temporalUnitDecodable history unit then
        findDecodable history lastContinuous rest unit
          (next.orElse fun _ => some ⟨firstFrame.frameId, it.frameId⟩) firstFrame.timestamp
      else findDecodable history lastContinuous rest unit next lastTimestamp

def findNextAndLastDecodableTemporalUnit (buffer : FrameBuffer) : FrameBuffer :=
  match buffer.lastContinuousTemporalUnitFrameId with
  | none => { buffer with nextDecodableTemporalUnit := none, decodableTemporalUnitsInfo := none }
  | some lastContinuous =>
    let (next, lastTimestamp) :=
      findDecodable buffer.decodedFrameHistory lastContinuous buffer.frames [] none 0
    { buffer with
      nextDecodableTemporalUnit := next
      decodableTemporalUnitsInfo := next.bind fun unit =>
        (buffer.frames.find? fun it => it.frameId = unit.firstFrame).map fun first =>
          ⟨first.timestamp, lastTimestamp⟩ }

/-- The buffer after a call, what the call returned, and whether it called `Clear`. -/
structure Inserted where
  buffer : FrameBuffer
  result : Bool
  cleared : Bool
  deriving DecidableEq, Repr

/-- `frames_.emplace` and what follows it. -/
def emplaceFrame (buffer : FrameBuffer) (frame : EncodedFrame) (cleared : Bool) : Inserted :=
  let before := buffer.frames.takeWhile fun it => it.frameId < frame.id
  let rest := buffer.frames.dropWhile fun it => it.frameId < frame.id
  if rest.head?.any (·.frameId = frame.id) then ⟨buffer, false, cleared⟩
  else
    ⟨(buffer.propagateContinuity before
      ({ encodedFrame := frame } :: rest)).findNextAndLastDecodableTemporalUnit, true, cleared⟩

/-- A full buffer is cleared for a key frame. -/
def insertIntoSpace (buffer : FrameBuffer) (frame : EncodedFrame) (cleared : Bool) : Inserted :=
  if buffer.frames.length = buffer.maxSize then
    if frame.isKeyframe then buffer.clear.emplaceFrame frame true else ⟨buffer, false, cleared⟩
  else buffer.emplaceFrame frame cleared

def insertFrame (buffer : FrameBuffer) (frame : EncodedFrame) : Inserted :=
  if !validReferences frame then ⟨buffer, false, false⟩
  else if buffer.decodedFrameHistory.lastDecodedFrame.any (frame.id ≤ ·) then
    if buffer.legacyFrameIdJumpBehavior && frame.isKeyframe &&
        buffer.decodedFrameHistory.lastDecodedFrameTimestamp.any
          (timestampAheadOf frame.rtpTimestamp ·) then
      buffer.clear.insertIntoSpace frame true
    else ⟨buffer, false, false⟩
  else buffer.insertIntoSpace frame false

def pointsInto (buffer : FrameBuffer) (unit : TemporalUnit) : Bool :=
  buffer.frames.any (·.frameId = unit.firstFrame) && buffer.frames.any (·.frameId = unit.lastFrame) &&
    unit.firstFrame ≤ unit.lastFrame

def dropNextDecodableTemporalUnit (buffer : FrameBuffer) : Except FrameViolation FrameBuffer :=
  match buffer.nextDecodableTemporalUnit with
  | none => .ok buffer
  | some unit => do
    check (buffer.pointsInto unit) .danglingIterator
    let erased := buffer.frames.filter fun it => it.frameId ≤ unit.lastFrame
    .ok { buffer with
      numDroppedFrames := buffer.numDroppedFrames + erased.countP fun it : FrameInfo => !it.moved
      frames := buffer.frames.filter fun it => unit.lastFrame < it.frameId
      }.findNextAndLastDecodableTemporalUnit

/-- The loop over the frames of the unit. -/
def decodeFrames (history : DecodedFramesHistory) :
    List FrameInfo → Except FrameViolation DecodedFramesHistory
  | [] => .ok history
  | it :: rest => do
    check (!it.moved) .nullFrame
    let history ← history.insertDecoded it.frameId it.timestamp
    decodeFrames history rest

def extractNextDecodableTemporalUnit (buffer : FrameBuffer) :
    Except FrameViolation (List EncodedFrame × FrameBuffer) :=
  match buffer.nextDecodableTemporalUnit with
  | none => .ok ([], buffer)
  | some unit => do
    check (buffer.pointsInto unit) .danglingIterator
    let inUnit (it : FrameInfo) : Bool :=
      unit.firstFrame ≤ it.frameId && it.frameId ≤ unit.lastFrame
    let extracted := buffer.frames.filter inUnit
    let history ← decodeFrames buffer.decodedFrameHistory extracted
    let buffer ← { buffer with
      decodedFrameHistory := history
      frames := buffer.frames.map fun it => if inUnit it then { it with moved := true } else it
      }.dropNextDecodableTemporalUnit
    .ok (extracted.map FrameInfo.encodedFrame, buffer)

end FrameBuffer

end MaeRtc.VideoCoding
