import MaeRtc.Rtp.H264Packetizer

/-!
# Depacketization of H.264 payloads

`VideoRtpDepacketizerH264` of `video_rtp_depacketizer_h264.cc`, and the loop of
`H264SpsPpsTracker::CopyAndFixBitstream` that copies the segments of an aggregate.  What
the parsers of parameter sets and of slices find is a parameter.
-/

namespace MaeRtc.Rtp

open Base

namespace H264

def kSlice : Octet := 1
def kIdr : Octet := 5
def kSps : Octet := 7
def kPps : Octet := 8

def kNaluTypeSize : Nat := 1

end H264

def kStapAHeaderSize : Nat := kNalHeaderSize + kLengthFieldSize

def kMaxNalusPerPacket : Nat := 10

structure NaluInfo where
  type : Octet
  spsId : Int := -1
  ppsId : Int := -1
  deriving DecidableEq, Repr

inductive H264PacketizationTypes where
  | singleNalu
  | stapA
  | fuA
  deriving DecidableEq, Repr

inductive VideoFrameType where
  | key
  | delta
  deriving DecidableEq, Repr

structure SpsState where
  id : Nat
  width : Nat
  height : Nat
  deriving DecidableEq, Repr

/-- What the parsers find in the bytes after a NAL unit header. -/
structure Parsers where
  /-- the rewritten bytes, if the VUI is rewritten, and the parsed state -/
  parseAndRewriteSps : List Octet → Option (List Octet) × Option SpsState
  /-- the ids of the PPS and of its SPS -/
  parsePpsIds : List Octet → Option (Nat × Nat)
  parsePpsIdFromSlice : List Octet → Option Nat

structure ParsedRtpPayload where
  videoPayload : List Octet
  width : Nat := 0
  height : Nat := 0
  frameType : VideoFrameType := .delta
  isFirstPacketInFrame : Bool := true
  packetizationType : H264PacketizationTypes
  naluType : Octet
  nalus : List NaluInfo := []
  deriving DecidableEq, Repr

namespace ParsedRtpPayload

/-- The ids of the first NAL units are kept. -/
def keep (parsed : ParsedRtpPayload) (nalu : NaluInfo) : ParsedRtpPayload :=
  if parsed.nalus.length = kMaxNalusPerPacket then parsed
  else { parsed with nalus := parsed.nalus ++ [nalu] }

variable (parsed : ParsedRtpPayload) (nalu : NaluInfo)

@[simp]
theorem keep_videoPayload : (parsed.keep nalu).videoPayload = parsed.videoPayload := by
  unfold keep
  split_ifs <;> rfl

@[simp]
theorem keep_packetizationType :
    (parsed.keep nalu).packetizationType = parsed.packetizationType := by
  unfold keep
  split_ifs <;> rfl

end ParsedRtpPayload

namespace VideoRtpDepacketizerH264

/-- The offsets of the NAL units of an aggregate; `none` if a length field is wrong. -/
def parseStapAStartOffsets : Nat → List Octet → Nat → Option (List Nat)
  | 0, _, _ => some []
  | _ + 1, [], _ => some []
  | _ + 1, [_], _ => none
  | fuel + 1, high :: low :: rest, offset =>
    let naluSize := readBigEndian [high, low]
    if naluSize > rest.length then none
    else do
      let offsets ← parseStapAStartOffsets fuel (rest.drop naluSize)
        (offset + (kLengthFieldSize + naluSize))
      some ((offset + kStapAHeaderSize) :: offsets)

/-- The payload with another SPS, and with its length field if it has one. -/
def rewriteSps (payload : List Octet) (packetizationType : H264PacketizationTypes)
    (startOffset endOffset : Nat) (rewritten : List Octet) : List Octet :=
  let copied := match packetizationType with
    | .stapA =>
      let lengthFieldOffset := startOffset - (H264.kNaluTypeSize + kLengthFieldSize)
      payload.take lengthFieldOffset ++
        writeBigEndian 2 (rewritten.length + H264.kNaluTypeSize) ++
        (payload.drop (lengthFieldOffset + kLengthFieldSize)).take H264.kNaluTypeSize
    | _ => payload.take startOffset
  copied ++ rewritten ++ payload.drop endOffset

/-- One NAL unit of a payload. -/
def processNalu (parsers : Parsers) (payload : List Octet) (parsed : ParsedRtpPayload)
    (startOffset endOffset : Nat) : Option ParsedRtpPayload :=
  let naluType := payload.getD startOffset 0 &&& kH264TypeMask
  let startOffset := startOffset + H264.kNaluTypeSize
  let body := (payload.drop startOffset).take (endOffset - startOffset)
  let slice : NaluInfo :=
    ⟨naluType, -1, ((parsers.parsePpsIdFromSlice body).map fun id => int32 id).getD (-1)⟩
  if naluType = H264.kSps then
    let (rewritten, sps) := parsers.parseAndRewriteSps body
    let parsed := match rewritten with
      | none => parsed
      | some bytes => { parsed with
          videoPayload := rewriteSps payload parsed.packetizationType startOffset endOffset bytes }
    let parsed := match sps with
      | none => parsed
      | some sps => { parsed with width := sps.width % 2 ^ 16, height := sps.height % 2 ^ 16 }
    some ({ parsed with frameType := .key }.keep
      ⟨naluType, (sps.map fun sps : SpsState => int32 sps.id).getD (-1), -1⟩)
  else if naluType = H264.kPps then
    some (parsed.keep (match parsers.parsePpsIds body with
      | none => ⟨naluType, -1, -1⟩
      | some (ppsId, spsId) => ⟨naluType, int32 spsId, int32 ppsId⟩))
  else if naluType = H264.kIdr then some ({ parsed with frameType := .key }.keep slice)
  else if naluType = H264.kSlice then some (parsed.keep slice)
  else if naluType = H264.kStapA ∨ naluType = H264.kFuA then none
  else some (parsed.keep ⟨naluType, -1, -1⟩)

/-- The loop over the offsets, the last of which is the end. -/
def processNalus (parsers : Parsers) (payload : List Octet) :
    List Nat → ParsedRtpPayload → Option ParsedRtpPayload
  | startOffset :: next :: rest, parsed =>
    let endOffset := next - kLengthFieldSize
    if endOffset - startOffset < H264.kNaluTypeSize then none
    else do
      let parsed ← processNalu parsers payload parsed startOffset endOffset
      processNalus parsers payload (next :: rest) parsed
  | _, parsed => some parsed

def processStapAOrSingleNalu (parsers : Parsers) (payload : List Octet) :
    Option ParsedRtpPayload :=
  let naluType := payload.getD 0 0 &&& kH264TypeMask
  let endOffset := payload.length + kLengthFieldSize
  if naluType = H264.kStapA then
    if payload.length ≤ kStapAHeaderSize then none
    else do
      let naluStartOffsets ← parseStapAStartOffsets payload.length
        (payload.drop kNalHeaderSize) 0
      processNalus parsers payload (naluStartOffsets ++ [endOffset])
        { videoPayload := payload
          packetizationType := .stapA
          naluType := payload.getD kStapAHeaderSize 0 &&& kH264TypeMask }
  else
    processNalus parsers payload [0, endOffset]
      { videoPayload := payload, packetizationType := .singleNalu, naluType := naluType }

def parseFuaNalu (parsers : Parsers) (payload : List Octet) : Option ParsedRtpPayload :=
  match payload with
  | fuIndicator :: fuHeader :: body =>
    let fnri := fuIndicator &&& (kH264FBit ||| kH264NriMask)
    let originalNalType := fuHeader &&& kH264TypeMask
    let firstFragment : Bool := fuHeader &&& kH264SBit > 0
    let frameType : VideoFrameType := if originalNalType = H264.kIdr then .key else .delta
    some (if firstFragment then
      { videoPayload := (fnri ||| originalNalType) :: body
        frameType := frameType
        isFirstPacketInFrame := true
        packetizationType := .fuA
        naluType := originalNalType
        nalus := [⟨originalNalType, -1,
          ((parsers.parsePpsIdFromSlice body).map fun id => int32 id).getD (-1)⟩] }
    else
      { videoPayload := body
        frameType := frameType
        isFirstPacketInFrame := false
        packetizationType := .fuA
        naluType := originalNalType })
  | _ => none

def parse (parsers : Parsers) (payload : List Octet) : Option ParsedRtpPayload :=
  match payload with
  | [] => none
  | header :: _ =>
    if header &&& kH264TypeMask = H264.kFuA then parseFuaNalu parsers payload
    else processStapAOrSingleNalu parsers payload

end VideoRtpDepacketizerH264

/-- The segments of an aggregate, as they are copied; `none` if one is cut off. -/
def copySegments : Nat → List Octet → Option (List (List Octet))
  | fuel + 1, high :: low :: rest =>
    let segmentLength := readBigEndian [high, low]
    if segmentLength > rest.length then none
    else do
      let segments ← copySegments fuel (rest.drop segmentLength)
      some (rest.take segmentLength :: segments)
  | _, _ => some []

/-! ## Reassembly -/

/-- What a receiver has: the NAL units of single packets, of the segments of aggregates,
and of fragments from one with a start bit to one with an end bit.  `pending` is the NAL
unit whose end is still to come. -/
def reassemble (parsers : Parsers) :
    Option (List Octet) → List (List Octet) → Option (List (List Octet))
  | none, [] => some []
  | some _, [] => none
  | pending, payload :: rest => do
    let parsed ← VideoRtpDepacketizerH264.parse parsers payload
    match parsed.packetizationType, pending with
    | .singleNalu, none =>
      let nalus ← reassemble parsers none rest
      some (parsed.videoPayload :: nalus)
    | .stapA, none =>
      let segments ← copySegments parsed.videoPayload.length
        (parsed.videoPayload.drop kNalHeaderSize)
      let nalus ← reassemble parsers none rest
      some (segments ++ nalus)
    | .fuA, pending =>
      let nalu ← match pending, parsed.isFirstPacketInFrame with
        | none, true => some parsed.videoPayload
        | some nalu, false => some (nalu ++ parsed.videoPayload)
        | _, _ => none
      if payload.getD 1 0 &&& kH264EBit > 0 then
        let nalus ← reassemble parsers none rest
        some (nalu :: nalus)
      else reassemble parsers (some nalu) rest
    | _, _ => none

end MaeRtc.Rtp
