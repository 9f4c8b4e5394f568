import MaeRtc.Base.SearchTree
import MaeRtc.Base.SequenceNumbers
import MaeRtc.Rtp.H264Depacketizer

/-!
# The packet buffer

`PacketBuffer` of `packet_buffer.cc`: packets in slots, by their sequence numbers modulo the
size of the buffer.  A slot is a pointer; `ticket` tells the packets it owned apart.  The sets
of missing packets and of padding are lists in the order of their trees, and each call is
given where the searches in them end.
-/

namespace MaeRtc.VideoCoding

open Base

inductive VideoCodecType where
  | generic
  | vp8
  | vp9
  | av1
  | h264
  | multiplex
  | h265
  deriving DecidableEq, Repr

inductive VideoFrameType where
  | emptyFrame
  | videoFrameKey
  | videoFrameDelta
  deriving DecidableEq, Repr

def kMaxNalusPerPacket : Nat := 10

/-- A packet and what the buffer reads and writes of its video header; `h264Header` are the
types of the NAL units, if the header is one for H.264. -/
structure PacketBuffer.Packet where
  ticket : Nat := 0
  continuous : Bool := false
  seqNum : SeqNum
  timestamp : BitVec 32
  codec : VideoCodecType := .generic
  hasGeneric : Bool := false
  isFirstPacketInFrame : Bool := false
  isLastPacketInFrame : Bool := false
  frameType : VideoFrameType := .emptyFrame
  width : Int := 0
  height : Int := 0
  h264Header : Option (List Octet) := none
  deriving DecidableEq, Repr

structure PacketBuffer where
  maxSize : Nat
  firstSeqNum : SeqNum := 0
  firstPacketReceived : Bool := false
  isClearedToFirstSeqNum : Bool := false
  buffer : List (Option PacketBuffer.Packet)
  newestInsertedSeqNum : Option SeqNum := none
  missingPackets : List SeqNum := []
  receivedPadding : List SeqNum := []
  spsPpsIdrIsH264Keyframe : Bool := false
  deriving DecidableEq, Repr

/-- A null slot that is read, and a slot that holds another packet than the loop expects. -/
inductive PacketViolation where
  | nullPacket
  | seqNumMismatch
  deriving DecidableEq, Repr

/-- Where the searches in the two sets end. -/
structure PacketTrees where
  missingPackets : Search descendingSeqNumComp
  receivedPadding : Search descendingSeqNumComp

namespace PacketBuffer

def new (startBufferSize maxBufferSize : Nat) (spsPpsIdrIsH264Keyframe : Bool) : PacketBuffer where
  maxSize := maxBufferSize
  buffer := List.replicate startBufferSize none
  spsPpsIdrIsH264Keyframe := spsPpsIdrIsH264Keyframe

/-- `seq_num % buffer_.size()` -/
def slot (buffer : List (Option Packet)) (seqNum : SeqNum) : Nat :=
  seqNum.toNat % buffer.length

def entry (buffer : List (Option Packet)) (index : Nat) : Option Packet :=
  (buffer[index]?).getD none

def prevIndex (size index : Nat) : Nat :=
  if index > 0 then index - 1 else size - 1

def clearInternal (packets : PacketBuffer) : PacketBuffer :=
  { packets with
    buffer := List.replicate packets.buffer.length none
    firstPacketReceived := false
    isClearedToFirstSeqNum := false
    newestInsertedSeqNum := none
    missingPackets := []
    receivedPadding := [] }

/-! ## Insertion -/

/-- The entries are moved to their slots in a larger buffer. -/
def rehash (newSize : Nat) (entries : List (Option Packet)) : List (Option Packet) :=
  entries.foldl (fun newBuffer stored => match stored with
    | none => newBuffer
    | some packet => newBuffer.set (packet.seqNum.toNat % newSize) (some packet))
    (List.replicate newSize none)

/-- The larger buffer, if it may still grow. -/
def expandBufferSize (packets : PacketBuffer) : Option PacketBuffer :=
  if packets.buffer.length = packets.maxSize then none
  else some { packets with
    buffer := rehash (min packets.maxSize (2 * packets.buffer.length)) packets.buffer }

/-- The buffer grows until the packet's slot is free; each time its size is doubled. -/
def expandWhileOccupied (seqNum : SeqNum) : Nat → PacketBuffer → PacketBuffer
  | 0, packets => packets
  | fuel + 1, packets =>
    match packets.expandBufferSize with
    | none => packets
    | some larger =>
      if (entry larger.buffer (slot larger.buffer seqNum)).isSome then
        expandWhileOccupied seqNum fuel larger
      else larger

def kMaxPaddingAge : Nat := 1000

/-- The loop from the newest packet to the one before the new one. -/
def insertMissing (search : Search descendingSeqNumComp) (seqNum : SeqNum) :
    Nat → SeqNum → List SeqNum → SeqNum × List SeqNum
  | 0, newest, missing => (newest, missing)
  | fuel + 1, newest, missing =>
    if aheadOf seqNum newest then
      insertMissing search seqNum fuel (newest + 1) (search.insert missing newest)
    else (newest, missing)

def updateMissingPackets (search : Search descendingSeqNumComp) (packets : PacketBuffer)
    (seqNum : SeqNum) : PacketBuffer :=
  let newest := packets.newestInsertedSeqNum.getD seqNum
  if aheadOf seqNum newest then
    let oldSeqNum := seqNum - BitVec.ofNat 16 kMaxPaddingAge
    let missing := search.eraseBefore packets.missingPackets oldSeqNum
    let newest := if aheadOf oldSeqNum newest then oldSeqNum else newest
    let (newest, missing) := insertMissing search seqNum 65536 (newest + 1) missing
    { packets with newestInsertedSeqNum := some newest, missingPackets := missing }
  else
    { packets with
      newestInsertedSeqNum := some newest
      missingPackets := match search.find packets.missingPackets seqNum with
        | none => packets.missingPackets
        | some position => packets.missingPackets.eraseIdx position }

/-! ## Finding frames -/

/-- Whether all previous packets of the frame have arrived. -/
def potentialNewFrame (buffer : List (Option Packet)) (seqNum : SeqNum) : Bool :=
  let index := slot buffer seqNum
  match entry buffer index with
  | none => false
  | some packet =>
    if packet.seqNum ≠ seqNum then false
    else if packet.isFirstPacketInFrame then true
    else match entry buffer (prevIndex buffer.length index) with
      | none => false
      | some previous =>
        if previous.seqNum ≠ packet.seqNum - 1 then false
        else if previous.timestamp ≠ packet.timestamp then false
        else previous.continuous

/-- The search for the first packet of a frame; `tests` is how many more slots may be
tested. -/
def findFirst (buffer : List (Option Packet)) : Nat → Nat → SeqNum → Bool × SeqNum
  | 0, _, startSeqNum => (false, startSeqNum)
  | tests + 1, startIndex, startSeqNum =>
    match entry buffer startIndex with
    | none => (false, startSeqNum)
    | some packet =>
      if packet.isFirstPacketInFrame then (true, startSeqNum)
      else if tests = 0 then (false, startSeqNum)
      else findFirst buffer tests (prevIndex buffer.length startIndex) (startSeqNum - 1)

/-- What the search through a frame of H.264 has seen. -/
structure H264Scan where
  startSeqNum : SeqNum
  hasSps : Bool := false
  hasPps : Bool := false
  hasIdr : Bool := false
  isKeyframe : Bool := false
  idrWidth : Int := -1
  idrHeight : Int := -1
  deriving DecidableEq, Repr

/-- The NAL units of one packet. -/
def scanPacket (spsPpsIdrIsH264Keyframe : Bool) (scan : H264Scan) (packet : Packet)
    (nalus : List Octet) : H264Scan :=
  let hasSps := scan.hasSps || Rtp.H264.kSps ∈ nalus
  let hasPps := scan.hasPps || Rtp.H264.kPps ∈ nalus
  let hasIdr := scan.hasIdr || Rtp.H264.kIdr ∈ nalus
  let scan := { scan with hasSps := hasSps, hasPps := hasPps, hasIdr := hasIdr }
  if (spsPpsIdrIsH264Keyframe && hasIdr && hasSps && hasPps) ||
      (!spsPpsIdrIsH264Keyframe && hasIdr) then
    if packet.width > 0 ∧ packet.height > 0 then
      { scan with isKeyframe := true, idrWidth := packet.width, idrHeight := packet.height }
    else { scan with isKeyframe := true }
  else scan

/-- The search through a frame of H.264, backward as long as the timestamp is the same.
Without a result `FindFrames` returns at once. -/
def scanH264 (spsPpsIdrIsH264Keyframe : Bool) (buffer : List (Option Packet))
    (frameTimestamp : BitVec 32) :
    Nat → Nat → H264Scan → Except PacketViolation (Option H264Scan)
  | 0, _, scan => .ok (some scan)
  | tests + 1, startIndex, scan =>
    match entry buffer startIndex with
    | none => .error .nullPacket
    | some packet =>
      match packet.h264Header with
      | none => .ok none
      | some nalus =>
        if nalus.length ≥ kMaxNalusPerPacket then .ok none
        else
          let scan := scanPacket spsPpsIdrIsH264Keyframe scan packet nalus
          let startIndex := prevIndex buffer.length startIndex
          if tests = 0 then .ok (some scan)
          else if (entry buffer startIndex).all (·.timestamp ≠ frameTimestamp) then
            .ok (some scan)
          else
            scanH264 spsPpsIdrIsH264Keyframe buffer frameTimestamp tests startIndex
              { scan with startSeqNum := scan.startSeqNum - 1 }

/-- The first packet of a frame of H.264 tells whether it is a key frame. -/
def finalize (scan : H264Scan) (packet : Packet) : Packet :=
  if scan.isKeyframe then
    if scan.idrWidth > 0 ∧ scan.idrHeight > 0 then
      { packet with
        frameType := .videoFrameKey
        width := scan.idrWidth
        height := scan.idrHeight }
    else { packet with frameType := .videoFrameKey }
  else { packet with frameType := .videoFrameDelta }

/-- The packets of a frame are moved out of their slots, and their flags are set. -/
def handOut (startSeqNum endSeqNum : SeqNum) :
    Nat → SeqNum → List (Option Packet) → Except PacketViolation (List Packet × List (Option Packet))
  | 0, _, buffer => .ok ([], buffer)
  | count + 1, seqNum, buffer =>
    match entry buffer (slot buffer seqNum) with
    | none => .error .nullPacket
    | some packet => do
      check (packet.seqNum = seqNum) .seqNumMismatch
      let packet := { packet with
        isFirstPacketInFrame := seqNum = startSeqNum
        isLastPacketInFrame := seqNum + 1 = endSeqNum }
      let (frame, buffer) ← handOut startSeqNum endSeqNum count (seqNum + 1)
        (buffer.set (slot buffer seqNum) none)
      .ok (packet :: frame, buffer)

/-- What is done once the packets of a frame are known. -/
def takeFrame (trees : PacketTrees) (packets : PacketBuffer) (start startSeqNum seqNum : SeqNum) :
    Except PacketViolation (List Packet × PacketBuffer) := do
  let endSeqNum := seqNum + 1
  let (frame, buffer) ← handOut startSeqNum endSeqNum (endSeqNum - startSeqNum).toNat startSeqNum
    packets.buffer
  let padding := packets.receivedPadding
  .ok (frame, { packets with
    buffer := buffer
    missingPackets := packets.missingPackets.drop
      (trees.missingPackets.upperBound packets.missingPackets seqNum)
    receivedPadding := padding.take (trees.receivedPadding.lowerBound padding start) ++
      padding.drop (max (trees.receivedPadding.lowerBound padding start)
        (trees.receivedPadding.upperBound padding seqNum)) })

/-- The frame that ends with this packet, and whether `FindFrames` goes on. -/
def completeFrame (trees : PacketTrees) (packets : PacketBuffer) (start seqNum : SeqNum)
    (last : Packet) : Except PacketViolation (Bool × List Packet × PacketBuffer) :=
  let buffer := packets.buffer
  let index := slot buffer seqNum
  if last.codec = .h264 ∧ last.hasGeneric = false then do
    let scanned ← scanH264 packets.spsPpsIdrIsH264Keyframe buffer last.timestamp buffer.length index
      { startSeqNum := seqNum }
    match scanned with
    | none => .ok (false, [], packets)
    | some scan =>
      match entry buffer (slot buffer scan.startSeqNum) with
      | none => .error .nullPacket
      | some first =>
        let packets := { packets with
          buffer := buffer.set (slot buffer scan.startSeqNum) (some (finalize scan first)) }
        if !scan.isKeyframe &&
            trees.missingPackets.upperBound packets.missingPackets scan.startSeqNum ≠ 0 then
          .ok (false, [], packets)
        else do
          let (frame, packets) ← takeFrame trees packets start scan.startSeqNum seqNum
          .ok (true, frame, packets)
  else
    let (fullFrameFound, startSeqNum) := findFirst buffer buffer.length index seqNum
    if fullFrameFound then do
      let (frame, packets) ← takeFrame trees packets start startSeqNum seqNum
      .ok (true, frame, packets)
    else .ok (true, [], packets)

/-- The loop from the packet on, at most once around the buffer. -/
def findFramesFrom (trees : PacketTrees) (start : SeqNum) :
    Nat → SeqNum → PacketBuffer → Except PacketViolation (List Packet × PacketBuffer)
  | 0, _, packets => .ok ([], packets)
  | fuel + 1, seqNum, packets =>
    if (trees.receivedPadding.find packets.receivedPadding seqNum).isSome then
      findFramesFrom trees start fuel (seqNum + 1) packets
    else if !potentialNewFrame packets.buffer seqNum then .ok ([], packets)
    else
      let index := slot packets.buffer seqNum
      match entry packets.buffer index with
      | none => .error .nullPacket
      | some packet =>
        let packet := { packet with continuous := true }
        let packets := { packets with buffer := packets.buffer.set index (some packet) }
        if packet.isLastPacketInFrame then do
          let (goesOn, frame, packets) ← completeFrame trees packets start seqNum packet
          if goesOn then do
            let (found, packets) ← findFramesFrom trees start fuel (seqNum + 1) packets
            .ok (frame ++ found, packets)
          else .ok (frame, packets)
        else findFramesFrom trees start fuel (seqNum + 1) packets

def findFrames (trees : PacketTrees) (packets : PacketBuffer) (seqNum : SeqNum) :
    Except PacketViolation (List Packet × PacketBuffer) :=
  findFramesFrom trees seqNum packets.buffer.length seqNum packets

/-! ## The calls -/

/-- What a call returns, and whether the whole buffer was cleared in it. -/
structure InsertResult where
  packets : PacketBuffer
  found : List Packet := []
  bufferCleared : Bool := false
  cleared : Bool := false
  deriving DecidableEq, Repr

/-- The packet is put into its free slot. -/
def storePacket (trees : PacketTrees) (packets : PacketBuffer) (packet : Packet) (cleared : Bool) :
    Except PacketViolation InsertResult := do
  let seqNum := packet.seqNum
  let packets := { packets with
    buffer := packets.buffer.set (slot packets.buffer seqNum)
      (some { packet with continuous := false }) }
  let packets := updateMissingPackets trees.missingPackets packets seqNum
  let packets := { packets with
    receivedPadding := trees.receivedPadding.eraseBefore packets.receivedPadding
      (seqNum - BitVec.ofNat 16 (packets.buffer.length / 4)) }
  let (found, packets) ← findFrames trees packets seqNum
  .ok { packets := packets, found := found, cleared := cleared }

/-- The slot of the packet is found; if it holds another packet, the buffer is expanded or
cleared. -/
def placePacket (trees : PacketTrees) (packets : PacketBuffer) (packet : Packet) (cleared : Bool) :
    Except PacketViolation InsertResult :=
  match entry packets.buffer (slot packets.buffer packet.seqNum) with
  | none => storePacket trees packets packet cleared
  | some stored =>
    if stored.seqNum = packet.seqNum then .ok { packets := packets, cleared := cleared }
    else
      let packets := expandWhileOccupied packet.seqNum packets.maxSize packets
      if (entry packets.buffer (slot packets.buffer packet.seqNum)).isSome then
        .ok { packets := packets.clearInternal, bufferCleared := true, cleared := true }
      else storePacket trees packets packet cleared

def insertPacket (trees : PacketTrees) (packets : PacketBuffer) (packet : Packet) :
    Except PacketViolation InsertResult :=
  let seqNum := packet.seqNum
  if !packets.firstPacketReceived then
    placePacket trees { packets with firstSeqNum := seqNum, firstPacketReceived := true } packet
      false
  else if aheadOf packets.firstSeqNum seqNum then
    if packets.isClearedToFirstSeqNum then .ok { packets := packets }
    else if (forwardDiff 0 packets.firstSeqNum seqNum).toNat ≥ packets.maxSize then
      placePacket trees
        { packets.clearInternal with firstPacketReceived := true, firstSeqNum := seqNum } packet true
    else placePacket trees { packets with firstSeqNum := seqNum } packet false
  else placePacket trees packets packet false

/-- The loop over the slots up to the sequence number. -/
def clearSlots (seqNum : SeqNum) :
    Nat → SeqNum → List (Option Packet) → List (Option Packet)
  | 0, _, buffer => buffer
  | iterations + 1, firstSeqNum, buffer =>
    let index := slot buffer firstSeqNum
    clearSlots seqNum iterations (firstSeqNum + 1)
      (if (entry buffer index).any (aheadOf seqNum ·.seqNum) then buffer.set index none else buffer)

def clearTo (trees : PacketTrees) (packets : PacketBuffer) (seqNum : SeqNum) : PacketBuffer :=
  if packets.isClearedToFirstSeqNum && aheadOf packets.firstSeqNum seqNum then packets
  else if !packets.firstPacketReceived then packets
  else
    let seqNum := seqNum + 1
    let diff := (forwardDiff 0 packets.firstSeqNum seqNum).toNat
    { packets with
      buffer := clearSlots seqNum (min diff packets.buffer.length) packets.firstSeqNum packets.buffer
      firstSeqNum := seqNum
      isClearedToFirstSeqNum := true
      missingPackets := trees.missingPackets.eraseBefore packets.missingPackets seqNum
      receivedPadding := trees.receivedPadding.eraseBefore packets.receivedPadding seqNum }

def clear (packets : PacketBuffer) : PacketBuffer :=
  packets.clearInternal

def insertPadding (trees : PacketTrees) (packets : PacketBuffer) (seqNum : SeqNum) :
    Except PacketViolation InsertResult := do
  let packets := updateMissingPackets trees.missingPackets packets seqNum
  let packets := { packets with
    receivedPadding := trees.receivedPadding.insert packets.receivedPadding seqNum }
  let (found, packets) ← findFrames trees packets (seqNum + 1)
  .ok { packets := packets, found := found }

end PacketBuffer

end MaeRtc.VideoCoding
