import MaeRtc.Base.BigEndian
import MaeRtc.Base.Checked
import MaeRtc.Base.Words
import MaeRtc.Rtp.SplitAboutEqually

/-!
# Packetization of H.264 frames

`H264::FindNaluIndices` of `h264_common.cc` and `RtpPacketizerH264` of
`rtp_format_h264.cc`.  A frame is a list of bytes.  Sizes are natural numbers that
are narrowed, or wrapped, where the source converts them; each `RTC_CHECK` is a
check of the model, and what the source leaves undefined is a fault of another kind.
-/

namespace MaeRtc.Rtp

open Base

/-! ## Start codes -/

namespace H264

structure NaluIndex where
  startOffset : Nat
  payloadStartOffset : Nat
  payloadSize : Nat
  deriving DecidableEq, Repr

def kNaluShortStartSequenceSize : Nat := 3

/-- The last entry ends where the next one starts. -/
def updateLast (payloadEnd : Nat) (sequences : List NaluIndex) : List NaluIndex :=
  match sequences.getLast? with
  | none => sequences
  | some last => sequences.dropLast ++
      [{ last with payloadSize := payloadEnd - last.payloadStartOffset }]

/-- A start sequence at `i`, which may be one of three or of four bytes. -/
def addIndex (buffer : List Octet) (i : Nat) (sequences : List NaluIndex) : List NaluIndex :=
  let startOffset := if 0 < i ∧ buffer.getD (i - 1) 0 = 0 then i - 1 else i
  updateLast startOffset sequences ++ [⟨startOffset, i + 3, 0⟩]

/-- The scanning loop: bytes above one let it skip ahead. -/
def scan (buffer : List Octet) (stop : Nat) : Nat → Nat → List NaluIndex → List NaluIndex
  | 0, _, sequences => sequences
  | fuel + 1, i, sequences =>
    if i < stop then
      if buffer.getD (i + 2) 0 > 1 then scan buffer stop fuel (i + 3) sequences
      else if buffer.getD (i + 2) 0 = 1 then
        scan buffer stop fuel (i + 3)
          (if buffer.getD (i + 1) 0 = 0 ∧ buffer.getD i 0 = 0 then addIndex buffer i sequences
            else sequences)
      else scan buffer stop fuel (i + 1) sequences
    else sequences

def findNaluIndices (buffer : List Octet) : List NaluIndex :=
  if buffer.length < kNaluShortStartSequenceSize then []
  else
    updateLast buffer.length
      (scan buffer (buffer.length - kNaluShortStartSequenceSize) buffer.length 0 [])

/-- The NAL units of a frame. -/
def nalus (payload : List Octet) : List (List Octet) :=
  (findNaluIndices payload).map fun index =>
    (payload.drop index.payloadStartOffset).take index.payloadSize

def kStapA : Octet := 24

def kFuA : Octet := 28

end H264

def kH264FBit : Octet := 0x80
def kH264NriMask : Octet := 0x60
def kH264TypeMask : Octet := 0x1F
def kH264SBit : Octet := 0x80
def kH264EBit : Octet := 0x40

def kNalHeaderSize : Nat := 1
def kFuAHeaderSize : Nat := 2
def kLengthFieldSize : Nat := 2

/-! ## Packet units -/

inductive H264PacketizationMode where
  | nonInterleaved
  | singleNalUnit
  deriving DecidableEq, Repr

/-- A NAL unit, or a piece of one, to be put into a packet. -/
structure PacketUnit where
  sourceFragment : List Octet
  firstFragment : Bool
  lastFragment : Bool
  aggregated : Bool
  header : Octet
  deriving DecidableEq, Repr

/-- The checks of the packetizer. -/
inductive PacketizerCheck where
  /-- `packet_length > 0` -/
  | packetLength
  /-- `payload_left == 0` -/
  | payloadLeft
  /-- `payload_size_left >= fragment.size()` -/
  | payloadSizeLeft
  /-- `fragment.size() > 0` -/
  | fragmentSize
  /-- `aggregated_fragments > 0` -/
  | aggregatedFragments
  /-- `payload_capacity >= kNalHeaderSize` -/
  | payloadCapacity
  /-- `packet->first_fragment` -/
  | firstFragment
  /-- `index + kLengthFieldSize + fragment.size() <= payload_capacity` -/
  | aggregateSize
  /-- `is_last_fragment` -/
  | lastFragment
  deriving DecidableEq, Repr

inductive PacketizerFault where
  | check (failed : PacketizerCheck)
  | split (fault : SplitFault)
  /-- the first byte of an empty fragment, or the front of an empty queue -/
  | outOfRange
  deriving DecidableEq, Repr

namespace RtpPacketizerH264

/-- How much less fits into the packet if fragment `i` of `count` is in it alone. -/
def reductionAt (limits : PayloadSizeLimits) (count i : Nat) : Int :=
  if count = 1 then limits.singlePacketReductionLen
  else if i = 0 then limits.firstPacketReductionLen
  else if i + 1 = count then limits.lastPacketReductionLen
  else 0

/-! ### Fragments (FU-A) -/

/-- The limits for the pieces of fragment `i`, after their headers. -/
def fuALimits (limits : PayloadSizeLimits) (count i : Nat) : PayloadSizeLimits where
  maxPayloadLen := limits.maxPayloadLen - kFuAHeaderSize
  singlePacketReductionLen :=
    if count ≠ 1 then
      if i = count - 1 then limits.lastPacketReductionLen
      else if i = 0 then limits.firstPacketReductionLen
      else 0
    else limits.singlePacketReductionLen
  firstPacketReductionLen := if i ≠ 0 then 0 else limits.firstPacketReductionLen
  lastPacketReductionLen := if i ≠ count - 1 then 0 else limits.lastPacketReductionLen

/-- The loop over the sizes of the pieces, with the bytes that are left after it. -/
def fuAUnits (fragment : List Octet) (header : Octet) :
    List Int → Bool → Nat → Int → Except PacketizerFault (List PacketUnit × Int)
  | [], _, _, payloadLeft => .ok ([], payloadLeft)
  | packetLength :: rest, first, offset, payloadLeft => do
    check (0 < packetLength) (.check .packetLength)
    let (units, payloadLeft) ← fuAUnits fragment header rest false
      (offset + packetLength.toNat) (payloadLeft - packetLength)
    .ok (⟨(fragment.drop offset).take packetLength.toNat, first, rest.isEmpty, false, header⟩ ::
      units, payloadLeft)

/-- The pieces of fragment `i`; `none` if it cannot be divided. -/
def packetizeFuA (limits : PayloadSizeLimits) (count i : Nat) (fragment : List Octet) :
    Except PacketizerFault (Option (List PacketUnit)) :=
  let payloadLeft := uint64 (fragment.length - kNalHeaderSize)
  match splitAboutEqually (int32 payloadLeft) (fuALimits limits count i) with
  | .error fault => .error (.split fault)
  | .ok [] => .ok none
  | .ok payloadSizes => match fragment with
    | [] => .error .outOfRange
    | header :: _ => do
      let (units, payloadLeft) ← fuAUnits fragment header payloadSizes true kNalHeaderSize
        payloadLeft
      check (payloadLeft = 0) (.check .payloadLeft)
      .ok (some units)

/-! ### Aggregation (STAP-A) -/

/-- The size that a packet needs for one more fragment. -/
def payloadSizeNeeded (limits : PayloadSizeLimits) (hasFirst hasLast : Bool)
    (fragmentSize : Nat) : Nat :=
  if hasFirst && hasLast then uint64 (fragmentSize + limits.singlePacketReductionLen)
  else if hasFirst then uint64 (fragmentSize + limits.firstPacketReductionLen)
  else if hasLast then uint64 (fragmentSize + limits.lastPacketReductionLen)
  else fragmentSize

/-- The loop over the fragments that go into one packet. -/
def stapAUnits (limits : PayloadSizeLimits) (hasFirst : Bool) :
    List (List Octet) → Nat → Nat → Nat → Except PacketizerFault (List PacketUnit)
  | [], _, _, _ => .ok []
  | fragment :: rest, payloadSizeLeft, aggregated, fragmentHeadersLength =>
    if payloadSizeNeeded limits hasFirst rest.isEmpty (fragment.length + fragmentHeadersLength) ≤
        payloadSizeLeft then
      match fragment with
      | [] => .error (.check .fragmentSize)
      | header :: _ => do
        let units ← stapAUnits limits hasFirst rest
          (uint64 (payloadSizeLeft - fragment.length - fragmentHeadersLength))
          (aggregated + 1)
          (if aggregated = 0 then kLengthFieldSize + (kNalHeaderSize + kLengthFieldSize)
            else kLengthFieldSize)
        .ok (⟨fragment, aggregated = 0, false, true, header⟩ :: units)
    else .ok []

/-- The last unit of a packet is marked. -/
def markLast (units : List PacketUnit) : List PacketUnit :=
  match units.getLast? with
  | none => units
  | some last => units.dropLast ++ [{ last with lastFragment := true }]

/-- The units of one packet, made of the next fragments. -/
def packetizeStapA (limits : PayloadSizeLimits) (i : Nat) (fragments : List (List Octet)) :
    Except PacketizerFault (List PacketUnit) := do
  let payloadSizeLeft := uint64 limits.maxPayloadLen
  check ((fragments.headD []).length ≤ payloadSizeLeft) (.check .payloadSizeLeft)
  let units ← stapAUnits limits (i = 0) fragments payloadSizeLeft 0 0
  check (0 < units.length) (.check .aggregatedFragments)
  .ok (markLast units)

/-! ### Single NAL units -/

/-- The unit of fragment `i`; `none` if it does not fit. -/
def packetizeSingleNalu (limits : PayloadSizeLimits) (count i : Nat) (fragment : List Octet) :
    Except PacketizerFault (Option (List PacketUnit)) :=
  if uint64 (limits.maxPayloadLen - reductionAt limits count i) < fragment.length then .ok none
  else match fragment with
    | [] => .error (.check .fragmentSize)
    | header :: _ => .ok (some [⟨fragment, true, true, false, header⟩])

/-! ### All packets -/

/-- The loop over the fragments: the units of all packets and the number of packets. -/
def generateFrom (mode : H264PacketizationMode) (limits : PayloadSizeLimits) (count : Nat) :
    Nat → Nat → List (List Octet) → Except PacketizerFault (Option (List PacketUnit × Nat))
  | 0, _, _ => .ok (some ([], 0))
  | _, _, [] => .ok (some ([], 0))
  | fuel + 1, i, fragment :: rest => match mode with
    | .singleNalUnit => do
      match ← packetizeSingleNalu limits count i fragment with
      | none => .ok none
      | some units =>
        let more ← generateFrom mode limits count fuel (i + 1) rest
        .ok (more.map fun later => (units ++ later.1, later.2 + 1))
    | .nonInterleaved =>
      if int32 fragment.length > limits.maxPayloadLen - reductionAt limits count i then do
        match ← packetizeFuA limits count i fragment with
        | none => .ok none
        | some units =>
          let more ← generateFrom mode limits count fuel (i + 1) rest
          .ok (more.map fun later => (units ++ later.1, later.2 + units.length))
      else do
        let units ← packetizeStapA limits i (fragment :: rest)
        let more ← generateFrom mode limits count fuel (i + units.length)
          ((fragment :: rest).drop units.length)
        .ok (more.map fun later => (units ++ later.1, later.2 + 1))

end RtpPacketizerH264

/-- The state of a packetizer. -/
structure RtpPacketizerH264 where
  numPacketsLeft : Nat
  inputFragments : List (List Octet)
  packets : List PacketUnit
  deriving DecidableEq, Repr

namespace RtpPacketizerH264

/-- If not all packets could be generated there are none. -/
def new (payload : List Octet) (limits : PayloadSizeLimits) (mode : H264PacketizationMode) :
    Except PacketizerFault RtpPacketizerH264 := do
  let inputFragments := H264.nalus payload
  match ← generateFrom mode limits inputFragments.length inputFragments.length 0
    inputFragments with
  | none => .ok ⟨0, inputFragments, []⟩
  | some (units, count) => .ok ⟨count, inputFragments, units⟩

/-! ## Taking packets -/

/-- The flags of a NAL unit header under another type. -/
def withType (header naluType : Octet) : Octet :=
  (header &&& (kH264FBit ||| kH264NriMask)) ||| naluType

/-- The loop over the units of an aggregate: what is written, and the units that are left. -/
def aggregate (payloadCapacity : Nat) :
    List PacketUnit → Nat → Except PacketizerFault (List Octet × List PacketUnit)
  | [], _ => .error .outOfRange
  | unit :: rest, index =>
    if unit.aggregated then do
      let size := unit.sourceFragment.length
      check (index + kLengthFieldSize + size ≤ payloadCapacity) (.check .aggregateSize)
      let written := writeBigEndian 2 size ++ unit.sourceFragment
      if unit.lastFragment then .ok (written, rest)
      else
        let (later, left) ← aggregate payloadCapacity rest (index + kLengthFieldSize + size)
        .ok (written ++ later, left)
    else do
      check unit.lastFragment (.check .lastFragment)
      .ok ([], unit :: rest)

def nextAggregatePacket (payloadCapacity : Nat) (unit : PacketUnit) (rest : List PacketUnit) :
    Except PacketizerFault (List Octet × List PacketUnit) := do
  check (kNalHeaderSize ≤ payloadCapacity) (.check .payloadCapacity)
  check unit.firstFragment (.check .firstFragment)
  let (written, left) ← aggregate payloadCapacity (unit :: rest) kNalHeaderSize
  .ok (withType unit.header H264.kStapA :: written, left)

/-- The payload of a piece of a NAL unit. -/
def fragmentPayload (unit : PacketUnit) : List Octet :=
  let fuIndicator := withType unit.header H264.kFuA
  let fuHeader := (if unit.firstFragment then kH264SBit else 0) |||
    (if unit.lastFragment then kH264EBit else 0) ||| (unit.header &&& kH264TypeMask)
  fuIndicator :: fuHeader :: unit.sourceFragment

/-- The payload of the next packet, and whether it has the marker. -/
def nextPacket (freeCapacity : Nat) (packetizer : RtpPacketizerH264) :
    Except PacketizerFault (Option (List Octet × Bool) × RtpPacketizerH264) :=
  match packetizer.packets with
  | [] => .ok (none, packetizer)
  | unit :: rest =>
    if unit.firstFragment && unit.lastFragment then
      .ok (some (unit.sourceFragment, rest.isEmpty),
        ⟨packetizer.numPacketsLeft - 1, packetizer.inputFragments.tail, rest⟩)
    else if unit.aggregated then do
      let (payload, left) ← nextAggregatePacket freeCapacity unit rest
      .ok (some (payload, left.isEmpty), ⟨packetizer.numPacketsLeft - 1,
        packetizer.inputFragments.drop ((unit :: rest).length - left.length), left⟩)
    else
      .ok (some (fragmentPayload unit, rest.isEmpty), ⟨packetizer.numPacketsLeft - 1,
        if unit.lastFragment then packetizer.inputFragments.tail
        else packetizer.inputFragments, rest⟩)

/-- All packets; the `n`-th one has `freeCapacity n` bytes free. -/
def drain (freeCapacity : Nat → Nat) :
    Nat → Nat → RtpPacketizerH264 → Except PacketizerFault (List (List Octet × Bool))
  | 0, _, _ => .ok []
  | fuel + 1, n, packetizer => do
    match ← packetizer.nextPacket (freeCapacity n) with
    | (none, _) => .ok []
    | (some packet, packetizer) =>
      let packets ← drain freeCapacity fuel (n + 1) packetizer
      .ok (packet :: packets)

/-- A frame is packetized, and all packets are taken. -/
def packetize (mode : H264PacketizationMode) (limits : PayloadSizeLimits)
    (freeCapacity : Nat → Nat) (payload : List Octet) :
    Except PacketizerFault (List (List Octet × Bool)) := do
  let packetizer ← new payload limits mode
  drain freeCapacity (packetizer.packets.length + 1) 0 packetizer

end RtpPacketizerH264

end MaeRtc.Rtp
