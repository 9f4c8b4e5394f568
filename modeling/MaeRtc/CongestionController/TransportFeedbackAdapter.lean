import MaeRtc.Base.OrderedMap
import MaeRtc.Base.UnitBase
import MaeRtc.Rtcp.TransportFeedback

/-!
# The transport feedback adapter

`TransportFeedbackAdapter` and `InFlightBytesTracker` of
`modules/congestion_controller/rtp/transport_feedback_adapter.cc`, with the routes of
`rtc_base/network_route.h`.  Data sizes are natural numbers and times are in microseconds.
The assertions about a packet that enters or leaves the tracker are checks.  A map whose
keys are compared by an equivalence is represented by its lookup function.
-/

namespace MaeRtc.CongestionController

open Base Std

/-! ## Routes -/

inductive AdapterType where
  | unknown
  | ethernet
  | wifi
  | cellular
  | vpn
  | loopback
  | any
  | cellular2G
  | cellular3G
  | cellular4G
  | cellular5G
  deriving DecidableEq, Repr

structure RouteEndpoint where
  adapterType : AdapterType := .unknown
  adapterId : BitVec 16 := 0
  networkId : BitVec 16 := 0
  usesTurn : Bool := false
  deriving DecidableEq, Repr

structure NetworkRoute where
  connected : Bool := false
  localEnd : RouteEndpoint := {}
  remoteEnd : RouteEndpoint := {}
  lastSentPacketId : Int := -1
  packetOverhead : Int := 0
  deriving DecidableEq, Repr

/-- `NetworkRouteComparator` -/
def networkRouteComparator (a b : NetworkRoute) : Bool :=
  if a.localEnd.networkId ≠ b.localEnd.networkId then
    decide (a.localEnd.networkId < b.localEnd.networkId)
  else if a.remoteEnd.networkId ≠ b.remoteEnd.networkId then
    decide (a.remoteEnd.networkId < b.remoteEnd.networkId)
  else if a.localEnd.adapterId ≠ b.localEnd.adapterId then
    decide (a.localEnd.adapterId < b.localEnd.adapterId)
  else if a.remoteEnd.adapterId ≠ b.remoteEnd.adapterId then
    decide (a.remoteEnd.adapterId < b.remoteEnd.adapterId)
  else if a.localEnd.usesTurn ≠ b.localEnd.usesTurn then
    decide (a.localEnd.usesTurn < b.localEnd.usesTurn)
  else if a.remoteEnd.usesTurn ≠ b.remoteEnd.usesTurn then
    decide (a.remoteEnd.usesTurn < b.remoteEnd.usesTurn)
  else decide (a.connected < b.connected)

/-- Neither route comes before the other: the map takes them for one key. -/
def sameKey (a b : NetworkRoute) : Bool :=
  !networkRouteComparator a b && !networkRouteComparator b a

/-! ## Packets -/

structure PacedPacketInfo where
  sendBitrateBps : Int := -1
  probeClusterId : Int := -1
  probeClusterMinProbes : Int := -1
  probeClusterMinBytes : Int := -1
  probeClusterBytesSent : Int := 0
  deriving DecidableEq, Repr

/-- `webrtc::SentPacket` -/
structure SentPacket where
  sendTime : Timestamp := .plusInfinity
  size : Nat := 0
  priorUnackedData : Nat := 0
  pacingInfo : PacedPacketInfo := {}
  audio : Bool := false
  sequenceNumber : Int
  dataInFlight : Nat := 0
  deriving DecidableEq, Repr

structure PacketFeedback where
  creationTime : Timestamp := .minusInfinity
  sent : SentPacket
  receiveTime : Timestamp := .plusInfinity
  networkRoute : NetworkRoute := {}
  deriving DecidableEq, Repr

structure PacketResult where
  sentPacket : SentPacket
  receiveTime : Timestamp := .plusInfinity
  deriving DecidableEq, Repr

structure TransportPacketsFeedback where
  feedbackTime : Timestamp
  firstUnackedSendTime : Timestamp := .plusInfinity
  dataInFlight : Nat := 0
  priorInFlight : Nat
  packetFeedbacks : List PacketResult
  deriving DecidableEq, Repr

inductive RtpPacketMediaType where
  | audio
  | video
  | retransmission
  | forwardErrorCorrection
  | padding
  deriving DecidableEq, Repr

structure RtpPacketSendInfo where
  transportSequenceNumber : SeqNum
  length : Nat
  packetType : Option RtpPacketMediaType := none
  pacingInfo : PacedPacketInfo := {}
  deriving DecidableEq, Repr

/-- `rtc::SentPacket`, the notification that a packet was handed to the network. -/
structure SentNotification where
  packetId : Int := -1
  sendTimeMs : Int := -1
  includedInFeedback : Bool := false
  includedInAllocation : Bool := false
  packetSizeBytes : Nat := 0
  deriving DecidableEq, Repr

/-- The assertions of the tracker. -/
inductive Violation where
  | sendTimeNotFinite
  | inFlightBelowSize
  deriving DecidableEq, Repr

/-! ## The tracker -/

structure InFlightBytesTracker where
  inFlightData : NetworkRoute → Option Nat := fun _ => none

namespace InFlightBytesTracker

/-- The entry of a route is replaced, or erased. -/
def set (self : InFlightBytesTracker) (route : NetworkRoute) (entry : Option Nat) :
    InFlightBytesTracker where
  inFlightData := fun other => if sameKey other route then entry else self.inFlightData other

def addInFlightPacketBytes (self : InFlightBytesTracker) (packet : PacketFeedback) :
    Except Violation InFlightBytesTracker := do
  check packet.sent.sendTime.isFinite .sendTimeNotFinite
  match self.inFlightData packet.networkRoute with
  | some bytes => return self.set packet.networkRoute (some (bytes + packet.sent.size))
  | none => return self.set packet.networkRoute (some packet.sent.size)

def removeInFlightPacketBytes (self : InFlightBytesTracker) (packet : PacketFeedback) :
    Except Violation InFlightBytesTracker := do
  if packet.sent.sendTime.isInfinite then return self
  match self.inFlightData packet.networkRoute with
  | some bytes =>
    check (bytes ≥ packet.sent.size) .inFlightBelowSize
    let left := bytes - packet.sent.size
    return self.set packet.networkRoute (if left = 0 then none else some left)
  | none => return self

def getOutstandingData (self : InFlightBytesTracker) (route : NetworkRoute) : Nat :=
  (self.inFlightData route).getD 0

end InFlightBytesTracker

/-! ## The adapter -/

def kSendTimeHistoryWindow : TimeDelta := .finite 60000000

structure TransportFeedbackAdapter where
  pendingUntrackedSize : Nat := 0
  lastSendTime : Timestamp := .minusInfinity
  lastUntrackedSendTime : Timestamp := .minusInfinity
  seqNumUnwrapper : SeqNumUnwrapper 16 := {}
  history : ExtTreeMap Int PacketFeedback := ∅
  lastAckSeqNum : Int := -1
  inFlight : InFlightBytesTracker := {}
  currentOffset : Timestamp := .minusInfinity
  lastTimestamp : Timestamp := .minusInfinity
  networkRoute : NetworkRoute := {}

namespace TransportFeedbackAdapter

def getOutstandingData (self : TransportFeedbackAdapter) : Nat :=
  self.inFlight.getOutstandingData self.networkRoute

def setNetworkRoute (self : TransportFeedbackAdapter) (route : NetworkRoute) :
    TransportFeedbackAdapter :=
  { self with networkRoute := route }

/-- A packet that leaves the history is no longer in flight. -/
def removeExpired (self : TransportFeedbackAdapter) (packet : PacketFeedback) :
    Except Violation InFlightBytesTracker :=
  if packet.sent.sequenceNumber > self.lastAckSeqNum then
    self.inFlight.removeInFlightPacketBytes packet
  else return self.inFlight

/-- The loop that erases expired packets from the front of the history. -/
def eraseExpired (creationTime : Timestamp) : List (Int × PacketFeedback) →
    TransportFeedbackAdapter → Except Violation TransportFeedbackAdapter
  | [], self => return self
  | (key, packet) :: others, self => do
    if kSendTimeHistoryWindow.lt (creationTime.sub packet.creationTime) then
      let inFlight ← self.removeExpired packet
      eraseExpired creationTime others { self with
        inFlight
        history := self.history.erase key }
    else return self

def addPacket (self : TransportFeedbackAdapter) (packetInfo : RtpPacketSendInfo)
    (overheadBytes : Nat) (creationTime : Timestamp) :
    Except Violation TransportFeedbackAdapter := do
  let (sequenceNumber, seqNumUnwrapper) :=
    self.seqNumUnwrapper.unwrap 0 packetInfo.transportSequenceNumber
  let packet : PacketFeedback := {
    creationTime
    sent := {
      sequenceNumber
      size := packetInfo.length + overheadBytes
      audio := packetInfo.packetType = some .audio
      pacingInfo := packetInfo.pacingInfo }
    networkRoute := self.networkRoute }
  let self ← eraseExpired creationTime self.history.toList { self with seqNumUnwrapper }
  return { self with history := self.history.insertIfNew sequenceNumber packet }

/-- A packet that is sent for the first time is in flight unless it was acknowledged. -/
def addSent (self : TransportFeedbackAdapter) (packet : PacketFeedback) :
    Except Violation InFlightBytesTracker :=
  if packet.sent.sequenceNumber > self.lastAckSeqNum then
    self.inFlight.addInFlightPacketBytes packet
  else return self.inFlight

/-- The part of `ProcessSentPacket` for a packet of the history. -/
def markSent (self : TransportFeedbackAdapter) (key : Int) (packet : PacketFeedback)
    (sendTime : Timestamp) :
    Except Violation (Option SentPacket × TransportFeedbackAdapter) := do
  let packetRetransmit := packet.sent.sendTime.isFinite
  let packet := { packet with
    sent := { packet.sent with
      sendTime
      priorUnackedData := packet.sent.priorUnackedData + self.pendingUntrackedSize } }
  let self := { self with
    lastSendTime := self.lastSendTime.max sendTime
    pendingUntrackedSize := 0 }
  if packetRetransmit then
    return (none, { self with history := self.history.insert key packet })
  else
    let inFlight ← self.addSent packet
    let packet := { packet with
      sent := { packet.sent with
        dataInFlight := inFlight.getOutstandingData self.networkRoute } }
    return (some packet.sent, { self with
      inFlight
      history := self.history.insert key packet })

def processSentPacket (self : TransportFeedbackAdapter) (sentPacket : SentNotification) :
    Except Violation (Option SentPacket × TransportFeedbackAdapter) := do
  let sendTime := UnitBase.finite (sentPacket.sendTimeMs * 1000)
  if sentPacket.includedInFeedback ∨ sentPacket.packetId ≠ -1 then
    let (unwrappedSeqNum, seqNumUnwrapper) :=
      self.seqNumUnwrapper.unwrap 0 (BitVec.ofInt 16 sentPacket.packetId)
    let self := { self with seqNumUnwrapper }
    match self.history[unwrappedSeqNum]? with
    | some packet => self.markSent unwrappedSeqNum packet sendTime
    | none => return (none, self)
  else if sentPacket.includedInAllocation then
    return (none, { self with
      pendingUntrackedSize := self.pendingUntrackedSize + sentPacket.packetSizeBytes
      lastUntrackedSendTime := self.lastUntrackedSendTime.max sendTime })
  else return (none, self)

/-- The offset of the sender's clock is moved on with the base time of the feedback. -/
def updateOffset (self : TransportFeedbackAdapter) (feedback : Rtcp.TransportFeedback)
    (feedbackReceiveTime : Timestamp) : TransportFeedbackAdapter :=
  let currentOffset :=
    match self.lastTimestamp with
    | .finite lastTimestamp =>
      let delta := (UnitBase.finite (feedback.getBaseDelta lastTimestamp)).roundDownTo 1000
      if delta.lt (UnitBase.zero.sub self.currentOffset) then feedbackReceiveTime
      else self.currentOffset.add delta
    | _ => feedbackReceiveTime
  { self with
    currentOffset
    lastTimestamp := .finite feedback.baseTime }

/-- All packets up to a number are acknowledged. -/
def acknowledge (self : TransportFeedbackAdapter) (seqNum : Int) :
    Except Violation TransportFeedbackAdapter :=
  if seqNum > self.lastAckSeqNum then do
    let acknowledged := self.history.toList.filter fun entry =>
      decide (self.lastAckSeqNum < entry.1 ∧ entry.1 ≤ seqNum)
    let inFlight ← acknowledged.foldlM
      (fun inFlight entry => inFlight.removeInFlightPacketBytes entry.2) self.inFlight
    return { self with inFlight, lastAckSeqNum := seqNum }
  else return self

/-- The handler of one reported packet. -/
def processPacket (self : TransportFeedbackAdapter) (sequenceNumber : SeqNum)
    (deltaSinceBase : Option Int) :
    Except Violation (Option PacketResult × TransportFeedbackAdapter) := do
  let (seqNum, seqNumUnwrapper) := self.seqNumUnwrapper.unwrap 0 sequenceNumber
  let self ← acknowledge { self with seqNumUnwrapper } seqNum
  match self.history[seqNum]? with
  | none => return (none, self)
  | some packetFeedback =>
    if packetFeedback.sent.sendTime.isInfinite then return (none, self)
    let (receiveTime, history) :=
      match deltaSinceBase with
      | some delta => (self.currentOffset.add ((UnitBase.finite delta).roundDownTo 1000),
          self.history.erase seqNum)
      | none => (packetFeedback.receiveTime, self.history)
    let self := { self with history }
    if packetFeedback.networkRoute = self.networkRoute then
      return (some ⟨packetFeedback.sent, receiveTime⟩, self)
    else return (none, self)

/-- `ForAllPackets` with the handler; the results are collected. -/
def processPackets : List (SeqNum × Option Int) → List PacketResult → TransportFeedbackAdapter →
    Except Violation (List PacketResult × TransportFeedbackAdapter)
  | [], results, self => return (results, self)
  | (sequenceNumber, deltaSinceBase) :: others, results, self => do
    let (result, self) ← self.processPacket sequenceNumber deltaSinceBase
    processPackets others (results ++ result.toList) self

def processTransportFeedbackInner (self : TransportFeedbackAdapter)
    (feedback : Rtcp.TransportFeedback) (feedbackReceiveTime : Timestamp) :
    Except Violation (List PacketResult × TransportFeedbackAdapter) :=
  let (calls, _) := Rtcp.TransportFeedback.reports feedback.numSeqNo feedback.baseSeqNo
    feedback.receivedPackets 0
  processPackets calls [] (self.updateOffset feedback feedbackReceiveTime)

def processTransportFeedback (self : TransportFeedbackAdapter)
    (feedback : Rtcp.TransportFeedback) (feedbackReceiveTime : Timestamp) :
    Except Violation (Option TransportPacketsFeedback × TransportFeedbackAdapter) := do
  if feedback.numSeqNo = 0 then return (none, self)
  let priorInFlight := self.getOutstandingData
  let (packetFeedbacks, self) ← self.processTransportFeedbackInner feedback feedbackReceiveTime
  if packetFeedbacks.isEmpty then return (none, self)
  let firstUnackedSendTime :=
    match self.history[self.lastAckSeqNum]? with
    | some packet => packet.sent.sendTime
    | none => .plusInfinity
  return (some {
    feedbackTime := feedbackReceiveTime
    firstUnackedSendTime
    dataInFlight := self.getOutstandingData
    priorInFlight
    packetFeedbacks }, self)

end TransportFeedbackAdapter

/-! ## Runs -/

inductive AdapterCall where
  | addPacket (packetInfo : RtpPacketSendInfo) (overheadBytes : Nat) (creationTime : Timestamp)
  | processSentPacket (sentPacket : SentNotification)
  | setNetworkRoute (route : NetworkRoute)
  | processTransportFeedback (feedback : Rtcp.TransportFeedback)
      (feedbackReceiveTime : Timestamp)

def TransportFeedbackAdapter.step (self : TransportFeedbackAdapter) :
    AdapterCall → Except Violation TransportFeedbackAdapter
  | .addPacket packetInfo overheadBytes creationTime =>
    self.addPacket packetInfo overheadBytes creationTime
  | .processSentPacket sentPacket => Prod.snd <$> self.processSentPacket sentPacket
  | .setNetworkRoute route => return self.setNetworkRoute route
  | .processTransportFeedback feedback feedbackReceiveTime =>
    Prod.snd <$> self.processTransportFeedback feedback feedbackReceiveTime

def TransportFeedbackAdapter.run (calls : List AdapterCall) :
    Except Violation TransportFeedbackAdapter :=
  calls.foldlM TransportFeedbackAdapter.step {}

end MaeRtc.CongestionController
