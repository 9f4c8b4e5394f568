import MaeRtc.Base.Words

/-!
# Deltas between groups of packets

`InterArrivalDelta` of `inter_arrival_delta.cc`.  Packets that were sent close to each other,
or that arrive in one burst, form a group; each group that is complete is compared with the
one before it.  All times are finite and in microseconds, and a group without packets, whose
times are infinite in the source, is `none`.
-/

namespace MaeRtc.GoogCc

open MaeRtc.Base

def kBurstDeltaThreshold : Int := 5000

def kMaxBurstDuration : Int := 100000

def kArrivalTimeOffsetThreshold : Int := 3000000

def kReorderedResetThreshold : Nat := 3

structure SendTimeGroup where
  size : Nat
  firstSendTime : Int
  sendTime : Int
  firstArrival : Int
  completeTime : Int
  lastSystemTime : Int
  deriving DecidableEq, Repr

structure InterArrivalDelta where
  sendTimeGroupLength : Int
  currentTimestampGroup : Option SendTimeGroup := none
  prevTimestampGroup : Option SendTimeGroup := none
  numConsecutiveReorderedPackets : Nat := 0
  deriving DecidableEq, Repr

structure ArrivedPacket where
  sendTime : Int
  arrivalTime : Int
  systemTime : Int
  packetSize : Nat
  deriving DecidableEq, Repr

/-- What `ComputeDeltas` writes if it returns true. -/
structure GroupDeltas where
  sendTimeDelta : Int
  arrivalTimeDelta : Int
  packetSizeDelta : Int
  deriving DecidableEq, Repr

namespace InterArrivalDelta

def belongsToBurst (group : SendTimeGroup) (packet : ArrivedPacket) : Bool :=
  let arrivalTimeDelta := packet.arrivalTime - group.completeTime
  let sendTimeDelta := packet.sendTime - group.sendTime
  sendTimeDelta = 0 ∨
    (arrivalTimeDelta - sendTimeDelta < 0 ∧ arrivalTimeDelta ≤ kBurstDeltaThreshold ∧
      packet.arrivalTime - group.firstArrival < kMaxBurstDuration)

def newTimestampGroup (self : InterArrivalDelta) (group : SendTimeGroup)
    (packet : ArrivedPacket) : Bool :=
  !belongsToBurst group packet &&
    decide (packet.sendTime - group.firstSendTime > self.sendTimeGroupLength)

def accumulate (self : InterArrivalDelta) (group : SendTimeGroup) (packet : ArrivedPacket) :
    InterArrivalDelta :=
  { self with
    currentTimestampGroup := some { group with
      size := group.size + packet.packetSize
      completeTime := packet.arrivalTime
      lastSystemTime := packet.systemTime } }

def openGroup (self : InterArrivalDelta) (packet : ArrivedPacket) : InterArrivalDelta :=
  self.accumulate ⟨0, packet.sendTime, packet.sendTime, packet.arrivalTime, packet.arrivalTime,
    packet.systemTime⟩ packet

def reset (self : InterArrivalDelta) : InterArrivalDelta where
  sendTimeGroupLength := self.sendTimeGroupLength

/-- The first packet of a later burst: the group before it is complete. -/
def closeGroup (self : InterArrivalDelta) (current : SendTimeGroup) (packet : ArrivedPacket) :
    Option GroupDeltas × InterArrivalDelta :=
  let opened := { self with prevTimestampGroup := some current }.openGroup packet
  match self.prevTimestampGroup with
  | none => (none, opened)
  | some prev =>
    let arrivalTimeDelta := current.completeTime - prev.completeTime
    let systemTimeDelta := current.lastSystemTime - prev.lastSystemTime
    if arrivalTimeDelta - systemTimeDelta ≥ kArrivalTimeOffsetThreshold then (none, self.reset)
    else if arrivalTimeDelta < 0 then
      if self.numConsecutiveReorderedPackets + 1 ≥ kReorderedResetThreshold then
        (none, self.reset)
      else
        (none, { self with
          numConsecutiveReorderedPackets := self.numConsecutiveReorderedPackets + 1 })
    else
      (some ⟨current.sendTime - prev.sendTime, arrivalTimeDelta,
        int32 current.size - int32 prev.size⟩, { opened with numConsecutiveReorderedPackets := 0 })

def computeDeltas (self : InterArrivalDelta) (packet : ArrivedPacket) :
    Option GroupDeltas × InterArrivalDelta :=
  match self.currentTimestampGroup with
  | none => (none, self.openGroup packet)
  | some current =>
    if current.firstSendTime > packet.sendTime then (none, self)
    else if self.newTimestampGroup current packet then self.closeGroup current packet
    else
      (none, self.accumulate { current with sendTime := max current.sendTime packet.sendTime }
        packet)

end InterArrivalDelta

end MaeRtc.GoogCc
