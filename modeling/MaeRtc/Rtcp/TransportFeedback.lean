import MaeRtc.Base.SequenceNumbers

/-!
# Transport feedback packets

`rtcp::TransportFeedback` of `transport_feedback.cc`, as far as a report that was received is
read from it.  Times are microseconds.  How a packet is built, and its octets, are left out.
-/

namespace MaeRtc.Rtcp

open Base

/-- Times and intervals are in microseconds. -/
def kDeltaTick : Int := 250
def kBaseTimeTick : Int := kDeltaTick * 2 ^ 8
def kTimeWrapPeriod : Int := kBaseTimeTick * 2 ^ 24

structure ReceivedPacket where
  sequenceNumber : SeqNum
  deltaTicks : Int
  deriving DecidableEq, Repr

structure TransportFeedback where
  baseSeqNo : SeqNum := 0
  numSeqNo : Nat := 0
  baseTimeTicks : Nat := 0
  receivedPackets : List ReceivedPacket := []
  deriving DecidableEq, Repr

namespace TransportFeedback

/-- The reference time.  One wrap period is added to leave room for negative deltas. -/
def baseTime (self : TransportFeedback) : Int :=
  kTimeWrapPeriod + self.baseTimeTicks * kBaseTimeTick

def getBaseDelta (self : TransportFeedback) (prevTimestamp : Int) : Int :=
  let delta := self.baseTime - prevTimestamp
  if (delta - kTimeWrapPeriod).natAbs < delta.natAbs then delta - kTimeWrapPeriod
  else if (delta + kTimeWrapPeriod).natAbs < delta.natAbs then delta + kTimeWrapPeriod
  else delta

/-! ## Reading the report -/

/-- The calls of the handler: a number and, for a received packet, the time since the base. -/
def reports : Nat → SeqNum → List ReceivedPacket → Int →
    List (SeqNum × Option Int) × List ReceivedPacket
  | 0, _, received, _ => ([], received)
  | count + 1, seqNum, received, deltaSinceBase =>
    match received with
    | packet :: others =>
      if packet.sequenceNumber = seqNum then
        let deltaSinceBase := deltaSinceBase + packet.deltaTicks * kDeltaTick
        let (later, left) := reports count (seqNum + 1) others deltaSinceBase
        ((seqNum, some deltaSinceBase) :: later, left)
      else
        let (later, left) := reports count (seqNum + 1) received deltaSinceBase
        ((seqNum, none) :: later, left)
    | [] =>
      let (later, left) := reports count (seqNum + 1) [] deltaSinceBase
      ((seqNum, none) :: later, left)

end TransportFeedback

end MaeRtc.Rtcp
