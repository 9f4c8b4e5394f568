import MaeRtc.Base.Machine
import MaeRtc.DcSctp.AdditionalTsnBlocks
import MaeRtc.DcSctp.SequenceNumbers

/-!
# The data tracker

`DataTracker` records which TSNs were received, decides when a SACK is due and
builds it.  The tracker is translated from `data_tracker.cc`.  A run carries,
next to the tracker, the set of TSNs that were observed or covered by a
FORWARD-TSN; the tracker represents exactly that set.
-/

namespace MaeRtc.DcSctp

open MaeRtc.Base

/-- When the next SACK is due. -/
inductive AckState where
  | idle
  | becomingDelayed
  | delayed
  | immediate
  deriving DecidableEq, Repr

/-- A gap-ack block: offsets from the cumulative TSN, as put on the wire. -/
structure GapAckBlock where
  start : BitVec 16
  stop : BitVec 16
  deriving DecidableEq, Repr

structure SackChunk where
  cumulativeTsnAck : Tsn
  aRwnd : BitVec 32
  gapAckBlocks : List GapAckBlock
  duplicateTsns : Finset Tsn
  deriving DecidableEq

structure DataTracker where
  seenPacket : Bool
  delayedAckTimerRunning : Bool
  ackState : AckState
  tsnUnwrapper : SeqNumUnwrapper 32
  lastCumulativeAckedTsn : Int
  additionalTsnBlocks : List TsnRange
  duplicateTsns : Finset Tsn
  deriving DecidableEq

namespace DataTracker

def maxDuplicateTsnReported : Nat := 20

def maxGapAckBlocksReported : Nat := 20

def maxAcceptedOutstandingFragments : BitVec 32 := 100000

/-- The tracker of a peer whose first TSN is `peerInitialTsn`. -/
def create (peerInitialTsn : Tsn) : DataTracker :=
  let (tsn, unwrapper) := SeqNumUnwrapper.unwrap 0 {} (peerInitialTsn - 1)
  { seenPacket := false
    delayedAckTimerRunning := false
    ackState := .idle
    tsnUnwrapper := unwrapper
    lastCumulativeAckedTsn := tsn
    additionalTsnBlocks := []
    duplicateTsns := ∅ }

/-- The unwrapped number the tracker takes a TSN for. -/
def peekTsn (tracker : DataTracker) (tsn : Tsn) : Int :=
  SeqNumUnwrapper.peekUnwrap 0 tracker.tsnUnwrapper tsn

def isTSNValid (tracker : DataTracker) (tsn : Tsn) : Bool :=
  let difference := Unwrapped.difference 32 (tracker.peekTsn tsn)
    tracker.lastCumulativeAckedTsn
  !decide (difference > maxAcceptedOutstandingFragments)

def updateAckState (tracker : DataTracker) (newState : AckState) : DataTracker :=
  if newState ≠ tracker.ackState then
    { tracker with
      ackState := newState
      delayedAckTimerRunning :=
        if tracker.ackState = .delayed then false
        else if newState = .delayed then true
        else tracker.delayedAckTimerRunning }
  else
    tracker

/-- Remember a duplicate, unless the report is already full. -/
def recordDuplicate (tracker : DataTracker) (tsn : Int) : DataTracker :=
  if tracker.duplicateTsns.card < maxDuplicateTsnReported then
    { tracker with
      duplicateTsns := insert (Unwrapped.wrap 32 tsn) tracker.duplicateTsns }
  else
    tracker

/-- Move the cumulative TSN over a first block that now follows it directly. -/
def moveOverFront (tracker : DataTracker) : DataTracker :=
  match tracker.additionalTsnBlocks with
  | [] => tracker
  | front :: _ =>
    if front.first = tracker.lastCumulativeAckedTsn + 1 then
      { tracker with
        lastCumulativeAckedTsn := front.last
        additionalTsnBlocks :=
          AdditionalTsnBlocks.popFront tracker.additionalTsnBlocks }
    else
      tracker

/-- Enter an unwrapped TSN; the flag says whether it is a duplicate. -/
def enter (tracker : DataTracker) (tsn : Int) : Bool × DataTracker :=
  if tsn ≤ tracker.lastCumulativeAckedTsn then
    (true, (tracker.recordDuplicate tsn).updateAckState .immediate)
  else if tsn = tracker.lastCumulativeAckedTsn + 1 then
    (false, { tracker with lastCumulativeAckedTsn := tsn }.moveOverFront)
  else
    let (blocks, inserted) := AdditionalTsnBlocks.add tracker.additionalTsnBlocks tsn
    if inserted then
      (false, { tracker with additionalTsnBlocks := blocks })
    else
      (true, tracker.recordDuplicate tsn)

/-- A packet with data, or a FORWARD-TSN, brings the next SACK closer. -/
def hastenAck (tracker : DataTracker) : DataTracker :=
  match tracker.ackState with
  | .idle => tracker.updateAckState .becomingDelayed
  | .delayed => tracker.updateAckState .immediate
  | _ => tracker

/-- The acknowledgement rules applied after every received chunk. -/
def scheduleAck (tracker : DataTracker) (immediateAck : Bool) : DataTracker :=
  let tracker := if tracker.additionalTsnBlocks.isEmpty then tracker
    else tracker.updateAckState .immediate
  let tracker := if immediateAck then tracker.updateAckState .immediate else tracker
  let tracker := if tracker.seenPacket then tracker
    else { tracker with seenPacket := true }.updateAckState .immediate
  tracker.hastenAck

/-- Call for every incoming chunk: whether its TSN is seen for the first time. -/
def observe (tracker : DataTracker) (tsn : Tsn) (immediateAck : Bool) :
    Bool × DataTracker :=
  let (unwrappedTsn, unwrapper) := SeqNumUnwrapper.unwrap 0 tracker.tsnUnwrapper tsn
  let (isDuplicate, tracker) :=
    { tracker with tsnUnwrapper := unwrapper }.enter unwrappedTsn
  (!isDuplicate, tracker.scheduleAck immediateAck)

def handleForwardTsn (tracker : DataTracker) (newCumulativeAck : Tsn) : DataTracker :=
  let (unwrappedTsn, unwrapper) :=
    SeqNumUnwrapper.unwrap 0 tracker.tsnUnwrapper newCumulativeAck
  let tracker := { tracker with tsnUnwrapper := unwrapper }
  if unwrappedTsn ≤ tracker.lastCumulativeAckedTsn then
    tracker.updateAckState .immediate
  else
    { tracker with
      lastCumulativeAckedTsn := unwrappedTsn
      additionalTsnBlocks :=
        AdditionalTsnBlocks.eraseTo tracker.additionalTsnBlocks unwrappedTsn
      }.moveOverFront.hastenAck

def createGapAckBlocks (tracker : DataTracker) : List GapAckBlock :=
  (tracker.additionalTsnBlocks.take maxGapAckBlocksReported).map fun block =>
    let startDiff := Unwrapped.difference 32 block.first tracker.lastCumulativeAckedTsn
    let endDiff := Unwrapped.difference 32 block.last tracker.lastCumulativeAckedTsn
    ⟨startDiff.setWidth 16, endDiff.setWidth 16⟩

def createSelectiveAck (tracker : DataTracker) (aRwnd : Nat) :
    SackChunk × DataTracker :=
  ({ cumulativeTsnAck := Unwrapped.wrap 32 tracker.lastCumulativeAckedTsn
     aRwnd := BitVec.ofNat 32 aRwnd
     gapAckBlocks := tracker.createGapAckBlocks
     duplicateTsns := tracker.duplicateTsns },
   { tracker with duplicateTsns := ∅ })

def shouldSendAck (tracker : DataTracker) (alsoIfDelayed : Bool) :
    Bool × DataTracker :=
  if tracker.ackState = .immediate ∨
      (alsoIfDelayed ∧ (tracker.ackState = .becomingDelayed ∨ tracker.ackState = .delayed)) then
    (true, tracker.updateAckState .idle)
  else
    (false, tracker)

def willIncreaseCumAckTsn (tracker : DataTracker) (tsn : Tsn) : Bool :=
  decide (tracker.peekTsn tsn = tracker.lastCumulativeAckedTsn + 1)

def forceImmediateSack (tracker : DataTracker) : DataTracker :=
  { tracker with ackState := .immediate }

def handleDelayedAckTimerExpiry (tracker : DataTracker) : DataTracker :=
  tracker.updateAckState .immediate

def observePacketEnd (tracker : DataTracker) : DataTracker :=
  if tracker.ackState = .becomingDelayed then tracker.updateAckState .delayed
  else tracker

end DataTracker

end MaeRtc.DcSctp
