import MaeRtc.Base.Checked
import MaeRtc.Base.SearchTree
import MaeRtc.Base.SequenceNumbers

/-!
# The list of packets to request

`NackRequester` of `nack_requester.cc`.  The three containers are lists in the order of
their trees; the comparison of sequence numbers is not an order on the whole circle, so
each call is given where the searches in the trees end.  Times are in microseconds, and
`none` is the infinite past.
-/

namespace MaeRtc.VideoCoding

open Base

def kMaxPacketAge : Nat := 10000
def kMaxNackPackets : Nat := 1000
def kMaxNackRetries : Nat := 10

structure NackInfo where
  seqNum : SeqNum
  sendAtSeqNum : SeqNum
  createdAtTime : Int
  sentAtTime : Option Int := none
  retries : Nat := 0
  deriving DecidableEq, Repr

structure NackRequester where
  nackList : List NackInfo := []
  keyframeList : List SeqNum := []
  recoveredList : List SeqNum := []
  initialized : Bool := false
  rtt : Int := 100000
  newestSeqNum : SeqNum := 0
  sendNackDelay : Int := 0
  deriving DecidableEq, Repr

/-- Where the searches in the three containers end. -/
structure Trees where
  nackList : Search descendingSeqNumComp
  keyframeList : Search descendingSeqNumComp
  recoveredList : Search descendingSeqNumComp

/-- The only assertion: a packet that is added is not in the list. -/
inductive NackViolation where
  | alreadyInList
  deriving DecidableEq, Repr

inductive NackFilterOptions where
  | seqNumOnly
  | timeOnly
  | seqNumAndTime
  deriving DecidableEq, Repr

namespace NackRequester

variable (trees : Trees)

def keys (nackList : List NackInfo) : List SeqNum :=
  nackList.map NackInfo.seqNum

/-- `nack_list_.erase(nack_list_.begin(), nack_list_.lower_bound(seq_num))` -/
def eraseNacksBefore (nackList : List NackInfo) (seqNum : SeqNum) : List NackInfo :=
  nackList.drop (trees.nackList.lowerBound (keys nackList) seqNum)

/-- The histogram is only updated for packets that are not retransmitted, and every packet
is taken for a retransmitted one, so it has no values. -/
def waitNumberOfPackets : SeqNum :=
  0

/-- The loop over the key frames: whether packets were removed, and what is left. -/
def removePacketsUntilKeyFrame (nackList : List NackInfo) :
    List SeqNum → Bool × List NackInfo × List SeqNum
  | [] => (false, nackList, [])
  | keyframe :: rest =>
    if trees.nackList.lowerBound (keys nackList) keyframe ≠ 0 then
      (true, eraseNacksBefore trees nackList keyframe, keyframe :: rest)
    else removePacketsUntilKeyFrame nackList rest

/-- Packets are removed until there is room for the new ones, or no key frame is left. -/
def removeWhileFull (numNewNacks : Nat) :
    Nat → List NackInfo → List SeqNum → List NackInfo × List SeqNum
  | 0, nackList, keyframeList => (nackList, keyframeList)
  | fuel + 1, nackList, keyframeList =>
    let (removed, nackList, keyframeList) :=
      removePacketsUntilKeyFrame trees nackList keyframeList
    if removed && nackList.length + numNewNacks > kMaxNackPackets then
      removeWhileFull numNewNacks fuel nackList keyframeList
    else (nackList, keyframeList)

/-- `nack_list_[seq_num] = nack_info` -/
def insertNack (nackList : List NackInfo) (nackInfo : NackInfo) : List NackInfo :=
  let position := trees.nackList.lowerBound (keys nackList) nackInfo.seqNum
  match trees.nackList.find (keys nackList) nackInfo.seqNum with
  | some _ => nackList.set position nackInfo
  | none => nackList.take position ++ nackInfo :: nackList.drop position

/-- The loop over the new sequence numbers. -/
def addNacks (recoveredList : List SeqNum) (now : Int) :
    Nat → SeqNum → List NackInfo → Except NackViolation (List NackInfo)
  | 0, _, nackList => .ok nackList
  | count + 1, seqNum, nackList =>
    if (trees.recoveredList.find recoveredList seqNum).isSome then
      addNacks recoveredList now count (seqNum + 1) nackList
    else do
      check (trees.nackList.find (keys nackList) seqNum).isNone .alreadyInList
      addNacks recoveredList now count (seqNum + 1)
        (insertNack trees nackList ⟨seqNum, seqNum + waitNumberOfPackets, now, none, 0⟩)

/-- The requester, and whether a key frame is requested. -/
def addPacketsToNack (requester : NackRequester) (now : Int) (seqNumStart seqNumEnd : SeqNum) :
    Except NackViolation (NackRequester × Bool) :=
  let nackList := eraseNacksBefore trees requester.nackList
    (seqNumEnd - BitVec.ofNat 16 kMaxPacketAge)
  let numNewNacks := (forwardDiff 0 seqNumStart seqNumEnd).toNat
  let (nackList, keyframeList) :=
    if nackList.length + numNewNacks > kMaxNackPackets then
      removeWhileFull trees numNewNacks (nackList.length + 1) nackList requester.keyframeList
    else (nackList, requester.keyframeList)
  if nackList.length + numNewNacks > kMaxNackPackets then
    .ok ({ requester with nackList := [], keyframeList := keyframeList }, true)
  else do
    let nackList ← addNacks trees requester.recoveredList now numNewNacks seqNumStart nackList
    .ok ({ requester with nackList := nackList, keyframeList := keyframeList }, false)

/-- Whether a packet is requested now. -/
def isDue (requester : NackRequester) (options : NackFilterOptions) (now : Int)
    (nackInfo : NackInfo) : Bool :=
  let considerSeqNum := options ≠ .timeOnly
  let considerTimestamp := options ≠ .seqNumOnly
  let delayTimedOut := now - nackInfo.createdAtTime ≥ requester.sendNackDelay
  let nackOnRttPassed := match nackInfo.sentAtTime with
    | none => true
    | some sentAtTime => decide (now - sentAtTime ≥ requester.rtt)
  let nackOnSeqNumPassed := nackInfo.sentAtTime.isNone &&
    aheadOrAt 0 requester.newestSeqNum nackInfo.sendAtSeqNum
  delayTimedOut && ((considerSeqNum && nackOnSeqNumPassed) ||
    (considerTimestamp && nackOnRttPassed))

/-- The loop over the list: the batch, and the packets that are kept. -/
def nackBatch (requester : NackRequester) (options : NackFilterOptions) (now : Int) :
    List NackInfo → List SeqNum × List NackInfo
  | [] => ([], [])
  | nackInfo :: rest =>
    let (batch, kept) := nackBatch requester options now rest
    if requester.isDue options now nackInfo then
      let sent := { nackInfo with
        retries := nackInfo.retries + 1
        sentAtTime := some now }
      (nackInfo.seqNum :: batch, if sent.retries ≥ kMaxNackRetries then kept else sent :: kept)
    else (batch, nackInfo :: kept)

def getNackBatch (requester : NackRequester) (options : NackFilterOptions) (now : Int) :
    List SeqNum × NackRequester :=
  let (batch, kept) := requester.nackBatch options now requester.nackList
  (batch, { requester with nackList := kept })

def processNacks (requester : NackRequester) (now : Int) : List SeqNum × NackRequester :=
  requester.getNackBatch .timeOnly now

/-- What a call returns and sends. -/
structure Received where
  requester : NackRequester
  nacksSentForPacket : Nat := 0
  nackBatch : List SeqNum := []
  keyFrameRequested : Bool := false

def onReceivedPacket (requester : NackRequester) (now : Int) (seqNum : SeqNum)
    (isKeyframe isRecovered : Bool) : Except NackViolation Received :=
  if !requester.initialized then
    .ok { requester := { requester with
      newestSeqNum := seqNum
      keyframeList := if isKeyframe then
        trees.keyframeList.insert requester.keyframeList seqNum else requester.keyframeList
      initialized := true } }
  else if seqNum = requester.newestSeqNum then .ok { requester := requester }
  else if aheadOf requester.newestSeqNum seqNum then
    match trees.nackList.find (keys requester.nackList) seqNum with
    | none => .ok { requester := requester }
    | some position => .ok {
        requester := { requester with nackList := requester.nackList.eraseIdx position }
        nacksSentForPacket :=
          ((requester.nackList[position]?).map NackInfo.retries).getD 0 }
  else
    let keyframeList := if isKeyframe then
      trees.keyframeList.insert requester.keyframeList seqNum else requester.keyframeList
    let keyframeList := trees.keyframeList.eraseBefore keyframeList
      (seqNum - BitVec.ofNat 16 kMaxPacketAge)
    if isRecovered then
      let recoveredList := trees.recoveredList.insert requester.recoveredList seqNum
      .ok { requester := { requester with
        keyframeList := keyframeList
        recoveredList := trees.recoveredList.eraseBefore recoveredList
          (seqNum - BitVec.ofNat 16 kMaxPacketAge) } }
    else do
      let (requester, keyFrameRequested) ← addPacketsToNack trees
        { requester with keyframeList := keyframeList } now (requester.newestSeqNum + 1) seqNum
      let (batch, requester) :=
        { requester with newestSeqNum := seqNum }.getNackBatch .seqNumOnly now
      .ok { requester := requester, nackBatch := batch, keyFrameRequested := keyFrameRequested }

def clearUpTo (requester : NackRequester) (seqNum : SeqNum) : NackRequester :=
  { requester with
    nackList := eraseNacksBefore trees requester.nackList seqNum
    keyframeList := trees.keyframeList.eraseBefore requester.keyframeList seqNum
    recoveredList := trees.recoveredList.eraseBefore requester.recoveredList seqNum }

def updateRtt (requester : NackRequester) (rttMs : Int) : NackRequester :=
  { requester with rtt := 1000 * rttMs }

end NackRequester

end MaeRtc.VideoCoding
