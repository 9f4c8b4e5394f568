import MaeRtc.Base.OrderedMap
import MaeRtc.DcSctp.ChunkValidators
import MaeRtc.DcSctp.Data

/-!
# Outstanding data

`OutstandingData` of `outstanding_data.cc` keeps every fragment that was sent
and is not yet acknowledged cumulatively.  The assertions of the source, a
counter that would drop below zero and an iterator that leaves its map are
violations, so that an operation of the model returns only if it meets none of
them.
-/

namespace MaeRtc.DcSctp

open MaeRtc.Base
open Std (ExtTreeMap)

namespace OutstandingData

inductive Lifecycle where
  | active
  | toBeRetransmitted
  | abandoned
  deriving DecidableEq, Repr

inductive AckState where
  | unacked
  | acked
  | nacked
  deriving DecidableEq, Repr

inductive NackAction where
  | nothing
  | retransmit
  | abandon
  deriving DecidableEq, Repr

/-- A fragment that was sent, with what is known about it. -/
structure Item where
  timeSent : TimeMs
  maxRetransmissions : MaxRetransmits
  lifecycle : Lifecycle := .active
  ackState : AckState := .unacked
  nackCount : BitVec 8 := 0
  numRetransmissions : BitVec 16 := 0
  expiresAt : TimeMs
  lifecycleId : LifecycleId
  data : Data

/-- How often a fragment must be missing before it is sent again. -/
def numberOfNacksForRetransmission : BitVec 8 := 3

namespace Item

def isOutstanding (item : Item) : Bool := item.ackState == .unacked

def isAcked (item : Item) : Bool := item.ackState == .acked

def isNacked (item : Item) : Bool := item.ackState == .nacked

def isAbandoned (item : Item) : Bool := item.lifecycle == .abandoned

def shouldBeRetransmitted (item : Item) : Bool := item.lifecycle == .toBeRetransmitted

def hasExpired (item : Item) (now : TimeMs) : Bool := item.expiresAt ≤ now

def ack (item : Item) : Item :=
  { item with
    lifecycle := if item.lifecycle ≠ .abandoned then .active else item.lifecycle
    ackState := .acked }

def abandon (item : Item) : Item :=
  { item with lifecycle := .abandoned }

/-- A fragment that is missing often enough is sent again, or given up. -/
def nack (item : Item) (retransmitNow : Bool) : NackAction × Item :=
  let item := { item with
    ackState := .nacked
    nackCount := item.nackCount + 1 }
  if !item.shouldBeRetransmitted && !item.isAbandoned &&
      (retransmitNow || numberOfNacksForRetransmission ≤ item.nackCount) then
    if item.numRetransmissions < item.maxRetransmissions then
      (.retransmit, { item with lifecycle := .toBeRetransmitted })
    else (.abandon, item.abandon)
  else (.nothing, item)

def markAsRetransmitted (item : Item) : Item :=
  { item with
    lifecycle := .active
    ackState := .unacked
    nackCount := 0
    numRetransmissions := item.numRetransmissions + 1 }

end Item

/-- What an acknowledgement brought. -/
structure AckInfo where
  bytesAcked : Nat := 0
  hasPacketLoss : Bool := false
  highestTsnAcked : Int
  ackedLifecycleIds : List LifecycleId := []
  abandonedLifecycleIds : List LifecycleId := []

/-- The assertions of the source, and undefined behaviour. -/
inductive Violation where
  /-- A counter of outstanding bytes or items drops below zero. -/
  | underflow
  /-- An iterator does not meet the end of its range. -/
  | invalidIterator
  /-- A fragment that waits for fast retransmission is acknowledged. -/
  | ackedWhileFastRetransmitted
  /-- A fragment to be sent again is unknown. -/
  | extractedMissing
  | extractedNotMarked
  | extractedOutstanding
  | extractedAbandoned
  | extractedAcked
  /-- Fragments are sent again before those for fast retransmission. -/
  | fastRetransmissionsLeft
  deriving DecidableEq, Repr

end OutstandingData

open OutstandingData in
structure OutstandingData (Q : Type) where
  dataChunkHeaderSize : Nat
  nextTsn : Int
  lastCumulativeTsnAck : Int
  /-- The callback that discards what the send queue still has of a message. -/
  discardFromSendQueue : Bool → StreamId → Mid → Q → Bool × Q
  /-- The state that the callback works on. -/
  sendQueue : Q
  outstandingData : ExtTreeMap Int Item := ∅
  outstandingBytes : Nat := 0
  outstandingItems : Nat := 0
  toBeFastRetransmitted : Finset Int := ∅
  toBeRetransmitted : Finset Int := ∅
  streamResetBreakpointTsns : Finset Int := ∅

namespace OutstandingData

open OrderedMap

variable {Q : Type}

def create (dataChunkHeaderSize : Nat) (nextTsn lastCumulativeTsnAck : Int)
    (discardFromSendQueue : Bool → StreamId → Mid → Q → Bool × Q) (sendQueue : Q) :
    OutstandingData Q where
  dataChunkHeaderSize := dataChunkHeaderSize
  nextTsn := nextTsn
  lastCumulativeTsnAck := lastCumulativeTsnAck
  discardFromSendQueue := discardFromSendQueue
  sendQueue := sendQueue

/-- The size of a serialised chunk with the data. -/
def getSerializedChunkSize (self : OutstandingData Q) (data : Data) : Nat :=
  roundUpTo4 (self.dataChunkHeaderSize + data.size)

/-- The bytes of a fragment that are in flight. -/
def bytesInFlight (self : OutstandingData Q) (item : Item) : Nat :=
  if item.isOutstanding then self.getSerializedChunkSize item.data else 0

/-- Whether a fragment is in flight, as a number. -/
def itemsInFlight (item : Item) : Nat :=
  if item.isOutstanding then 1 else 0

/-- The fragments marked to be sent again. -/
def markedTsns (self : OutstandingData Q) : Finset Int :=
  ((self.outstandingData.toList.filter fun entry =>
    entry.2.shouldBeRetransmitted).map Prod.fst).toFinset

def isConsistent (self : OutstandingData Q) : Bool :=
  if self.outstandingData.isEmpty && self.nextTsn != self.lastCumulativeTsnAck + 1 then false
  else
    total self.bytesInFlight self.outstandingData == self.outstandingBytes &&
      total itemsInFlight self.outstandingData == self.outstandingItems &&
      self.markedTsns == self.toBeRetransmitted ∪ self.toBeFastRetransmitted

def highestOutstandingTsn (self : OutstandingData Q) : Int :=
  self.outstandingData.keys.getLast?.getD self.lastCumulativeTsnAck

/-- An item is changed in place. -/
def setItem (self : OutstandingData Q) (tsn : Int) (item : Item) : OutstandingData Q :=
  { self with outstandingData := self.outstandingData.insert tsn item }

/-- An item that is in flight is taken off the counters. -/
def deductInFlight (self : OutstandingData Q) (item : Item) : Except Violation (OutstandingData Q) :=
  if item.isOutstanding then do
    check (self.getSerializedChunkSize item.data ≤ self.outstandingBytes) .underflow
    check (1 ≤ self.outstandingItems) .underflow
    .ok { self with
      outstandingBytes := self.outstandingBytes - self.getSerializedChunkSize item.data
      outstandingItems := self.outstandingItems - 1 }
  else .ok self

/-! ## Acknowledgements -/

def ackChunk (ackInfo : AckInfo) (tsn : Int) (item : Item) (self : OutstandingData Q) :
    Except Violation (AckInfo × OutstandingData Q) :=
  if item.isAcked then .ok (ackInfo, self)
  else do
    let deducted ← self.deductInFlight item
    check (!item.shouldBeRetransmitted || tsn ∉ self.toBeFastRetransmitted)
      .ackedWhileFastRetransmitted
    .ok ({ ackInfo with
          bytesAcked := ackInfo.bytesAcked + self.getSerializedChunkSize item.data
          highestTsnAcked := max ackInfo.highestTsnAcked tsn },
      { deducted.setItem tsn item.ack with
        toBeRetransmitted :=
          if item.shouldBeRetransmitted then self.toBeRetransmitted.erase tsn
          else self.toBeRetransmitted })

/-- The rounds a loop over the map may take, with the items it may add. -/
def fuel (self : OutstandingData Q) : Nat :=
  2 * (self.nextTsn - self.lastCumulativeTsnAck).toNat

/-- The first entry of the map. -/
def begin (self : OutstandingData Q) : Option Int :=
  self.outstandingData.keys.head?

/-- The lifecycle events of a fragment that is acknowledged cumulatively. -/
def addLifecycleId (ackInfo : AckInfo) (item : Item) : AckInfo :=
  if item.lifecycleId = 0 then ackInfo
  else if item.isAbandoned then
    { ackInfo with abandonedLifecycleIds := ackInfo.abandonedLifecycleIds ++ [item.lifecycleId] }
  else { ackInfo with ackedLifecycleIds := ackInfo.ackedLifecycleIds ++ [item.lifecycleId] }

def removeAcked (cumulativeTsnAck : Int) (ackInfo : AckInfo) (self : OutstandingData Q) :
    Except Violation (AckInfo × OutstandingData Q) := do
  let firstUnacked := upperBound self.outstandingData cumulativeTsnAck
  let (ackInfo, self) ← iterate (fun state : AckInfo × OutstandingData Q => state.2.outstandingData)
    (fun _ => firstUnacked)
    (fun tsn item state => do
      let (ackInfo, self) ← ackChunk state.1 tsn item state.2
      .ok (true, addLifecycleId ackInfo item, self))
    .invalidIterator self.fuel self.begin (ackInfo, self)
  .ok (ackInfo, { self with
    outstandingData := self.outstandingData.filter fun tsn _ => cumulativeTsnAck < tsn
    lastCumulativeTsnAck := cumulativeTsnAck
    streamResetBreakpointTsns :=
      self.streamResetBreakpointTsns.filter fun tsn => cumulativeTsnAck + 1 < tsn })

def ackGapBlocks (cumulativeTsnAck : Int) :
    List GapAckBlock → AckInfo → OutstandingData Q → Except Violation (AckInfo × OutstandingData Q)
  | [], ackInfo, self => .ok (ackInfo, self)
  | block :: rest, ackInfo, self => do
    let start := lowerBound self.outstandingData (cumulativeTsnAck + block.start.toNat)
    let stop := upperBound self.outstandingData (cumulativeTsnAck + block.stop.toNat)
    let (ackInfo, self) ←
      iterate (fun state : AckInfo × OutstandingData Q => state.2.outstandingData) (fun _ => stop)
        (fun tsn item state => do
          let (ackInfo, self) ← ackChunk state.1 tsn item state.2
          .ok (true, ackInfo, self))
        .invalidIterator self.fuel start (ackInfo, self)
    ackGapBlocks cumulativeTsnAck rest ackInfo self

/-! ## Losses -/

/-- Whether a fragment belongs to the same message. -/
def sameMessage (one two : Data) : Bool :=
  one.streamId == two.streamId && one.isUnordered == two.isUnordered &&
    one.messageId == two.messageId

/-- The end of a message the receiver will never see. -/
def messageEnd (item : Item) : Item :=
  Item.ack
    { timeSent := 0
      maxRetransmissions := MaxRetransmits.noLimit
      expiresAt := TimeMs.infiniteFuture
      lifecycleId := 0
      data := { item.data with
        payload := []
        isBeginning := false
        isEnd := true } }

/-- Whether an item is abandoned together with a message. -/
def abandonedWith (data : Data) (other : Item) : Bool :=
  !other.isAbandoned && sameMessage other.data data

/-- The loop that abandons every fragment of a message. -/
def abandonMessage (self : OutstandingData Q) (data : Data) : OutstandingData Q :=
  let erased := fun tsn : Int => self.outstandingData[tsn]?.any fun other =>
    abandonedWith data other && other.shouldBeRetransmitted
  { self with
    outstandingData := self.outstandingData.map fun _ other =>
      if abandonedWith data other then other.abandon else other
    toBeFastRetransmitted := self.toBeFastRetransmitted.filter fun tsn => !erased tsn
    toBeRetransmitted := self.toBeRetransmitted.filter fun tsn => !erased tsn }

/-- A placeholder ends the message if the send queue still had fragments of it. -/
def discardRest (self : OutstandingData Q) (item : Item) : OutstandingData Q :=
  let (discarded, sendQueue) := self.discardFromSendQueue item.data.isUnordered
    item.data.streamId item.data.messageId self.sendQueue
  let self := { self with sendQueue := sendQueue }
  if discarded then
    { self with
      nextTsn := self.nextTsn + 1
      outstandingData := self.outstandingData.insertIfNew self.nextTsn (messageEnd item) }
  else self

def abandonAllFor (self : OutstandingData Q) (item : Item) : OutstandingData Q :=
  (self.discardRest item).abandonMessage item.data

def nackItem (tsn : Int) (item : Item) (retransmitNow doFastRetransmit : Bool)
    (self : OutstandingData Q) : Except Violation (Bool × OutstandingData Q) := do
  let self ← self.deductInFlight item
  let (action, item) := item.nack retransmitNow
  let self := self.setItem tsn item
  match action with
  | .nothing => .ok (false, self)
  | .retransmit =>
    if doFastRetransmit then
      .ok (true, { self with toBeFastRetransmitted := insert tsn self.toBeFastRetransmitted })
    else .ok (true, { self with toBeRetransmitted := insert tsn self.toBeRetransmitted })
  | .abandon => .ok (true, self.abandonAllFor item)

/-- The fragments between the blocks are reported missing, one gap after the other. -/
def nackGaps (cumulativeTsnAck maxTsnToNack : Int) (isInFastRecovery : Bool) :
    List GapAckBlock → Int → AckInfo → OutstandingData Q →
      Except Violation (AckInfo × OutstandingData Q)
  | [], _, ackInfo, self => .ok (ackInfo, self)
  | block :: rest, prevBlockLastAcked, ackInfo, self => do
    let curBlockFirstAcked := cumulativeTsnAck + block.start.toNat
    let (ackInfo, self) ←
      iterate (fun state : AckInfo × OutstandingData Q => state.2.outstandingData)
        (fun state => lowerBound state.2.outstandingData curBlockFirstAcked)
        (fun tsn item state =>
          if tsn ≤ maxTsnToNack then do
            let (loss, self) ← nackItem tsn item false (!isInFastRecovery) state.2
            .ok (true,
              { state.1 with hasPacketLoss := state.1.hasPacketLoss || loss }, self)
          else .ok (true, state))
        .invalidIterator self.fuel (upperBound self.outstandingData prevBlockLastAcked)
        (ackInfo, self)
    nackGaps cumulativeTsnAck maxTsnToNack isInFastRecovery rest
      (cumulativeTsnAck + block.stop.toNat) ackInfo self

def nackBetweenAckBlocks (cumulativeTsnAck : Int) (gapAckBlocks : List GapAckBlock)
    (isInFastRecovery : Bool) (ackInfo : AckInfo) (self : OutstandingData Q) :
    Except Violation (AckInfo × OutstandingData Q) :=
  let maxTsnToNack :=
    if isInFastRecovery && self.lastCumulativeTsnAck < cumulativeTsnAck then
      cumulativeTsnAck + (gapAckBlocks.getLast?.elim 0 fun block => block.stop.toNat : Nat)
    else ackInfo.highestTsnAcked
  nackGaps cumulativeTsnAck maxTsnToNack isInFastRecovery gapAckBlocks cumulativeTsnAck
    ackInfo self

def handleSack (cumulativeTsnAck : Int) (gapAckBlocks : List GapAckBlock)
    (isInFastRecovery : Bool) (self : OutstandingData Q) :
    Except Violation (AckInfo × OutstandingData Q) := do
  let (ackInfo, self) ← removeAcked cumulativeTsnAck { highestTsnAcked := cumulativeTsnAck } self
  let (ackInfo, self) ← ackGapBlocks cumulativeTsnAck gapAckBlocks ackInfo self
  nackBetweenAckBlocks cumulativeTsnAck gapAckBlocks isInFastRecovery ackInfo self

/-- `NackAll`: everything that is not acknowledged is reported missing. -/
def nackAll (self : OutstandingData Q) : Except Violation (OutstandingData Q) :=
  iterate (fun state : OutstandingData Q => state.outstandingData) (fun _ => none)
    (fun tsn item state =>
      if item.isAcked then .ok (true, state)
      else do
        let (_, state) ← nackItem tsn item true false state
        .ok (true, state))
    .invalidIterator self.fuel self.begin self

def expireOutstandingChunks (now : TimeMs) (self : OutstandingData Q) :
    Except Violation (OutstandingData Q) :=
  iterate (fun state : OutstandingData Q => state.outstandingData) (fun _ => none)
    (fun _ item state =>
      if item.isAbandoned then .ok (true, state)
      else if item.isNacked && item.hasExpired now then .ok (true, state.abandonAllFor item)
      else .ok (false, state))
    .invalidIterator self.fuel self.begin self

/-! ## Sending -/

/-- The two sets of fragments to be sent again. -/
inductive Retransmission where
  | fast
  | normal
  deriving DecidableEq

def chunks (self : OutstandingData Q) : Retransmission → Finset Int
  | .fast => self.toBeFastRetransmitted
  | .normal => self.toBeRetransmitted

def eraseChunk (self : OutstandingData Q) (tsn : Int) : Retransmission → OutstandingData Q
  | .fast => { self with toBeFastRetransmitted := self.toBeFastRetransmitted.erase tsn }
  | .normal => { self with toBeRetransmitted := self.toBeRetransmitted.erase tsn }

/-- A fragment is back in flight. -/
def retransmit (self : OutstandingData Q) (kind : Retransmission) (tsn : Int) (item : Item) :
    OutstandingData Q :=
  { (self.setItem tsn item.markAsRetransmitted).eraseChunk tsn kind with
    outstandingBytes := self.outstandingBytes + self.getSerializedChunkSize item.data
    outstandingItems := self.outstandingItems + 1 }

/-- The loop over the fragments of a set, in order. -/
def extractChunks (kind : Retransmission) :
    List Int → Nat → OutstandingData Q → Except Violation (List (Tsn × Data) × OutstandingData Q)
  | [], _, self => .ok ([], self)
  | tsn :: rest, maxSize, self =>
    match self.outstandingData[tsn]? with
    | none => .error .extractedMissing
    | some item => do
      check item.shouldBeRetransmitted .extractedNotMarked
      check (!item.isOutstanding) .extractedOutstanding
      check (!item.isAbandoned) .extractedAbandoned
      check (!item.isAcked) .extractedAcked
      let serializedSize := self.getSerializedChunkSize item.data
      let (sent, maxSize, self) :=
        if serializedSize ≤ maxSize then
          ([(Unwrapped.wrap 32 tsn, item.data)], maxSize - serializedSize,
            self.retransmit kind tsn item)
        else ([], maxSize, self)
      if maxSize ≤ self.dataChunkHeaderSize then .ok (sent, self)
      else do
        let (more, self) ← extractChunks kind rest maxSize self
        .ok (sent ++ more, self)

def extractChunksThatCanFit (kind : Retransmission) (maxSize : Nat) (self : OutstandingData Q) :
    Except Violation (List (Tsn × Data) × OutstandingData Q) :=
  extractChunks kind (inOrder (self.chunks kind)) maxSize self

/-- Fragments that do not fit are no longer eligible for a fast retransmission. -/
def getChunksToBeFastRetransmitted (maxSize : Nat) (self : OutstandingData Q) :
    Except Violation (List (Tsn × Data) × OutstandingData Q) := do
  let (sent, self) ← extractChunksThatCanFit .fast maxSize self
  .ok (sent, { self with
    toBeRetransmitted := self.toBeRetransmitted ∪ self.toBeFastRetransmitted
    toBeFastRetransmitted := ∅ })

def getChunksToBeRetransmitted (maxSize : Nat) (self : OutstandingData Q) :
    Except Violation (List (Tsn × Data) × OutstandingData Q) := do
  check (self.toBeFastRetransmitted = ∅) .fastRetransmissionsLeft
  extractChunksThatCanFit .normal maxSize self

/-- The item is counted as in flight even if it has expired. -/
def insert (data : Data) (timeSent : TimeMs) (maxRetransmissions : MaxRetransmits)
    (expiresAt : TimeMs) (lifecycleId : LifecycleId) (self : OutstandingData Q) :
    Option Int × OutstandingData Q :=
  let tsn := self.nextTsn
  let item : Item :=
    { timeSent := timeSent
      maxRetransmissions := maxRetransmissions
      expiresAt := expiresAt
      lifecycleId := lifecycleId
      data := data }
  let self := { self with
    nextTsn := self.nextTsn + 1
    outstandingBytes := self.outstandingBytes + self.getSerializedChunkSize data
    outstandingItems := self.outstandingItems + 1
    outstandingData := self.outstandingData.insertIfNew tsn item }
  if item.hasExpired timeSent then (none, self.abandonAllFor item) else (some tsn, self)

def beginResetStreams (self : OutstandingData Q) : OutstandingData Q :=
  { self with streamResetBreakpointTsns := Insert.insert self.nextTsn self.streamResetBreakpointTsns }

end OutstandingData

end MaeRtc.DcSctp
