import MaeRtc.DcSctp.ReassemblyStreams

/-!
# The reassembly queue

`ReassemblyQueue` of `reassembly_queue.cc` collects received chunks until they
make up messages.  The TSNs of assembled messages are remembered, as a watermark
and a set of those above it, so that a chunk that arrives again is recognised.
The assertions of the source are left out, as in a build without them.
-/

namespace MaeRtc.DcSctp

open MaeRtc.Base
open ReassemblyStreams
open Std (ExtTreeSet)

/-- The implementation a queue was created with. -/
inductive ReassemblyStreams where
  | traditional (streams : TraditionalReassemblyStreams)
  | interleaved (streams : InterleavedReassemblyStreams)

namespace ReassemblyStreams

def createStreams (useMessageInterleaving : Bool) : ReassemblyStreams :=
  if useMessageInterleaving then .interleaved {} else .traditional {}

def add (tsn : Int) (data : Data) :
    ReassemblyStreams → ReassemblyStreams × BitVec 32 × List AssembledMessage
  | .traditional streams =>
    let (streams, bytes, assembled) := streams.add tsn data
    (.traditional streams, bytes, assembled)
  | .interleaved streams =>
    let (streams, bytes, assembled) := streams.add tsn data
    (.interleaved streams, bytes, assembled)

def handleForwardTsn (newCumulativeAckTsn : Int) (skippedStreams : List SkippedStream) :
    ReassemblyStreams → Outcome ReassemblyStreams
  | .traditional streams =>
    let (streams, bytes, assembled) :=
      streams.handleForwardTsn newCumulativeAckTsn skippedStreams
    (.traditional streams, bytes, assembled)
  | .interleaved streams =>
    let (streams, bytes, assembled) := streams.handleForwardTsn skippedStreams
    (.interleaved streams, bytes, assembled)

def resetStreams (streamIds : List StreamId) : ReassemblyStreams → ReassemblyStreams
  | .traditional streams => .traditional (streams.resetStreams streamIds)
  | .interleaved streams => .interleaved (streams.resetStreams streamIds)

end ReassemblyStreams

/-- The sequence number of a request of a RE-CONFIG chunk. -/
abbrev ReconfigRequestSn := BitVec 32

/-- The request of a peer that resets its outgoing streams. -/
structure OutgoingSsnResetRequestParameter where
  requestSequenceNumber : ReconfigRequestSn
  responseSequenceNumber : ReconfigRequestSn
  senderLastAssignedTsn : Tsn
  streamIds : List StreamId
  deriving DecidableEq

/-- The result that a response to a request carries. -/
inductive ReconfigurationResult where
  | successNothingToDo
  | successPerformed
  | denied
  | errorWrongSsn
  | errorRequestAlreadyInProgress
  | errorBadSequenceNumber
  | inProgress
  deriving DecidableEq, Repr

/-- A FORWARD-TSN or I-FORWARD-TSN chunk. -/
structure AnyForwardTsnChunk where
  newCumulativeTsn : Tsn
  skippedStreams : List SkippedStream

namespace ReassemblyQueue

/-- A stream reset that waits for the TSNs before it, and the chunks held back by it. -/
structure DeferredResetStreams where
  req : OutgoingSsnResetRequestParameter
  deferredChunks : List (Tsn × Data) := []

end ReassemblyQueue

open ReassemblyQueue in
structure ReassemblyQueue where
  maxSizeBytes : BitVec 64
  watermarkBytes : BitVec 64
  tsnUnwrapper : SeqNumUnwrapper 32
  lastAssembledTsnWatermark : Int
  deliveredTsns : ExtTreeSet Int := ∅
  reassembledMessages : List DcSctpMessage := []
  deferredResetStreams : Option DeferredResetStreams := none
  lastCompletedResetReqSeqNbr : ReconfigRequestSn := 0
  queuedBytes : BitVec 64 := 0
  streams : ReassemblyStreams

namespace ReassemblyQueue

/--
The watermark is computed from the size in floating point; here both are given.
-/
def new (peerInitialTsn : Tsn) (maxSizeBytes watermarkBytes : BitVec 64)
    (useMessageInterleaving : Bool) : ReassemblyQueue :=
  let (watermark, unwrapper) := SeqNumUnwrapper.unwrap 0 {} (peerInitialTsn - 1)
  { maxSizeBytes := maxSizeBytes
    watermarkBytes := watermarkBytes
    tsnUnwrapper := unwrapper
    lastAssembledTsnWatermark := watermark
    streams := createStreams useMessageInterleaving }

/-- The loop of `MaybeMoveLastAssembledWatermarkFurther`; every round removes a TSN. -/
def moveWatermark : Nat → Int → ExtTreeSet Int → Int × ExtTreeSet Int
  | 0, watermark, delivered => (watermark, delivered)
  | fuel + 1, watermark, delivered =>
    if delivered.toList.head? = some (watermark + 1) then
      moveWatermark fuel (watermark + 1) (delivered.erase (watermark + 1))
    else (watermark, delivered)

def maybeMoveLastAssembledWatermarkFurther (queue : ReassemblyQueue) : ReassemblyQueue :=
  let (watermark, delivered) := moveWatermark queue.deliveredTsns.size
    queue.lastAssembledTsnWatermark queue.deliveredTsns
  { queue with lastAssembledTsnWatermark := watermark, deliveredTsns := delivered }

/-- The loop over the TSNs of a message; a TSN that was seen already ends it. -/
def markDelivered : List Int → ReassemblyQueue → Bool × ReassemblyQueue
  | [], queue => (true, queue)
  | tsn :: rest, queue =>
    if tsn ≤ queue.lastAssembledTsnWatermark then (false, queue)
    else if tsn = queue.lastAssembledTsnWatermark + 1 then
      markDelivered rest { queue with
        lastAssembledTsnWatermark := queue.lastAssembledTsnWatermark + 1 }
    else markDelivered rest { queue with deliveredTsns := queue.deliveredTsns.insert tsn }

def addReassembledMessage (queue : ReassemblyQueue) (assembled : AssembledMessage) :
    ReassemblyQueue :=
  match queue.markDelivered assembled.tsns with
  | (false, queue) => queue
  | (true, queue) =>
    let queue := queue.maybeMoveLastAssembledWatermarkFurther
    { queue with reassembledMessages := queue.reassembledMessages ++ [assembled.message] }

/-- A chunk is handed to its stream, and what that assembles is taken over. -/
def addToStreams (tsn : Int) (data : Data) (queue : ReassemblyQueue) : ReassemblyQueue :=
  let (streams, bytes, assembled) := queue.streams.add tsn data
  let queue := assembled.foldl addReassembledMessage { queue with streams := streams }
  { queue with queuedBytes := queue.queuedBytes + bytes.signExtend 64 }

/-- Whether all of the chunk's message was assembled before. -/
def isDelivered (queue : ReassemblyQueue) (tsn : Int) : Bool :=
  tsn ≤ queue.lastAssembledTsnWatermark || queue.deliveredTsns.contains tsn

def add (tsn : Tsn) (data : Data) (queue : ReassemblyQueue) : ReassemblyQueue :=
  let (unwrapped, unwrapper) := SeqNumUnwrapper.unwrap 0 queue.tsnUnwrapper tsn
  let queue := { queue with tsnUnwrapper := unwrapper }
  if queue.isDelivered unwrapped then queue
  else match queue.deferredResetStreams with
    | none => queue.addToStreams unwrapped data
    | some deferred =>
      let (lastAssigned, unwrapper) :=
        SeqNumUnwrapper.unwrap 0 queue.tsnUnwrapper deferred.req.senderLastAssignedTsn
      let queue := { queue with tsnUnwrapper := unwrapper }
      if lastAssigned < unwrapped then
        { queue with
          queuedBytes := queue.queuedBytes + BitVec.ofNat 64 data.size
          deferredResetStreams := some { deferred with
            deferredChunks := deferred.deferredChunks ++ [(tsn, data)] } }
      else queue.addToStreams unwrapped data

/--
Resets streams of the peer, or enters deferred reset processing.  The numbers of
requests are compared without regard to wrapping.
-/
def resetStreams (req : OutgoingSsnResetRequestParameter) (cumTsnAck : Tsn)
    (queue : ReassemblyQueue) : ReconfigurationResult × ReassemblyQueue :=
  if queue.deferredResetStreams.isSome then (.inProgress, queue)
  else if req.requestSequenceNumber ≤ queue.lastCompletedResetReqSeqNbr then
    (.successPerformed, queue)
  else
    let (slaTsn, unwrapper) :=
      SeqNumUnwrapper.unwrap 0 queue.tsnUnwrapper req.senderLastAssignedTsn
    let (unwrappedCumTsnAck, unwrapper) := SeqNumUnwrapper.unwrap 0 unwrapper cumTsnAck
    let queue := { queue with tsnUnwrapper := unwrapper }
    if unwrappedCumTsnAck < slaTsn then
      (.inProgress, { queue with deferredResetStreams := some { req := req } })
    else
      (.successPerformed, { queue with
        streams := queue.streams.resetStreams req.streamIds
        lastCompletedResetReqSeqNbr := req.requestSequenceNumber })

/-- A chunk that was held back is added as if it arrived now. -/
def addDeferred (queue : ReassemblyQueue) (chunk : Tsn × Data) : ReassemblyQueue :=
  add chunk.1 chunk.2 { queue with
    queuedBytes := queue.queuedBytes - BitVec.ofNat 64 chunk.2.size }

/-- Leaves deferred reset processing, once the TSNs before the reset have arrived. -/
def maybeResetStreamsDeferred (cumAckTsn : Tsn) (queue : ReassemblyQueue) :
    Bool × ReassemblyQueue :=
  match queue.deferredResetStreams with
  | none => (false, queue)
  | some deferred =>
    let (unwrappedCumAckTsn, unwrapper) :=
      SeqNumUnwrapper.unwrap 0 queue.tsnUnwrapper cumAckTsn
    let (unwrappedSlaTsn, unwrapper) :=
      SeqNumUnwrapper.unwrap 0 unwrapper deferred.req.senderLastAssignedTsn
    let queue := { queue with tsnUnwrapper := unwrapper }
    if unwrappedSlaTsn ≤ unwrappedCumAckTsn then
      (true, deferred.deferredChunks.foldl addDeferred { queue with
        streams := queue.streams.resetStreams deferred.req.streamIds
        lastCompletedResetReqSeqNbr := deferred.req.requestSequenceNumber
        deferredResetStreams := none })
    else (false, queue)

/-- The peer has moved the cumulative TSN forward, and skips messages. -/
def handle (forwardTsn : AnyForwardTsnChunk) (queue : ReassemblyQueue) : ReassemblyQueue :=
  let (tsn, unwrapper) :=
    SeqNumUnwrapper.unwrap 0 queue.tsnUnwrapper forwardTsn.newCumulativeTsn
  let queue := { queue with
    tsnUnwrapper := unwrapper
    lastAssembledTsnWatermark := max queue.lastAssembledTsnWatermark tsn
    deliveredTsns := queue.deliveredTsns.filter fun delivered => tsn < delivered }
  let queue := queue.maybeMoveLastAssembledWatermarkFurther
  let (streams, bytes, assembled) :=
    queue.streams.handleForwardTsn tsn forwardTsn.skippedStreams
  let queue := assembled.foldl addReassembledMessage { queue with streams := streams }
  { queue with queuedBytes := queue.queuedBytes - bytes }

/-- The remaining bytes until the watermark, as a `size_t`. -/
def remainingBytes (queue : ReassemblyQueue) : BitVec 64 :=
  queue.watermarkBytes - queue.queuedBytes

def isFull (queue : ReassemblyQueue) : Bool :=
  queue.maxSizeBytes ≤ queue.queuedBytes

def isAboveWatermark (queue : ReassemblyQueue) : Bool :=
  queue.watermarkBytes ≤ queue.queuedBytes

def flushMessages (queue : ReassemblyQueue) : List DcSctpMessage × ReassemblyQueue :=
  (queue.reassembledMessages, { queue with reassembledMessages := [] })

end ReassemblyQueue

end MaeRtc.DcSctp
