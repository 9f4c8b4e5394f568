import MaeRtc.DcSctp.DataTracker
import MaeRtc.DcSctp.ReassemblyQueue

/-!
# The receive path of the socket

What `dcsctp_socket.cc` and `transmission_control_block.cc` do with received data:
which chunks are admitted, what is handed to the data tracker and the reassembly
queue, and when a SACK is sent.  The control block is gone once the socket is
closed.  Metrics and log lines are left out.
-/

namespace MaeRtc.DcSctp

/-- Errors as they are reported to the user. -/
inductive ErrorKind where
  | noError
  | tooManyRetries
  | notConnected
  | parseFailed
  | wrongSequence
  | peerReported
  | protocolViolation
  | resourceExhaustion
  | unsupportedOperation
  deriving DecidableEq, Repr

/-- Causes in an ERROR or ABORT chunk. -/
inductive ErrorCause where
  | noUserData (tsn : Tsn)
  | outOfResource
  | protocolViolation (information : String)
  deriving DecidableEq

/-- What the socket sends, and what it tells the user. -/
inductive SocketOutput where
  | sendError (cause : ErrorCause)
  | sendAbort (filledInVerificationTag : Bool) (cause : ErrorCause)
  | sendSack (sack : SackChunk)
  | onError (error : ErrorKind) (message : String)
  | onAborted (error : ErrorKind) (message : String)
  | onMessageReceived (message : DcSctpMessage)
  deriving DecidableEq

/-- A DATA or I-DATA chunk. -/
structure AnyDataChunk where
  tsn : Tsn
  data : Data
  immediateAck : Bool := false
  deriving DecidableEq

/-- The part of the control block that receives. -/
structure TransmissionControlBlock where
  partialReliability : Bool := true
  dataTracker : DataTracker
  reassemblyQueue : ReassemblyQueue

namespace TransmissionControlBlock

def new (peerInitialTsn : Tsn) (maxSizeBytes watermarkBytes : BitVec 64)
    (useMessageInterleaving : Bool) : TransmissionControlBlock where
  dataTracker := .create peerInitialTsn
  reassemblyQueue := .new peerInitialTsn maxSizeBytes watermarkBytes useMessageInterleaving

def maybeResetStreamsDeferredAndDeliverMessages (tcb : TransmissionControlBlock) :
    TransmissionControlBlock × List SocketOutput :=
  let (_, queue) := tcb.reassemblyQueue.maybeResetStreamsDeferred
    (Unwrapped.wrap 32 tcb.dataTracker.lastCumulativeAckedTsn)
  let (messages, queue) := queue.flushMessages
  ({ tcb with reassemblyQueue := queue }, messages.map .onMessageReceived)

/-- Closing the socket destroys the control block. -/
def handleDataCommon (chunk : AnyDataChunk) (tcb : TransmissionControlBlock) :
    Option TransmissionControlBlock × List SocketOutput :=
  if chunk.data.payload.isEmpty then
    (some tcb, [.sendError (.noUserData chunk.tsn),
      .onError .protocolViolation "Received DATA chunk with no user data"])
  else if tcb.reassemblyQueue.isFull then
    (none, [.sendAbort true .outOfResource,
      .onAborted .resourceExhaustion "Reassembly Queue is exhausted"])
  else if tcb.reassemblyQueue.isAboveWatermark &&
      !tcb.dataTracker.willIncreaseCumAckTsn chunk.tsn then
    (some { tcb with dataTracker := tcb.dataTracker.forceImmediateSack }, [])
  else if !tcb.dataTracker.isTSNValid chunk.tsn then
    (some tcb, [])
  else
    let (isNew, tracker) := tcb.dataTracker.observe chunk.tsn chunk.immediateAck
    if isNew then
      let (tcb, outputs) := maybeResetStreamsDeferredAndDeliverMessages { tcb with
        dataTracker := tracker
        reassemblyQueue := tcb.reassemblyQueue.add chunk.tsn chunk.data }
      (some tcb, outputs)
    else (some { tcb with dataTracker := tracker }, [])

def handleForwardTsnCommon (chunk : AnyForwardTsnChunk) (tcb : TransmissionControlBlock) :
    TransmissionControlBlock × List SocketOutput :=
  if !tcb.partialReliability then
    (tcb, [.sendAbort true (.protocolViolation
        "I-FORWARD-TSN received, but not indicated during connection establishment"),
      .onError .protocolViolation "Received a FORWARD_TSN without announced peer support"])
  else
    maybeResetStreamsDeferredAndDeliverMessages { tcb with
      dataTracker := tcb.dataTracker.handleForwardTsn chunk.newCumulativeTsn
      reassemblyQueue := tcb.reassemblyQueue.handle chunk }

/-- The SACK of this moment, with the rest of the reassembly queue as the window. -/
def createSelectiveAck (tcb : TransmissionControlBlock) : SackChunk × DataTracker :=
  tcb.dataTracker.createSelectiveAck tcb.reassemblyQueue.remainingBytes.toNat

def maybeSendSack (tcb : TransmissionControlBlock) :
    TransmissionControlBlock × List SocketOutput :=
  let (shouldSend, tracker) := tcb.dataTracker.shouldSendAck false
  let tcb := { tcb with dataTracker := tracker }
  if shouldSend then
    let (sack, tracker) := tcb.createSelectiveAck
    ({ tcb with dataTracker := tracker }, [.sendSack sack])
  else (tcb, [])

/-- All chunks of a packet were handled. -/
def handlePacketEnd (tcb : TransmissionControlBlock) :
    TransmissionControlBlock × List SocketOutput :=
  maybeSendSack { tcb with dataTracker := tcb.dataTracker.observePacketEnd }

def onDelayedAckTimerExpiry (tcb : TransmissionControlBlock) :
    TransmissionControlBlock × List SocketOutput :=
  maybeSendSack { tcb with dataTracker := tcb.dataTracker.handleDelayedAckTimerExpiry }

end TransmissionControlBlock

end MaeRtc.DcSctp
