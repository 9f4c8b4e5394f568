import MaeRtc.Base.BigEndian
import MaeRtc.DcSctp.StreamResetHandler
import MaeRtc.DcSctp.Timer

/-!
# The parts of a socket

The chunks that `dcsctp_socket.cc` receives and sends, the control block of an
association, and what surrounds the socket.
-/

namespace MaeRtc.DcSctp

open MaeRtc.Base (Octet)

abbrev VerificationTag := BitVec 32

/-- A nonce of an association, by which a restarted peer is recognised. -/
abbrev TieTag := BitVec 64

structure Capabilities where
  partialReliability : Bool := false
  messageInterleaving : Bool := false
  reconfig : Bool := false
  zeroChecksum : Bool := false
  negotiatedMaximumIncomingStreams : BitVec 16 := 0
  negotiatedMaximumOutgoingStreams : BitVec 16 := 0
  deriving DecidableEq

/-- What an INIT ACK hands to the peer, and a COOKIE ECHO brings back. -/
structure StateCookie where
  initiateTag : VerificationTag
  initialTsn : Tsn
  aRwnd : BitVec 32
  tieTag : TieTag
  capabilities : Capabilities
  deriving DecidableEq

/-- The parameters of an INIT or INIT ACK chunk that are looked at. -/
structure HandshakeParameters where
  stateCookie : Option (List Octet) := none
  forwardTsnSupported : Bool := false
  zeroChecksumAcceptable : Bool := false
  supportedExtensions : Option (List Octet) := none
  deriving DecidableEq

/-- An INIT chunk, or an INIT ACK chunk, which has the same fields. -/
structure InitChunk where
  initiateTag : VerificationTag
  aRwnd : BitVec 32
  nbrOutboundStreams : BitVec 16
  nbrInboundStreams : BitVec 16
  initialTsn : Tsn
  parameters : HandshakeParameters
  deriving DecidableEq

/-- The causes of the ERROR and ABORT chunks that the socket sends. -/
inductive Cause where
  | ofData (cause : ErrorCause)
  | protocolViolation (information : String)
  | userInitiatedAbort (reason : String)
  | unrecognizedChunkType (type : Octet)
  | cookieReceivedWhileShuttingDown
  deriving DecidableEq

/-- A chunk that is sent; those of the sending side are not looked into. -/
inductive SentChunk where
  | init (chunk : InitChunk)
  | initAck (chunk : InitChunk) (cookie : StateCookie)
  | cookieEcho (cookie : List Octet)
  | cookieAck
  | sack (chunk : SackChunk)
  | error (cause : Cause)
  | abort (filledInVerificationTag : Bool) (cause : Cause)
  | shutdown (cumulativeTsnAck : Tsn)
  | shutdownAck
  | shutdownComplete (tagReflected : Bool)
  | reConfigResponses (responses : List ReconfigurationResponseParameter)
  | heartbeatAck (parameters : List Octet)
  | ofSender (octets : List Octet)
  deriving DecidableEq

structure SentPacket where
  verificationTag : VerificationTag
  chunks : List SentChunk
  deriving DecidableEq

/-- The packets that the socket sends and the callbacks that it makes. -/
inductive SocketEvent where
  | sendPacket (packet : SentPacket)
  | onError (error : ErrorKind) (message : String)
  | onAborted (error : ErrorKind) (message : String)
  | onClosed
  | onConnected
  | onConnectionRestarted
  | onMessageReceived (message : DcSctpMessage)
  | onIncomingStreamsReset (streamIds : List StreamId)
  | onStreamsResetPerformed (streamIds : List StreamId)
  | onStreamsResetFailed (streamIds : List StreamId) (reason : String)
  deriving DecidableEq

/-- A chunk of a received packet; one whose content cannot be parsed carries none. -/
inductive ChunkDescriptor where
  | data (chunk : Option AnyDataChunk)
  | init (chunk : Option InitChunk)
  | initAck (chunk : Option InitChunk)
  | sack (chunk : Option SackChunk)
  | heartbeatRequest (parameters : Option (List Octet))
  | heartbeatAck (parameters : Option (List Octet))
  | abort (flags : Octet) (errorCauses : Option String)
  | shutdown (parses : Bool)
  | shutdownAck (parses : Bool)
  | error (errorCauses : Option String)
  | cookieEcho (cookie : Option (Option StateCookie))
  | cookieAck (parses : Bool)
  | shutdownComplete (flags : Octet) (parses : Bool)
  | iData (chunk : Option AnyDataChunk)
  | reConfig (parameters : Option (List ReConfigParameter))
  | forwardTsn (chunk : Option AnyForwardTsnChunk)
  | iForwardTsn (chunk : Option AnyForwardTsnChunk)
  | unrecognized (type : Octet)

/-- A packet that parses has a chunk at least. -/
structure SctpPacket where
  verificationTag : VerificationTag
  first : ChunkDescriptor
  rest : List ChunkDescriptor := []

def SctpPacket.descriptors (packet : SctpPacket) : List ChunkDescriptor :=
  packet.first :: packet.rest

structure DcSctpOptions where
  announcedMaximumIncomingStreams : BitVec 16 := 65535
  announcedMaximumOutgoingStreams : BitVec 16 := 65535
  maxReceiverWindowBufferSize : BitVec 64 := 5242880
  watermarkBytes : BitVec 64 := 4718592
  maxBurst : Nat := 4
  maxRetransmissions : Option Int := some 10
  maxInitRetransmits : Option Int := some 8
  t1InitTimeout : DurationMs := 1000
  t1CookieTimeout : DurationMs := 1000
  t2ShutdownTimeout : DurationMs := 1000
  enablePartialReliability : Bool := true
  enableMessageInterleaving : Bool := false
  enableZeroChecksum : Bool := false

/-- The timers of an association other than the one for delayed acknowledgements. -/
inductive SenderTimer where
  | t3Rtx
  | reconfig
  | heartbeatInterval
  | heartbeatTimeout
  deriving DecidableEq

/--
The sending side and the callbacks of the user.  Its state outlives a control
block: a new one only starts its transmission.
-/
structure Surroundings (σ : Type) where
  options : DcSctpOptions
  getRandomInt : (low high : BitVec 32) → σ → BitVec 32 × σ
  /-- `PacketSender::Send` for a packet that is not empty: whether it was sent. -/
  send : SentPacket → σ → Bool × σ
  reset : σ → σ
  start : Capabilities → (myInitialTsn : Tsn) → (aRwnd : BitVec 32) → σ → σ
  nextTsn : σ → Tsn
  currentRto : σ → DurationMs
  outstandingBytes : σ → Nat
  canSendData : σ → Bool
  handleSack : SackChunk → σ → Bool × σ
  fastRetransmit : σ → List SentChunk × σ
  forwardTsn : σ → Option SentChunk × σ
  makeStreamResetRequest : σ → Option SentChunk × σ
  getChunksToSend : (builder : List SentChunk) → σ → List SentChunk × σ
  handleResponse : ReconfigurationResponseParameter → σ → List SocketEvent × σ
  handleHeartbeatAck : List Octet → σ → List SocketEvent × σ
  /-- Whether the timer is due, whether buffered packets are sent next, and what is sent first. -/
  handleTimeout : SenderTimer → (generation : BitVec 32) → (established cookieEchoed : Bool) →
    σ → Bool × List SentChunk × σ
  hasTooManyTxErrors : σ → Bool

/-- `TransmissionControlBlock`, without its sending side. -/
structure ControlBlock where
  myVerificationTag : VerificationTag
  peerVerificationTag : VerificationTag
  tieTag : TieTag
  capabilities : Capabilities
  cookieEchoChunk : Option (List Octet) := none
  receiver : TransmissionControlBlock
  streamResetHandler : StreamResetHandler

namespace ControlBlock

def hasMessages (tcb : ControlBlock) : Bool :=
  !tcb.receiver.reassemblyQueue.reassembledMessages.isEmpty

def setCookieEchoChunk (cookie : List Octet) (tcb : ControlBlock) : ControlBlock :=
  { tcb with cookieEchoChunk := some cookie }

def clearCookieEchoChunk (tcb : ControlBlock) : ControlBlock :=
  { tcb with cookieEchoChunk := none }

end ControlBlock

namespace DcSctpSocket

inductive State where
  | closed
  | cookieWait
  | cookieEchoed
  | established
  | shutdownPending
  | shutdownSent
  | shutdownReceived
  | shutdownAckSent
  deriving DecidableEq, Repr

structure ConnectParameters where
  initialTsn : Tsn := 0
  verificationTag : VerificationTag := 0
  deriving DecidableEq

/-- What must not happen. -/
inductive Fault where
  | nullTcb
  | unexpectedExpiry
  deriving DecidableEq, Repr

end DcSctpSocket

open DcSctpSocket in
structure DcSctpSocket (σ : Type) where
  state : State := .closed
  t1Init : Timer
  t1Cookie : Timer
  t2Shutdown : Timer
  connectParams : ConnectParameters := {}
  tcb : Option ControlBlock := none
  sender : σ
  events : List SocketEvent := []

end MaeRtc.DcSctp
