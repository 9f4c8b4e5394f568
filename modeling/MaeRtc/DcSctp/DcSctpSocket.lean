import MaeRtc.DcSctp.ChunkValidators
import MaeRtc.DcSctp.SocketParts

/-!
# The socket

`DcSctpSocket` of `dcsctp_socket.cc`: the association is set up by a four-way
handshake, shut down by another one, and torn down by errors.  The state, the
three timers of the handshakes and the control block are explicit; a use of the
control block when there is none is an error of the model, and so is the expiry
of a timer in a state that its handler does not expect.

What receives data is modelled in full.  What sends it (the send queue, the
retransmission queue, our own requests to reset streams, heartbeats and the
counter of transmission errors) is a parameter, `Surroundings`, together with the
callbacks of the user: its operations may do anything that they can do by
themselves.  Metrics and log lines are left out.
-/

namespace MaeRtc.DcSctp

open MaeRtc.Base (Octet)

namespace DcSctpSocket

variable {σ : Type} (env : Surroundings σ)

def create (sender : σ) : DcSctpSocket σ where
  t1Init := { maxRestarts := env.options.maxInitRetransmits
              duration := env.options.t1InitTimeout }
  t1Cookie := { maxRestarts := env.options.maxInitRetransmits
                duration := env.options.t1CookieTimeout }
  t2Shutdown := { maxRestarts := env.options.maxRetransmissions
                  duration := env.options.t2ShutdownTimeout }
  sender := sender

def hasMessages (socket : DcSctpSocket σ) : Bool :=
  match socket.tcb with
  | none => false
  | some tcb => tcb.hasMessages

def isConsistent (socket : DcSctpSocket σ) : Bool :=
  if socket.hasMessages then false
  else match socket.state with
    | .closed =>
      socket.tcb.isNone && !socket.t1Init.isRunning && !socket.t1Cookie.isRunning &&
        !socket.t2Shutdown.isRunning
    | .cookieWait =>
      socket.tcb.isNone && socket.t1Init.isRunning && !socket.t1Cookie.isRunning &&
        !socket.t2Shutdown.isRunning
    | .cookieEchoed =>
      socket.tcb.isSome && !socket.t1Init.isRunning && socket.t1Cookie.isRunning &&
        !socket.t2Shutdown.isRunning && socket.tcb.any fun tcb => tcb.cookieEchoChunk.isSome
    | .established | .shutdownPending | .shutdownReceived =>
      socket.tcb.isSome && !socket.t1Init.isRunning && !socket.t1Cookie.isRunning &&
        !socket.t2Shutdown.isRunning
    | .shutdownSent | .shutdownAckSent =>
      socket.tcb.isSome && !socket.t1Init.isRunning && !socket.t1Cookie.isRunning &&
        socket.t2Shutdown.isRunning

/-! ## Packets -/

def emit (event : SocketEvent) (socket : DcSctpSocket σ) : DcSctpSocket σ :=
  { socket with events := socket.events ++ [event] }

/-- `PacketSender::Send`: a packet without chunks is not sent. -/
def send (verificationTag : VerificationTag) (chunks : List SentChunk)
    (socket : DcSctpSocket σ) : Bool × DcSctpSocket σ :=
  if chunks.isEmpty then (false, socket)
  else
    let (sent, sender) := env.send ⟨verificationTag, chunks⟩ socket.sender
    (sent, { socket with
      sender := sender
      events := socket.events ++ [.sendPacket ⟨verificationTag, chunks⟩] })

/-- A packet whose fate does not matter. -/
def post (verificationTag : VerificationTag) (chunks : List SentChunk)
    (socket : DcSctpSocket σ) : DcSctpSocket σ :=
  (socket.send env verificationTag chunks).2

/-- What `tcb_->` does. -/
def derefTcb (socket : DcSctpSocket σ) : Except Fault ControlBlock :=
  match socket.tcb with
  | none => .error .nullTcb
  | some tcb => .ok tcb

/-- A packet of the association, made by `tcb_->PacketBuilder()`. -/
def sendToPeer (chunks : List SentChunk) (socket : DcSctpSocket σ) :
    Except Fault (DcSctpSocket σ) := do
  let tcb ← socket.derefTcb
  .ok (socket.post env tcb.peerVerificationTag chunks)

/-- What the receiving part of the control block sends and reports. -/
def relay (verificationTag : VerificationTag) (socket : DcSctpSocket σ) :
    SocketOutput → DcSctpSocket σ
  | .sendError cause => socket.post env verificationTag [.error (.ofData cause)]
  | .sendAbort filledIn cause => socket.post env verificationTag [.abort filledIn (.ofData cause)]
  | .sendSack sack => socket.post env verificationTag [.sack sack]
  | .onError error message => socket.emit (.onError error message)
  | .onAborted error message => socket.emit (.onAborted error message)
  | .onMessageReceived message => socket.emit (.onMessageReceived message)

/-- The receiving part of the control block has done something. -/
def updateReceiver (tcb : ControlBlock) (socket : DcSctpSocket σ)
    (result : TransmissionControlBlock × List SocketOutput) : DcSctpSocket σ :=
  result.2.foldl (relay env tcb.peerVerificationTag)
    { socket with tcb := some { tcb with receiver := result.1 } }

/-! ## Sending what is buffered -/

/-- A SACK that could wait goes with other chunks. -/
def bundleSack (builder : List SentChunk) (tcb : ControlBlock) :
    List SentChunk × ControlBlock :=
  let (shouldSend, tracker) := tcb.receiver.dataTracker.shouldSendAck true
  let receiver := { tcb.receiver with dataTracker := tracker }
  if shouldSend then
    let (sack, tracker) := receiver.createSelectiveAck
    (builder ++ [.sack sack], { tcb with receiver := { receiver with dataTracker := tracker } })
  else (builder, { tcb with receiver := receiver })

def maybeSendForwardTsn (verificationTag : VerificationTag) (builder : List SentChunk)
    (socket : DcSctpSocket σ) : List SentChunk × DcSctpSocket σ :=
  match env.forwardTsn socket.sender with
  | (none, sender) => (builder, { socket with sender := sender })
  | (some chunk, sender) =>
    ([], { socket with sender := sender }.post env verificationTag (builder ++ [chunk]))

def bundleStreamReset (builder : List SentChunk) (socket : DcSctpSocket σ) :
    List SentChunk × DcSctpSocket σ :=
  let (request, sender) := env.makeStreamResetRequest socket.sender
  (builder ++ request.toList, { socket with sender := sender })

/-- The control chunks of the first packet of a burst. -/
def bundleControlChunks (tcb : ControlBlock) (builder : List SentChunk)
    (socket : DcSctpSocket σ) : List SentChunk × DcSctpSocket σ :=
  let builder := builder ++ (tcb.cookieEchoChunk.map .cookieEcho).toList
  let (builder, block) := bundleSack builder tcb
  let (builder, socket) :=
    maybeSendForwardTsn env tcb.peerVerificationTag builder { socket with tcb := some block }
  bundleStreamReset env builder socket

/-- The data chunks that fit are added to a packet, and it is sent. -/
def sendFilled (tcb : ControlBlock) (builder : List SentChunk) (socket : DcSctpSocket σ) :
    Bool × DcSctpSocket σ :=
  let (chunks, sender) := env.getChunksToSend builder socket.sender
  { socket with sender := sender }.send env tcb.peerVerificationTag (builder ++ chunks)

/-- The further packets of a burst. -/
def sendMore (tcb : ControlBlock) : Nat → DcSctpSocket σ → DcSctpSocket σ
  | 0, socket => socket
  | rounds + 1, socket =>
    if env.canSendData socket.sender then
      match sendFilled env tcb [] socket with
      | (true, socket) => sendMore tcb rounds socket
      | (false, socket) => socket
    else socket

/-- The first packet of a burst, and the others, unless the handshake is not over. -/
def sendBurst (tcb : ControlBlock) (rounds : Nat) (builder : List SentChunk)
    (socket : DcSctpSocket σ) : DcSctpSocket σ :=
  let (builder, socket) := bundleControlChunks env tcb builder socket
  match sendFilled env tcb builder socket with
  | (true, socket) =>
    if tcb.cookieEchoChunk.isSome then socket else sendMore env tcb rounds socket
  | (false, socket) => socket

def sendBufferedPackets (builder : List SentChunk) (socket : DcSctpSocket σ) :
    Except Fault (DcSctpSocket σ) := do
  let tcb ← socket.derefTcb
  match env.options.maxBurst with
  | 0 => .ok socket
  | rounds + 1 =>
    if env.canSendData socket.sender then .ok (sendBurst env tcb rounds builder socket)
    else .ok socket

/-! ## Opening and closing -/

def setTcb (tcb : ControlBlock) (socket : DcSctpSocket σ) : DcSctpSocket σ :=
  { socket with tcb := some tcb }

def makeConnectionParameters (socket : DcSctpSocket σ) : DcSctpSocket σ :=
  let (verificationTag, sender) := env.getRandomInt 1 (BitVec.allOnes 32) socket.sender
  let (initialTsn, sender) := env.getRandomInt 0 (BitVec.allOnes 32) sender
  { socket with
    connectParams := { initialTsn := initialTsn, verificationTag := verificationTag }
    sender := sender }

def makeTieTag (socket : DcSctpSocket σ) : TieTag × DcSctpSocket σ :=
  let (upper, sender) := env.getRandomInt 0 (BitVec.allOnes 32) socket.sender
  let (lower, sender) := env.getRandomInt 1 (BitVec.allOnes 32) sender
  (upper ++ lower, { socket with sender := sender })

/-- The parameters that announce what the socket supports. -/
def capabilityParameters : HandshakeParameters where
  forwardTsnSupported := env.options.enablePartialReliability
  zeroChecksumAcceptable := env.options.enableZeroChecksum
  supportedExtensions := some ([130] ++
    (if env.options.enablePartialReliability then [192] else []) ++
    (if env.options.enableMessageInterleaving then [64, 194] else []))

def computeCapabilities (peerNbrOutboundStreams peerNbrInboundStreams : BitVec 16)
    (parameters : HandshakeParameters) : Capabilities :=
  let supports (type : Octet) : Bool := parameters.supportedExtensions.any (·.contains type)
  let least (one two : BitVec 16) : BitVec 16 := if two < one then two else one
  { partialReliability := env.options.enablePartialReliability &&
      (parameters.forwardTsnSupported || supports 192)
    messageInterleaving := env.options.enableMessageInterleaving && supports 64 && supports 194
    reconfig := supports 130
    zeroChecksum := env.options.enableZeroChecksum && parameters.zeroChecksumAcceptable
    negotiatedMaximumIncomingStreams :=
      least env.options.announcedMaximumIncomingStreams peerNbrOutboundStreams
    negotiatedMaximumOutgoingStreams :=
      least env.options.announcedMaximumOutgoingStreams peerNbrInboundStreams }

/-- The INIT or INIT ACK of the socket. -/
def ownInit (socket : DcSctpSocket σ) : InitChunk where
  initiateTag := socket.connectParams.verificationTag
  aRwnd := env.options.maxReceiverWindowBufferSize.setWidth 32
  nbrOutboundStreams := env.options.announcedMaximumOutgoingStreams
  nbrInboundStreams := env.options.announcedMaximumIncomingStreams
  initialTsn := socket.connectParams.initialTsn
  parameters := capabilityParameters env

def sendInit (socket : DcSctpSocket σ) : DcSctpSocket σ :=
  socket.post env 0 [.init (socket.ownInit env)]

/-- An association with the connection parameters of the socket. -/
def createTransmissionControlBlock (capabilities : Capabilities)
    (peerVerificationTag : VerificationTag) (peerInitialTsn : Tsn) (aRwnd : BitVec 32)
    (tieTag : TieTag) (socket : DcSctpSocket σ) : DcSctpSocket σ :=
  { socket with
    tcb := some {
      myVerificationTag := socket.connectParams.verificationTag
      peerVerificationTag := peerVerificationTag
      tieTag := tieTag
      capabilities := capabilities
      receiver := { TransmissionControlBlock.new peerInitialTsn
          env.options.maxReceiverWindowBufferSize env.options.watermarkBytes
          capabilities.messageInterleaving with
        partialReliability := capabilities.partialReliability }
      streamResetHandler := .new peerInitialTsn }
    sender := env.start capabilities socket.connectParams.initialTsn aRwnd socket.sender }

/-- The part of `InternalClose` that does not concern the user. -/
def tearDown (socket : DcSctpSocket σ) : DcSctpSocket σ :=
  if socket.state = .closed then socket
  else
    { socket with
      state := .closed
      t1Init := socket.t1Init.stop
      t1Cookie := socket.t1Cookie.stop
      t2Shutdown := socket.t2Shutdown.stop
      tcb := none }

def internalClose (error : ErrorKind) (message : String) (socket : DcSctpSocket σ) :
    DcSctpSocket σ :=
  if socket.state = .closed then socket
  else socket.tearDown.emit (if error = .noError then .onClosed else .onAborted error message)

def connect (socket : DcSctpSocket σ) : DcSctpSocket σ :=
  if socket.state = .closed then
    let socket := (socket.makeConnectionParameters env).sendInit env
    { socket with state := .cookieWait, t1Init := socket.t1Init.start }
  else socket

def close (socket : DcSctpSocket σ) : DcSctpSocket σ :=
  if socket.state = .closed then socket
  else
    let socket := match socket.tcb with
      | none => socket
      | some tcb => socket.post env tcb.peerVerificationTag
          [.abort true (.userInitiatedAbort "Close called")]
    socket.internalClose .noError ""

/-! ## Shutting down -/

def sendShutdown (socket : DcSctpSocket σ) : Except Fault (DcSctpSocket σ) := do
  let tcb ← socket.derefTcb
  socket.sendToPeer env
    [.shutdown (Unwrapped.wrap 32 tcb.receiver.dataTracker.lastCumulativeAckedTsn)]

def startT2Shutdown (socket : DcSctpSocket σ) : DcSctpSocket σ :=
  { socket with
    t2Shutdown := (socket.t2Shutdown.setDuration (env.currentRto socket.sender)).start }

def sendShutdownAck (socket : DcSctpSocket σ) : Except Fault (DcSctpSocket σ) := do
  let socket ← socket.sendToPeer env [.shutdownAck]
  .ok (socket.startT2Shutdown env)

def setState (state : State) (socket : DcSctpSocket σ) : DcSctpSocket σ :=
  { socket with state := state }

/-- Once all data is acknowledged, the shutdown goes on. -/
def maybeSendShutdownOrAck (socket : DcSctpSocket σ) : Except Fault (DcSctpSocket σ) := do
  let _ ← socket.derefTcb
  if env.outstandingBytes socket.sender ≠ 0 then .ok socket
  else match socket.state with
    | .shutdownPending => do
      let socket ← socket.sendShutdown env
      .ok ((socket.startT2Shutdown env).setState .shutdownSent)
    | .shutdownReceived => do
      let socket ← socket.sendShutdownAck env
      .ok (socket.setState .shutdownAckSent)
    | _ => .ok socket

def shutdown (socket : DcSctpSocket σ) : Except Fault (DcSctpSocket σ) :=
  match socket.tcb with
  | none => .ok (socket.internalClose .noError "")
  | some _ =>
    if socket.state = .shutdownSent ∨ socket.state = .shutdownAckSent then .ok socket
    else maybeSendShutdownOrAck env { socket with
      state := .shutdownPending
      t1Init := socket.t1Init.stop
      t1Cookie := socket.t1Cookie.stop }

/-- In SHUTDOWN-SENT, every packet with data is answered by a SHUTDOWN. -/
def maybeSendShutdownOnPacketReceived (packet : SctpPacket) (socket : DcSctpSocket σ) :
    Except Fault (DcSctpSocket σ) :=
  let hasDataChunk := packet.descriptors.any fun
    | .data _ => true
    | _ => false
  if socket.state = .shutdownSent ∧ hasDataChunk then do
    let socket ← socket.sendShutdown env
    .ok (socket.startT2Shutdown env)
  else .ok socket

/-! ## Chunks of data -/

/-- `ValidateParseSuccess`: a chunk that does not parse is reported. -/
def whenParsed {α : Type} (chunkType : Nat) (chunk : Option α)
    (handle : α → DcSctpSocket σ → Except Fault (DcSctpSocket σ)) (socket : DcSctpSocket σ) :
    Except Fault (DcSctpSocket σ) :=
  match chunk with
  | none => .ok (socket.emit (.onError .parseFailed
      ("Failed to parse chunk of type: " ++ toString chunkType)))
  | some content => handle content socket

/-- `ValidateHasTCB`: without an association there is nothing to be received. -/
def whenConnected (handle : DcSctpSocket σ → Except Fault (DcSctpSocket σ))
    (socket : DcSctpSocket σ) : Except Fault (DcSctpSocket σ) :=
  match socket.tcb with
  | none => .ok (socket.emit (.onError .notConnected
      "Received unexpected commands on socket that is not connected"))
  | some _ => handle socket

def handleDataCommon (chunk : AnyDataChunk) (socket : DcSctpSocket σ) :
    Except Fault (DcSctpSocket σ) := do
  let tcb ← socket.derefTcb
  match tcb.receiver.handleDataCommon chunk with
  | (some receiver, outputs) => .ok (updateReceiver env tcb socket (receiver, outputs))
  | (none, outputs) =>
    -- `InternalClose`, whose report is among the outputs.
    .ok (outputs.foldl (relay env tcb.peerVerificationTag) socket).tearDown

def handleForwardTsnCommon (chunk : AnyForwardTsnChunk) (socket : DcSctpSocket σ) :
    Except Fault (DcSctpSocket σ) := do
  let tcb ← socket.derefTcb
  .ok (updateReceiver env tcb socket (tcb.receiver.handleForwardTsnCommon chunk))

def maybeSendFastRetransmit (socket : DcSctpSocket σ) : Except Fault (DcSctpSocket σ) :=
  let (chunks, sender) := env.fastRetransmit socket.sender
  { socket with sender := sender }.sendToPeer env chunks

def handleSack (chunk : SackChunk) (socket : DcSctpSocket σ) :
    Except Fault (DcSctpSocket σ) :=
  match env.handleSack (ChunkValidators.clean chunk) socket.sender with
  | (false, sender) => .ok { socket with sender := sender }
  | (true, sender) => do
    let socket ← maybeSendShutdownOrAck env { socket with sender := sender }
    let socket ← socket.maybeSendFastRetransmit env
    socket.sendBufferedPackets env []

def handleHeartbeatRequest (parameters : List Octet) (socket : DcSctpSocket σ) :
    Except Fault (DcSctpSocket σ) :=
  socket.sendToPeer env [.heartbeatAck parameters]

def handleHeartbeatAck (parameters : List Octet) (socket : DcSctpSocket σ) :
    Except Fault (DcSctpSocket σ) :=
  let (events, sender) := env.handleHeartbeatAck parameters socket.sender
  .ok { socket with sender := sender, events := socket.events ++ events }

/-! ## Chunks of the handshake -/

/-- A tag other than `mine`, if one is found within the tries; else the last one drawn. -/
def drawVerificationTag (mine drawn : VerificationTag) : Nat → σ → VerificationTag × σ
  | 0, sender => (drawn, sender)
  | tries + 1, sender =>
    let (tag, sender) := env.getRandomInt 1 (BitVec.allOnes 32) sender
    if tag ≠ mine then (tag, sender) else drawVerificationTag mine tag tries sender

/-- The connection parameters that an INIT ACK will carry, and the tie tag of its cookie. -/
def prepareInitAck (socket : DcSctpSocket σ) : Except Fault (TieTag × DcSctpSocket σ) :=
  match socket.state with
  | .closed => .ok (0, socket.makeConnectionParameters env)
  | .cookieWait | .cookieEchoed => .ok (0, socket)
  | _ => do
    let tcb ← socket.derefTcb
    let (tag, sender) := drawVerificationTag env tcb.myVerificationTag
      socket.connectParams.verificationTag 10 socket.sender
    .ok (tcb.tieTag, { socket with
      connectParams := { initialTsn := env.nextTsn sender + 1000000, verificationTag := tag }
      sender := sender })

def sendInitAck (chunk : InitChunk) (tieTag : TieTag) (socket : DcSctpSocket σ) :
    DcSctpSocket σ :=
  let cookie : StateCookie :=
    { initiateTag := chunk.initiateTag
      initialTsn := chunk.initialTsn
      aRwnd := chunk.aRwnd
      tieTag := tieTag
      capabilities := computeCapabilities env chunk.nbrOutboundStreams
        chunk.nbrInboundStreams chunk.parameters }
  socket.post env chunk.initiateTag [.initAck (socket.ownInit env) cookie]

def handleInit (chunk : InitChunk) (socket : DcSctpSocket σ) :
    Except Fault (DcSctpSocket σ) :=
  if chunk.initiateTag = 0 ∨ chunk.nbrOutboundStreams = 0 ∨ chunk.nbrInboundStreams = 0 then
    .ok ((socket.post env 0 [.abort false (.protocolViolation "INIT malformed")]).internalClose
      .protocolViolation "Received invalid INIT")
  else if socket.state = .shutdownAckSent then socket.sendShutdownAck env
  else do
    let (tieTag, socket) ← socket.prepareInitAck env
    .ok (socket.sendInitAck env chunk tieTag)

/-- The association of an INIT ACK; its cookie is sent back until it is acknowledged. -/
def openWithInitAck (chunk : InitChunk) (cookie : List Octet) (socket : DcSctpSocket σ) :
    DcSctpSocket σ :=
  let capabilities := computeCapabilities env chunk.nbrOutboundStreams
    chunk.nbrInboundStreams chunk.parameters
  let (tieTag, socket) := makeTieTag env { socket with
    t1Init := socket.t1Init.stop
    sender := env.reset socket.sender }
  let socket := socket.createTransmissionControlBlock env capabilities chunk.initiateTag
    chunk.initialTsn chunk.aRwnd tieTag
  { socket with
    state := .cookieEchoed
    tcb := socket.tcb.map (.setCookieEchoChunk cookie) }

def handleInitAck (chunk : InitChunk) (socket : DcSctpSocket σ) :
    Except Fault (DcSctpSocket σ) :=
  if socket.state ≠ .cookieWait then .ok socket
  else match chunk.parameters.stateCookie with
    | none =>
      .ok ((socket.post env socket.connectParams.verificationTag
        [.abort false (.protocolViolation "INIT-ACK malformed")]).internalClose
        .protocolViolation "InitAck chunk doesn't contain a cookie")
    | some cookie => do
      let socket ← (socket.openWithInitAck env chunk cookie).sendBufferedPackets env []
      .ok { socket with t1Cookie := socket.t1Cookie.start }

/-- Whether the COOKIE ECHO is acted on, in an association that exists. -/
def handleCookieEchoWithTcb (verificationTag : VerificationTag) (cookie : StateCookie)
    (tcb : ControlBlock) (socket : DcSctpSocket σ) : Bool × DcSctpSocket σ :=
  if verificationTag ≠ tcb.myVerificationTag ∧ tcb.peerVerificationTag ≠ cookie.initiateTag ∧
      cookie.tieTag = tcb.tieTag then
    -- The peer may have restarted.
    if socket.state = .shutdownAckSent then
      (false, (socket.post env cookie.initiateTag
        [.shutdownAck, .error .cookieReceivedWhileShuttingDown]).emit
        (.onError .wrongSequence "Received COOKIE-ECHO while shutting down"))
    else (true, { socket with tcb := none }.emit .onConnectionRestarted)
  else if verificationTag = tcb.myVerificationTag ∧
      tcb.peerVerificationTag ≠ cookie.initiateTag then
    -- Both sides may be starting an association at about the same time.
    (true, { socket with tcb := none })
  else if verificationTag ≠ tcb.myVerificationTag ∧
      tcb.peerVerificationTag = cookie.initiateTag ∧ cookie.tieTag = 0 then
    -- The cookie has arrived late.
    (false, socket)
  else
    -- Both tags match, or nothing of the above.
    (true, socket)

/-- The association is established, if it is not yet. -/
def enterEstablished (socket : DcSctpSocket σ) : DcSctpSocket σ :=
  if socket.state = .established then socket
  else { socket with
    state := .established
    tcb := socket.tcb.map .clearCookieEchoChunk }.emit .onConnected

/-- The association of a cookie, if there is none. -/
def openWithCookie (cookie : StateCookie) (socket : DcSctpSocket σ) : DcSctpSocket σ :=
  match socket.tcb with
  | some _ => socket
  | none =>
    let (tieTag, socket) := makeTieTag env { socket with sender := env.reset socket.sender }
    socket.createTransmissionControlBlock env cookie.capabilities cookie.initiateTag
      cookie.initialTsn cookie.aRwnd tieTag

def stopT1 (socket : DcSctpSocket σ) : DcSctpSocket σ :=
  { socket with
    t1Init := socket.t1Init.stop
    t1Cookie := socket.t1Cookie.stop }

/-- The cookie is accepted: the end of `HandleCookieEcho`. -/
def establish (cookie : StateCookie) (socket : DcSctpSocket σ) :
    Except Fault (DcSctpSocket σ) :=
  (socket.stopT1.enterEstablished.openWithCookie env cookie).sendBufferedPackets env [.cookieAck]

def handleCookieEcho (verificationTag : VerificationTag) (cookie : Option StateCookie)
    (socket : DcSctpSocket σ) : Except Fault (DcSctpSocket σ) :=
  match cookie with
  | none => .ok (socket.emit (.onError .parseFailed "Failed to parse state cookie"))
  | some cookie =>
    match socket.tcb with
    | some tcb =>
      match socket.handleCookieEchoWithTcb env verificationTag cookie tcb with
      | (true, socket) => socket.establish env cookie
      | (false, socket) => .ok socket
    | none =>
      if verificationTag = socket.connectParams.verificationTag then
        socket.establish env cookie
      else .ok (socket.emit (.onError .parseFailed
        ("Received CookieEcho with invalid verification tag: " ++ verificationTag.toHex ++
          ", expected " ++ socket.connectParams.verificationTag.toHex)))

def handleCookieAck (socket : DcSctpSocket σ) : Except Fault (DcSctpSocket σ) :=
  if socket.state ≠ .cookieEchoed then .ok socket
  else do
    let tcb ← socket.derefTcb
    let socket ← { socket with
      t1Cookie := socket.t1Cookie.stop
      tcb := some tcb.clearCookieEchoChunk
      state := .established }.sendBufferedPackets env []
    .ok (socket.emit .onConnected)

/-! ## Other chunks -/

def handleAbort (errorString : String) (socket : DcSctpSocket σ) :
    Except Fault (DcSctpSocket σ) :=
  match socket.tcb with
  | none => .ok socket
  | some _ => .ok (socket.internalClose .peerReported errorString)

def handleError (errorString : String) (socket : DcSctpSocket σ) :
    Except Fault (DcSctpSocket σ) :=
  match socket.tcb with
  | none => .ok socket
  | some _ => .ok (socket.emit (.onError .peerReported ("Peer reported error: " ++ errorString)))

def maybeSendResetStreamsRequest (socket : DcSctpSocket σ) : Except Fault (DcSctpSocket σ) :=
  let (request, sender) := env.makeStreamResetRequest socket.sender
  { socket with sender := sender }.sendToPeer env request.toList

/-- One parameter of a RE-CONFIG chunk, and the responses to those before it. -/
def handleReConfigParameter (progress : List ReconfigurationResponseParameter × DcSctpSocket σ)
    (parameter : ReConfigParameter) :
    Except Fault (List ReconfigurationResponseParameter × DcSctpSocket σ) :=
  let (responses, socket) := progress
  match parameter with
  | .outgoingSsnResetRequest none =>
    .ok (responses, socket.emit (.onError .parseFailed "Failed to parse Outgoing Reset command"))
  | .outgoingSsnResetRequest (some req) => do
    let tcb ← socket.derefTcb
    let answer := tcb.streamResetHandler.handleResetOutgoing req
      (Unwrapped.wrap 32 tcb.receiver.dataTracker.lastCumulativeAckedTsn)
      tcb.receiver.reassemblyQueue
    .ok (responses ++ [answer.response], { socket with
      tcb := some { tcb with
        streamResetHandler := answer.handler
        receiver := { tcb.receiver with reassemblyQueue := answer.queue } }
      events := socket.events ++
        (answer.incomingStreamsReset.map .onIncomingStreamsReset).toList })
  | .incomingSsnResetRequest none =>
    .ok (responses, socket.emit (.onError .parseFailed "Failed to parse Incoming Reset command"))
  | .incomingSsnResetRequest (some reqSeqNbr) => do
    let tcb ← socket.derefTcb
    let (handler, response) := tcb.streamResetHandler.handleResetIncoming reqSeqNbr
    .ok (responses ++ [response], socket.setTcb { tcb with streamResetHandler := handler })
  | .reconfigurationResponse none =>
    .ok (responses, socket.emit
      (.onError .parseFailed "Failed to parse Reconfiguration Response command"))
  | .reconfigurationResponse (some resp) =>
    let (events, sender) := env.handleResponse resp socket.sender
    .ok (responses, { socket with sender := sender, events := socket.events ++ events })
  | _ => .ok (responses, socket)

def handleReConfigParameters (parameters : List ReConfigParameter) (socket : DcSctpSocket σ) :
    Except Fault (DcSctpSocket σ) :=
  if StreamResetHandler.validate parameters then do
    let (responses, socket) ← parameters.foldlM (handleReConfigParameter env) ([], socket)
    if responses.isEmpty then .ok socket
    else socket.sendToPeer env [.reConfigResponses responses]
  else .ok (socket.emit (.onError .parseFailed "Failed to parse RE-CONFIG command"))

def handleReconfig (parameters : List ReConfigParameter) (socket : DcSctpSocket σ) :
    Except Fault (DcSctpSocket σ) := do
  let socket ← socket.handleReConfigParameters env parameters
  let socket ← socket.maybeSendResetStreamsRequest env
  socket.sendBufferedPackets env []

def handleShutdown (socket : DcSctpSocket σ) : Except Fault (DcSctpSocket σ) :=
  match socket.state with
  | .closed | .cookieWait | .cookieEchoed | .shutdownAckSent | .shutdownReceived => .ok socket
  | .shutdownSent => do
    let socket ← socket.sendShutdownAck env
    .ok (socket.setState .shutdownAckSent)
  | .established | .shutdownPending =>
    maybeSendShutdownOrAck env (socket.setState .shutdownReceived)

def handleShutdownAck (verificationTag : VerificationTag) (socket : DcSctpSocket σ) :
    Except Fault (DcSctpSocket σ) :=
  if socket.state = .shutdownSent ∨ socket.state = .shutdownAckSent then do
    let socket ← socket.sendToPeer env [.shutdownComplete false]
    .ok (socket.internalClose .noError "")
  else .ok (socket.post env verificationTag [.shutdownComplete true])

def handleShutdownComplete (socket : DcSctpSocket σ) : Except Fault (DcSctpSocket σ) :=
  if socket.state = .shutdownAckSent then .ok (socket.internalClose .noError "") else .ok socket

/-- The upper bits of an unknown type say what to do; the flag, whether to go on. -/
def handleUnrecognizedChunk (type : Octet) (socket : DcSctpSocket σ) :
    Bool × DcSctpSocket σ :=
  let socket := if type &&& 0x40 ≠ 0 then
      let socket := socket.emit (.onError .parseFailed
        ("Received unknown chunk of type: " ++ toString type.toNat ++ " with report-error bit set"))
      match socket.tcb with
      | none => socket
      | some tcb => socket.post env tcb.peerVerificationTag [.error (.unrecognizedChunkType type)]
    else socket
  (type &&& 0x80 ≠ 0, socket)

/-! ## The calls of the socket -/

/-- The tag of an ABORT or SHUTDOWN COMPLETE: ours, or the peer's if the flag says so. -/
def acceptsReflectedTag (verificationTag : VerificationTag) (flags : Octet)
    (socket : DcSctpSocket σ) : Bool :=
  let tBit := flags &&& 0x01 ≠ 0
  match socket.tcb with
  | none => tBit || verificationTag = 0
  | some tcb =>
    if tBit then verificationTag = tcb.peerVerificationTag
    else verificationTag = tcb.myVerificationTag

def validateReflectedTag (verificationTag : VerificationTag) (flags : Octet) (message : String)
    (socket : DcSctpSocket σ) : Bool × DcSctpSocket σ :=
  if socket.acceptsReflectedTag verificationTag flags then (true, socket)
  else (false, socket.emit (.onError .parseFailed message))

/-- A tag that has to be the expected one. -/
def validateTag (verificationTag expected : VerificationTag) (socket : DcSctpSocket σ) :
    Bool × DcSctpSocket σ :=
  if verificationTag = expected then (true, socket)
  else (false, socket.emit (.onError .parseFailed ("Packet has invalid verification tag: " ++
    verificationTag.toHex ++ ", expected " ++ expected.toHex)))

def myVerificationTag (socket : DcSctpSocket σ) : VerificationTag :=
  match socket.tcb with
  | none => 0
  | some tcb => tcb.myVerificationTag

def validatePacket (packet : SctpPacket) (socket : DcSctpSocket σ) : Bool × DcSctpSocket σ :=
  if packet.verificationTag = 0 then
    match packet.first, packet.rest with
    | .init _, [] => (true, socket)
    | _, _ => (false, socket.emit (.onError .parseFailed
        "Only a single INIT chunk can be present in packets sent on verification_tag = 0"))
  else match packet.first, packet.rest with
    | .abort flags _, [] => socket.validateReflectedTag packet.verificationTag flags
        "ABORT chunk verification tag was wrong"
    | .initAck _, _ => socket.validateTag packet.verificationTag
        socket.connectParams.verificationTag
    | .cookieEcho _, _ => (true, socket)
    | .shutdownComplete flags _, [] => socket.validateReflectedTag packet.verificationTag flags
        "SHUTDOWN_COMPLETE chunk verification tag was wrong"
    | _, _ => socket.validateTag packet.verificationTag socket.myVerificationTag

/-- A handler of a chunk without content that matters. -/
def whenSound (chunkType : Nat) (parses : Bool)
    (handle : DcSctpSocket σ → Except Fault (DcSctpSocket σ)) :
    DcSctpSocket σ → Except Fault (DcSctpSocket σ) :=
  whenParsed chunkType (if parses then some () else none) fun _ => handle

def dispatch (verificationTag : VerificationTag) (socket : DcSctpSocket σ) :
    ChunkDescriptor → Except Fault (Bool × DcSctpSocket σ)
  | .data chunk => (true, ·) <$> whenParsed 0 chunk
      (fun chunk => whenConnected (handleDataCommon env chunk)) socket
  | .init chunk => (true, ·) <$> whenParsed 1 chunk (handleInit env) socket
  | .initAck chunk => (true, ·) <$> whenParsed 2 chunk (handleInitAck env) socket
  | .sack chunk => (true, ·) <$> whenParsed 3 chunk
      (fun chunk => whenConnected (handleSack env chunk)) socket
  | .heartbeatRequest parameters => (true, ·) <$> whenParsed 4 parameters
      (fun parameters => whenConnected (handleHeartbeatRequest env parameters)) socket
  | .heartbeatAck parameters => (true, ·) <$> whenParsed 5 parameters
      (fun parameters => whenConnected (handleHeartbeatAck env parameters)) socket
  | .abort _ errorCauses => (true, ·) <$> whenParsed 6 errorCauses handleAbort socket
  | .shutdown parses => (true, ·) <$> whenSound 7 parses (handleShutdown env) socket
  | .shutdownAck parses => (true, ·) <$> whenSound 8 parses
      (handleShutdownAck env verificationTag) socket
  | .error errorCauses => (true, ·) <$> whenParsed 9 errorCauses handleError socket
  | .cookieEcho cookie => (true, ·) <$> whenParsed 10 cookie
      (handleCookieEcho env verificationTag) socket
  | .cookieAck parses => (true, ·) <$> whenSound 11 parses (handleCookieAck env) socket
  | .shutdownComplete _ parses => (true, ·) <$> whenSound 14 parses handleShutdownComplete socket
  | .iData chunk => (true, ·) <$> whenParsed 64 chunk
      (fun chunk => whenConnected (handleDataCommon env chunk)) socket
  | .reConfig parameters => (true, ·) <$> whenParsed 130 parameters
      (fun parameters => whenConnected (handleReconfig env parameters)) socket
  | .forwardTsn chunk => (true, ·) <$> whenParsed 192 chunk
      (fun chunk => whenConnected (handleForwardTsnCommon env chunk)) socket
  | .iForwardTsn chunk => (true, ·) <$> whenParsed 194 chunk
      (fun chunk => whenConnected (handleForwardTsnCommon env chunk)) socket
  | .unrecognized type => .ok (socket.handleUnrecognizedChunk env type)

/-- The chunks of a packet in order, until one says not to go on. -/
def dispatchAll (verificationTag : VerificationTag) :
    List ChunkDescriptor → DcSctpSocket σ → Except Fault (DcSctpSocket σ)
  | [], socket => .ok socket
  | descriptor :: rest, socket => do
    let (goOn, socket) ← socket.dispatch env verificationTag descriptor
    if goOn then dispatchAll verificationTag rest socket else .ok socket

/-- After the last chunk of a packet, a SACK may be due. -/
def finishPacket (socket : DcSctpSocket σ) : DcSctpSocket σ :=
  match socket.tcb with
  | none => socket
  | some tcb => updateReceiver env tcb socket tcb.receiver.handlePacketEnd

def receivePacket (packet : Option SctpPacket) (socket : DcSctpSocket σ) :
    Except Fault (DcSctpSocket σ) :=
  match packet with
  | none => .ok (socket.emit (.onError .parseFailed "Failed to parse received SCTP packet"))
  | some packet =>
    match socket.validatePacket packet with
    | (false, socket) => .ok socket
    | (true, socket) => do
      let socket ← socket.maybeSendShutdownOnPacketReceived env packet
      let socket ← dispatchAll env packet.verificationTag packet.descriptors socket
      .ok (socket.finishPacket env)

/-- The timer of which a timeout is the expiry. -/
inductive Timeout where
  | t1Init (generation : BitVec 32)
  | t1Cookie (generation : BitVec 32)
  | t2Shutdown (generation : BitVec 32)
  | delayedAck
  | sender (timer : SenderTimer) (generation : BitVec 32)
  deriving DecidableEq

def onInitTimerExpiry (socket : DcSctpSocket σ) : Except Fault (DcSctpSocket σ) :=
  if socket.state ≠ .cookieWait then .error .unexpectedExpiry
  else if socket.t1Init.isRunning then .ok (socket.sendInit env)
  else .ok (socket.internalClose .tooManyRetries "No INIT_ACK received")

def onCookieTimerExpiry (socket : DcSctpSocket σ) : Except Fault (DcSctpSocket σ) :=
  if socket.state ≠ .cookieEchoed then .error .unexpectedExpiry
  else if socket.t1Cookie.isRunning then socket.sendBufferedPackets env []
  else .ok (socket.internalClose .tooManyRetries "No COOKIE_ACK received")

/-- With the duration that the timer is to have from now on. -/
def onShutdownTimerExpiry (socket : DcSctpSocket σ) :
    Except Fault (Option DurationMs × DcSctpSocket σ) :=
  if socket.t2Shutdown.isRunning then do
    let socket ← socket.sendShutdown env
    .ok (some (env.currentRto socket.sender), socket)
  else do
    let socket ← socket.sendToPeer env
      [.abort true (.userInitiatedAbort "Too many retransmissions of SHUTDOWN")]
    .ok (none, socket.internalClose .tooManyRetries "No SHUTDOWN_ACK received")

def onSenderTimerExpiry (timer : SenderTimer) (generation : BitVec 32) (tcb : ControlBlock)
    (socket : DcSctpSocket σ) : Except Fault (DcSctpSocket σ) :=
  let (sendBuffered, chunks, sender) := env.handleTimeout timer generation
    (socket.state = .established) tcb.cookieEchoChunk.isSome socket.sender
  let socket := { socket with sender := sender }.post env tcb.peerVerificationTag chunks
  if sendBuffered then socket.sendBufferedPackets env [] else .ok socket

/-- The timer for delayed acknowledgements is not started again when it expires. -/
def onDelayedAckTimerExpiry (tcb : ControlBlock) (socket : DcSctpSocket σ) : DcSctpSocket σ :=
  if tcb.receiver.dataTracker.delayedAckTimerRunning then
    let receiver := { tcb.receiver with
      dataTracker := { tcb.receiver.dataTracker with delayedAckTimerRunning := false } }
    updateReceiver env tcb socket receiver.onDelayedAckTimerExpiry
  else socket

/-- `TimerManager::HandleTimeout`; the timers of an association go with its control block. -/
def trigger (socket : DcSctpSocket σ) : Timeout → Except Fault (DcSctpSocket σ)
  | .t1Init generation =>
    if socket.t1Init.isDue generation then
      onInitTimerExpiry env { socket with t1Init := socket.t1Init.expire }
    else .ok socket
  | .t1Cookie generation =>
    if socket.t1Cookie.isDue generation then
      onCookieTimerExpiry env { socket with t1Cookie := socket.t1Cookie.expire }
    else .ok socket
  | .t2Shutdown generation =>
    if socket.t2Shutdown.isDue generation then do
      let (duration, socket) ←
        onShutdownTimerExpiry env { socket with t2Shutdown := socket.t2Shutdown.expire }
      .ok { socket with t2Shutdown := socket.t2Shutdown.reschedule duration }
    else .ok socket
  | .delayedAck =>
    match socket.tcb with
    | none => .ok socket
    | some tcb => .ok (socket.onDelayedAckTimerExpiry env tcb)
  | .sender timer generation =>
    match socket.tcb with
    | none => .ok socket
    | some tcb => socket.onSenderTimerExpiry env timer generation tcb

def closeConnectionBecauseOfTooManyTransmissionErrors (socket : DcSctpSocket σ) :
    Except Fault (DcSctpSocket σ) := do
  let socket ← socket.sendToPeer env [.abort true (.userInitiatedAbort "Too many retransmissions")]
  .ok (socket.internalClose .tooManyRetries "Too many retransmissions")

def handleTimeout (timeout : Timeout) (socket : DcSctpSocket σ) :
    Except Fault (DcSctpSocket σ) := do
  let socket ← socket.trigger env timeout
  if socket.tcb.isSome && env.hasTooManyTxErrors socket.sender then
    socket.closeConnectionBecauseOfTooManyTransmissionErrors env
  else .ok socket

/--
The calls of a user.  Between them the surroundings may change: time passes, and
messages are queued.
-/
inductive Call (σ : Type) where
  | connect
  | shutdown
  | close
  | receivePacket (packet : Option SctpPacket)
  | handleTimeout (timeout : Timeout)
  | elsewhere (sender : σ)

def apply (socket : DcSctpSocket σ) : Call σ → Except Fault (DcSctpSocket σ)
  | .connect => .ok (socket.connect env)
  | .shutdown => socket.shutdown env
  | .close => .ok (socket.close env)
  | .receivePacket packet => socket.receivePacket env packet
  | .handleTimeout timeout => socket.handleTimeout env timeout
  | .elsewhere sender => .ok { socket with sender := sender }

end DcSctpSocket

end MaeRtc.DcSctp
