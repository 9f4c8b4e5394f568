import MaeRtc.DcSctp.SocketConsistency

/-!
# A COOKIE ECHO that matches nothing

`HandleCookieEchoWithTCB` quotes the four actions of RFC 4960, section 5.2.4, and
goes on with the connection if none of them applies.  A COOKIE ECHO whose tags call
for none of the actions A, B and D is without effect exactly if it calls for action
C, if it does not get past the check of the packet, or if the association is
established already and nothing can be sent at this moment.
-/

namespace MaeRtc.DcSctp.DcSctpSocket

open MaeRtc.Base
open Control

variable {σ : Type} (env : Surroundings σ) {socket : DcSctpSocket σ}

/-! ## Between calls no SACK is due -/

/-- The next SACK is not due, and will not be at the end of the packet. -/
def Settled (receiver : TransmissionControlBlock) : Prop :=
  receiver.dataTracker.ackState = .idle ∨ receiver.dataTracker.ackState = .delayed

/-- What holds between calls. -/
def SettledSocket (socket : DcSctpSocket σ) : Prop :=
  ∀ tcb, socket.tcb = some tcb → Settled tcb.receiver

theorem ackState_updateAckState (tracker : DataTracker) (newState : AckState) :
    (tracker.updateAckState newState).ackState = newState := by
  unfold DataTracker.updateAckState
  by_cases differs : newState ≠ tracker.ackState
  · rw [if_pos differs]
  · rw [if_neg differs]
    exact (not_not.mp differs).symm

theorem settled_maybeSendSack {receiver : TransmissionControlBlock}
    (notBecoming : receiver.dataTracker.ackState ≠ .becomingDelayed) :
    Settled receiver.maybeSendSack.1 := by
  unfold TransmissionControlBlock.maybeSendSack DataTracker.shouldSendAck
  cases state : receiver.dataTracker.ackState with
  | idle => simp [Settled, state]
  | becomingDelayed => exact absurd state notBecoming
  | delayed => simp [Settled, state]
  | immediate =>
    simp [Settled, TransmissionControlBlock.createSelectiveAck,
      DataTracker.createSelectiveAck, ackState_updateAckState]

theorem settled_handlePacketEnd (receiver : TransmissionControlBlock) :
    Settled receiver.handlePacketEnd.1 := by
  refine settled_maybeSendSack ?_
  unfold DataTracker.observePacketEnd
  split_ifs with becoming
  · rw [ackState_updateAckState]
    decide
  · exact becoming

/-- Where no SACK is due, the end of a packet does nothing. -/
theorem handlePacketEnd_of_settled {receiver : TransmissionControlBlock}
    (settled : Settled receiver) : receiver.handlePacketEnd = (receiver, []) := by
  unfold TransmissionControlBlock.handlePacketEnd TransmissionControlBlock.maybeSendSack
    DataTracker.observePacketEnd DataTracker.shouldSendAck
  rcases settled with state | state
  · simp [state]
  · simp [state]

theorem finishPacket_of_settled (settled : SettledSocket socket) :
    socket.finishPacket env = socket := by
  unfold finishPacket
  split
  · rfl
  next tcb present =>
    rw [handlePacketEnd_of_settled (settled tcb present)]
    unfold updateReceiver
    rw [List.foldl_nil, ← present]

theorem tcb_relays (verificationTag : VerificationTag) (outputs : List SocketOutput)
    (socket : DcSctpSocket σ) :
    (outputs.foldl (relay env verificationTag) socket).tcb = socket.tcb := by
  induction outputs generalizing socket with
  | nil => rfl
  | cons output others ih =>
    rw [List.foldl_cons, ih]
    cases output with
    | sendError cause => exact tcb_post env _ _ socket
    | sendAbort filledIn cause => exact tcb_post env _ _ socket
    | sendSack sack => exact tcb_post env _ _ socket
    | onError error message => rfl
    | onAborted error message => rfl
    | onMessageReceived message => rfl

variable {builder : List SentChunk} {tcb : ControlBlock} {verificationTag : VerificationTag}
  {cookie : StateCookie}

theorem settled_updateReceiver {result : TransmissionControlBlock × List SocketOutput}
    (settled : Settled result.1) : SettledSocket (updateReceiver env tcb socket result) := by
  intro block present
  unfold updateReceiver at present
  rw [tcb_relays] at present
  cases present
  exact settled

theorem settled_finishPacket (socket : DcSctpSocket σ) :
    SettledSocket (socket.finishPacket env) := by
  unfold finishPacket
  split
  next absent =>
    intro tcb present
    exact absurd (absent.symm.trans present) nofun
  next tcb present => exact settled_updateReceiver env (settled_handlePacketEnd _)

theorem SettledSocket.of_tcb {after : DcSctpSocket σ} (settled : SettledSocket socket)
    (kept : after.tcb = socket.tcb ∨ after.tcb = none) : SettledSocket after := by
  intro tcb present
  rcases kept with same | gone
  · exact settled tcb (same ▸ present)
  · exact absurd (gone.symm.trans present) nofun

theorem internalClose_tcb (error : ErrorKind) (message : String) (socket : DcSctpSocket σ) :
    (socket.internalClose error message).tcb = socket.tcb ∨
      (socket.internalClose error message).tcb = none := by
  unfold internalClose
  by_cases closed : socket.state = .closed
  · rw [if_pos closed]
    exact .inl rfl
  · rw [if_neg closed, tcb_emit]
    unfold tearDown
    rw [if_neg closed]
    exact .inr rfl

theorem settled_bundleSack (settled : Settled tcb.receiver) :
    Settled (bundleSack builder tcb).2.receiver := by
  unfold bundleSack DataTracker.shouldSendAck
  rcases settled with state | state
  · simp [Settled, state]
  · simp [Settled, state, TransmissionControlBlock.createSelectiveAck,
      DataTracker.createSelectiveAck, ackState_updateAckState]

theorem tcb_send (verificationTag : VerificationTag) (chunks : List SentChunk)
    (socket : DcSctpSocket σ) : (socket.send env verificationTag chunks).2.tcb = socket.tcb :=
  tcb_post env verificationTag chunks socket

theorem tcb_bundleControlChunks (tcb : ControlBlock) (builder : List SentChunk)
    (socket : DcSctpSocket σ) :
    (bundleControlChunks env tcb builder socket).2.tcb =
      some (bundleSack (builder ++ (tcb.cookieEchoChunk.map .cookieEcho).toList) tcb).2 := by
  unfold bundleControlChunks bundleStreamReset maybeSendForwardTsn
  dsimp only
  split
  · rfl
  · exact tcb_post env _ _ _

theorem tcb_sendBurst (tcb : ControlBlock) (rounds : Nat) (builder : List SentChunk)
    (socket : DcSctpSocket σ) :
    (sendBurst env tcb rounds builder socket).tcb =
      some (bundleSack (builder ++ (tcb.cookieEchoChunk.map .cookieEcho).toList) tcb).2 :=
  sendBurst_rule env (fun after => after.tcb = _)
    (fun _ same => (tcb_send env _ _ _).trans same) rounds
    ((tcb_send env _ _ _).trans (tcb_bundleControlChunks env tcb builder socket))

theorem derefTcb_yields (socket : DcSctpSocket σ) :
    Yields socket.derefTcb fun tcb => socket.tcb = some tcb := by
  unfold derefTcb
  split
  · exact .error
  next present => exact .ok present

theorem sendBufferedPackets_settled (builder : List SentChunk) (settled : SettledSocket socket) :
    Yields (socket.sendBufferedPackets env builder) SettledSocket := by
  refine (derefTcb_yields socket).bind fun tcb present => ?_
  split
  · exact .ok settled
  split_ifs
  · refine .ok fun block isBlock => ?_
    rw [tcb_sendBurst] at isBlock
    cases isBlock
    exact settled_bundleSack (settled tcb present)
  · exact .ok settled

/-! ## Calls that do not touch the control block -/

theorem sendToPeer_tcb (chunks : List SentChunk) (socket : DcSctpSocket σ) :
    Yields (socket.sendToPeer env chunks) fun after => after.tcb = socket.tcb :=
  (derefTcb_yields socket).bind fun _ _ => .ok (tcb_post env _ chunks socket)

section

variable (socket : DcSctpSocket σ)

theorem sendShutdown_tcb : Yields (socket.sendShutdown env) fun after => after.tcb = socket.tcb :=
  (derefTcb_yields socket).bind fun _ _ => sendToPeer_tcb env _ socket

theorem maybeSendShutdownOrAck_tcb :
    Yields (socket.maybeSendShutdownOrAck env) fun after => after.tcb = socket.tcb := by
  refine (derefTcb_yields socket).bind fun _ _ => ?_
  split_ifs
  · exact .ok rfl
  · split
    · exact (sendShutdown_tcb env socket).bind fun _ same => .ok same
    · exact ((sendToPeer_tcb env _ socket).bind fun _ same => .ok same).bind
        fun _ same => .ok same
    · exact .ok rfl

theorem shutdown_tcb :
    Yields (socket.shutdown env) fun after => after.tcb = socket.tcb ∨ after.tcb = none := by
  unfold shutdown
  split
  · exact .ok (internalClose_tcb _ _ socket)
  · split_ifs
    · exact .ok (.inl rfl)
    · exact (maybeSendShutdownOrAck_tcb env _).weaken fun _ same => .inl same

theorem connect_tcb : (socket.connect env).tcb = socket.tcb := by
  unfold connect
  split_ifs
  · exact tcb_post env _ _ _
  · rfl

theorem close_tcb : (socket.close env).tcb = socket.tcb ∨ (socket.close env).tcb = none := by
  unfold close
  split_ifs
  · exact .inl rfl
  split
  · exact internalClose_tcb _ _ _
  next tcb present =>
    have closed := internalClose_tcb .noError ""
      (socket.post env tcb.peerVerificationTag [.abort true (.userInitiatedAbort "Close called")])
    exact closed

end

theorem receivePacket_settled (packet : Option SctpPacket) (settled : SettledSocket socket) :
    Yields (socket.receivePacket env packet) SettledSocket := by
  unfold receivePacket
  cases packet with
  | none => exact .ok settled
  | some packet =>
    dsimp only
    rcases validatePacket_cases packet socket with valid | ⟨message, invalid⟩
    · rw [valid]
      have any {α : Type} (value : Except Fault α) : Yields value fun _ => True :=
        fun _ _ => trivial
      exact (any _).bind fun _ _ => (any _).bind fun last _ => .ok (settled_finishPacket env last)
    · rw [invalid]
      exact .ok settled

theorem onShutdownTimerExpiry_tcb (socket : DcSctpSocket σ) :
    Yields (socket.onShutdownTimerExpiry env) fun result =>
      result.2.tcb = socket.tcb ∨ result.2.tcb = none := by
  unfold onShutdownTimerExpiry
  split_ifs
  · exact (sendShutdown_tcb env socket).bind fun _ same => .ok (.inl same)
  · refine (sendToPeer_tcb env _ socket).bind fun middle same => .ok ?_
    rw [← same]
    exact internalClose_tcb _ _ middle

theorem trigger_settled (timeout : Timeout) (settled : SettledSocket socket) :
    Yields (socket.trigger env timeout) SettledSocket := by
  unfold trigger
  split
  · split_ifs
    · unfold onInitTimerExpiry
      split_ifs
      · exact .error
      · exact .ok (settled.of_tcb (.inl (tcb_post env _ _ _)))
      · exact .ok (settled.of_tcb (internalClose_tcb _ _ _))
    · exact .ok settled
  · split_ifs
    · unfold onCookieTimerExpiry
      split_ifs
      · exact .error
      · exact sendBufferedPackets_settled env [] settled
      · exact .ok (settled.of_tcb (internalClose_tcb _ _ _))
    · exact .ok settled
  · split_ifs
    · exact (onShutdownTimerExpiry_tcb env _).bind fun ⟨_, _⟩ kept => .ok (settled.of_tcb kept)
    · exact .ok settled
  · split
    · exact .ok settled
    next tcb present =>
      refine .ok ?_
      unfold onDelayedAckTimerExpiry
      split_ifs
      · refine settled_updateReceiver env (settled_maybeSendSack ?_)
        exact (ackState_updateAckState _ _).trans_ne nofun
      · exact settled
  · split
    · exact .ok settled
    next tcb present =>
      unfold onSenderTimerExpiry
      generalize env.handleTimeout _ _ (socket.state = .established)
        tcb.cookieEchoChunk.isSome socket.sender = outcome
      obtain ⟨sendBuffered, chunks, sender⟩ := outcome
      have posted : SettledSocket (post env tcb.peerVerificationTag chunks
          { socket with sender := sender }) := settled.of_tcb (.inl (tcb_post env _ _ _))
      dsimp only
      split_ifs
      · exact sendBufferedPackets_settled env [] posted
      · exact .ok posted

theorem handleTimeout_settled (timeout : Timeout) (settled : SettledSocket socket) :
    Yields (socket.handleTimeout env timeout) SettledSocket := by
  refine (trigger_settled env timeout settled).bind fun middle settled => ?_
  split_ifs
  · refine (sendToPeer_tcb env _ middle).bind fun last same => .ok ?_
    exact (settled.of_tcb (.inl same)).of_tcb (internalClose_tcb _ _ last)
  · exact .ok settled

theorem apply_settled (call : Call σ) (settled : SettledSocket socket) :
    Yields (socket.apply env call) SettledSocket := by
  cases call with
  | connect => exact .ok (settled.of_tcb (.inl (connect_tcb env socket)))
  | shutdown => exact (shutdown_tcb env socket).weaken fun _ kept => settled.of_tcb kept
  | close => exact .ok (settled.of_tcb (close_tcb env socket))
  | receivePacket packet => exact receivePacket_settled env packet settled
  | handleTimeout timeout => exact handleTimeout_settled env timeout settled
  | elsewhere sender => exact .ok settled

theorem settled_of_run {sender : σ} {calls : List (Call σ)}
    (run : (socketCalls env).Run (.ok (create env sender)) calls (.ok socket)) :
    SettledSocket socket := by
  have settled := run.invariant (fun _ state => Yields state SettledSocket)
    (.ok fun _ present => absurd present nofun)
    fun _ state call _ yields _ => yields.bind fun _ settled => apply_settled env call settled
  exact settled socket rfl

/-! ## The effect of a COOKIE ECHO -/

/-- The packet that consists of one COOKIE ECHO with a well-formed cookie. -/
def echoPacket (verificationTag : VerificationTag) (cookie : StateCookie) : SctpPacket where
  verificationTag := verificationTag
  first := .cookieEcho (some (some cookie))

/-- Whether a packet with a COOKIE ACK is sent. -/
def sendsCookieAck : SocketEvent → Bool
  | .sendPacket packet => packet.chunks.contains .cookieAck
  | _ => false

def cookieAcks (socket : DcSctpSocket σ) : Nat :=
  socket.events.countP sendsCookieAck

def connections (socket : DcSctpSocket σ) : Nat :=
  socket.events.count .onConnected

/-- The state, the control block and the timers are as before, and nothing was announced. -/
structure Unaffected (before after : DcSctpSocket σ) : Prop where
  state : after.state = before.state
  tcb : after.tcb = before.tcb
  sender : after.sender = before.sender
  t1Init : after.t1Init = before.t1Init
  t1Cookie : after.t1Cookie = before.t1Cookie
  t2Shutdown : after.t2Shutdown = before.t2Shutdown
  connections : after.connections = before.connections
  cookieAcks : after.cookieAcks = before.cookieAcks

theorem Unaffected.refl (socket : DcSctpSocket σ) : Unaffected socket socket :=
  ⟨rfl, rfl, rfl, rfl, rfl, rfl, rfl, rfl⟩

theorem Unaffected.reported (message : String) (socket : DcSctpSocket σ) :
    Unaffected socket (socket.emit (.onError .parseFailed message)) := by
  refine ⟨rfl, rfl, rfl, rfl, rfl, rfl, ?_, ?_⟩
  · simp [DcSctpSocket.connections, emit]
  · simp [DcSctpSocket.cookieAcks, emit, sendsCookieAck]

/-- The congestion window lets the socket send a packet. -/
def maySend (socket : DcSctpSocket σ) : Bool :=
  decide (0 < env.options.maxBurst) && env.canSendData socket.sender

/-- None of the actions A, B and D is called for. -/
def Unmatched (verificationTag : VerificationTag) (cookie : StateCookie)
    (tcb : ControlBlock) : Prop :=
  ¬tcb.Restarts verificationTag cookie ∧ ¬tcb.Collides verificationTag cookie ∧
    ¬tcb.Repeats verificationTag cookie

theorem Unmatched.otherTag (unmatched : Unmatched verificationTag cookie tcb) :
    verificationTag ≠ tcb.myVerificationTag := by
  intro ours
  by_cases same : tcb.peerVerificationTag = cookie.initiateTag
  · exact unmatched.2.2 ⟨ours, same⟩
  · exact unmatched.2.1 ⟨ours, same⟩

/-- An unmatched cookie is discarded if action C is called for, and acted on else. -/
theorem handleCookieEchoWithTcb_of_unmatched (unmatched : Unmatched verificationTag cookie tcb)
    (socket : DcSctpSocket σ) :
    socket.handleCookieEchoWithTcb env verificationTag cookie tcb =
      (!decide (tcb.peerVerificationTag = cookie.initiateTag ∧ cookie.tieTag = 0), socket) := by
  have otherTag := unmatched.otherTag
  have notRestarts : ¬(verificationTag ≠ tcb.myVerificationTag ∧
      tcb.peerVerificationTag ≠ cookie.initiateTag ∧ cookie.tieTag = tcb.tieTag) := unmatched.1
  unfold handleCookieEchoWithTcb
  rw [if_neg notRestarts, if_neg fun ours => otherTag ours.1]
  by_cases arrivesLate : tcb.peerVerificationTag = cookie.initiateTag ∧ cookie.tieTag = 0
  · rw [if_pos ⟨otherTag, arrivesLate⟩, decide_eq_true arrivesLate]
    rfl
  · rw [if_neg fun late => arrivesLate late.2, decide_eq_false arrivesLate]
    rfl

/-- What becomes of a COOKIE ECHO without a tag that could be checked before it is handled. -/
theorem receivePacket_echo (tagged : verificationTag ≠ 0) (socket : DcSctpSocket σ) :
    socket.receivePacket env (some (echoPacket verificationTag cookie)) =
      socket.handleCookieEcho env verificationTag (some cookie) >>= fun after =>
        .ok (after.finishPacket env) := by
  have valid : socket.validatePacket (echoPacket verificationTag cookie) = (true, socket) := by
    exact if_neg tagged
  have noData : socket.maybeSendShutdownOnPacketReceived env
      (echoPacket verificationTag cookie) = .ok socket := by
    exact if_neg fun sent => absurd sent.2 nofun
  unfold receivePacket
  simp only [valid, noData, ok_bind]
  unfold SctpPacket.descriptors
  simp only [echoPacket, dispatchAll, dispatch, whenParsed]
  cases socket.handleCookieEcho env verificationTag (some cookie) with
  | error fault => rfl
  | ok after => rfl

/-! ## The COOKIE ACK is sent -/

section

variable (verificationTag : VerificationTag) (chunks : List SentChunk) (socket : DcSctpSocket σ)

theorem cookieAcks_send :
    (socket.send env verificationTag chunks).2.cookieAcks =
      socket.cookieAcks + if chunks.contains .cookieAck then 1 else 0 := by
  cases chunks with
  | nil => rfl
  | cons chunk others =>
    have counted : (socket.send env verificationTag (chunk :: others)).2.events =
        socket.events ++ [.sendPacket ⟨verificationTag, chunk :: others⟩] := rfl
    unfold cookieAcks
    rw [counted, List.countP_append, List.countP_singleton]
    rfl

theorem cookieAcks_le_send :
    socket.cookieAcks ≤ (socket.send env verificationTag chunks).2.cookieAcks := by
  rw [cookieAcks_send]
  exact Nat.le_add_right _ _

end

theorem cookieAcks_lt_send {chunks : List SentChunk} (acknowledges : .cookieAck ∈ chunks)
    (verificationTag : VerificationTag) (socket : DcSctpSocket σ) :
    socket.cookieAcks < (socket.send env verificationTag chunks).2.cookieAcks := by
  rw [cookieAcks_send, if_pos (List.contains_iff_mem.mpr acknowledges)]
  exact Nat.lt_succ_self _

theorem cookieAcks_le_sendFilled (tcb : ControlBlock) (builder : List SentChunk)
    (socket : DcSctpSocket σ) :
    socket.cookieAcks ≤ (sendFilled env tcb builder socket).2.cookieAcks := by
  unfold sendFilled
  rw [cookieAcks_send]
  exact Nat.le_add_right _ _

theorem cookieAcks_lt_sendFilled (tcb : ControlBlock) (acknowledges : .cookieAck ∈ builder)
    (socket : DcSctpSocket σ) :
    socket.cookieAcks < (sendFilled env tcb builder socket).2.cookieAcks := by
  unfold sendFilled
  rw [cookieAcks_send, if_pos (List.contains_iff_mem.mpr (List.mem_append_left _ acknowledges))]
  exact Nat.lt_succ_self _

/-- The COOKIE ACK is still to be sent, or has gone with a FORWARD TSN. -/
theorem cookieAcks_maybeSendForwardTsn (verificationTag : VerificationTag)
    (acknowledges : .cookieAck ∈ builder) (socket : DcSctpSocket σ) :
    let result := maybeSendForwardTsn env verificationTag builder socket
    .cookieAck ∈ result.1 ∧ socket.cookieAcks ≤ result.2.cookieAcks ∨
      socket.cookieAcks < result.2.cookieAcks := by
  unfold maybeSendForwardTsn
  split
  · exact .inl ⟨acknowledges, le_rfl⟩
  next chunk sender _ =>
    exact .inr (cookieAcks_lt_send env (List.mem_append_left [chunk] acknowledges)
      verificationTag { socket with sender := sender })

theorem cookieAcks_bundleControlChunks (tcb : ControlBlock) (acknowledges : .cookieAck ∈ builder)
    (socket : DcSctpSocket σ) :
    let result := bundleControlChunks env tcb builder socket
    .cookieAck ∈ result.1 ∧ socket.cookieAcks ≤ result.2.cookieAcks ∨
      socket.cookieAcks < result.2.cookieAcks := by
  have bundled : SentChunk.cookieAck ∈
      (bundleSack (builder ++ (tcb.cookieEchoChunk.map .cookieEcho).toList) tcb).1 := by
    unfold bundleSack
    dsimp only
    split_ifs
    · simp [acknowledges]
    · simp [acknowledges]
  unfold bundleControlChunks
  dsimp only
  generalize bundleSack (builder ++ (tcb.cookieEchoChunk.map .cookieEcho).toList) tcb = sacked
    at bundled
  obtain ⟨packet, block⟩ := sacked
  have forwarded := cookieAcks_maybeSendForwardTsn env tcb.peerVerificationTag bundled
    { socket with tcb := some block }
  generalize maybeSendForwardTsn env tcb.peerVerificationTag packet
    { socket with tcb := some block } = result at forwarded
  rcases forwarded with ⟨inPacket, before⟩ | sent
  · exact .inl ⟨List.mem_append_left _ inPacket, before⟩
  · exact .inr sent

theorem cookieAcks_lt_sendBurst (tcb : ControlBlock) (rounds : Nat)
    (acknowledges : .cookieAck ∈ builder) (socket : DcSctpSocket σ) :
    socket.cookieAcks < (sendBurst env tcb rounds builder socket).cookieAcks := by
  refine sendBurst_rule env (fun after => socket.cookieAcks < after.cookieAcks)
    (fun next sent => sent.trans_le ?_) rounds ?_
  · exact cookieAcks_le_sendFilled env tcb [] next
  · rcases cookieAcks_bundleControlChunks env tcb acknowledges socket with ⟨inPacket, before⟩ | sent
    · exact before.trans_lt (cookieAcks_lt_sendFilled env tcb inPacket _)
    · exact sent.trans_le (cookieAcks_le_sendFilled env tcb _ _)

theorem cookieAcks_le_finishPacket (socket : DcSctpSocket σ) :
    socket.cookieAcks ≤ (socket.finishPacket env).cookieAcks := by
  have relays (verificationTag : VerificationTag) (outputs : List SocketOutput)
      (socket : DcSctpSocket σ) :
      socket.cookieAcks ≤ (outputs.foldl (relay env verificationTag) socket).cookieAcks := by
    induction outputs generalizing socket with
    | nil => exact le_rfl
    | cons output others ih =>
      refine le_trans ?_ (ih _)
      cases output with
      | sendError cause => exact cookieAcks_le_send env _ _ _
      | sendAbort filledIn cause => exact cookieAcks_le_send env _ _ _
      | sendSack sack => exact cookieAcks_le_send env _ _ _
      | onError error message => simp [relay, emit, cookieAcks]
      | onAborted error message => simp [relay, emit, cookieAcks]
      | onMessageReceived message => simp [relay, emit, cookieAcks]
  unfold finishPacket
  split
  · exact le_rfl
  next tcb present =>
    exact relays tcb.peerVerificationTag tcb.receiver.handlePacketEnd.2 { socket with
      tcb := some { tcb with receiver := tcb.receiver.handlePacketEnd.1 } }

/-! ## The characterisation -/

/-- Nothing comes of the cookie, where the association is established and cannot send. -/
theorem establish_of_silent (linked : socket.control.Linked) (present : socket.tcb = some tcb)
    (established : socket.state = .established) (silent : socket.maySend env = false)
    (cookie : StateCookie) : socket.establish env cookie = .ok socket := by
  have noInit : socket.t1Init.isRunning = false := by
    simpa [control, established] using linked.t1Init
  have noCookie : socket.t1Cookie.isRunning = false := by
    simpa [control, established] using linked.t1Cookie
  have stopped : socket.stopT1 = socket := by
    unfold stopT1
    rw [Timer.stop_eq_self noInit, Timer.stop_eq_self noCookie]
  have entered : socket.enterEstablished = socket := if_pos established
  have opened : socket.openWithCookie env cookie = socket := by
    unfold openWithCookie
    simp [present]
  unfold establish
  rw [stopped, entered, opened]
  unfold sendBufferedPackets
  rw [derefTcb_eq present, ok_bind]
  unfold maySend at silent
  split
  · rfl
  next rounds burst =>
    have cannot : env.canSendData socket.sender = false := by simpa [burst] using silent
    rw [if_neg (by simp [cannot])]

/-- A cookie that is acted on changes the state or is acknowledged. -/
theorem establish_affects (linked : socket.control.Linked) (present : socket.tcb = some tcb)
    (cookie : StateCookie) (mayAct : socket.state = .established → socket.maySend env = true) :
    Yields (socket.establish env cookie) fun after =>
      after.state ≠ socket.state ∨ socket.cookieAcks < after.cookieAcks := by
  by_cases established : socket.state = .established
  · have entered : socket.stopT1.enterEstablished = socket.stopT1 := if_pos established
    have stillPresent : socket.stopT1.tcb = some tcb := present
    have opened : socket.stopT1.openWithCookie env cookie = socket.stopT1 := by
      unfold openWithCookie
      simp [stillPresent]
    obtain ⟨burst, can⟩ := Bool.and_eq_true_iff.mp (mayAct established)
    unfold establish
    rw [entered, opened]
    unfold sendBufferedPackets
    rw [derefTcb_eq stillPresent, ok_bind]
    split
    next none =>
      rw [none] at burst
      cases burst
    next rounds _ =>
      rw [if_pos (show env.canSendData socket.stopT1.sender = true from can)]
      exact .ok (.inr (cookieAcks_lt_sendBurst env tcb rounds (List.mem_singleton_self _)
        socket.stopT1))
  · intro after done
    obtain ⟨result, returned, echo, final⟩ := establish_ensures env cookie linked.messages
    cases done.symm.trans returned
    have now : after.state = .established := congrArg Control.state final
    exact .inl fun same => established (same.symm.trans now)

theorem state_finishPacket (socket : DcSctpSocket σ) :
    (socket.finishPacket env).state = socket.state := by
  unfold finishPacket
  split
  · rfl
  · exact congrArg Control.state (control_relays env _ _ _)

/-- A COOKIE ECHO without a tag does not get past the check of the packet. -/
theorem receivePacket_untagged (cookie : StateCookie) (socket : DcSctpSocket σ) :
    ∃ message, socket.receivePacket env (some (echoPacket 0 cookie)) =
      .ok (socket.emit (.onError .parseFailed message)) :=
  ⟨_, rfl⟩

theorem unmatchedEcho_iff {sender : σ} {calls : List (Call σ)} {tcb : ControlBlock}
    (run : (socketCalls env).Run (.ok (create env sender)) calls (.ok socket))
    (present : socket.tcb = some tcb) (verificationTag : VerificationTag) (cookie : StateCookie)
    (unmatched : Unmatched verificationTag cookie tcb) :
    (∃ after, socket.receivePacket env (some (echoPacket verificationTag cookie)) = .ok after ∧
        Unaffected socket after) ↔
      verificationTag = 0 ∨
      tcb.peerVerificationTag = cookie.initiateTag ∧ cookie.tieTag = 0 ∨
      socket.state = .established ∧ socket.maySend env = false := by
  obtain ⟨_, ⟨⟩, linked⟩ := linked_of_run env run
  have settled := settled_of_run env run
  by_cases untagged : verificationTag = 0
  · obtain ⟨message, reported⟩ := receivePacket_untagged env cookie socket
    rw [untagged]
    exact iff_of_true ⟨_, reported, .reported message socket⟩ (.inl rfl)
  · rw [receivePacket_echo env untagged]
    unfold handleCookieEcho
    simp only [present, handleCookieEchoWithTcb_of_unmatched env unmatched]
    by_cases arrivesLate : tcb.peerVerificationTag = cookie.initiateTag ∧ cookie.tieTag = 0
    · refine iff_of_true ⟨socket, ?_, .refl socket⟩ (.inr (.inl arrivesLate))
      simp only [arrivesLate, and_self, decide_true, Bool.not_true, ok_bind,
        finishPacket_of_settled env settled]
    · simp only [arrivesLate, decide_false, Bool.not_false, untagged, false_or]
      constructor
      · rintro ⟨after, done, unaffected⟩
        by_contra acts
        have mayAct : socket.state = .established → socket.maySend env = true := fun now =>
          Bool.not_eq_false _ ▸ fun silent => acts ⟨now, silent⟩
        have affects := establish_affects env linked present cookie mayAct
        cases accepted : socket.establish env cookie with
        | error fault =>
          rw [accepted] at done
          cases done
        | ok middle =>
          rw [accepted, ok_bind] at done
          obtain rfl := Except.ok.inj done
          rcases affects middle accepted with moved | acknowledged
          · exact moved ((state_finishPacket env middle).symm.trans unaffected.state)
          · have kept := cookieAcks_le_finishPacket env middle
            have same := unaffected.cookieAcks
            omega
      · rintro ⟨established, silent⟩
        refine ⟨socket, ?_, .refl socket⟩
        rw [establish_of_silent env linked present established silent, ok_bind,
          finishPacket_of_settled env settled]

/-! ## A handshake that is not over -/

/-- The INIT ACK of a peer with the tag 9, for a socket that has the tag 7. -/
def initAckFromNine : Call Unit :=
  .receivePacket (some
    { verificationTag := 7
      first := .initAck (some
        { initiateTag := 9
          aRwnd := 100000
          nbrOutboundStreams := 10
          nbrInboundStreams := 10
          initialTsn := 1
          parameters := { stateCookie := some [1, 2, 3] } }) })

/-- A cookie that anyone can make up. -/
def madeUpCookie (initiateTag : VerificationTag) (tieTag : TieTag) : StateCookie where
  initiateTag := initiateTag
  initialTsn := 1
  aRwnd := 100000
  tieTag := tieTag
  capabilities := {}

/-- Our side has sent its COOKIE ECHO and waits for the answer. -/
theorem exists_cookieEchoed : ∃ socket tcb,
    (socketCalls noMessages).Run (.ok (create noMessages ())) [.connect, initAckFromNine]
      (.ok socket) ∧
    socket.tcb = some tcb ∧ socket.state = .cookieEchoed ∧ tcb.myVerificationTag = 7 ∧
    tcb.peerVerificationTag = 9 ∧ tcb.tieTag ≠ 1 := by
  have run : (socketCalls noMessages).Run (.ok (create noMessages ())) [.connect, initAckFromNine] _ :=
    .of_always (fun _ _ => trivial) _ _
  obtain ⟨socket, returned, -⟩ := linked_of_run noMessages run
  have facts : (((socketCalls noMessages).outcome (.ok (create noMessages ()))
      [.connect, initAckFromNine]).toOption.bind fun socket => socket.tcb.map fun tcb =>
      (socket.state, tcb.myVerificationTag, tcb.peerVerificationTag, decide (tcb.tieTag = 1))) =
      some (.cookieEchoed, 7, 9, false) := by
    decide +kernel
  rw [returned] at run facts
  obtain ⟨tcb, present, values⟩ := Option.map_eq_some_iff.mp facts
  simp only [Prod.mk.injEq, decide_eq_false_iff_not] at values
  exact ⟨socket, tcb, run, present, values⟩

/-- A cookie of the peer's tag without a tie tag is discarded. -/
theorem unmatchedEcho_discarded : ∃ socket tcb,
    (socketCalls noMessages).Run (.ok (create noMessages ())) [.connect, initAckFromNine]
      (.ok socket) ∧
    socket.tcb = some tcb ∧ Unmatched 8 (madeUpCookie 9 0) tcb ∧
    ∃ after, socket.receivePacket noMessages (some (echoPacket 8 (madeUpCookie 9 0))) =
      .ok after ∧ Unaffected socket after := by
  obtain ⟨socket, tcb, run, present, -, mine, peer, -⟩ := exists_cookieEchoed
  have unmatched : Unmatched 8 (madeUpCookie 9 0) tcb := by
    simp [Unmatched, ControlBlock.Restarts, ControlBlock.Collides, ControlBlock.Repeats,
      madeUpCookie, mine, peer]
  refine ⟨socket, tcb, run, present, unmatched, ?_⟩
  exact (unmatchedEcho_iff noMessages run present 8 (madeUpCookie 9 0) unmatched).mpr
    (.inr (.inl ⟨peer, rfl⟩))

/-- A cookie that fits in no way at all completes the handshake. -/
theorem unmatchedEcho_establishes : ∃ socket tcb after,
    (socketCalls noMessages).Run (.ok (create noMessages ())) [.connect, initAckFromNine]
      (.ok socket) ∧
    socket.tcb = some tcb ∧ Unmatched 8 (madeUpCookie 5 1) tcb ∧
    socket.receivePacket noMessages (some (echoPacket 8 (madeUpCookie 5 1))) = .ok after ∧
    socket.state = .cookieEchoed ∧ after.state = .established := by
  obtain ⟨socket, tcb, run, present, echoed, mine, peer, tie⟩ := exists_cookieEchoed
  have unmatched : Unmatched 8 (madeUpCookie 5 1) tcb := by
    simp only [Unmatched, ControlBlock.Collides, ControlBlock.Repeats, mine, peer]
    exact ⟨fun restarts => tie restarts.2.2.symm, by decide, by decide⟩
  obtain ⟨_, ⟨⟩, linked⟩ := linked_of_run noMessages run
  obtain ⟨after, accepted, echo, final⟩ := establish_ensures noMessages (madeUpCookie 5 1)
    linked.messages
  have notLate : ¬(tcb.peerVerificationTag = (madeUpCookie 5 1).initiateTag ∧
      (madeUpCookie 5 1).tieTag = 0) := by
    simp [madeUpCookie]
  refine ⟨socket, tcb, after.finishPacket noMessages, run, present, unmatched, ?_, echoed, ?_⟩
  · rw [receivePacket_echo noMessages (by decide)]
    unfold handleCookieEcho
    simp only [present, handleCookieEchoWithTcb_of_unmatched noMessages unmatched, notLate,
      decide_false, Bool.not_false, accepted, ok_bind]
  · rw [state_finishPacket]
    exact congrArg Control.state final

end MaeRtc.DcSctp.DcSctpSocket
