import MaeRtc.DcSctp.SocketMoves

/-!
# The consistency of a socket

In every run there is a control block whenever one is used, and the timers of the
handshake that opens an association run exactly in the states that expect them.
The timer of the shutdown does not: a COOKIE ECHO that is acted on while the
answer to a shutdown is awaited makes the association an established one again,
with the timer still running.  As long as no such COOKIE ECHO arrives, and every
COOKIE ECHO is the first chunk of its packet, the socket is consistent after every
call.
-/

namespace MaeRtc.DcSctp

/-- Whether the chunk is a COOKIE ECHO. -/
def ChunkDescriptor.isCookieEcho : ChunkDescriptor → Bool
  | .cookieEcho _ => true
  | _ => false

/-! The actions of RFC 4960, section 5.2.4, by the tags of the packet and its cookie. -/

/-- Action A: the peer may have restarted. -/
def ControlBlock.Restarts (verificationTag : VerificationTag) (cookie : StateCookie)
    (tcb : ControlBlock) : Prop :=
  verificationTag ≠ tcb.myVerificationTag ∧ tcb.peerVerificationTag ≠ cookie.initiateTag ∧
    cookie.tieTag = tcb.tieTag

/-- Action B: both sides may be starting an association at about the same time. -/
def ControlBlock.Collides (verificationTag : VerificationTag) (cookie : StateCookie)
    (tcb : ControlBlock) : Prop :=
  verificationTag = tcb.myVerificationTag ∧ tcb.peerVerificationTag ≠ cookie.initiateTag

/-- Action C: the cookie has arrived late. -/
def ControlBlock.ArrivesLate (verificationTag : VerificationTag) (cookie : StateCookie)
    (tcb : ControlBlock) : Prop :=
  verificationTag ≠ tcb.myVerificationTag ∧ tcb.peerVerificationTag = cookie.initiateTag ∧
    cookie.tieTag = 0

/-- Action D: both tags match. -/
def ControlBlock.Repeats (verificationTag : VerificationTag) (cookie : StateCookie)
    (tcb : ControlBlock) : Prop :=
  verificationTag = tcb.myVerificationTag ∧ tcb.peerVerificationTag = cookie.initiateTag

instance ControlBlock.decidableRestarts (verificationTag : VerificationTag)
    (cookie : StateCookie) (tcb : ControlBlock) : Decidable (tcb.Restarts verificationTag cookie) :=
  inferInstanceAs (Decidable (_ ∧ _ ∧ _))

instance ControlBlock.decidableArrivesLate (verificationTag : VerificationTag)
    (cookie : StateCookie) (tcb : ControlBlock) :
    Decidable (tcb.ArrivesLate verificationTag cookie) :=
  inferInstanceAs (Decidable (_ ∧ _ ∧ _))

namespace DcSctpSocket

open MaeRtc.Base
open Control

variable {σ : Type} (env : Surroundings σ) {late : Prop} {socket : DcSctpSocket σ}

/-- The tags or the state say that nothing comes of the cookie. -/
def Discards (verificationTag : VerificationTag) (cookie : StateCookie) (tcb : ControlBlock)
    (socket : DcSctpSocket σ) : Prop :=
  tcb.ArrivesLate verificationTag cookie ∨
    tcb.Restarts verificationTag cookie ∧ socket.state = .shutdownAckSent

instance decidableDiscards (verificationTag : VerificationTag) (cookie : StateCookie)
    (tcb : ControlBlock) : Decidable (socket.Discards verificationTag cookie tcb) :=
  inferInstanceAs (Decidable (_ ∨ _ ∧ _))

variable {tcb : ControlBlock}

theorem not_accepted_of_discards {verificationTag : VerificationTag} {cookie : StateCookie}
    (discards : socket.Discards verificationTag cookie tcb) :
    (socket.handleCookieEchoWithTcb env verificationTag cookie tcb).1 = false := by
  unfold handleCookieEchoWithTcb
  rcases discards with ⟨otherTag, samePeer, noTie⟩ | ⟨⟨otherTag, otherPeer, sameTie⟩, ackSent⟩
  · simp [otherTag, samePeer, noTie]
  · simp [otherTag, otherPeer, sameTie, ackSent]

/-! ## Packets -/

theorem dispatch_follows (verificationTag : VerificationTag) (descriptor : ChunkDescriptor)
    (linked : socket.control.Linked)
    (allowed : ∀ cookie tcb, descriptor = .cookieEcho (some (some cookie)) → socket.tcb = some tcb →
      (socket.handleCookieEchoWithTcb env verificationTag cookie tcb).1 = true →
      socket.control.Awaiting → late) :
    Ensures (socket.dispatch env verificationTag descriptor) fun result =>
      Moves late socket.control result.2.control := by
  have going {result : Except Fault (DcSctpSocket σ)} (follows : Follows late socket result) :
      Ensures ((true, ·) <$> result) fun result => Moves late socket.control result.2.control :=
    Ensures.map follows
  cases descriptor with
  | data chunk =>
    exact going (whenParsed_follows fun content _ => whenConnected_follows fun _ present =>
      handleDataCommon_follows env content linked present)
  | init chunk => exact going (whenParsed_follows fun content _ =>
    handleInit_follows env content linked)
  | initAck chunk => exact going (whenParsed_follows fun content _ =>
    handleInitAck_follows env content)
  | sack chunk =>
    exact going (whenParsed_follows fun content _ => whenConnected_follows fun _ present =>
      handleSack_follows env content linked present)
  | heartbeatRequest parameters =>
    exact going (whenParsed_follows fun content _ => whenConnected_follows fun _ present =>
      handleHeartbeatRequest_follows env content present)
  | heartbeatAck parameters =>
    exact going (whenParsed_follows fun content _ => whenConnected_follows fun _ _ =>
      handleHeartbeatAck_follows env content)
  | abort flags errorCauses => exact going (whenParsed_follows fun content _ =>
    handleAbort_follows content)
  | shutdown parses => exact going (whenParsed_follows fun _ _ =>
    handleShutdown_follows env linked)
  | shutdownAck parses => exact going (whenParsed_follows fun _ _ =>
    handleShutdownAck_follows env verificationTag linked)
  | error errorCauses => exact going (whenParsed_follows fun content _ =>
    handleError_follows content)
  | cookieEcho cookie =>
    refine going (whenParsed_follows fun content parsed => ?_)
    refine handleCookieEcho_follows env verificationTag content linked ?_
    intro cookie tcb deserialized
    exact allowed cookie tcb (by rw [parsed, deserialized])
  | cookieAck parses => exact going (whenParsed_follows fun _ _ =>
    handleCookieAck_follows env linked)
  | shutdownComplete flags parses => exact going (whenParsed_follows fun _ _ =>
    handleShutdownComplete_follows)
  | iData chunk =>
    exact going (whenParsed_follows fun content _ => whenConnected_follows fun _ present =>
      handleDataCommon_follows env content linked present)
  | reConfig parameters =>
    exact going (whenParsed_follows fun content _ => whenConnected_follows fun _ present =>
      handleReconfig_follows env content linked present)
  | forwardTsn chunk =>
    exact going (whenParsed_follows fun content _ => whenConnected_follows fun _ present =>
      handleForwardTsnCommon_follows env content linked present)
  | iForwardTsn chunk =>
    exact going (whenParsed_follows fun content _ => whenConnected_follows fun _ present =>
      handleForwardTsnCommon_follows env content linked present)
  | unrecognized type =>
    refine .ok ?_
    rw [control_handleUnrecognizedChunk]

theorem dispatchAll_cons_follows {verificationTag : VerificationTag} {descriptor : ChunkDescriptor}
    {rest : List ChunkDescriptor}
    (dispatched : Ensures (socket.dispatch env verificationTag descriptor) fun result =>
      Moves late socket.control result.2.control)
    (linked : socket.control.Linked)
    (others : ∀ middle : DcSctpSocket σ, middle.control.Linked →
      Follows late middle (dispatchAll env verificationTag rest middle)) :
    Follows late socket (dispatchAll env verificationTag (descriptor :: rest) socket) := by
  refine Ensures.bind dispatched fun ⟨goOn, middle⟩ moves => ?_
  cases goOn with
  | false => exact Follows.ok moves
  | true =>
    exact (others middle (moves.linked linked)).weaken fun _ more => moves.trans more

theorem dispatchAll_follows (verificationTag : VerificationTag) (descriptors : List ChunkDescriptor)
    (linked : socket.control.Linked)
    (allowed : ∀ descriptor ∈ descriptors, descriptor.isCookieEcho = true → late) :
    Follows late socket (dispatchAll env verificationTag descriptors socket) := by
  induction descriptors generalizing socket with
  | nil => exact .stay rfl
  | cons descriptor rest ih =>
    obtain ⟨now, later⟩ := List.forall_mem_cons.mp allowed
    refine dispatchAll_cons_follows env ?_ linked fun _ linked => ih linked later
    exact dispatch_follows env verificationTag descriptor linked
      fun _ _ isEcho _ _ _ => now (isEcho ▸ rfl)

/-- A SHUTDOWN that answers data changes neither the state nor the control block. -/
theorem maybeSendShutdownOnPacketReceived_ensures (packet : SctpPacket)
    (linked : socket.control.Linked) :
    Ensures (socket.maybeSendShutdownOnPacketReceived env packet) fun after =>
      Moves late socket.control after.control ∧ after.state = socket.state ∧
        after.tcb = socket.tcb := by
  unfold maybeSendShutdownOnPacketReceived
  dsimp only
  split_ifs with sent
  · have open' : socket.control.tcb = true := by
      rw [linked.tcb]
      simp [control, sent.1]
    obtain ⟨tcb, present⟩ := exists_tcb open'
    unfold sendShutdown
    rw [derefTcb_eq present, ok_bind, sendToPeer_eq env present, ok_bind]
    refine .ok ⟨.single ?_, state_post env _ _ socket, tcb_post env _ _ socket⟩
    exact .shutdownAgain (.inl sent.1)
  · exact .ok ⟨.refl, rfl, rfl⟩

/-- A packet that does not pass is reported, and changes nothing else. -/
theorem validatePacket_cases (packet : SctpPacket) (socket : DcSctpSocket σ) :
    socket.validatePacket packet = (true, socket) ∨
      ∃ message, socket.validatePacket packet =
        (false, socket.emit (.onError .parseFailed message)) := by
  have reflected (flags : Octet) (message : String) :
      socket.validateReflectedTag packet.verificationTag flags message = (true, socket) ∨
        ∃ text, socket.validateReflectedTag packet.verificationTag flags message =
          (false, socket.emit (.onError .parseFailed text)) := by
    unfold validateReflectedTag
    split_ifs
    · exact .inl rfl
    · exact .inr ⟨message, rfl⟩
  have expected (tag : VerificationTag) :
      socket.validateTag packet.verificationTag tag = (true, socket) ∨
        ∃ text, socket.validateTag packet.verificationTag tag =
          (false, socket.emit (.onError .parseFailed text)) := by
    unfold validateTag
    split_ifs
    · exact .inl rfl
    · exact .inr ⟨_, rfl⟩
  unfold validatePacket
  split_ifs
  · split
    · exact .inl rfl
    · exact .inr ⟨_, rfl⟩
  split
  · exact reflected _ _
  · exact expected _
  · exact .inl rfl
  · exact reflected _ _
  · exact expected _

/--
A COOKIE ECHO is the first chunk of its packet, and while the answer to a shutdown
is awaited, it is one that is discarded.
-/
def inTime (packet : SctpPacket) (socket : DcSctpSocket σ) : Bool :=
  !packet.rest.any ChunkDescriptor.isCookieEcho &&
    match packet.first, socket.tcb with
    | .cookieEcho (some (some cookie)), some tcb =>
      decide (socket.control.Awaiting → socket.Discards packet.verificationTag cookie tcb)
    | _, _ => true

theorem discards_of_inTime {packet : SctpPacket} (timely : socket.inTime packet = true)
    {cookie : StateCookie} (isEcho : packet.first = .cookieEcho (some (some cookie)))
    (present : socket.tcb = some tcb) (awaiting : socket.control.Awaiting) :
    socket.Discards packet.verificationTag cookie tcb := by
  unfold inTime at timely
  rw [isEcho, present, Bool.and_eq_true] at timely
  exact of_decide_eq_true timely.2 awaiting

theorem finishPacket_control (linked : socket.control.Linked) :
    (socket.finishPacket env).control = socket.control := by
  unfold finishPacket
  split
  · rfl
  next tcb present =>
    refine control_updateReceiver env present linked.messages ?_
    have quiet := quiet_of_control linked.messages present
    unfold TransmissionControlBlock.handlePacketEnd TransmissionControlBlock.maybeSendSack
    dsimp only
    split_ifs
    · exact quiet
    · exact quiet

theorem receivePacket_follows (packet : Option SctpPacket) (linked : socket.control.Linked)
    (allowed : ∀ content, packet = some content → late ∨ socket.inTime content = true) :
    Follows late socket (socket.receivePacket env packet) := by
  unfold receivePacket
  cases packet with
  | none => exact .stay rfl
  | some packet =>
    have allowed := allowed packet rfl
    dsimp only
    rcases validatePacket_cases packet socket with valid | ⟨message, invalid⟩
    · rw [valid]
      have answered : Ensures (socket.maybeSendShutdownOnPacketReceived env packet)
          fun middle => Moves late socket.control middle.control ∧
            middle.state = socket.state ∧ middle.tcb = socket.tcb :=
        maybeSendShutdownOnPacketReceived_ensures env packet linked
      refine answered.bind fun middle ⟨moves, sameState, sameTcb⟩ => ?_
      have middleLinked := moves.linked linked
      have dispatched : Follows late middle
          (dispatchAll env packet.verificationTag packet.descriptors middle) := by
        rcases allowed with late | timely
        · exact dispatchAll_follows env _ _ middleLinked fun _ _ _ => late
        have noOther : packet.rest.any ChunkDescriptor.isCookieEcho = false := by
          unfold inTime at timely
          rw [Bool.and_eq_true, Bool.not_eq_true'] at timely
          exact timely.1
        refine dispatchAll_cons_follows env ?_ middleLinked fun _ linked => ?_
        · refine dispatch_follows env _ packet.first middleLinked ?_
          intro cookie tcb isEcho present accepted awaiting
          -- Nothing that the decision looks at has changed since the packet arrived.
          have discards := discards_of_inTime timely isEcho (sameTcb ▸ present)
            (by unfold Awaiting control; rw [← sameState]; exact awaiting)
          unfold Discards at discards
          rw [← sameState] at discards
          rw [not_accepted_of_discards env discards] at accepted
          cases accepted
        · refine dispatchAll_follows env _ _ linked fun descriptor inRest isEcho => ?_
          exact absurd isEcho (by simpa using List.any_eq_false.mp noOther descriptor inRest)
      refine Ensures.bind dispatched fun last more => .ok ?_
      rw [finishPacket_control env (more.linked middleLinked)]
      exact moves.trans more
    · rw [invalid]
      exact .stay rfl

/-! ## Timeouts -/

/-- Whatever has happened before, closing leads to the same control. -/
theorem closing_follows {other : DcSctpSocket σ} {error : ErrorKind} {message : String}
    (sameState : other.state = socket.state) (notClosed : socket.state ≠ .closed) :
    Follows late socket (.ok (other.internalClose error message)) := by
  refine .move ?_
  rw [control_internalClose (sameState ▸ notClosed)]
  exact .tearDown notClosed

section

variable (linked : socket.control.Linked)
include linked

theorem onInitTimerExpiry_follows (running : socket.t1Init.isRunning = true) :
    Follows late socket
      (onInitTimerExpiry env { socket with t1Init := socket.t1Init.expire }) := by
  have waiting : socket.state = .cookieWait := linked.t1Init.mp running
  unfold onInitTimerExpiry
  rw [if_neg (not_not.mpr waiting)]
  split_ifs with again
  · refine .stay ?_
    unfold sendInit
    rw [control_post]
    unfold control
    rw [again, running]
    rfl
  · exact closing_follows rfl (by rw [waiting]; decide)

theorem onCookieTimerExpiry_follows (running : socket.t1Cookie.isRunning = true) :
    Follows late socket
      (onCookieTimerExpiry env { socket with t1Cookie := socket.t1Cookie.expire }) := by
  have echoed : socket.state = .cookieEchoed := linked.t1Cookie.mp running
  unfold onCookieTimerExpiry
  rw [if_neg (not_not.mpr echoed)]
  split_ifs with again
  · have same : { socket with t1Cookie := socket.t1Cookie.expire }.control = socket.control := by
      unfold control
      rw [again, running]
      rfl
    refine .of_control same (sendBufferedPackets_follows env [] (same ▸ linked) ?_)
    rw [same, linked.tcb]
    simp [control, echoed]
  · exact closing_follows rfl (by rw [echoed]; decide)

theorem onShutdownTimerExpiry_ensures (running : socket.t2Shutdown.isRunning = true) :
    Ensures (onShutdownTimerExpiry env { socket with t2Shutdown := socket.t2Shutdown.expire })
      fun result => Moves late socket.control result.2.control := by
  have open' : socket.control.tcb = true := linked.t2Shutdown running
  unfold onShutdownTimerExpiry
  split_ifs with again
  · have same : { socket with t2Shutdown := socket.t2Shutdown.expire }.control =
        socket.control := by
      unfold control
      rw [again, running]
      rfl
    refine Ensures.bind (sendShutdown_ensures env open') fun middle unchanged => .ok ?_
    rw [unchanged, same]
  · obtain ⟨tcb, present⟩ := exists_tcb open'
    have notClosed := (linked.tcb.mp open').1
    have still : { socket with t2Shutdown := socket.t2Shutdown.expire }.tcb = some tcb := present
    rw [sendToPeer_eq env still, ok_bind]
    refine .ok ?_
    rw [control_internalClose (by rw [state_post]; exact notClosed)]
    exact .single (.tearDown notClosed)

theorem onSenderTimerExpiry_follows (timer : SenderTimer) (generation : BitVec 32)
    (present : socket.tcb = some tcb) :
    Follows late socket (socket.onSenderTimerExpiry env timer generation tcb) := by
  unfold onSenderTimerExpiry
  generalize env.handleTimeout timer generation (socket.state = .established)
    tcb.cookieEchoChunk.isSome socket.sender = outcome
  obtain ⟨sendBuffered, chunks, sender⟩ := outcome
  have same : (post env tcb.peerVerificationTag chunks
      { socket with sender := sender }).control = socket.control := control_post env _ _ _
  dsimp only
  split_ifs
  · exact .of_control same (sendBufferedPackets_follows env [] (same ▸ linked)
      (same ▸ tcb_control present))
  · exact .stay same

theorem onDelayedAckTimerExpiry_control (present : socket.tcb = some tcb) :
    (socket.onDelayedAckTimerExpiry env tcb).control = socket.control := by
  have quiet := quiet_of_control linked.messages present
  unfold onDelayedAckTimerExpiry
  split_ifs
  · refine control_updateReceiver env present linked.messages ?_
    unfold TransmissionControlBlock.onDelayedAckTimerExpiry TransmissionControlBlock.maybeSendSack
    dsimp only
    split_ifs
    · exact quiet
    · exact quiet
  · rfl

theorem trigger_follows (timeout : Timeout) : Follows late socket (socket.trigger env timeout) := by
  unfold trigger
  split
  · split_ifs with due
    · exact onInitTimerExpiry_follows env linked (Bool.and_eq_true_iff.mp due).1
    · exact .stay rfl
  · split_ifs with due
    · exact onCookieTimerExpiry_follows env linked (Bool.and_eq_true_iff.mp due).1
    · exact .stay rfl
  · split_ifs with due
    · have expired : Ensures
          (onShutdownTimerExpiry env { socket with t2Shutdown := socket.t2Shutdown.expire })
          fun result => Moves late socket.control result.2.control :=
        onShutdownTimerExpiry_ensures env linked (Bool.and_eq_true_iff.mp due).1
      refine expired.bind fun ⟨duration, last⟩ moves => .ok ?_
      have same : { last with t2Shutdown := last.t2Shutdown.reschedule duration }.control =
          last.control := by
        unfold control
        rw [Timer.isRunning_reschedule]
        rfl
      rw [same]
      exact moves
    · exact .stay rfl
  · split
    · exact .stay rfl
    next present => exact .stay (onDelayedAckTimerExpiry_control env linked present)
  · split
    · exact .stay rfl
    next present => exact onSenderTimerExpiry_follows env linked _ _ present

theorem handleTimeout_follows (timeout : Timeout) :
    Follows late socket (socket.handleTimeout env timeout) := by
  refine .bind (trigger_follows env linked timeout) linked fun middle _ _ => ?_
  split_ifs with tooMany
  · have open' : middle.control.tcb = true := (Bool.and_eq_true_iff.mp tooMany).1
    exact Ensures.bind (sendToPeer_ensures env _ open') fun last same => follows_internalClose same
  · exact .stay rfl

/-! ## Runs -/

theorem apply_follows (call : Call σ)
    (allowed : ∀ packet, call = .receivePacket (some packet) → late ∨ socket.inTime packet = true) :
    Follows late socket (socket.apply env call) := by
  cases call with
  | connect => exact connect_follows env socket
  | shutdown => exact shutdown_follows env socket
  | close => exact close_follows env socket
  | receivePacket packet =>
    exact receivePacket_follows env packet linked fun content isPacket =>
      allowed content (isPacket ▸ rfl)
  | handleTimeout timeout => exact handleTimeout_follows env linked timeout
  | elsewhere sender => exact .stay rfl

end

/-- A socket whose calls may fail. -/
def socketCalls : Machine (Except Fault (DcSctpSocket σ)) (Call σ) where
  pre _ _ := True
  next state call := state >>= fun socket => socket.apply env call

theorem linked_create (sender : σ) : (create env sender).control.Linked :=
  linked_idle

/-- In all runs every call returns, and the control is linked to the state. -/
theorem linked_of_run {sender : σ} {calls : List (Call σ)} {last : Except Fault (DcSctpSocket σ)}
    (run : (socketCalls env).Run (.ok (create env sender)) calls last) :
    ∃ socket, last = .ok socket ∧ socket.control.Linked := by
  refine run.invariant (fun _ state => ∃ socket, state = .ok socket ∧ socket.control.Linked)
    ⟨_, rfl, linked_create env sender⟩ ?_
  rintro _ _ call _ ⟨socket, rfl, linked⟩ _
  have follows : Follows True socket (socket.apply env call) :=
    apply_follows env linked call fun _ _ => .inl trivial
  obtain ⟨after, returned, moves⟩ := follows
  exact ⟨after, returned, moves.linked linked⟩

/-- The packet that is received next, if one is, is in time. -/
def TimelyCall (state : Except Fault (DcSctpSocket σ)) (call : Call σ) : Prop :=
  match state, call with
  | .ok socket, .receivePacket (some packet) => socket.inTime packet = true
  | _, _ => True

theorem socket_isConsistent_of_run (sender : σ) {calls : List (Call σ)}
    {last : Except Fault (DcSctpSocket σ)}
    (run : ((socketCalls env).restrict TimelyCall).Run (.ok (create env sender)) calls last) :
    ∃ socket, last = .ok socket ∧ socket.isConsistent = true := by
  have consistent : ∃ socket, last = .ok socket ∧ socket.control.Linked ∧
      socket.control.Timed := by
    refine run.invariant (fun _ state => ∃ socket, state = .ok socket ∧
      socket.control.Linked ∧ socket.control.Timed)
      ⟨_, rfl, linked_create env sender, timed_idle⟩ ?_
    rintro _ _ call _ ⟨socket, rfl, linked, timed⟩ ⟨-, timely⟩
    have follows : Follows False socket (socket.apply env call) := by
      refine apply_follows env linked call fun packet isPacket => .inr ?_
      rw [isPacket] at timely
      exact timely
    obtain ⟨after, returned, moves⟩ := follows
    exact ⟨after, returned, moves.linked linked, moves.timed timed⟩
  obtain ⟨socket, returned, linked, timed⟩ := consistent
  exact ⟨socket, returned, by rw [isConsistent_eq]; exact linked.isConsistent_iff.mpr timed⟩

/-! ## A socket that sends no messages -/

/-- The surroundings of a socket without messages, whose random numbers are all the same. -/
def noMessages : Surroundings Unit where
  options := {}
  getRandomInt _ _ sender := (7, sender)
  send _ sender := (true, sender)
  reset sender := sender
  start _ _ _ sender := sender
  nextTsn _ := 7
  currentRto _ := 500
  outstandingBytes _ := 0
  canSendData _ := true
  handleSack _ sender := (false, sender)
  fastRetransmit sender := ([], sender)
  forwardTsn sender := (none, sender)
  makeStreamResetRequest sender := (none, sender)
  getChunksToSend _ sender := ([], sender)
  handleResponse _ sender := ([], sender)
  handleHeartbeatAck _ sender := ([], sender)
  handleTimeout _ _ _ _ sender := (false, [], sender)
  hasTooManyTxErrors _ := false

/-- The INIT of a peer with the given tag. -/
def initFrom (tag : VerificationTag) : Call Unit :=
  .receivePacket (some
    { verificationTag := 0
      first := .init (some
        { initiateTag := tag
          aRwnd := 100000
          nbrOutboundStreams := 10
          nbrInboundStreams := 10
          initialTsn := 1
          parameters := {} }) })

/-- The COOKIE ECHO that answers the INIT ACK to it. -/
def echoFrom (tag : VerificationTag) : Call Unit :=
  .receivePacket (some
    { verificationTag := 7
      first := .cookieEcho (some (some
        { initiateTag := tag
          initialTsn := 1
          aRwnd := 100000
          tieTag := 0
          capabilities := {} })) })

instance decidableTimelyCall (state : Except Fault (DcSctpSocket σ)) (call : Call σ) :
    Decidable (TimelyCall state call) :=
  match state, call with
  | .ok socket, .receivePacket (some packet) =>
    inferInstanceAs (Decidable (socket.inTime packet = true))
  | .ok _, .receivePacket none | .ok _, .connect | .ok _, .shutdown | .ok _, .close
  | .ok _, .handleTimeout _ | .ok _, .elsewhere _ | .error _, _ => isTrue trivial

instance decidableTimelyPre (state : Except Fault (DcSctpSocket σ)) (call : Call σ) :
    Decidable (((socketCalls env).restrict TimelyCall).pre state call) :=
  inferInstanceAs (Decidable (True ∧ TimelyCall state call))

/-- A peer connects, and its COOKIE ECHO is repeated before the association is shut down. -/
theorem isConsistent_repeated : ∃ last,
    ((socketCalls noMessages).restrict TimelyCall).Run (.ok (create noMessages ()))
      [initFrom 9, echoFrom 9, echoFrom 9, .shutdown] last ∧
    ∃ socket, last = .ok socket ∧ socket.isConsistent = true := by
  have admitted : ((socketCalls noMessages).restrict TimelyCall).Admits
      (.ok (create noMessages ())) [initFrom 9, echoFrom 9, echoFrom 9, .shutdown] := by
    decide +kernel
  exact ⟨_, admitted.run, socket_isConsistent_of_run noMessages () admitted.run⟩

/-- The COOKIE ECHO arrives once more after the SHUTDOWN was sent. -/
theorem isConsistent_lateEcho : ∃ calls last,
    (socketCalls noMessages).Run (.ok (create noMessages ())) calls last ∧
    last.toOption.map isConsistent = some false := by
  refine ⟨[initFrom 9, echoFrom 9, .shutdown, echoFrom 9], _,
    (Machine.admits_of_forall (fun _ _ _ => trivial) _).run, ?_⟩
  decide +kernel

/-- Whatever is called and received, no missing control block is used. -/
theorem socket_safe_of_run (sender : σ) {calls : List (Call σ)}
    {last : Except Fault (DcSctpSocket σ)}
    (run : (socketCalls env).Run (.ok (create env sender)) calls last) :
    ∃ socket, last = .ok socket ∧
      (socket.tcb.isSome = true ↔ socket.state ≠ .closed ∧ socket.state ≠ .cookieWait) ∧
      (socket.t1Init.isRunning = true ↔ socket.state = .cookieWait) ∧
      (socket.t1Cookie.isRunning = true ↔ socket.state = .cookieEchoed) ∧
      (socket.t2Shutdown.isRunning = true → socket.tcb.isSome = true) := by
  obtain ⟨socket, returned, linked⟩ := linked_of_run env run
  exact ⟨socket, returned, linked.tcb, linked.t1Init, linked.t1Cookie, linked.t2Shutdown⟩

theorem socket_safe_lateEcho : ∃ socket, (socketCalls noMessages).outcome
    (.ok (create noMessages ())) [initFrom 9, echoFrom 9, .shutdown, echoFrom 9] = .ok socket := by
  obtain ⟨socket, returned, -⟩ := socket_safe_of_run noMessages ()
    (.of_always (fun _ _ => trivial) _ [initFrom 9, echoFrom 9, .shutdown, echoFrom 9])
  exact ⟨socket, returned⟩

end DcSctpSocket

end MaeRtc.DcSctp
