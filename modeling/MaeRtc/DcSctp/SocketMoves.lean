import MaeRtc.DcSctp.SocketStates

/-!
# Every call follows the state diagram

One lemma for each handler: it returns, in a state in which the control is linked,
and what it has done to the control are moves.
-/

namespace MaeRtc.DcSctp.DcSctpSocket

open MaeRtc.Base
open Control

variable {σ : Type} (env : Surroundings σ) {late : Prop} {socket after : DcSctpSocket σ}

/-- The computation returns, and has followed the state diagram from the socket on. -/
def Follows (late : Prop) (socket : DcSctpSocket σ)
    (result : Except Fault (DcSctpSocket σ)) : Prop :=
  Ensures result fun after => Moves late socket.control after.control

namespace Follows

variable {result : Except Fault (DcSctpSocket σ)}

theorem ok (moves : Moves late socket.control after.control) : Follows late socket (.ok after) :=
  Ensures.ok moves

theorem stay (same : after.control = socket.control) : Follows late socket (.ok after) :=
  ok (same ▸ .refl)

theorem move (step : Move late socket.control after.control) : Follows late socket (.ok after) :=
  ok (.single step)

theorem of_same (ensures : Ensures result fun after => after.control = socket.control) :
    Follows late socket result :=
  ensures.weaken fun _ same => same ▸ .refl

/-- What another socket follows, this one does too, if their controls are the same. -/
theorem of_control {other : DcSctpSocket σ} (same : other.control = socket.control)
    (follows : Follows late other result) : Follows late socket result := by
  unfold Follows at follows ⊢
  rwa [same] at follows

theorem after_move {middle : DcSctpSocket σ} (step : Move late socket.control middle.control)
    (follows : Follows late middle result) : Follows late socket result :=
  Ensures.weaken follows fun _ more => .head step more

theorem bind {next : DcSctpSocket σ → Except Fault (DcSctpSocket σ)}
    (first : Follows late socket result) (linked : socket.control.Linked)
    (second : ∀ middle, middle.control.Linked → Moves late socket.control middle.control →
      Follows late middle (next middle)) :
    Follows late socket (result >>= next) :=
  Ensures.bind first fun middle moves =>
    (second middle (moves.linked linked) moves).weaken fun _ more => moves.trans more

/-- A first part that leaves the control alone. -/
theorem bind_same {next : DcSctpSocket σ → Except Fault (DcSctpSocket σ)}
    (first : Ensures result fun after => after.control = socket.control)
    (second : ∀ middle, middle.control = socket.control → Follows late middle (next middle)) :
    Follows late socket (result >>= next) :=
  Ensures.bind first fun middle same => of_control same (second middle same)

end Follows

/-! ## Closing -/

theorem control_tearDown (notClosed : socket.state ≠ .closed) : socket.tearDown.control = idle := by
  unfold tearDown
  rw [if_neg notClosed]
  simp [control, idle, hasMessages]

theorem control_internalClose {error : ErrorKind} {message : String}
    (notClosed : socket.state ≠ .closed) : (socket.internalClose error message).control = idle := by
  unfold internalClose
  rw [if_neg notClosed, control_emit, control_tearDown notClosed]

theorem moves_internalClose (error : ErrorKind) (message : String) (socket : DcSctpSocket σ) :
    Moves late socket.control (socket.internalClose error message).control := by
  by_cases closed : socket.state = .closed
  · unfold internalClose
    rw [if_pos closed]
  · rw [control_internalClose closed]
    exact .single (.tearDown closed)

theorem follows_internalClose {error : ErrorKind} {message : String}
    (same : after.control = socket.control) :
    Follows late socket (.ok (after.internalClose error message)) :=
  .of_control same (.ok (moves_internalClose error message after))

/-! ## Calls of the user -/

theorem connect_follows (socket : DcSctpSocket σ) :
    Follows late socket (.ok (socket.connect env)) := by
  unfold connect
  split_ifs with closed
  · have sent : ((socket.makeConnectionParameters env).sendInit env).control = socket.control := by
      rfl
    have move : Move late ((socket.makeConnectionParameters env).sendInit env).control _ :=
      .connect (show _ = State.closed by rw [sent]; exact closed)
    rw [sent] at move
    refine .move ?_
    convert move using 1
    rfl
  · exact .stay rfl

theorem close_follows (socket : DcSctpSocket σ) : Follows late socket (.ok (socket.close env)) := by
  unfold close
  split_ifs
  · exact .stay rfl
  · refine follows_internalClose ?_
    split
    · rfl
    · exact control_post env _ _ socket

/-! ## Shutting down -/

theorem sendToPeer_ensures (chunks : List SentChunk) (open' : socket.control.tcb = true) :
    Ensures (socket.sendToPeer env chunks) fun after => after.control = socket.control := by
  obtain ⟨tcb, present⟩ := exists_tcb open'
  rw [sendToPeer_eq env present]
  exact .ok (control_post env _ chunks socket)

theorem sendShutdown_ensures (open' : socket.control.tcb = true) :
    Ensures (socket.sendShutdown env) fun after => after.control = socket.control := by
  obtain ⟨tcb, present⟩ := exists_tcb open'
  unfold sendShutdown
  rw [derefTcb_eq present, ok_bind]
  exact sendToPeer_ensures env _ open'

theorem control_startT2Shutdown (socket : DcSctpSocket σ) :
    (socket.startT2Shutdown env).control = { socket.control with t2Shutdown := true } :=
  rfl

theorem sendShutdownAck_ensures (open' : socket.control.tcb = true) :
    Ensures (socket.sendShutdownAck env) fun after =>
      after.control = { socket.control with t2Shutdown := true } := by
  refine (sendToPeer_ensures env _ open').bind fun middle same => .ok ?_
  rw [control_startT2Shutdown, same]

theorem control_setState (state : State) (socket : DcSctpSocket σ) :
    (socket.setState state).control = { socket.control with state := state } :=
  rfl

theorem maybeSendShutdownOrAck_keepsTcb (open' : socket.control.tcb = true) :
    Ensures (socket.maybeSendShutdownOrAck env) fun after =>
      Moves late socket.control after.control ∧ after.control.tcb = true := by
  obtain ⟨tcb, present⟩ := exists_tcb open'
  unfold maybeSendShutdownOrAck
  rw [derefTcb_eq present, ok_bind]
  split_ifs
  · exact .ok ⟨.refl, open'⟩
  split
  next pending =>
    refine (sendShutdown_ensures env open').bind fun middle same => .ok ?_
    rw [control_setState, control_startT2Shutdown, same]
    exact ⟨.single (.shutdownSent pending), open'⟩
  next received =>
    refine (sendShutdownAck_ensures env open').bind fun middle same => .ok ?_
    rw [control_setState, same]
    exact ⟨.single (.shutdownAckSent (.inl received)), open'⟩
  · exact .ok ⟨.refl, open'⟩

theorem maybeSendShutdownOrAck_follows (open' : socket.control.tcb = true) :
    Follows late socket (socket.maybeSendShutdownOrAck env) :=
  (maybeSendShutdownOrAck_keepsTcb env open').weaken fun _ kept => kept.1

theorem shutdown_follows (socket : DcSctpSocket σ) : Follows late socket (socket.shutdown env) := by
  unfold shutdown
  split
  · exact follows_internalClose rfl
  next tcb present =>
    split_ifs with awaiting
    · exact .stay rfl
    have open' : socket.control.tcb = true := by simp [control, present]
    have pending : { socket with
        state := .shutdownPending
        t1Init := socket.t1Init.stop
        t1Cookie := socket.t1Cookie.stop }.control = { socket.control with
        state := .shutdownPending, t1Init := false, t1Cookie := false } := by
      simp [control, hasMessages]
    refine .after_move ?_ (maybeSendShutdownOrAck_follows env open')
    rw [pending]
    exact .shutdown open' awaiting

/-! ## Chunks of data -/

theorem whenParsed_follows {α : Type} {chunkType : Nat} {chunk : Option α}
    {handle : α → DcSctpSocket σ → Except Fault (DcSctpSocket σ)}
    (follows : ∀ content, chunk = some content → Follows late socket (handle content socket)) :
    Follows late socket (whenParsed chunkType chunk handle socket) := by
  cases chunk with
  | none => exact .stay rfl
  | some content => exact follows content rfl

theorem whenConnected_follows {handle : DcSctpSocket σ → Except Fault (DcSctpSocket σ)}
    (follows : ∀ tcb, socket.tcb = some tcb → Follows late socket (handle socket)) :
    Follows late socket (whenConnected handle socket) := by
  unfold whenConnected
  split
  · exact .stay rfl
  next tcb present => exact follows tcb present

variable {tcb : ControlBlock}

theorem tcb_control (present : socket.tcb = some tcb) : socket.control.tcb = true := by
  simp [control, present]

theorem state_ne_closed (linked : socket.control.Linked) (present : socket.tcb = some tcb) :
    socket.state ≠ .closed :=
  (linked.tcb.mp (tcb_control present)).1

theorem quiet_delivered (receiver : TransmissionControlBlock) :
    Quiet receiver.maybeResetStreamsDeferredAndDeliverMessages.1 :=
  rfl

theorem quiet_handleDataCommon {receiver next : TransmissionControlBlock} {chunk : AnyDataChunk}
    {outputs : List SocketOutput} (quiet : Quiet receiver)
    (handled : receiver.handleDataCommon chunk = (some next, outputs)) : Quiet next := by
  unfold TransmissionControlBlock.handleDataCommon at handled
  dsimp only at handled
  split_ifs at handled
  · cases handled
    exact quiet
  · cases handled
  · cases handled
    exact quiet
  · cases handled
    exact quiet
  · cases handled
    exact quiet_delivered _
  · cases handled
    exact quiet

theorem handleDataCommon_follows (chunk : AnyDataChunk) (linked : socket.control.Linked)
    (present : socket.tcb = some tcb) :
    Follows late socket (socket.handleDataCommon env chunk) := by
  unfold handleDataCommon
  rw [derefTcb_eq present, ok_bind]
  split
  next receiver outputs handled =>
    exact .stay (control_updateReceiver env present linked.messages
      (quiet_handleDataCommon (quiet_of_control linked.messages present) handled))
  next outputs _ =>
    -- The socket is closed after the outputs are passed on.
    have relayed := control_relays env tcb.peerVerificationTag outputs socket
    refine .of_control relayed (.move ?_)
    have notClosed : (outputs.foldl (relay env tcb.peerVerificationTag) socket).state ≠
        .closed := by
      rw [show DcSctpSocket.state _ = socket.state from congrArg Control.state relayed]
      exact state_ne_closed linked present
    rw [control_tearDown notClosed]
    exact .tearDown notClosed

theorem handleForwardTsnCommon_follows (chunk : AnyForwardTsnChunk) (linked : socket.control.Linked)
    (present : socket.tcb = some tcb) :
    Follows late socket (socket.handleForwardTsnCommon env chunk) := by
  unfold handleForwardTsnCommon
  rw [derefTcb_eq present, ok_bind]
  refine .stay (control_updateReceiver env present linked.messages ?_)
  unfold TransmissionControlBlock.handleForwardTsnCommon
  split_ifs
  · exact quiet_of_control linked.messages present
  · exact quiet_delivered _

theorem sendBufferedPackets_follows (builder : List SentChunk) (linked : socket.control.Linked)
    (open' : socket.control.tcb = true) :
    Follows late socket (socket.sendBufferedPackets env builder) :=
  .of_same (sendBufferedPackets_ensures env builder open' linked.messages)

theorem handleSack_follows (chunk : SackChunk) (linked : socket.control.Linked)
    (present : socket.tcb = some tcb) : Follows late socket (socket.handleSack env chunk) := by
  have open' := tcb_control present
  unfold handleSack
  split
  · exact .stay rfl
  next sender _ =>
    have shutdown : Ensures (maybeSendShutdownOrAck env { socket with sender := sender })
        fun middle => Moves late socket.control middle.control ∧ middle.control.tcb = true :=
      maybeSendShutdownOrAck_keepsTcb env open'
    refine shutdown.bind fun middle ⟨moves, kept⟩ => ?_
    have retransmitted : Ensures (middle.maybeSendFastRetransmit env) fun after =>
        after.control = middle.control := sendToPeer_ensures env _ kept
    refine retransmitted.bind fun last same => ?_
    rw [← same] at moves kept
    have silent := (moves.linked linked).messages
    exact (sendBufferedPackets_ensures env [] kept silent).weaken fun after unchanged =>
      unchanged ▸ moves

theorem handleHeartbeatRequest_follows (parameters : List Octet) (present : socket.tcb = some tcb) :
    Follows late socket (socket.handleHeartbeatRequest env parameters) :=
  .of_same (sendToPeer_ensures env _ (tcb_control present))

theorem handleHeartbeatAck_follows (parameters : List Octet) :
    Follows late socket (socket.handleHeartbeatAck env parameters) :=
  .stay rfl

/-! ## Chunks of the handshake -/

theorem control_renew (socket : DcSctpSocket σ) (parameters : ConnectParameters) (sender : σ) :
    { socket with connectParams := parameters, sender := sender }.control = socket.control :=
  rfl

theorem prepareInitAck_ensures (linked : socket.control.Linked) :
    Ensures (socket.prepareInitAck env) fun result => result.2.control = socket.control := by
  unfold prepareInitAck
  split
  · exact .ok rfl
  · exact .ok rfl
  · exact .ok rfl
  next notClosed notWait _ =>
    have open' : socket.control.tcb = true := linked.tcb.mpr ⟨notClosed, notWait⟩
    obtain ⟨tcb, present⟩ := exists_tcb open'
    rw [derefTcb_eq present, ok_bind]
    generalize drawVerificationTag env tcb.myVerificationTag
      socket.connectParams.verificationTag 10 socket.sender = drawn
    obtain ⟨tag, sender⟩ := drawn
    exact .ok (control_renew socket _ sender)

theorem handleInit_follows (chunk : InitChunk) (linked : socket.control.Linked) :
    Follows late socket (socket.handleInit env chunk) := by
  unfold handleInit
  split_ifs with malformed ackSent
  · exact follows_internalClose (control_post env _ _ socket)
  · have open' : socket.control.tcb = true := by
      rw [linked.tcb]
      simp [control, ackSent]
    have again : Move late socket.control _ := .shutdownAgain (.inr ackSent)
    exact (sendShutdownAck_ensures env open').weaken fun after same => same ▸ .single again
  · refine Ensures.bind (prepareInitAck_ensures env linked) fun result same => ?_
    refine Follows.stay ?_
    unfold sendInitAck
    rw [control_post, same]

theorem control_openWithInitAck (chunk : InitChunk) (cookie : List Octet)
    (socket : DcSctpSocket σ) :
    (socket.openWithInitAck env chunk cookie).control =
      { socket.control with
        state := .cookieEchoed, t1Init := false
        tcb := true, cookieEcho := true, messages := false } := by
  have stopped : socket.t1Init.stop.isRunning = false := Timer.isRunning_stop _
  unfold openWithInitAck control
  simp only [Control.mk.injEq]
  exact ⟨trivial, stopped, rfl, rfl, rfl, rfl, rfl⟩

theorem handleInitAck_follows (chunk : InitChunk) :
    Follows late socket (socket.handleInitAck env chunk) := by
  unfold handleInitAck
  split_ifs with elsewhere
  · exact .stay rfl
  have waiting : socket.state = .cookieWait := not_not.mp elsewhere
  split
  · exact follows_internalClose (control_post env _ _ socket)
  next cookie _ =>
    have opened := control_openWithInitAck env chunk cookie socket
    have sent : Ensures ((socket.openWithInitAck env chunk cookie).sendBufferedPackets env [])
        fun after => after.control = (socket.openWithInitAck env chunk cookie).control :=
      sendBufferedPackets_ensures env [] (by rw [opened]) (by rw [opened])
    refine Ensures.bind sent fun last same => Follows.move ?_
    -- The timer is started last; with it the control is that of the move.
    have started : { last with t1Cookie := last.t1Cookie.start }.control =
        { last.control with t1Cookie := true } := rfl
    rw [started, same, opened]
    exact .initAck waiting

theorem control_stopT1 (socket : DcSctpSocket σ) :
    socket.stopT1.control = { socket.control with t1Init := false, t1Cookie := false } := by
  simp [stopT1, control, hasMessages]

theorem control_enterEstablished (socket : DcSctpSocket σ) :
    ∃ echo, socket.enterEstablished.control =
      { socket.control with state := .established, cookieEcho := echo } := by
  unfold enterEstablished
  split_ifs with established
  · refine ⟨socket.control.cookieEcho, ?_⟩
    simp [control, established]
  refine ⟨false, ?_⟩
  rw [control_emit]
  cases tcb : socket.tcb with
  | none => simp [control, tcb, hasMessages]
  | some block =>
    simp [control, tcb, hasMessages, ControlBlock.clearCookieEchoChunk, ControlBlock.hasMessages]

theorem control_openWithCookie (cookie : StateCookie) (silent : socket.control.messages = false) :
    ∃ echo, (socket.openWithCookie env cookie).control =
      { socket.control with tcb := true, cookieEcho := echo, messages := false } := by
  unfold openWithCookie
  split
  next tcb present =>
    refine ⟨socket.control.cookieEcho, ?_⟩
    rw [← silent, ← tcb_control present]
  · exact ⟨false, rfl⟩

theorem establish_ensures (cookie : StateCookie) (silent : socket.control.messages = false) :
    Ensures (socket.establish env cookie) fun after => ∃ echo,
      after.control = { socket.control with
        state := .established, t1Init := false, t1Cookie := false
        tcb := true, cookieEcho := echo, messages := false } := by
  obtain ⟨_, entered⟩ := control_enterEstablished socket.stopT1
  rw [control_stopT1] at entered
  have stillSilent : socket.stopT1.enterEstablished.control.messages = false := by
    rw [entered]
    exact silent
  obtain ⟨echo, opened⟩ := control_openWithCookie env cookie stillSilent
  rw [entered] at opened
  have sent := sendBufferedPackets_ensures env [.cookieAck] (by rw [opened]) (by rw [opened])
  exact sent.weaken fun after same => ⟨echo, same.trans opened⟩

/-- A cookie that is acted on may have done away with the control block, and no more. -/
theorem handleCookieEchoWithTcb_control (verificationTag : VerificationTag) (cookie : StateCookie)
    (tcb : ControlBlock) (socket : DcSctpSocket σ) :
    let result := socket.handleCookieEchoWithTcb env verificationTag cookie tcb
    result.2.control = socket.control ∨ result.1 = true ∧ result.2.control =
      { socket.control with tcb := false, cookieEcho := false, messages := false } := by
  unfold handleCookieEchoWithTcb
  split_ifs
  · exact .inl (control_post env _ _ socket)
  · exact .inr ⟨rfl, rfl⟩
  · exact .inr ⟨rfl, rfl⟩
  · exact .inl rfl
  · exact .inl rfl

theorem establish_follows (cookie : StateCookie) (allowed : socket.control.Awaiting → late)
    (silent : socket.control.messages = false) :
    Follows late socket (socket.establish env cookie) :=
  (establish_ensures env cookie silent).weaken fun after ⟨echo, same⟩ => by
    rw [same]
    exact .single (.cookieEcho echo allowed)

theorem handleCookieEcho_follows (verificationTag : VerificationTag) (cookie : Option StateCookie)
    (linked : socket.control.Linked)
    (allowed : ∀ content tcb, cookie = some content → socket.tcb = some tcb →
      (socket.handleCookieEchoWithTcb env verificationTag content tcb).1 = true →
      socket.control.Awaiting → late) :
    Follows late socket (socket.handleCookieEcho env verificationTag cookie) := by
  unfold handleCookieEcho
  split
  · exact .stay rfl
  next content =>
    split
    next tcb present =>
      have allowed := allowed content tcb rfl present
      have same := handleCookieEchoWithTcb_control env verificationTag content tcb
        socket
      generalize socket.handleCookieEchoWithTcb env verificationTag content tcb = result
        at same allowed
      obtain ⟨accepted, next⟩ := result
      cases accepted with
      | false =>
        rcases same with same | ⟨⟨⟩, _⟩
        exact .stay same
      | true =>
        rcases same with same | ⟨-, same⟩
        · refine .of_control same (establish_follows env content ?_ ?_)
          · rw [same]
            exact allowed rfl
          · rw [same]
            exact linked.messages
        · -- The old control block is gone; what the move leads to does not depend on it.
          have silent : next.control.messages = false := by rw [same]
          refine (establish_ensures env content silent).weaken ?_
          rintro after ⟨echo, final⟩
          rw [final, same]
          exact .single (.cookieEcho echo (allowed rfl))
    next absent =>
      split_ifs
      · refine establish_follows env content (fun awaiting => ?_) linked.messages
        have none : socket.control.tcb = false := by simp [control, absent]
        have open' : socket.control.tcb = true := by
          rw [linked.tcb]
          rcases awaiting with state | state <;> simp [state]
        exact absurd (none.symm.trans open') Bool.false_ne_true
      · exact .stay rfl

theorem handleCookieAck_follows (linked : socket.control.Linked) :
    Follows late socket (socket.handleCookieAck env) := by
  unfold handleCookieAck
  split_ifs with elsewhere
  · exact .stay rfl
  have echoed : socket.state = .cookieEchoed := not_not.mp elsewhere
  have open' : socket.control.tcb = true := by
    rw [linked.tcb]
    simp [control, echoed]
  obtain ⟨tcb, present⟩ := exists_tcb open'
  rw [derefTcb_eq present, ok_bind]
  have acknowledged : { socket with
      t1Cookie := socket.t1Cookie.stop
      tcb := some tcb.clearCookieEchoChunk
      state := .established }.control = { socket.control with
      state := .established, t1Cookie := false, cookieEcho := false } := by
    simp [control, present, hasMessages, ControlBlock.clearCookieEchoChunk,
      ControlBlock.hasMessages]
  have sent := sendBufferedPackets_ensures env [] (by rw [acknowledged]; exact open')
    (by rw [acknowledged]; exact linked.messages)
  refine Ensures.bind sent fun last same => Follows.move ?_
  rw [control_emit, same, acknowledged]
  exact .cookieAck echoed

/-! ## Other chunks -/

theorem handleAbort_follows (errorString : String) :
    Follows late socket (socket.handleAbort errorString) := by
  unfold handleAbort
  split
  · exact .stay rfl
  · exact follows_internalClose rfl

theorem handleError_follows (errorString : String) :
    Follows late socket (socket.handleError errorString) := by
  unfold handleError
  split
  · exact .stay rfl
  · exact .stay rfl

section

variable {queue : ReassemblyQueue} (req : OutgoingSsnResetRequestParameter) (cumTsnAck : Tsn)
  (quiet : queue.reassembledMessages = [])
include quiet

theorem quiet_resetStreams : (queue.resetStreams req cumTsnAck).2.reassembledMessages = [] := by
  unfold ReassemblyQueue.resetStreams
  dsimp only
  split_ifs <;> exact quiet

theorem quiet_handleResetOutgoing {handler : StreamResetHandler} :
    (handler.handleResetOutgoing req cumTsnAck queue).queue.reassembledMessages = [] := by
  unfold StreamResetHandler.handleResetOutgoing
  split
  · exact quiet
  · exact quiet_resetStreams req cumTsnAck quiet

end

theorem handleReConfigParameter_ensures {responses : List ReconfigurationResponseParameter}
    (parameter : ReConfigParameter) (open' : socket.control.tcb = true)
    (silent : socket.control.messages = false) :
    Ensures (handleReConfigParameter env (responses, socket) parameter) fun result =>
      result.2.control = socket.control := by
  obtain ⟨tcb, present⟩ := exists_tcb open'
  have quiet := quiet_of_control silent present
  cases parameter with
  | outgoingSsnResetRequest request =>
    cases request with
    | none => exact ⟨_, rfl, control_emit _ socket⟩
    | some req =>
      unfold handleReConfigParameter
      dsimp only
      rw [derefTcb_eq present, ok_bind]
      refine .ok ?_
      exact control_setTcb present (by rfl) silent
        (by exact quiet_handleResetOutgoing req _ quiet) _
  | incomingSsnResetRequest request =>
    cases request with
    | none => exact ⟨_, rfl, control_emit _ socket⟩
    | some reqSeqNbr =>
      unfold handleReConfigParameter
      dsimp only
      rw [derefTcb_eq present, ok_bind]
      refine .ok ?_
      exact control_setTcb present (by rfl) silent (by exact quiet) _
  | reconfigurationResponse response =>
    cases response with
    | none => exact ⟨_, rfl, control_emit _ socket⟩
    | some resp => exact .ok rfl
  | ssnTsnResetRequest => exact .ok rfl
  | addOutgoingStreamsRequest => exact .ok rfl
  | addIncomingStreamsRequest => exact .ok rfl
  | other => exact .ok rfl

theorem handleReConfigParameters_ensures (parameters : List ReConfigParameter)
    (open' : socket.control.tcb = true) (silent : socket.control.messages = false) :
    Ensures (socket.handleReConfigParameters env parameters) fun after =>
      after.control = socket.control := by
  unfold handleReConfigParameters
  split_ifs
  · have handled : Ensures (parameters.foldlM (handleReConfigParameter env) ([], socket))
        fun result => result.2.control = socket.control := by
      have kept : ∀ (progress : List ReconfigurationResponseParameter × DcSctpSocket σ) parameter,
          progress.2.control = socket.control →
          Ensures (handleReConfigParameter env progress parameter) fun result =>
            result.2.control = socket.control :=
        fun progress parameter same => (handleReConfigParameter_ensures env parameter
          (same ▸ open') (same ▸ silent)).weaken fun _ unchanged => unchanged.trans same
      exact Ensures.foldlM kept rfl parameters
    refine handled.bind fun ⟨responses, middle⟩ same => ?_
    dsimp only
    split_ifs
    · exact .ok same
    · exact (sendToPeer_ensures env _ (same ▸ open')).weaken fun _ unchanged => unchanged.trans same
  · exact .ok rfl

theorem handleReconfig_follows (parameters : List ReConfigParameter)
    (linked : socket.control.Linked) (present : socket.tcb = some tcb) :
    Follows late socket (socket.handleReconfig env parameters) := by
  have open' := tcb_control present
  refine .bind_same (handleReConfigParameters_ensures env parameters open' linked.messages)
    fun middle same => ?_
  have requested : Ensures (middle.maybeSendResetStreamsRequest env) fun after =>
      after.control = middle.control := sendToPeer_ensures env _ (same ▸ open')
  refine .bind_same requested fun last unchanged => ?_
  rw [← same, ← unchanged] at linked open'
  exact sendBufferedPackets_follows env [] linked open'

theorem handleShutdown_follows (linked : socket.control.Linked) :
    Follows late socket (socket.handleShutdown env) := by
  unfold handleShutdown
  split
  · exact .stay rfl
  · exact .stay rfl
  · exact .stay rfl
  · exact .stay rfl
  · exact .stay rfl
  next sent =>
    have open' : socket.control.tcb = true := by
      rw [linked.tcb]
      simp [control, sent]
    refine Ensures.bind (sendShutdownAck_ensures env open') fun middle same => Follows.move ?_
    rw [control_setState, same]
    exact .shutdownAckSent (.inr sent)
  next established =>
    have open' : socket.control.tcb = true := by
      rw [linked.tcb]
      simp [control, established]
    have received : (socket.setState .shutdownReceived).control.tcb = true := open'
    exact .after_move (.shutdownReceived (.inl established))
      (maybeSendShutdownOrAck_follows env received)
  next pending =>
    have open' : socket.control.tcb = true := by
      rw [linked.tcb]
      simp [control, pending]
    have received : (socket.setState .shutdownReceived).control.tcb = true := open'
    exact .after_move (.shutdownReceived (.inr pending))
      (maybeSendShutdownOrAck_follows env received)

theorem handleShutdownAck_follows (verificationTag : VerificationTag)
    (linked : socket.control.Linked) :
    Follows late socket (socket.handleShutdownAck env verificationTag) := by
  unfold handleShutdownAck
  split_ifs with awaiting
  · have open' : socket.control.tcb = true := by
      rw [linked.tcb]
      rcases awaiting with state | state <;> simp [control, state]
    exact Ensures.bind (sendToPeer_ensures env _ open') fun middle same => follows_internalClose same
  · exact .stay (control_post env _ _ socket)

theorem handleShutdownComplete_follows : Follows late socket socket.handleShutdownComplete := by
  unfold handleShutdownComplete
  split_ifs
  · exact follows_internalClose rfl
  · exact .stay rfl

theorem control_handleUnrecognizedChunk (type : Octet) (socket : DcSctpSocket σ) :
    (socket.handleUnrecognizedChunk env type).2.control = socket.control := by
  unfold handleUnrecognizedChunk
  dsimp only
  split_ifs
  · split
    · rfl
    · exact control_post env _ _ _
  · rfl

end MaeRtc.DcSctp.DcSctpSocket
