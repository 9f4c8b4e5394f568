import MaeRtc.DcSctp.CookieEcho

/-!
# Whether a closed association stays closed

Closing an association leaves its connection parameters in place.  Without a control block,
a COOKIE ECHO is only asked for the verification tag among them, so one that was received
before can open the association again.
-/

namespace MaeRtc.DcSctp.DcSctpSocket

open MaeRtc.Base

/-- A chunk that opens nothing: no INIT, and no cookie in a packet with the given tag. -/
def Harmless (tag verificationTag : VerificationTag) : ChunkDescriptor → Prop
  | .init _ => False
  | .cookieEcho (some (some _)) => verificationTag ≠ tag
  | _ => True

/-- What a socket hands over to another one.  It brings the restored receiving side, which has
no messages yet, and the restored sending side. -/
structure HandoverState (σ : Type) where
  connected : Bool
  myVerificationTag : VerificationTag
  peerVerificationTag : VerificationTag
  peerInitialTsn : Tsn
  tieTag : TieTag
  capabilities : Capabilities
  receiver : TransmissionControlBlock
  receiver_pristine : receiver.reassemblyQueue.reassembledMessages = []
  sender : σ

variable {σ : Type}

def restoreFromState (state : HandoverState σ) (socket : DcSctpSocket σ) : DcSctpSocket σ :=
  if socket.state ≠ .closed then
    socket.emit (.onError .unsupportedOperation "Only closed socket can be restored from state")
  else if state.connected then
    emit .onConnected { socket with
      connectParams := { socket.connectParams with verificationTag := state.myVerificationTag }
      tcb := some {
        myVerificationTag := state.myVerificationTag
        peerVerificationTag := state.peerVerificationTag
        tieTag := state.tieTag
        capabilities := state.capabilities
        receiver := state.receiver
        streamResetHandler := .new state.peerInitialTsn }
      sender := state.sender
      state := .established }
  else socket

/-- The calls of a user who may also restore a socket. -/
inductive RestorableCall (σ : Type) where
  | call (call : Call σ)
  | restoreFromState (state : HandoverState σ)

/-- A call that opens nothing. -/
def HarmlessCall (tag : VerificationTag) : RestorableCall σ → Prop
  | .call .connect | .restoreFromState _ => False
  | .call (.receivePacket (some packet)) =>
    ∀ descriptor ∈ packet.descriptors, Harmless tag packet.verificationTag descriptor
  | _ => True

def applyRestorable (env : Surroundings σ) (socket : DcSctpSocket σ) :
    RestorableCall σ → Except Fault (DcSctpSocket σ)
  | .call call => socket.apply env call
  | .restoreFromState state => .ok (socket.restoreFromState state)

def restorableCalls (env : Surroundings σ) :
    Machine (Except Fault (DcSctpSocket σ)) (RestorableCall σ) where
  pre _ _ := True
  next state call := state >>= fun socket => socket.applyRestorable env call

/-- Of the association only the tag is left, and no other one was announced. -/
structure Dormant (tag : VerificationTag) (connections : Nat) (socket : DcSctpSocket σ) :
    Prop where
  idle : socket.control = .idle
  tag : socket.connectParams.verificationTag = tag
  announced : socket.connections = connections

variable (env : Surroundings σ) {socket : DcSctpSocket σ} {tag verificationTag : VerificationTag}
  {connections : Nat}

theorem timers_of_idle (idle : socket.control = .idle) : socket.t1Init.isRunning = false ∧
    socket.t1Cookie.isRunning = false ∧ socket.t2Shutdown.isRunning = false :=
  ⟨congrArg Control.t1Init idle, congrArg Control.t1Cookie idle, congrArg Control.t2Shutdown idle⟩

namespace Dormant

variable (dormant : Dormant tag connections socket)
include dormant

theorem closed : socket.state = .closed :=
  congrArg Control.state dormant.idle

theorem tcb : socket.tcb = none :=
  Option.not_isSome_iff_eq_none.mp (Bool.eq_false_iff.mp (congrArg Control.tcb dormant.idle))

theorem emit {event : SocketEvent} (other : event ≠ .onConnected) :
    Dormant tag connections (socket.emit event) := by
  refine ⟨dormant.idle, dormant.tag, ?_⟩
  rw [← dormant.announced, DcSctpSocket.connections, DcSctpSocket.emit, List.count_append,
    List.count_singleton, if_neg (by simpa using other)]
  rfl

theorem post (chunks : List SentChunk) :
    Dormant tag connections (socket.post env verificationTag chunks) := by
  refine ⟨(control_post env verificationTag chunks socket).trans dormant.idle, ?_, ?_⟩
  · rw [← dormant.tag, DcSctpSocket.post, send]
    split_ifs <;> rfl
  · rw [← dormant.announced, DcSctpSocket.post, send]
    split_ifs
    · rfl
    · simp [DcSctpSocket.connections]

theorem whenConnected (handle : DcSctpSocket σ → Except Fault (DcSctpSocket σ)) :
    Ensures (whenConnected handle socket) (Dormant tag connections) := by
  unfold DcSctpSocket.whenConnected
  rw [dormant.tcb]
  exact .ok (dormant.emit nofun)

theorem whenParsed {α : Type} {chunkType : Nat} {chunk : Option α}
    {handle : α → DcSctpSocket σ → Except Fault (DcSctpSocket σ)}
    (kept : ∀ content ∈ chunk, Ensures (handle content socket) (Dormant tag connections)) :
    Ensures (whenParsed chunkType chunk handle socket) (Dormant tag connections) := by
  cases chunk with
  | none => exact .ok (dormant.emit nofun)
  | some content => exact kept content rfl

theorem handleCookieEcho {cookie : Option StateCookie}
    (harmless : Harmless tag verificationTag (.cookieEcho (some cookie))) :
    Ensures (socket.handleCookieEcho env verificationTag cookie) (Dormant tag connections) := by
  unfold DcSctpSocket.handleCookieEcho
  cases cookie with
  | none => exact .ok (dormant.emit nofun)
  | some cookie =>
    simp only [dormant.tcb, dormant.tag, if_neg (show verificationTag ≠ tag from harmless)]
    exact .ok (dormant.emit nofun)

theorem dispatch {descriptor : ChunkDescriptor}
    (harmless : Harmless tag verificationTag descriptor) :
    Ensures (socket.dispatch env verificationTag descriptor) fun result =>
      Dormant tag connections result.2 := by
  have closed := dormant.closed
  have tcb := dormant.tcb
  cases descriptor with
  | init chunk => exact harmless.elim
  | initAck chunk =>
    refine .map (dormant.whenParsed fun content _ => ?_)
    simpa [handleInitAck, closed] using Ensures.ok dormant
  | abort flags errorCauses =>
    refine .map (dormant.whenParsed fun content _ => ?_)
    simpa [handleAbort, tcb] using Ensures.ok dormant
  | shutdown parses =>
    refine .map (dormant.whenParsed fun content _ => ?_)
    simpa [handleShutdown, closed] using Ensures.ok dormant
  | shutdownAck parses =>
    refine .map (dormant.whenParsed fun content _ => ?_)
    simpa [handleShutdownAck, closed] using Ensures.ok (dormant.post env _)
  | error errorCauses =>
    refine .map (dormant.whenParsed fun content _ => ?_)
    simpa [handleError, tcb] using Ensures.ok dormant
  | cookieEcho cookie =>
    refine .map (dormant.whenParsed fun content isContent => dormant.handleCookieEcho env ?_)
    rwa [← Option.mem_def.mp isContent]
  | cookieAck parses =>
    refine .map (dormant.whenParsed fun content _ => ?_)
    simpa [handleCookieAck, closed] using Ensures.ok dormant
  | shutdownComplete flags parses =>
    refine .map (dormant.whenParsed fun content _ => ?_)
    simpa [handleShutdownComplete, closed] using Ensures.ok dormant
  | unrecognized type =>
    refine .ok ?_
    unfold handleUnrecognizedChunk
    simp only [tcb_emit, tcb]
    split_ifs
    · exact dormant.emit nofun
    · exact dormant
  | _ => exact .map (dormant.whenParsed fun _ _ => dormant.whenConnected _)

theorem dispatchAll {descriptors : List ChunkDescriptor}
    (harmless : ∀ descriptor ∈ descriptors, Harmless tag verificationTag descriptor) :
    Ensures (dispatchAll env verificationTag descriptors socket) (Dormant tag connections) := by
  induction descriptors generalizing socket with
  | nil => exact .ok dormant
  | cons descriptor rest ih =>
    obtain ⟨first, others⟩ := List.forall_mem_cons.mp harmless
    refine .bind (dormant.dispatch env first) fun ⟨goOn, next⟩ kept => ?_
    cases goOn with
    | true => exact ih kept others
    | false => exact .ok kept

theorem receivePacket {packet : SctpPacket}
    (harmless : ∀ descriptor ∈ packet.descriptors, Harmless tag packet.verificationTag descriptor) :
    Ensures (socket.receivePacket env (some packet)) (Dormant tag connections) := by
  unfold DcSctpSocket.receivePacket
  dsimp only
  rcases validatePacket_cases packet socket with valid | ⟨message, invalid⟩
  · rw [valid]
    have notSent : socket.maybeSendShutdownOnPacketReceived env packet = .ok socket := by
      simp [maybeSendShutdownOnPacketReceived, dormant.closed]
    simp only [notSent, ok_bind]
    refine .bind (dormant.dispatchAll env harmless) fun last kept => .ok ?_
    unfold finishPacket
    rw [kept.tcb]
    exact kept
  · rw [invalid]
    exact .ok (dormant.emit nofun)

theorem trigger (timeout : Timeout) : socket.trigger env timeout = .ok socket := by
  obtain ⟨t1Init, t1Cookie, t2Shutdown⟩ := timers_of_idle dormant.idle
  cases timeout <;>
    simp [DcSctpSocket.trigger, Timer.isDue, t1Init, t1Cookie, t2Shutdown, dormant.tcb]

theorem apply {call : Call σ} (harmless : HarmlessCall tag (.call call)) :
    Ensures (socket.apply env call) (Dormant tag connections) := by
  cases call with
  | connect => exact harmless.elim
  | shutdown =>
    simpa [DcSctpSocket.apply, shutdown, internalClose, dormant.closed, dormant.tcb] using
      Ensures.ok dormant
  | close => simpa [DcSctpSocket.apply, close, dormant.closed] using Ensures.ok dormant
  | receivePacket packet =>
    cases packet with
    | none => exact .ok (dormant.emit nofun)
    | some packet => exact dormant.receivePacket env harmless
  | handleTimeout timeout =>
    simpa [DcSctpSocket.apply, handleTimeout, dormant.trigger env, ok_bind, dormant.tcb] using
      Ensures.ok dormant
  | elsewhere sender => exact .ok ⟨dormant.idle, dormant.tag, dormant.announced⟩

end Dormant

/-- In all runs nothing is left of a closed association. -/
theorem idle_of_closed (linked : socket.control.Linked) (closed : socket.state = .closed) :
    socket.control = .idle := by
  obtain ⟨tcbIff, initIff, cookieIff, -, timed, quiet⟩ := linked
  have isClosed : socket.control.state = .closed := closed
  have tcb : socket.control.tcb = false := by simpa [isClosed] using tcbIff
  have none : socket.tcb = none := Option.not_isSome_iff_eq_none.mp (Bool.eq_false_iff.mp tcb)
  have echo : socket.control.cookieEcho = false := by simp [control, none]
  generalize socket.control = control at *
  cases control
  simp_all [Control.idle]

theorem linked_restoreFromState (linked : socket.control.Linked) (state : HandoverState σ) :
    (socket.restoreFromState state).control.Linked := by
  unfold restoreFromState
  split_ifs with isOpen connected
  · exact linked
  · obtain ⟨t1Init, t1Cookie, t2Shutdown⟩ :=
      timers_of_idle (idle_of_closed linked (not_not.mp isOpen))
    constructor <;> simp [control, emit, hasMessages, ControlBlock.hasMessages, t1Init, t1Cookie,
      t2Shutdown, state.receiver_pristine]
  · exact linked

theorem linked_of_restorableRun {sender : σ} {calls : List (RestorableCall σ)}
    {last : Except Fault (DcSctpSocket σ)}
    (run : (restorableCalls env).Run (.ok (create env sender)) calls last) :
    ∃ socket, last = .ok socket ∧ socket.control.Linked := by
  refine run.invariant (fun _ state => ∃ socket, state = .ok socket ∧ socket.control.Linked)
    ⟨_, rfl, linked_create env sender⟩ ?_
  rintro _ _ (call | handover) _ ⟨socket, rfl, linked⟩ _
  · obtain ⟨after, returned, moves⟩ := apply_follows env linked call fun _ _ => .inl trivial
    exact ⟨after, returned, moves.linked linked⟩
  · exact ⟨_, rfl, linked_restoreFromState linked handover⟩

/--
After every run that ends in a closed state, no calls leave it that neither connect nor
restore the socket, nor receive an INIT, nor a COOKIE ECHO with the tag that the association
had.
-/
theorem stays_closed {sender : σ} {earlier later : List (RestorableCall σ)}
    (run : (restorableCalls env).Run (.ok (create env sender)) earlier (.ok socket))
    (closed : socket.state = .closed)
    (harmless : ∀ call ∈ later, HarmlessCall socket.connectParams.verificationTag call) :
    Ensures (later.foldlM (applyRestorable env) socket) fun after =>
      after.state = .closed ∧ after.tcb = none ∧ after.connections = socket.connections := by
  obtain ⟨_, ⟨⟩, linked⟩ := linked_of_restorableRun env run
  have dormant : Dormant socket.connectParams.verificationTag socket.connections socket :=
    ⟨idle_of_closed linked closed, rfl, rfl⟩
  generalize socket.connectParams.verificationTag = tag at dormant harmless
  generalize socket.connections = connections at dormant
  clear run closed linked
  suffices ends : Ensures (later.foldlM (applyRestorable env) socket) (Dormant tag connections) from
    ends.weaken fun after kept => ⟨kept.closed, kept.tcb, kept.announced⟩
  induction later generalizing socket with
  | nil => exact .ok dormant
  | cons call others ih =>
    obtain ⟨first, rest⟩ := List.forall_mem_cons.mp harmless
    cases call with
    | call call => exact .bind (dormant.apply env first) fun next kept => ih rest kept
    | restoreFromState state => exact first.elim

/-- An association that is closed by its user. -/
def closedAssociation : List (RestorableCall Unit) :=
  [.call (initFrom 9), .call (echoFrom 9), .call .close]

theorem stays_closed_reflected :
    ∃ socket, (restorableCalls noMessages).Run (.ok (create noMessages ())) closedAssociation
        (.ok socket) ∧
      Ensures ([.call (.receivePacket (some (echoPacket 8 (madeUpCookie 9 0)))),
        .call .shutdown].foldlM (applyRestorable noMessages) socket) fun after =>
          after.state = .closed ∧ after.tcb = none ∧ after.connections = socket.connections := by
  have admitted : (restorableCalls noMessages).Admits (.ok (create noMessages ()))
      closedAssociation := Machine.admits_of_forall (fun _ _ _ => trivial) _
  have run := admitted.run
  obtain ⟨socket, returned, -⟩ := linked_of_restorableRun noMessages run
  have facts : ((restorableCalls noMessages).outcome (.ok (create noMessages ()))
      closedAssociation).toOption.map
        (fun socket => (socket.state, socket.connectParams.verificationTag)) =
      some (.closed, 7) := by
    decide +kernel
  rw [returned] at run facts
  obtain ⟨closed, tag⟩ := Prod.mk.inj (Option.some.inj facts)
  refine ⟨socket, run, stays_closed noMessages run closed ?_⟩
  rw [tag]
  simp [HarmlessCall, Harmless, echoPacket, SctpPacket.descriptors]

/-- The COOKIE ECHO of the association is received once more after its end. -/
theorem reopened_by_echo :
    ((restorableCalls noMessages).outcome (.ok (create noMessages ()))
      closedAssociation).toOption.map (fun socket => (socket.state, socket.connections)) =
      some (.closed, 1) ∧
    ((restorableCalls noMessages).outcome (.ok (create noMessages ()))
      (closedAssociation ++ [.call (echoFrom 9)])).toOption.map (fun socket =>
        (socket.state, socket.connections)) = some (.established, 2) := by
  decide +kernel

end MaeRtc.DcSctp.DcSctpSocket
