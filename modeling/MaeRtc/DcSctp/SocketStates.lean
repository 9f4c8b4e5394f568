import MaeRtc.DcSctp.DcSctpSocket

/-!
# The states of an association

What `IsConsistent` looks at is a finite part of the socket, its `Control`.  Every
call changes it along the moves below, which are the edges of the state diagram of
an association; each handler is shown to follow them, and what all runs keep is
then a matter of the moves alone.
-/

namespace MaeRtc.DcSctp.DcSctpSocket

open MaeRtc.Base

/-- The state, the timers that run, and what there is of a control block. -/
structure Control where
  state : State
  t1Init : Bool
  t1Cookie : Bool
  t2Shutdown : Bool
  tcb : Bool
  cookieEcho : Bool
  messages : Bool
  deriving DecidableEq

namespace Control

/-- Nothing is left of an association. -/
def idle : Control where
  state := .closed
  t1Init := false
  t1Cookie := false
  t2Shutdown := false
  tcb := false
  cookieEcho := false
  messages := false

/-- A shutdown was sent and waits for its answer. -/
def Awaiting (control : Control) : Prop :=
  control.state = .shutdownSent ∨ control.state = .shutdownAckSent

instance decidableAwaiting (control : Control) : Decidable control.Awaiting :=
  inferInstanceAs (Decidable (_ ∨ _))

/--
The edges of the state diagram.  An established association may come out of any
state; `late` says whether out of one that waits for the answer to a shutdown too.
-/
inductive Move (late : Prop) : Control → Control → Prop where
  | connect {control : Control} (closed : control.state = .closed) :
      Move late control { control with state := .cookieWait, t1Init := true }
  | tearDown {control : Control} (notClosed : control.state ≠ .closed) : Move late control idle
  | initAck {control : Control} (waiting : control.state = .cookieWait) :
      Move late control { control with
        state := .cookieEchoed, t1Init := false, t1Cookie := true
        tcb := true, cookieEcho := true, messages := false }
  | cookieAck {control : Control} (echoed : control.state = .cookieEchoed) :
      Move late control { control with
        state := .established, t1Cookie := false, cookieEcho := false }
  | cookieEcho {control : Control} (echo : Bool) (allowed : control.Awaiting → late) :
      Move late control { control with
        state := .established, t1Init := false, t1Cookie := false
        tcb := true, cookieEcho := echo, messages := false }
  | shutdown {control : Control} (open' : control.tcb = true) (early : ¬control.Awaiting) :
      Move late control { control with
        state := .shutdownPending, t1Init := false, t1Cookie := false }
  | shutdownReceived {control : Control}
      (running : control.state = .established ∨ control.state = .shutdownPending) :
      Move late control { control with state := .shutdownReceived }
  | shutdownSent {control : Control} (pending : control.state = .shutdownPending) :
      Move late control { control with state := .shutdownSent, t2Shutdown := true }
  | shutdownAckSent {control : Control}
      (received : control.state = .shutdownReceived ∨ control.state = .shutdownSent) :
      Move late control { control with state := .shutdownAckSent, t2Shutdown := true }
  | shutdownAgain {control : Control} (awaiting : control.Awaiting) :
      Move late control { control with t2Shutdown := true }

/-- What the state says in all runs. -/
structure Linked (control : Control) : Prop where
  tcb : control.tcb = true ↔ control.state ≠ .closed ∧ control.state ≠ .cookieWait
  t1Init : control.t1Init = true ↔ control.state = .cookieWait
  t1Cookie : control.t1Cookie = true ↔ control.state = .cookieEchoed
  cookieEcho : control.state = .cookieEchoed → control.cookieEcho = true
  t2Shutdown : control.t2Shutdown = true → control.tcb = true
  messages : control.messages = false

/-- The timer of the shutdown runs exactly while an answer is awaited. -/
def Timed (control : Control) : Prop :=
  control.t2Shutdown = true ↔ control.Awaiting

/-- `IsConsistent`, as a property of what it looks at. -/
def isConsistent (control : Control) : Bool :=
  if control.messages then false
  else match control.state with
    | .closed =>
      !control.tcb && !control.t1Init && !control.t1Cookie && !control.t2Shutdown
    | .cookieWait =>
      !control.tcb && control.t1Init && !control.t1Cookie && !control.t2Shutdown
    | .cookieEchoed =>
      control.tcb && !control.t1Init && control.t1Cookie && !control.t2Shutdown &&
        control.cookieEcho
    | .established | .shutdownPending | .shutdownReceived =>
      control.tcb && !control.t1Init && !control.t1Cookie && !control.t2Shutdown
    | .shutdownSent | .shutdownAckSent =>
      control.tcb && !control.t1Init && !control.t1Cookie && control.t2Shutdown

theorem linked_idle : idle.Linked := by
  constructor <;> simp [idle]

theorem timed_idle : idle.Timed := by
  simp [Timed, Awaiting, idle]

theorem Linked.isConsistent_iff {control : Control} (linked : control.Linked) :
    control.isConsistent = true ↔ control.Timed := by
  obtain ⟨state, t1Init, t1Cookie, t2Shutdown, tcb, cookieEcho, messages⟩ := control
  obtain ⟨tcbIff, initIff, cookieIff, echo, -, quiet⟩ := linked
  cases state <;> simp_all [isConsistent, Timed, Awaiting]

variable {before after : Control}

theorem Move.linked {late : Prop} (move : Move late before after) (linked : before.Linked) :
    after.Linked := by
  obtain ⟨tcbIff, initIff, cookieIff, echo, timed, quiet⟩ := linked
  cases move with
  | connect closed => constructor <;> simp_all
  | tearDown notClosed => exact linked_idle
  | initAck waiting => constructor <;> simp_all
  | cookieAck echoed => constructor <;> simp_all
  | cookieEcho echo allowed => constructor <;> simp_all
  | shutdown open' early => constructor <;> simp_all
  | shutdownReceived running => rcases running with state | state <;> constructor <;> simp_all
  | shutdownSent pending => constructor <;> simp_all
  | shutdownAckSent received => rcases received with state | state <;> constructor <;> simp_all
  | shutdownAgain awaiting => rcases awaiting with state | state <;> constructor <;> simp_all

theorem Move.timed (move : Move False before after) (timed : before.Timed) : after.Timed := by
  unfold Timed at timed ⊢
  cases move with
  | connect closed =>
    have idle : before.t2Shutdown = false := by
      simpa [Awaiting, closed] using timed
    simp [Awaiting, idle]
  | tearDown notClosed => exact timed_idle
  | initAck waiting => simpa [Awaiting, waiting] using timed
  | cookieAck echoed => simpa [Awaiting, echoed] using timed
  | cookieEcho echo allowed =>
    have idle : before.t2Shutdown = false := by
      simpa using mt timed.mp allowed
    simp [Awaiting, idle]
  | shutdown open' early =>
    have idle : before.t2Shutdown = false := by
      simpa using mt timed.mp early
    simp [Awaiting, idle]
  | shutdownReceived running =>
    rcases running with state | state
    · simpa [Awaiting, state] using timed
    · simpa [Awaiting, state] using timed
  | shutdownSent pending => simp [Awaiting]
  | shutdownAckSent received => simp [Awaiting]
  | shutdownAgain awaiting => exact ⟨fun _ => awaiting, fun _ => rfl⟩

/-- What a call does to the control: some moves in a row. -/
abbrev Moves (late : Prop) : Control → Control → Prop :=
  Relation.ReflTransGen (Move late)

theorem Moves.linked {late : Prop} (moves : Moves late before after) (linked : before.Linked) :
    after.Linked := by
  induction moves with
  | refl => exact linked
  | tail _ move ih => exact move.linked ih

theorem Moves.timed (moves : Moves False before after) (timed : before.Timed) : after.Timed := by
  induction moves with
  | refl => exact timed
  | tail _ move ih => exact move.timed ih

end Control

open Control

variable {σ : Type} (env : Surroundings σ)

def control (socket : DcSctpSocket σ) : Control where
  state := socket.state
  t1Init := socket.t1Init.isRunning
  t1Cookie := socket.t1Cookie.isRunning
  t2Shutdown := socket.t2Shutdown.isRunning
  tcb := socket.tcb.isSome
  cookieEcho := socket.tcb.any fun tcb => tcb.cookieEchoChunk.isSome
  messages := socket.hasMessages

theorem isConsistent_eq (socket : DcSctpSocket σ) :
    socket.isConsistent = socket.control.isConsistent := by
  unfold isConsistent Control.isConsistent
  cases tcb : socket.tcb with
  | none => cases state : socket.state <;> simp [control, tcb, state]
  | some block => cases state : socket.state <;> simp [control, tcb, state]

/-! ## What leaves the control as it is -/

@[simp] theorem control_emit (event : SocketEvent) (socket : DcSctpSocket σ) :
    (socket.emit event).control = socket.control :=
  rfl

@[simp] theorem tcb_emit (event : SocketEvent) (socket : DcSctpSocket σ) :
    (socket.emit event).tcb = socket.tcb :=
  rfl

section

variable (verificationTag : VerificationTag) (chunks : List SentChunk) (socket : DcSctpSocket σ)

theorem send_control : (socket.send env verificationTag chunks).2.control = socket.control := by
  unfold send
  split_ifs
  · rfl
  · rfl

@[simp] theorem control_post : (socket.post env verificationTag chunks).control = socket.control :=
  send_control env verificationTag chunks socket

@[simp] theorem state_post : (socket.post env verificationTag chunks).state = socket.state :=
  congrArg Control.state (control_post env verificationTag chunks socket)

end

@[simp] theorem control_relay (verificationTag : VerificationTag) (output : SocketOutput)
    (socket : DcSctpSocket σ) :
    (relay env verificationTag socket output).control = socket.control := by
  cases output <;> simp [relay]

theorem control_relays (verificationTag : VerificationTag) (outputs : List SocketOutput)
    (socket : DcSctpSocket σ) :
    (outputs.foldl (relay env verificationTag) socket).control = socket.control := by
  induction outputs generalizing socket with
  | nil => rfl
  | cons output others ih => rw [List.foldl_cons, ih, control_relay]

/-- No message waits for being delivered. -/
def Quiet (receiver : TransmissionControlBlock) : Prop :=
  receiver.reassemblyQueue.reassembledMessages = []

variable {socket : DcSctpSocket σ} {tcb : ControlBlock}

theorem quiet_of_control (silent : socket.control.messages = false)
    (present : socket.tcb = some tcb) : Quiet tcb.receiver := by
  have none : socket.hasMessages = false := silent
  simpa [hasMessages, present, ControlBlock.hasMessages, Quiet] using none

/-- Another control block that is no different to the control. -/
theorem control_setTcb {tcb block : ControlBlock} (present : socket.tcb = some tcb)
    (echo : block.cookieEchoChunk.isSome = tcb.cookieEchoChunk.isSome)
    (silent : socket.control.messages = false) (quiet : Quiet block.receiver)
    (events : List SocketEvent) :
    { socket with tcb := some block, events := events }.control = socket.control := by
  have before := quiet_of_control silent present
  unfold Quiet at quiet before
  simp [control, present, echo, hasMessages, ControlBlock.hasMessages, quiet, before]

theorem control_updateReceiver {result : TransmissionControlBlock × List SocketOutput}
    (present : socket.tcb = some tcb) (silent : socket.control.messages = false)
    (quiet : Quiet result.1) : (updateReceiver env tcb socket result).control = socket.control := by
  unfold updateReceiver
  rw [control_relays]
  exact @control_setTcb _ socket tcb { tcb with receiver := result.1 } present rfl silent quiet _

theorem exists_tcb (open' : socket.control.tcb = true) : ∃ tcb, socket.tcb = some tcb :=
  Option.isSome_iff_exists.mp open'

theorem derefTcb_eq (present : socket.tcb = some tcb) : socket.derefTcb = .ok tcb := by
  simp [derefTcb, present]

theorem sendToPeer_eq (present : socket.tcb = some tcb) (chunks : List SentChunk) :
    socket.sendToPeer env chunks = .ok (socket.post env tcb.peerVerificationTag chunks) := by
  unfold sendToPeer
  rw [derefTcb_eq present, ok_bind]

theorem tcb_post (verificationTag : VerificationTag) (chunks : List SentChunk)
    (socket : DcSctpSocket σ) : (socket.post env verificationTag chunks).tcb = socket.tcb := by
  unfold post send
  split_ifs
  · rfl
  · rfl

/-! ## Sending what is buffered -/

theorem quiet_bundleSack {builder : List SentChunk} (quiet : Quiet tcb.receiver) :
    Quiet (bundleSack builder tcb).2.receiver := by
  unfold bundleSack
  dsimp only
  split_ifs
  · exact quiet
  · exact quiet

theorem cookieEcho_bundleSack (builder : List SentChunk) (tcb : ControlBlock) :
    (bundleSack builder tcb).2.cookieEchoChunk = tcb.cookieEchoChunk := by
  unfold bundleSack
  dsimp only
  split_ifs
  · rfl
  · rfl

theorem control_maybeSendForwardTsn (verificationTag : VerificationTag)
    (builder : List SentChunk) (socket : DcSctpSocket σ) :
    (maybeSendForwardTsn env verificationTag builder socket).2.control = socket.control := by
  unfold maybeSendForwardTsn
  split
  · rfl
  · rw [control_post]
    rfl

theorem control_bundleControlChunks (builder : List SentChunk) (present : socket.tcb = some tcb)
    (silent : socket.control.messages = false) :
    (bundleControlChunks env tcb builder socket).2.control = socket.control := by
  calc
    _ = { socket with tcb := some (bundleSack _ tcb).2 }.control :=
      control_maybeSendForwardTsn env _ _ _
    _ = socket.control := control_setTcb present (by rw [cookieEcho_bundleSack]) silent
      (quiet_bundleSack (quiet_of_control silent present)) socket.events

section

variable (Holds : DcSctpSocket σ → Prop)
  (kept : ∀ socket, Holds socket → Holds (sendFilled env tcb [] socket).2) (rounds : Nat)
include kept

/-- Rule for the further packets: what every packet keeps. -/
theorem sendMore_rule (holds : Holds socket) : Holds (sendMore env tcb rounds socket) := by
  induction rounds generalizing socket with
  | zero => exact holds
  | succ rounds ih =>
    have filled := kept socket holds
    rw [sendMore]
    split_ifs
    · generalize sendFilled env tcb [] socket = result at filled
      obtain ⟨sent, next⟩ := result
      cases sent with
      | true => exact ih filled
      | false => exact filled
    · exact holds

/-- Rule for a burst: what the first packet brings, and every further packet keeps. -/
theorem sendBurst_rule {builder : List SentChunk}
    (first : Holds (sendFilled env tcb (bundleControlChunks env tcb builder socket).1
      (bundleControlChunks env tcb builder socket).2).2) :
    Holds (sendBurst env tcb rounds builder socket) := by
  unfold sendBurst
  dsimp only
  generalize sendFilled env tcb _ _ = result at first ⊢
  obtain ⟨sent, next⟩ := result
  cases sent with
  | true =>
    split_ifs
    · exact first
    · exact sendMore_rule env Holds kept rounds first
  | false => exact first

end

theorem control_sendBurst (rounds : Nat) (builder : List SentChunk)
    (present : socket.tcb = some tcb) (silent : socket.control.messages = false) :
    (sendBurst env tcb rounds builder socket).control = socket.control :=
  sendBurst_rule env (fun after => after.control = socket.control)
    (fun _ same => (send_control env _ _ _).trans same) rounds
    ((send_control env _ _ _).trans (control_bundleControlChunks env builder present silent))

theorem sendBufferedPackets_ensures (builder : List SentChunk) (open' : socket.control.tcb = true)
    (silent : socket.control.messages = false) :
    Ensures (socket.sendBufferedPackets env builder) fun after =>
      after.control = socket.control := by
  obtain ⟨tcb, present⟩ := exists_tcb open'
  unfold sendBufferedPackets
  rw [derefTcb_eq present, ok_bind]
  split
  · exact .ok rfl
  · split_ifs
    · exact .ok (control_sendBurst env _ builder present silent)
    · exact .ok rfl

end MaeRtc.DcSctp.DcSctpSocket
