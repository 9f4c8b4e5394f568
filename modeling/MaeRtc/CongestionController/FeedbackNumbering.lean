import MaeRtc.CongestionController.TransportFeedbackAdapter
import MaeRtc.RtcBase.SequenceRecovery

/-!
# The numbers of packets and the numbers in feedback

`AddPacket` and the handler of feedback unwrap their numbers with the same unwrapper.  What a
peer reports therefore moves the point from which the next packet is numbered.
-/

namespace MaeRtc.CongestionController

open Base Std SeqNumUnwrapper

/-- The numbers that a call unwraps, in order. -/
def AdapterCall.numbers : AdapterCall → List SeqNum
  | .addPacket packetInfo _ _ => [packetInfo.transportSequenceNumber]
  | .processSentPacket sentPacket =>
    if sentPacket.includedInFeedback ∨ sentPacket.packetId ≠ -1 then
      [BitVec.ofInt 16 sentPacket.packetId]
    else []
  | .setNetworkRoute _ => []
  | .processTransportFeedback feedback _ =>
    (Rtcp.TransportFeedback.reports feedback.numSeqNo feedback.baseSeqNo
      feedback.receivedPackets 0).1.map Prod.fst

namespace TransportFeedbackAdapter

variable {self : TransportFeedbackAdapter} {Holds : SeqNumUnwrapper 16 → Prop}

/-- The unwrapped number that `AddPacket` gives to a packet. -/
def assigned (self : TransportFeedbackAdapter) (packetInfo : RtpPacketSendInfo) : Int :=
  (self.seqNumUnwrapper.unwrap 0 packetInfo.transportSequenceNumber).1

theorem unwrapper_eraseExpired (creationTime : Timestamp) (entries : List (Int × PacketFeedback)) :
    Yields (eraseExpired creationTime entries self) fun after =>
      after.seqNumUnwrapper = self.seqNumUnwrapper := by
  induction entries generalizing self with
  | nil => exact .ok rfl
  | cons entry others ih =>
    unfold eraseExpired
    split
    · exact .bind (fun _ _ => trivial : Yields _ fun _ => True) fun _ _ => ih
    · exact .ok rfl

theorem unwrapper_addPacket (packetInfo : RtpPacketSendInfo) (overheadBytes : Nat)
    (creationTime : Timestamp) :
    Yields (self.addPacket packetInfo overheadBytes creationTime) fun after =>
      after.seqNumUnwrapper =
        (self.seqNumUnwrapper.unwrap 0 packetInfo.transportSequenceNumber).2 :=
  (unwrapper_eraseExpired creationTime _).bind fun _ same => .ok same

theorem unwrapper_acknowledge (seqNum : Int) :
    Yields (self.acknowledge seqNum) fun after => after.seqNumUnwrapper = self.seqNumUnwrapper := by
  unfold acknowledge
  split
  · exact .bind (fun _ _ => trivial : Yields _ fun _ => True) fun _ _ => .ok rfl
  · exact .ok rfl

theorem processPacket_rule {number : SeqNum} (holds : Holds (self.seqNumUnwrapper.unwrap 0 number).2)
    (delta : Option Int) :
    Yields (self.processPacket number delta) fun result => Holds result.2.seqNumUnwrapper := by
  refine (unwrapper_acknowledge _).bind fun after same => ?_
  have kept : Holds after.seqNumUnwrapper := same ▸ holds
  split
  · exact .ok kept
  · split
    · exact .ok kept
    · cases delta <;> dsimp only <;> split <;> exact .ok kept

theorem processPackets_rule {reports : List (SeqNum × Option Int)}
    (kept : ∀ unwrapper, ∀ number ∈ reports.map Prod.fst, Holds unwrapper →
      Holds (unwrapper.unwrap 0 number).2)
    (results : List PacketResult) (holds : Holds self.seqNumUnwrapper) :
    Yields (processPackets reports results self) fun result => Holds result.2.seqNumUnwrapper := by
  induction reports generalizing self results with
  | nil => exact .ok holds
  | cons report others ih =>
    refine (processPacket_rule (kept _ report.1 List.mem_cons_self holds) report.2).bind ?_
    exact fun result next =>
      ih (fun unwrapper number member => kept unwrapper number (List.mem_cons_of_mem _ member)) _ next

/-- What unwrapping the numbers of a call keeps, the call keeps. -/
theorem step_rule {call : AdapterCall}
    (kept : ∀ unwrapper, ∀ number ∈ call.numbers, Holds unwrapper →
      Holds (unwrapper.unwrap 0 number).2)
    (holds : Holds self.seqNumUnwrapper) :
    Yields (self.step call) fun after => Holds after.seqNumUnwrapper := by
  cases call with
  | addPacket packetInfo overheadBytes creationTime =>
    refine (unwrapper_addPacket packetInfo overheadBytes creationTime).weaken fun after same => ?_
    rw [same]
    exact kept _ _ List.mem_cons_self holds
  | processSentPacket sentPacket =>
    refine Yields.map ?_
    unfold processSentPacket
    dsimp only
    split
    next unwraps =>
      have next := kept self.seqNumUnwrapper (BitVec.ofInt 16 sentPacket.packetId)
        (by simp [AdapterCall.numbers, unwraps]) holds
      split
      · unfold markSent
        dsimp only
        split
        · exact .ok next
        · exact .bind (fun _ _ => trivial : Yields _ fun _ => True) fun _ _ => .ok next
      · exact .ok next
    · split
      · exact .ok holds
      · exact .ok holds
  | setNetworkRoute route => exact .ok holds
  | processTransportFeedback feedback feedbackReceiveTime =>
    have moved : Holds (self.updateOffset feedback feedbackReceiveTime).seqNumUnwrapper := holds
    refine Yields.map ?_
    unfold processTransportFeedback
    split
    · exact .ok holds
    · refine (processPackets_rule kept [] moved).bind fun result next => ?_
      dsimp only
      split
      · exact .ok next
      · exact .ok next

theorem run_rule {calls : List AdapterCall}
    (kept : ∀ unwrapper, ∀ call ∈ calls, ∀ number ∈ call.numbers, Holds unwrapper →
      Holds (unwrapper.unwrap 0 number).2)
    (holds : Holds self.seqNumUnwrapper) :
    Yields (calls.foldlM step self) fun after => Holds after.seqNumUnwrapper := by
  induction calls generalizing self with
  | nil => exact .ok holds
  | cons call others ih =>
    refine (step_rule (fun unwrapper => kept unwrapper call List.mem_cons_self) holds).bind ?_
    exact fun after next =>
      ih (fun unwrapper call member => kept unwrapper call (List.mem_cons_of_mem _ member)) next

end TransportFeedbackAdapter

/-! ## Numbers of recent packets -/

/-- The number of a packet that was added less than half a turn before the last one. -/
def Recent (last number : SeqNum) : Prop :=
  (last - number).toNat + 1 < 2 ^ 15

instance : DecidableRel Recent := fun _ _ => inferInstanceAs (Decidable (_ < _))

/-- The unwrapper stands at a recent number. -/
structure Follows (last : Int) (unwrapper : SeqNumUnwrapper 16) : Prop where
  inStep : unwrapper.InStep 0
  above : last - 2 ^ 15 + 1 < unwrapper.lastUnwrapped
  upTo : unwrapper.lastUnwrapped ≤ last

/-- The unwrapper finds every number that is less than half a turn away. -/
theorem peekUnwrap_eq {unwrapper : SeqNumUnwrapper 16} (inStep : unwrapper.InStep 0) {number : Int}
    {value : SeqNum} (isValue : number % 65536 = value.toNat)
    (above : unwrapper.lastUnwrapped - 2 ^ 15 < number)
    (below : number < unwrapper.lastUnwrapped + 2 ^ 15) :
    peekUnwrap 0 unwrapper value = number := by
  have near : |number - unwrapper.lastUnwrapped| < 2 ^ 15 := abs_lt.mpr ⟨by omega, by omega⟩
  have isWrapped : wrapped 0 number = value := by
    refine BitVec.eq_of_toNat_eq (Int.natCast_inj.mp ?_)
    rw [toNat_wrapped, ← isValue]
    rfl
  rw [← isWrapped]
  refine peekUnwrap_wrapped (by decide) inStep ?_
  change 2 * |number - unwrapper.lastUnwrapped| < 65536
  omega

theorem Follows.unwrap {unwrapped : Int} {last number : SeqNum} {unwrapper : SeqNumUnwrapper 16}
    (isLast : unwrapped % 65536 = last.toNat) (recent : Recent last number)
    (follows : Follows unwrapped unwrapper) : Follows unwrapped (unwrapper.unwrap 0 number).2 := by
  obtain ⟨inStep, above, upTo⟩ := follows
  have back := BitVec.toNat_sub last number
  unfold Recent at recent
  have found : peekUnwrap 0 unwrapper number = unwrapped - (last - number).toNat :=
    peekUnwrap_eq inStep (by omega) (by omega) (by omega)
  refine ⟨inStep.unwrap (by decide) number.isLt, ?_, ?_⟩
  · change _ < peekUnwrap 0 unwrapper number
    omega
  · change peekUnwrap 0 unwrapper number ≤ _
    omega

/--
In every run, the packet after an added one is numbered one higher if, in between, only
numbers of the last `2 ^ 15 - 1` packets are reported.
-/
theorem assigned_succ_of_run {earlier between : List AdapterCall}
    {packetInfo next : RtpPacketSendInfo} {overheadBytes : Nat} {creationTime : Timestamp}
    {before after : TransportFeedbackAdapter}
    (ran : TransportFeedbackAdapter.run earlier = .ok before)
    (continued : (.addPacket packetInfo overheadBytes creationTime :: between).foldlM
      TransportFeedbackAdapter.step before = .ok after)
    (consecutive : next.transportSequenceNumber = packetInfo.transportSequenceNumber + 1)
    (recent : ∀ call ∈ between, ∀ number ∈ call.numbers,
      Recent packetInfo.transportSequenceNumber number) :
    after.assigned next = before.assigned packetInfo + 1 := by
  have started : before.seqNumUnwrapper = {} ∨ before.seqNumUnwrapper.InStep 0 := by
    refine @TransportFeedbackAdapter.run_rule {} (fun unwrapper => unwrapper = {} ∨
      unwrapper.InStep 0) earlier ?_ (Or.inl rfl) before ran
    rintro unwrapper _ _ number _ (rfl | inStep)
    · exact Or.inr (inStep_unwrap_new number.isLt)
    · exact Or.inr (inStep.unwrap (by decide) number.isLt)
  have inStep : (before.seqNumUnwrapper.unwrap 0 packetInfo.transportSequenceNumber).2.InStep 0 := by
    rcases started with isNew | inStep
    · rw [isNew]
      exact inStep_unwrap_new (BitVec.isLt _)
    · exact inStep.unwrap (by decide) (BitVec.isLt _)
  have isLast : before.assigned packetInfo % 65536 = packetInfo.transportSequenceNumber.toNat := by
    obtain ⟨_, ⟨⟩, _, congruent⟩ := inStep
    exact congruent
  have follows : Follows (before.assigned packetInfo) after.seqNumUnwrapper := by
    refine Yields.bind (TransportFeedbackAdapter.unwrapper_addPacket packetInfo overheadBytes
      creationTime) (fun added same => TransportFeedbackAdapter.run_rule ?_ ?_) after continued
    · exact fun unwrapper call member number isNumber =>
        Follows.unwrap isLast (recent call member number isNumber)
    · rw [same]
      refine ⟨inStep, ?_, le_rfl⟩
      change before.assigned packetInfo - 2 ^ 15 + 1 < before.assigned packetInfo
      omega
  obtain ⟨stillInStep, above, upTo⟩ := follows
  have forward := BitVec.toNat_add packetInfo.transportSequenceNumber 1
  have one : (1 : SeqNum).toNat = 1 := rfl
  change peekUnwrap 0 after.seqNumUnwrapper next.transportSequenceNumber =
    before.assigned packetInfo + 1
  rw [consecutive]
  exact peekUnwrap_eq stillInStep (by omega) (by omega) (by omega)

/-- Feedback for one packet that was received. -/
def feedbackFor (number : SeqNum) : Rtcp.TransportFeedback :=
  { baseSeqNo := number, numSeqNo := 1, receivedPackets := [⟨number, 0⟩] }

/-- A packet is added, and its arrival is reported. -/
def reportedOnce : List AdapterCall :=
  [.addPacket ⟨0, 100, none, {}⟩ 0 (.finite 0),
    .processTransportFeedback (feedbackFor 0) (.finite 1000)]

theorem assigned_succ_reported :
    ∃ after, TransportFeedbackAdapter.run reportedOnce = .ok after ∧
      after.assigned ⟨1, 100, none, {}⟩ = 1 := by
  have returns : (TransportFeedbackAdapter.run reportedOnce).isOk = true := by decide +kernel
  cases ran : TransportFeedbackAdapter.run reportedOnce with
  | error violation =>
    rw [ran] at returns
    exact absurd returns Bool.false_ne_true
  | ok after =>
    refine ⟨after, rfl, ?_⟩
    exact @assigned_succ_of_run [] _ ⟨0, 100, none, {}⟩ ⟨1, 100, none, {}⟩ 0 (.finite 0) {} after
      rfl ran rfl
      (by simp [AdapterCall.numbers, feedbackFor, Rtcp.TransportFeedback.reports, Recent])

/-- Between two consecutive packets, a peer reports two numbers that were never sent. -/
def reportedAhead : List AdapterCall :=
  [.addPacket ⟨0, 100, none, {}⟩ 0 (.finite 0),
    .processTransportFeedback (feedbackFor 28672) (.finite 1000),
    .processTransportFeedback (feedbackFor 57344) (.finite 2000)]

/-- The second packet is numbered a whole turn too high. -/
theorem assigned_turnTooHigh :
    TransportFeedbackAdapter.assigned {} ⟨0, 100, none, {}⟩ = 0 ∧
    (TransportFeedbackAdapter.run reportedAhead).toOption.map
      (·.assigned ⟨1, 100, none, {}⟩) = some 65537 := by
  decide +kernel

end MaeRtc.CongestionController
