import MaeRtc.DcSctp.QueuedBytes
import MaeRtc.DcSctp.ReceivePath

/-!
# The advertised receive window

A SACK advertises what is left of the reassembly queue below its watermark.  The
socket checks the queue before it adds a chunk, but not whether the chunk fits, so
the difference can go below zero and wrap.  As long as every admitted chunk fits
into the window that is left, the advertised window is at most the watermark.
-/

namespace MaeRtc.DcSctp

open MaeRtc.Base ReassemblyQueue

namespace TransmissionControlBlock

/-- What a SACK of this moment advertises. -/
def advertisedWindow (tcb : TransmissionControlBlock) : BitVec 32 :=
  tcb.createSelectiveAck.1.aRwnd

/-- The rules under which a chunk is handed to the data tracker. -/
def admits (tcb : TransmissionControlBlock) (chunk : AnyDataChunk) : Bool :=
  !chunk.data.payload.isEmpty && !tcb.reassemblyQueue.isFull &&
    (!tcb.reassemblyQueue.isAboveWatermark || tcb.dataTracker.willIncreaseCumAckTsn chunk.tsn) &&
    tcb.dataTracker.isTSNValid chunk.tsn

variable {after : TransmissionControlBlock}

/-- A chunk leaves the queue as it is, or was admitted and is added to it. -/
theorem handleDataCommon_cases {tcb : TransmissionControlBlock} {chunk : AnyDataChunk}
    (step : after ∈ (tcb.handleDataCommon chunk).1) :
    after.reassemblyQueue = tcb.reassemblyQueue ∨
      tcb.admits chunk = true ∧
        after = (maybeResetStreamsDeferredAndDeliverMessages { tcb with
          dataTracker := (tcb.dataTracker.observe chunk.tsn chunk.immediateAck).2
          reassemblyQueue := tcb.reassemblyQueue.add chunk.tsn chunk.data }).1 := by
  unfold handleDataCommon at step
  split at step
  · cases step
    exact .inl rfl
  next nonempty =>
  split at step
  · cases step
  next notFull =>
  split at step
  · cases step
    exact .inl rfl
  next rules =>
  split at step
  · cases step
    exact .inl rfl
  next valid =>
  dsimp only at step
  split at step
  · cases step
    have increases : (!tcb.reassemblyQueue.isAboveWatermark ||
        tcb.dataTracker.willIncreaseCumAckTsn chunk.tsn) = true := by
      revert rules
      cases tcb.reassemblyQueue.isAboveWatermark <;>
        cases tcb.dataTracker.willIncreaseCumAckTsn chunk.tsn <;> decide
    refine .inr ⟨?_, rfl⟩
    rw [admits, increases, Bool.eq_false_iff.mpr nonempty, Bool.eq_false_iff.mpr notFull]
    simpa using valid
  · cases step
    exact .inl rfl

/-- What the receive path reads. -/
inductive Received where
  | data (chunk : AnyDataChunk)
  | forwardTsn (chunk : AnyForwardTsnChunk)
  | resetRequest (req : OutgoingSsnResetRequestParameter)
  | packetEnd
  | delayedAckTimerExpiry

/-- After the socket is closed, nothing is received any more. -/
def machine : Machine (Option TransmissionControlBlock) Received where
  pre _ _ := True
  next socket received := socket.bind fun tcb => match received with
    | .data chunk => (tcb.handleDataCommon chunk).1
    | .forwardTsn chunk => some (tcb.handleForwardTsnCommon chunk).1
    | .resetRequest req => some { tcb with
        reassemblyQueue := (tcb.reassemblyQueue.resetStreams req
          (Unwrapped.wrap 32 tcb.dataTracker.lastCumulativeAckedTsn)).2 }
    | .packetEnd => some tcb.handlePacketEnd.1
    | .delayedAckTimerExpiry => some tcb.onDelayedAckTimerExpiry.1

/-- Every chunk that is admitted fits into what is left below the watermark. -/
def Fits (socket : Option TransmissionControlBlock) (received : Received) : Prop :=
  ∀ tcb ∈ socket, ∀ chunk, received = .data chunk → tcb.admits chunk = true →
    chunk.data.size ≤ tcb.reassemblyQueue.remainingBytes.toNat

/-- The bytes of the queue are counted, and within its watermark. -/
structure Bounded (watermarkBytes : BitVec 64) (tcb : TransmissionControlBlock) : Prop where
  watermark : tcb.reassemblyQueue.watermarkBytes = watermarkBytes
  counts : Counts watermarkBytes.toNat tcb.reassemblyQueue

variable {watermarkBytes : BitVec 64} {tcb : TransmissionControlBlock}

namespace Bounded

section

variable (bounded : Bounded watermarkBytes tcb) (small : watermarkBytes.toNat < 2 ^ 31)
include bounded small

theorem toNat_remainingBytes :
    tcb.reassemblyQueue.remainingBytes.toNat =
      watermarkBytes.toNat - tcb.reassemblyQueue.heldBytes := by
  have counted := bounded.counts.toNat_queuedBytes small
  have within : tcb.reassemblyQueue.heldBytes ≤ watermarkBytes.toNat := bounded.counts.within
  rw [remainingBytes, bounded.watermark, BitVec.toNat_sub_of_le
    (by rw [BitVec.le_def, counted]; exact within), counted]

/-- Messages are delivered without a change of what is held. -/
theorem deliver : Bounded watermarkBytes tcb.maybeResetStreamsDeferredAndDeliverMessages.1 := by
  have reset := (Counted.keptByReset small).maybeResetStreamsDeferred bounded.counts
    (Unwrapped.wrap 32 tcb.dataTracker.lastCumulativeAckedTsn)
  refine ⟨?_, reset.bytes, reset.within⟩
  rw [← bounded.watermark]
  exact watermarkBytes_maybeResetStreamsDeferred _ _

theorem handleDataCommon {chunk : AnyDataChunk}
    (fits : tcb.admits chunk = true → chunk.data.size ≤ tcb.reassemblyQueue.remainingBytes.toNat)
    (step : after ∈ (tcb.handleDataCommon chunk).1) : Bounded watermarkBytes after := by
  rcases handleDataCommon_cases step with same | ⟨admitted, rfl⟩
  · exact ⟨by rw [same, bounded.watermark], by rw [same]; exact bounded.counts⟩
  have room := fits admitted
  rw [bounded.toNat_remainingBytes small] at room
  have within : tcb.reassemblyQueue.heldBytes ≤ watermarkBytes.toNat := bounded.counts.within
  have added : Bounded watermarkBytes { tcb with
      dataTracker := (tcb.dataTracker.observe chunk.tsn chunk.immediateAck).2
      reassemblyQueue := tcb.reassemblyQueue.add chunk.tsn chunk.data } :=
    ⟨(watermarkBytes_add _ _ _).trans bounded.watermark,
      bounded.counts.add small chunk.tsn (by omega)⟩
  exact added.deliver small

theorem handleForwardTsnCommon (chunk : AnyForwardTsnChunk) :
    Bounded watermarkBytes (tcb.handleForwardTsnCommon chunk).1 := by
  unfold TransmissionControlBlock.handleForwardTsnCommon
  split
  · exact bounded
  · have handled : Bounded watermarkBytes { tcb with
        dataTracker := tcb.dataTracker.handleForwardTsn chunk.newCumulativeTsn
        reassemblyQueue := tcb.reassemblyQueue.handle chunk } :=
      ⟨(watermarkBytes_handle _ _).trans bounded.watermark, bounded.counts.handle small chunk⟩
    exact handled.deliver small

end

theorem maybeSendSack (bounded : Bounded watermarkBytes tcb) :
    Bounded watermarkBytes tcb.maybeSendSack.1 := by
  unfold TransmissionControlBlock.maybeSendSack
  dsimp only
  split
  · exact ⟨bounded.watermark, bounded.counts⟩
  · exact ⟨bounded.watermark, bounded.counts⟩

theorem next (bounded : Bounded watermarkBytes tcb) (small : watermarkBytes.toNat < 2 ^ 31)
    {received : Received} (fits : Fits (some tcb) received)
    (step : after ∈ machine.next (some tcb) received) : Bounded watermarkBytes after := by
  cases received with
  | data chunk => exact bounded.handleDataCommon small (fits tcb rfl chunk rfl) step
  | forwardTsn chunk =>
    cases step
    exact bounded.handleForwardTsnCommon small chunk
  | resetRequest req =>
    cases step
    exact ⟨(watermarkBytes_resetStreams _ _ _).trans bounded.watermark,
      (Counted.keptByReset small).resetStreams bounded.counts req _⟩
  | packetEnd =>
    cases step
    exact maybeSendSack ⟨bounded.watermark, bounded.counts⟩
  | delayedAckTimerExpiry =>
    cases step
    exact maybeSendSack ⟨bounded.watermark, bounded.counts⟩

end Bounded

/--
As long as every admitted chunk fits into the window that is left, no SACK
advertises more than the watermark.
-/
theorem advertisedWindow_le_of_run (peerInitialTsn : Tsn) (maxSizeBytes watermarkBytes : BitVec 64)
    (small : watermarkBytes.toNat < 2 ^ 31) (useMessageInterleaving : Bool)
    (received : List Received) (tcb : TransmissionControlBlock)
    (run : (machine.restrict Fits).Run
      (some (new peerInitialTsn maxSizeBytes watermarkBytes useMessageInterleaving)) received
      (some tcb)) :
    tcb.advertisedWindow.toNat ≤ tcb.reassemblyQueue.watermarkBytes.toNat := by
  have bounded : ∀ tcb' ∈ some tcb, Bounded watermarkBytes tcb' :=
    run.invariant (fun _ socket => ∀ tcb ∈ socket, Bounded watermarkBytes tcb)
      (fun tcb' same => by
        cases same
        exact ⟨rfl, counts_new _ peerInitialTsn maxSizeBytes watermarkBytes useMessageInterleaving⟩)
      (fun _ socket received _ before admissible after step => by
        cases socket with
        | none => cases step
        | some tcb => exact (before tcb rfl).next small admissible.2 step)
  have final := bounded tcb rfl
  have remaining := final.toNat_remainingBytes small
  have width : tcb.advertisedWindow.toNat = tcb.reassemblyQueue.remainingBytes.toNat % 2 ^ 32 :=
    BitVec.toNat_ofNat _ _
  rw [width, remaining, final.watermark]
  omega

/-- A fragment of a message that does not end. -/
def openFragment (tsn : Tsn) (size : Nat) : AnyDataChunk :=
  { tsn := tsn
    data :=
      { streamId := 1, ssn := 0, messageId := 0, fsn := 0, ppid := 53
        payload := List.replicate size 7, isBeginning := tsn = 10, isEnd := false
        isUnordered := false } }

instance (socket : Option TransmissionControlBlock) :
    ∀ received, Decidable ((machine.restrict Fits).pre socket received)
  | .data chunk => decidable_of_iff (∀ tcb ∈ socket, tcb.admits chunk = true →
        chunk.data.size ≤ tcb.reassemblyQueue.remainingBytes.toNat)
      ⟨fun fits => ⟨trivial, fun tcb found other same => by cases same; exact fits tcb found⟩,
        fun admissible tcb found => admissible.2 tcb found chunk rfl⟩
  | .forwardTsn _ | .resetRequest _ | .packetEnd | .delayedAckTimerExpiry =>
    isTrue ⟨trivial, fun _ _ _ same => by cases same⟩

/-- Fragments of eight bytes and one byte fit below a watermark of nine. -/
theorem advertisedWindow_le_after_fitting :
    ∃ tcb, (machine.restrict Fits).Run (some (new 10 10 9 false))
        [.data (openFragment 10 8), .packetEnd, .data (openFragment 11 1)] (some tcb) ∧
      tcb.advertisedWindow.toNat ≤ tcb.reassemblyQueue.watermarkBytes.toNat := by
  have admitted : (machine.restrict Fits).Admits (some (new 10 10 9 false))
      [.data (openFragment 10 8), .packetEnd, .data (openFragment 11 1)] := by
    decide +kernel
  refine ⟨_, admitted.run, ?_⟩
  exact advertisedWindow_le_of_run 10 10 9 (by decide) false _ _ admitted.run

/-- A fragment of five bytes is added to eight, and the window wraps to 2³² - 4 bytes. -/
theorem advertisedWindow_wraps :
    ∃ tcb, machine.Run (some (new 10 10 9 false))
        [.data (openFragment 10 8), .data (openFragment 11 5)] (some tcb) ∧
      ¬ tcb.advertisedWindow.toNat ≤ tcb.reassemblyQueue.watermarkBytes.toNat := by
  have run := Machine.Admits.run (Machine.admits_of_forall (fun _ _ _ => trivial)
    (some (new 10 10 9 false)) :
      machine.Admits _ [.data (openFragment 10 8), .data (openFragment 11 5)])
  refine ⟨_, run, ?_⟩
  decide +kernel

end TransmissionControlBlock

end MaeRtc.DcSctp
