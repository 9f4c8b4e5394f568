import MaeRtc.DcSctp.HeldChunks
import MaeRtc.DcSctp.Receiving

/-!
# The bytes of the reassembly queue

The queue counts the bytes of the chunks it holds, in streams or held back by a
deferred reset.  The count goes through `int` and `size_t` values, and is right
as long as the held bytes stay below a limit that an `int` can hold.
-/

namespace MaeRtc.DcSctp

open MaeRtc.Base MaeRtc.Base.OrderedMap ReassemblyStreams

namespace ReassemblyStreams

def isInterleaved : ReassemblyStreams → Bool
  | .traditional _ => false
  | .interleaved _ => true

/-- How the TSNs of assembled messages are ordered. -/
def Orderly : Bool → AssembledMessage → Prop
  | false => TraditionalReassemblyStreams.Increasing
  | true => InterleavedReassemblyStreams.AnyOrder

def held : ReassemblyStreams → Chunks
  | .traditional streams => streams.held
  | .interleaved streams => streams.held

theorem accounts_add (tsn : Int) (data : Data) (streams : ReassemblyStreams) :
    (streams.add tsn data).1.isInterleaved = streams.isInterleaved ∧
      AccountsAdd (Orderly streams.isInterleaved) (tsn, data) streams.held
        (streams.add tsn data).1.held (streams.add tsn data).2.1 (streams.add tsn data).2.2 := by
  cases streams with
  | traditional streams => exact ⟨rfl, streams.accounts_add tsn data⟩
  | interleaved streams => exact ⟨rfl, streams.accounts_add tsn data⟩

theorem accounts_handleForwardTsn (tsn : Int) (skippedStreams : List SkippedStream)
    (streams : ReassemblyStreams) :
    (streams.handleForwardTsn tsn skippedStreams).1.isInterleaved = streams.isInterleaved ∧
      ∃ dropped, Accounts.Of (Orderly streams.isInterleaved) held streams dropped
        (streams.handleForwardTsn tsn skippedStreams) := by
  cases streams with
  | traditional streams => exact ⟨rfl, streams.accounts_handleForwardTsn tsn skippedStreams⟩
  | interleaved streams => exact ⟨rfl, streams.accounts_handleForwardTsn skippedStreams⟩

variable (streamIds : List StreamId) (streams : ReassemblyStreams)

@[simp] theorem isInterleaved_resetStreams :
    (streams.resetStreams streamIds).isInterleaved = streams.isInterleaved := by
  cases streams <;> rfl

@[simp] theorem held_resetStreams : (streams.resetStreams streamIds).held = streams.held := by
  cases streams with
  | traditional streams => exact streams.held_resetStreams streamIds
  | interleaved streams => exact streams.held_resetStreams streamIds

end ReassemblyStreams

namespace ReassemblyQueue

theorem markDelivered_same (tsns : List Int) (queue : ReassemblyQueue) :
    SameApartFromTsns queue (queue.markDelivered tsns).2 := by
  induction tsns generalizing queue with
  | nil => exact .refl queue
  | cons first rest ih =>
    unfold markDelivered
    split
    · exact .refl queue
    split
    · refine SameApartFromTsns.trans ?_ (ih _)
      exact ⟨rfl, rfl, rfl, rfl⟩
    · refine SameApartFromTsns.trans ?_ (ih _)
      exact ⟨rfl, rfl, rfl, rfl⟩

theorem addReassembledMessage_same (queue : ReassemblyQueue) (assembled : AssembledMessage) :
    SameApartFromTsns queue (queue.addReassembledMessage assembled) := by
  have same := queue.markDelivered_same assembled.tsns
  unfold addReassembledMessage
  split
  next step =>
    rw [step] at same
    exact same
  next step =>
    rw [step] at same
    exact same.trans ⟨rfl, rfl, rfl, rfl⟩

theorem foldl_addReassembledMessage_same (assembled : List AssembledMessage)
    (queue : ReassemblyQueue) :
    SameApartFromTsns queue (assembled.foldl addReassembledMessage queue) := by
  induction assembled generalizing queue with
  | nil => exact .refl queue
  | cons message rest ih => exact (queue.addReassembledMessage_same message).trans (ih _)

/-- The chunks that a deferred reset holds back. -/
def deferredChunks (queue : ReassemblyQueue) : List (Tsn × Data) :=
  match queue.deferredResetStreams with
  | none => []
  | some deferred => deferred.deferredChunks

variable {queue : ReassemblyQueue}

theorem deferredChunks_of_none
    (none : queue.deferredResetStreams = none) : queue.deferredChunks = [] := by
  rw [deferredChunks, none]

theorem deferredChunks_of_some {deferred : DeferredResetStreams}
    (found : queue.deferredResetStreams = some deferred) :
    queue.deferredChunks = deferred.deferredChunks := by
  rw [deferredChunks, found]

/-- The bytes of the chunks in streams, and of chunks that wait for them. -/
def bytesWith (waiting : List (Tsn × Data)) (queue : ReassemblyQueue) : Nat :=
  bytesOf queue.streams.held + (waiting.map fun chunk => chunk.2.size).sum

/-- The total payload size of the chunks still held, in streams or deferred. -/
def heldBytes (queue : ReassemblyQueue) : Nat :=
  queue.bytesWith queue.deferredChunks

theorem deferredResetStreams_addToStreams (tsn : Int) (data : Data) (queue : ReassemblyQueue) :
    (queue.addToStreams tsn data).deferredResetStreams = queue.deferredResetStreams :=
  (foldl_addReassembledMessage_same (queue.streams.add tsn data).2.2
    { queue with streams := (queue.streams.add tsn data).1 }).deferredResetStreams

/-- The queue that has seen a TSN. -/
def seen (tsn : Tsn) (queue : ReassemblyQueue) : ReassemblyQueue :=
  { queue with tsnUnwrapper := (SeqNumUnwrapper.unwrap 0 queue.tsnUnwrapper tsn).2 }

/-- A chunk is recognised, or handed to its stream, or held back by a deferred reset. -/
theorem add_cases (tsn : Tsn) (data : Data) (queue : ReassemblyQueue) :
    queue.add tsn data = queue.seen tsn ∨
    queue.isDelivered (SeqNumUnwrapper.peekUnwrap 0 queue.tsnUnwrapper tsn) = false ∧
      (queue.deferredResetStreams = none ∧ queue.add tsn data =
          (queue.seen tsn).addToStreams (SeqNumUnwrapper.peekUnwrap 0 queue.tsnUnwrapper tsn) data ∨
        ∃ deferred, queue.deferredResetStreams = some deferred ∧
          (queue.add tsn data = ((queue.seen tsn).seen deferred.req.senderLastAssignedTsn).addToStreams
              (SeqNumUnwrapper.peekUnwrap 0 queue.tsnUnwrapper tsn) data ∨
            queue.add tsn data =
              { (queue.seen tsn).seen deferred.req.senderLastAssignedTsn with
                queuedBytes := queue.queuedBytes + BitVec.ofNat 64 data.size
                deferredResetStreams := some { deferred with
                  deferredChunks := deferred.deferredChunks ++ [(tsn, data)] } })) := by
  unfold add
  dsimp only [SeqNumUnwrapper.unwrap]
  split
  · exact .inl rfl
  next new =>
    refine .inr ⟨eq_false_of_ne_true new, ?_⟩
    split
    next none => exact .inl ⟨none, rfl⟩
    next deferred found =>
      refine .inr ⟨deferred, found, ?_⟩
      split
      · exact .inr rfl
      · exact .inl rfl

/-- The watermark is moved to a new cumulative TSN, and further if it can be. -/
def forward (tsn : Tsn) (queue : ReassemblyQueue) : ReassemblyQueue :=
  let number := SeqNumUnwrapper.peekUnwrap 0 queue.tsnUnwrapper tsn
  maybeMoveLastAssembledWatermarkFurther { queue.seen tsn with
    lastAssembledTsnWatermark := max queue.lastAssembledTsnWatermark number
    deliveredTsns := queue.deliveredTsns.filter fun delivered => number < delivered }

/-- The new count of bytes, where a stream took some and gave some back. -/
theorem bytes_after_add {total taken removed : Nat} (takenSmall : taken < 2 ^ 31)
    (removedSmall : removed < 2 ^ 31) (enough : removed ≤ total + taken) :
    BitVec.ofNat 64 total + (BitVec.ofNat 32 taken -
        (BitVec.ofNat 64 removed).setWidth 32).signExtend 64 =
      BitVec.ofNat 64 (total + taken - removed) := by
  rw [Words.setWidth_ofNat, Words.signExtend_ofNat_sub takenSmall removedSmall]
  obtain ⟨left, count⟩ : ∃ left, total + taken = left + removed := ⟨_, (Nat.sub_add_cancel enough).symm⟩
  rw [count, Nat.add_sub_cancel, ← add_sub_assoc, ← BitVec.ofNat_add, count, BitVec.ofNat_add,
    BitVec.add_sub_cancel]

/--
The count of bytes is that of the chunks in streams and of those that wait for
them, and they are within a limit.
-/
structure Counted (limit : Nat) (waiting : List (Tsn × Data)) (queue : ReassemblyQueue) :
    Prop where
  bytes : queue.queuedBytes = BitVec.ofNat 64 (queue.bytesWith waiting)
  within : queue.bytesWith waiting ≤ limit

variable {limit : Nat} {waiting : List (Tsn × Data)} {queue : ReassemblyQueue}

namespace Counted

/-- The count follows an operation that left some chunks and handed over messages. -/
theorem record {streams : ReassemblyStreams} {held removed : Nat}
    (assembled : List AssembledMessage) (count : held = bytesOf streams.held + removed)
    (within : bytesOf streams.held + (waiting.map fun chunk => chunk.2.size).sum ≤ limit)
    {queuedBytes : BitVec 64}
    (bytesEq : queuedBytes = BitVec.ofNat 64
      (held + (waiting.map fun chunk => chunk.2.size).sum - removed)) :
    Counted limit waiting
      { assembled.foldl addReassembledMessage { queue with streams := streams } with
        queuedBytes := queuedBytes } := by
  have same := foldl_addReassembledMessage_same assembled { queue with streams := streams }
  have streamsEq : (assembled.foldl addReassembledMessage
      { queue with streams := streams }).streams = streams := same.streams
  have bytesLeft : bytesOf streams.held + (waiting.map fun chunk => chunk.2.size).sum =
      held + (waiting.map fun chunk => chunk.2.size).sum - removed := by omega
  constructor
  · rw [bytesWith, streamsEq, bytesLeft]
    exact bytesEq
  · rw [bytesWith, streamsEq]
    exact within

variable {data : Data}

section

variable (counted : Counted limit waiting queue)
include counted

theorem addToStreams (small : limit < 2 ^ 31) (tsn : Int)
    (fits : queue.bytesWith waiting + data.size ≤ limit) :
    Counted limit waiting (queue.addToStreams tsn data) := by
  obtain ⟨-, taken, bytes, choice, accounts, resultEq⟩ := queue.streams.accounts_add tsn data
  have takenSize : bytesOf taken ≤ data.size := by
    rcases choice with rfl | rfl <;> simp
  rw [bytesWith] at fits
  have total : bytesOf (queue.streams.held + taken) = bytesOf queue.streams.held + bytesOf taken :=
    bytesOf_add _ _
  obtain ⟨removed, count, rfl⟩ := accounts.bytes (by omega)
  have bytesAfter : ((queue.streams.add tsn data).2.2.foldl addReassembledMessage
        { queue with streams := (queue.streams.add tsn data).1 }).queuedBytes +
      (queue.streams.add tsn data).2.1.signExtend 64 = BitVec.ofNat 64
        (bytesOf (queue.streams.held + taken) + (waiting.map fun chunk => chunk.2.size).sum -
          removed) := by
    rw [(foldl_addReassembledMessage_same _ _).queuedBytes, resultEq]
    rw [counted.bytes, bytes_after_add (by omega) (by omega) (by rw [bytesWith]; omega), bytesWith,
      total, add_right_comm]
  exact record _ count (by omega) bytesAfter

theorem seen (tsn : Tsn) : Counted limit waiting (queue.seen tsn) :=
  ⟨counted.bytes, counted.within⟩

theorem add_of_none (small : limit < 2 ^ 31) (none : queue.deferredResetStreams = none) {tsn : Tsn}
    (fits : queue.bytesWith waiting + data.size ≤ limit) :
    Counted limit waiting (queue.add tsn data) := by
  rcases add_cases tsn data queue with step | ⟨-, ⟨-, step⟩ | ⟨deferred, found, -⟩⟩
  · rw [step]
    exact counted.seen tsn
  · rw [step]
    exact (counted.seen tsn).addToStreams small _ fits
  · rw [none] at found
    cases found

theorem wait (tsn : Tsn) (fits : queue.bytesWith waiting + data.size ≤ limit)
    (deferred : Option DeferredResetStreams) :
    Counted limit (waiting ++ [(tsn, data)]) { queue with
      queuedBytes := queue.queuedBytes + BitVec.ofNat 64 data.size
      deferredResetStreams := deferred } where
  bytes := by
    rw [counted.bytes, ← BitVec.ofNat_add]
    simp [bytesWith, add_assoc]
  within := by
    simp only [bytesWith] at fits ⊢
    simpa [add_assoc] using fits

end

theorem bytesWith_cons (chunk : Tsn × Data) (waiting : List (Tsn × Data))
    (queue : ReassemblyQueue) :
    queue.bytesWith (chunk :: waiting) = queue.bytesWith waiting + chunk.2.size := by
  simp only [bytesWith, List.map_cons, List.sum_cons]
  omega

theorem addDeferred {chunk : Tsn × Data} (counted : Counted limit (chunk :: waiting) queue)
    (small : limit < 2 ^ 31) (none : queue.deferredResetStreams = none) :
    Counted limit waiting (queue.addDeferred chunk) := by
  have within := counted.within
  have bytes := counted.bytes
  rw [bytesWith_cons] at within bytes
  have removed : Counted limit waiting { queue with
      queuedBytes := queue.queuedBytes - BitVec.ofNat 64 chunk.2.size } := by
    constructor
    · rw [bytes, BitVec.ofNat_add, BitVec.add_sub_cancel]
      rfl
    · change queue.bytesWith waiting ≤ limit
      omega
  exact removed.add_of_none small none within

theorem resetStreams (counted : Counted limit waiting queue) (streamIds : List StreamId)
    (completed : ReconfigRequestSn) (deferred : Option DeferredResetStreams) :
    Counted limit waiting { queue with
      streams := queue.streams.resetStreams streamIds
      lastCompletedResetReqSeqNbr := completed
      deferredResetStreams := deferred } where
  bytes := by
    rw [bytesWith, held_resetStreams]
    exact counted.bytes
  within := by
    rw [bytesWith, held_resetStreams]
    exact counted.within

end Counted

/-- Adding a chunk does not begin deferred reset processing. -/
theorem add_none (none : queue.deferredResetStreams = none) (tsn : Tsn) (data : Data) :
    (queue.add tsn data).deferredResetStreams = .none := by
  rcases add_cases tsn data queue with step | ⟨-, ⟨-, step⟩ | ⟨deferred, found, -⟩⟩
  · rw [step]
    exact none
  · rw [step, deferredResetStreams_addToStreams]
    exact none
  · rw [none] at found
    cases found

theorem addDeferred_none (none : queue.deferredResetStreams = none) (chunk : Tsn × Data) :
    (queue.addDeferred chunk).deferredResetStreams = .none := by
  apply add_none
  exact none

theorem foldl_addDeferred_none (waiting : List (Tsn × Data))
    (none : queue.deferredResetStreams = none) :
    (waiting.foldl addDeferred queue).deferredResetStreams = .none := by
  induction waiting generalizing queue with
  | nil => exact none
  | cons chunk rest ih => exact ih (addDeferred_none none chunk)

/-- What the parts of a reset keep, of a queue and of chunks that wait for its streams. -/
structure KeptByReset (Holds : List (Tsn × Data) → ReassemblyQueue → Prop) : Prop where
  seen : ∀ {waiting queue}, Holds waiting queue → ∀ tsn, Holds waiting (queue.seen tsn)
  resets : ∀ {waiting queue}, Holds waiting queue → ∀ streamIds completed deferred,
    Holds waiting { queue with
      streams := queue.streams.resetStreams streamIds
      lastCompletedResetReqSeqNbr := completed
      deferredResetStreams := deferred }
  defers : ∀ {waiting queue}, Holds waiting queue → ∀ deferred,
    Holds waiting { queue with deferredResetStreams := deferred }
  adds : ∀ {chunk waiting queue}, Holds (chunk :: waiting) queue →
    queue.deferredResetStreams = none → Holds waiting (queue.addDeferred chunk)

namespace KeptByReset

variable {Holds : List (Tsn × Data) → ReassemblyQueue → Prop} (kept : KeptByReset Holds)
include kept

theorem foldl_addDeferred (holds : Holds waiting queue)
    (none : queue.deferredResetStreams = none) : Holds [] (waiting.foldl addDeferred queue) := by
  induction waiting generalizing queue with
  | nil => exact holds
  | cons chunk rest ih => exact ih (kept.adds holds none) (addDeferred_none none chunk)

variable (holds : Holds queue.deferredChunks queue)
include holds

theorem resetStreams (req : OutgoingSsnResetRequestParameter) (cumTsnAck : Tsn) :
    Holds (queue.resetStreams req cumTsnAck).2.deferredChunks
      (queue.resetStreams req cumTsnAck).2 := by
  have twice := kept.seen (kept.seen holds req.senderLastAssignedTsn) cumTsnAck
  unfold ReassemblyQueue.resetStreams
  dsimp only [SeqNumUnwrapper.unwrap]
  split
  · exact holds
  next notDeferred =>
    rw [deferredChunks_of_none (Option.not_isSome_iff_eq_none.mp notDeferred)] at twice
    split
    · exact holds
    split
    · exact kept.defers twice _
    · rw [deferredChunks_of_none]
      · exact kept.resets twice req.streamIds req.requestSequenceNumber _
      · exact Option.not_isSome_iff_eq_none.mp notDeferred

theorem maybeResetStreamsDeferred (cumAckTsn : Tsn) :
    Holds (queue.maybeResetStreamsDeferred cumAckTsn).2.deferredChunks
      (queue.maybeResetStreamsDeferred cumAckTsn).2 := by
  unfold ReassemblyQueue.maybeResetStreamsDeferred
  dsimp only [SeqNumUnwrapper.unwrap]
  split
  · exact holds
  next deferred found =>
    have twice := kept.seen (kept.seen holds cumAckTsn) deferred.req.senderLastAssignedTsn
    split
    · rw [deferredChunks_of_some found] at twice
      rw [deferredChunks_of_none (foldl_addDeferred_none _ rfl)]
      exact kept.foldl_addDeferred (kept.resets twice deferred.req.streamIds
        deferred.req.requestSequenceNumber none) rfl
    · exact twice

end KeptByReset

theorem Counted.keptByReset (small : limit < 2 ^ 31) : KeptByReset (Counted limit) where
  seen := Counted.seen
  resets := Counted.resetStreams
  defers counted _ := ⟨counted.bytes, counted.within⟩
  adds counted := counted.addDeferred small

/-! ## The operations -/

/-- The count of bytes is right, and within a limit. -/
def Counts (limit : Nat) (queue : ReassemblyQueue) : Prop :=
  Counted limit queue.deferredChunks queue

theorem held_createStreams (useMessageInterleaving : Bool) :
    (createStreams useMessageInterleaving).held = 0 := by
  cases useMessageInterleaving with
  | false =>
    change TraditionalReassemblyStreams.held {} = 0
    rw [TraditionalReassemblyStreams.held, gather_empty, gather_empty, add_zero]
  | true =>
    change InterleavedReassemblyStreams.held {} = 0
    rw [InterleavedReassemblyStreams.held, gather_empty]

theorem counts_new (limit : Nat) (peerInitialTsn : Tsn) (maxSizeBytes watermarkBytes : BitVec 64)
    (useMessageInterleaving : Bool) :
    Counts limit (new peerInitialTsn maxSizeBytes watermarkBytes useMessageInterleaving) := by
  constructor
  · simp [bytesWith, new, deferredChunks, held_createStreams]
  · simp [bytesWith, new, deferredChunks, held_createStreams]

namespace Counts

variable (counts : Counts limit queue)
include counts

theorem seen (tsn : Tsn) : Counts limit (queue.seen tsn) :=
  Counted.seen counts tsn

theorem add (small : limit < 2 ^ 31) (tsn : Tsn) {data : Data}
    (fits : queue.heldBytes + data.size ≤ limit) : Counts limit (queue.add tsn data) := by
  have once := counts.seen tsn
  rcases add_cases tsn data queue with step | ⟨-, ⟨none, step⟩ | ⟨deferred, found, step | step⟩⟩
  · rw [step]
    exact once
  · rw [Counts, deferredChunks, step, deferredResetStreams_addToStreams]
    exact once.addToStreams small _ fits
  · rw [Counts, deferredChunks, step, deferredResetStreams_addToStreams]
    exact (once.seen deferred.req.senderLastAssignedTsn).addToStreams small _ fits
  · have twice := once.seen deferred.req.senderLastAssignedTsn
    have waits := twice.wait tsn fits (some { deferred with
      deferredChunks := deferred.deferredChunks ++ [(tsn, data)] })
    have before : ((queue.seen tsn).seen deferred.req.senderLastAssignedTsn).deferredChunks =
        deferred.deferredChunks := deferredChunks_of_some found
    rw [before] at waits
    rw [step]
    exact waits

theorem handle (small : limit < 2 ^ 31) (forwardTsn : AnyForwardTsnChunk) :
    Counts limit (queue.handle forwardTsn) := by
  set number := SeqNumUnwrapper.peekUnwrap 0 queue.tsnUnwrapper forwardTsn.newCumulativeTsn
    with numberEq
  obtain ⟨-, dropped, accounts⟩ :=
    queue.streams.accounts_handleForwardTsn number forwardTsn.skippedStreams
  have within := counts.within
  rw [bytesWith] at within
  obtain ⟨removed, count, bytesEq⟩ := accounts.bytes (by omega)
  set outcome := queue.streams.handleForwardTsn number forwardTsn.skippedStreams with outcomeEq
  set recorded := outcome.2.2.foldl addReassembledMessage
    { queue.forward forwardTsn.newCumulativeTsn with streams := outcome.1 } with recordedEq
  have same := foldl_addReassembledMessage_same outcome.2.2
    { queue.forward forwardTsn.newCumulativeTsn with streams := outcome.1 }
  have bytesAfter : recorded.queuedBytes - outcome.2.1 = BitVec.ofNat 64
      (bytesOf queue.streams.held + (queue.deferredChunks.map fun chunk => chunk.2.size).sum -
        removed) := by
    have before : recorded.queuedBytes = queue.queuedBytes := same.queuedBytes
    obtain ⟨left, leftEq⟩ : ∃ left, queue.bytesWith queue.deferredChunks = left + removed :=
      ⟨_, (Nat.sub_add_cancel (by rw [bytesWith]; omega)).symm⟩
    rw [before, bytesEq, counts.bytes, ← bytesWith, leftEq, Nat.add_sub_cancel, BitVec.ofNat_add,
      BitVec.add_sub_cancel]
  have counted : Counted limit queue.deferredChunks
      { recorded with queuedBytes := recorded.queuedBytes - outcome.2.1 } :=
    Counted.record outcome.2.2 count (by omega) bytesAfter
  have waiting : recorded.deferredChunks = queue.deferredChunks := by
    rw [deferredChunks, deferredChunks, same.deferredResetStreams]
    rfl
  rw [← waiting] at counted
  exact counted

theorem toNat_queuedBytes (small : limit < 2 ^ 31) : queue.queuedBytes.toNat = queue.heldBytes := by
  have within := counts.within
  rw [counts.bytes, BitVec.toNat_ofNat, Nat.mod_eq_of_lt (by omega), heldBytes]

end Counts

/-! ## The watermark -/

variable (queue : ReassemblyQueue)

theorem watermarkBytes_markDelivered (tsns : List Int) :
    (queue.markDelivered tsns).2.watermarkBytes = queue.watermarkBytes := by
  induction tsns generalizing queue with
  | nil => rfl
  | cons first rest ih =>
    unfold markDelivered
    split
    · rfl
    split
    · exact ih _
    · exact ih _

theorem watermarkBytes_foldl_addReassembledMessage (assembled : List AssembledMessage) :
    (assembled.foldl addReassembledMessage queue).watermarkBytes = queue.watermarkBytes := by
  induction assembled generalizing queue with
  | nil => rfl
  | cons message rest ih =>
    rw [List.foldl_cons, ih, ← queue.watermarkBytes_markDelivered message.tsns]
    unfold addReassembledMessage
    split
    next step => rw [step]
    next step =>
      rw [step]
      rfl

theorem watermarkBytes_addToStreams (tsn : Int) (data : Data) :
    (queue.addToStreams tsn data).watermarkBytes = queue.watermarkBytes :=
  watermarkBytes_foldl_addReassembledMessage
    { queue with streams := (queue.streams.add tsn data).1 } (queue.streams.add tsn data).2.2

@[simp] theorem watermarkBytes_add (tsn : Tsn) (data : Data) :
    (queue.add tsn data).watermarkBytes = queue.watermarkBytes := by
  rcases add_cases tsn data queue with step | ⟨-, ⟨-, step⟩ | ⟨deferred, -, step | step⟩⟩
  · rw [step]
    rfl
  · rw [step, watermarkBytes_addToStreams]
    rfl
  · rw [step, watermarkBytes_addToStreams]
    rfl
  · rw [step]
    rfl

theorem watermarkBytes_foldl_addDeferred (waiting : List (Tsn × Data)) :
    (waiting.foldl addDeferred queue).watermarkBytes = queue.watermarkBytes := by
  induction waiting generalizing queue with
  | nil => rfl
  | cons chunk rest ih => rw [List.foldl_cons, ih, addDeferred, watermarkBytes_add]

@[simp] theorem watermarkBytes_resetStreams (req : OutgoingSsnResetRequestParameter)
    (cumTsnAck : Tsn) :
    (queue.resetStreams req cumTsnAck).2.watermarkBytes = queue.watermarkBytes := by
  unfold resetStreams
  repeat' split
  all_goals rfl

@[simp] theorem watermarkBytes_maybeResetStreamsDeferred (cumAckTsn : Tsn) :
    (queue.maybeResetStreamsDeferred cumAckTsn).2.watermarkBytes = queue.watermarkBytes := by
  unfold maybeResetStreamsDeferred
  dsimp only
  split
  · rfl
  split
  · exact watermarkBytes_foldl_addDeferred _ _
  · rfl

@[simp] theorem watermarkBytes_handle (forwardTsn : AnyForwardTsnChunk) :
    (queue.handle forwardTsn).watermarkBytes = queue.watermarkBytes :=
  watermarkBytes_foldl_addReassembledMessage _ _

end ReassemblyQueue

end MaeRtc.DcSctp
