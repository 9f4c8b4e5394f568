import MaeRtc.DcSctp.QueuedBytes

/-!
# Consistency of the reassembly queue

The queue counts the bytes of the chunks it holds, and remembers the TSNs of
delivered messages as a watermark and a set of TSNs that lies apart from it.  Both
are kept in every run in which no chunk arrives under the TSN of a held one, the
held bytes fit into an `int`, and a peer that interleaves messages skips all that
lies below a new cumulative TSN.  A peer that leaves out a stream there makes the
loop over the TSNs of a message stop half way.
-/

namespace MaeRtc.DcSctp

open MaeRtc.Base MaeRtc.Base.OrderedMap ReassemblyStreams
open Std (ExtTreeSet)

/-! ## Delivered TSNs -/

namespace ReassemblyQueue

theorem moveWatermark_gapped (fuel : Nat) (watermark : Int) (delivered : ExtTreeSet Int)
    (enough : delivered.size ≤ fuel) (above : ∀ tsn ∈ delivered, watermark < tsn) :
    ∀ tsn ∈ (moveWatermark fuel watermark delivered).2,
      (moveWatermark fuel watermark delivered).1 + 1 < tsn := by
  induction fuel generalizing watermark delivered with
  | zero =>
    intro tsn member
    have none : delivered.toList = [] := by
      rw [← List.length_eq_zero_iff, ExtTreeSet.length_toList]
      omega
    rw [moveWatermark, ← ExtTreeSet.mem_toList, none] at member
    cases member
  | succ fuel ih =>
    unfold moveWatermark
    split
    next first =>
      have member : watermark + 1 ∈ delivered :=
        ExtTreeSet.mem_toList.mp (List.mem_of_mem_head? first)
      refine ih _ _ ?_ fun tsn kept => ?_
      · rw [ExtTreeSet.size_erase, if_pos (ExtTreeSet.mem_iff_contains.mp member)]
        omega
      · obtain ⟨differs, present⟩ := ExtTreeSet.mem_erase.mp kept
        have other : watermark + 1 ≠ tsn := fun same => differs (Std.compare_eq_iff_eq.mpr same)
        have := above tsn present
        omega
    next notNext =>
      intro tsn member
      obtain ⟨first, rest, listed⟩ :=
        List.exists_cons_of_ne_nil (List.ne_nil_of_mem (ExtTreeSet.mem_toList.mpr member))
      have firstAbove : watermark < first :=
        above first (ExtTreeSet.mem_toList.mp (by simp [listed]))
      have notAdjacent : first ≠ watermark + 1 := by
        simpa [listed] using notNext
      have ordered := ExtTreeSet.ordered_toList (t := delivered)
      rw [listed, List.pairwise_cons] at ordered
      have least : first ≤ tsn := by
        rw [← ExtTreeSet.mem_toList, listed, List.mem_cons] at member
        rcases member with same | later
        · exact same.ge
        · exact (compare_lt_iff_lt.mp (ordered.1 tsn later)).le
      omega

theorem moveWatermark_bounds (fuel : Nat) (watermark : Int) (delivered : ExtTreeSet Int) :
    watermark ≤ (moveWatermark fuel watermark delivered).1 ∧
      ∀ tsn ∈ (moveWatermark fuel watermark delivered).2, tsn ∈ delivered := by
  induction fuel generalizing watermark delivered with
  | zero => exact ⟨le_refl _, fun _ member => member⟩
  | succ fuel ih =>
    unfold moveWatermark
    split
    · obtain ⟨higher, fewer⟩ := ih (watermark + 1) (delivered.erase (watermark + 1))
      exact ⟨by omega, fun tsn member => ExtTreeSet.mem_of_mem_erase (fewer tsn member)⟩
    · exact ⟨le_refl _, fun _ member => member⟩

/-- The loop over new TSNs keeps the delivered ones above the watermark. -/
theorem markDelivered_above (tsns : List Int) (queue : ReassemblyQueue) (distinct : tsns.Nodup)
    (new : ∀ tsn ∈ tsns, tsn ∉ queue.deliveredTsns)
    (above : ∀ tsn ∈ queue.deliveredTsns, queue.lastAssembledTsnWatermark < tsn) :
    queue.lastAssembledTsnWatermark ≤ (queue.markDelivered tsns).2.lastAssembledTsnWatermark ∧
      ∀ tsn ∈ (queue.markDelivered tsns).2.deliveredTsns,
        (queue.markDelivered tsns).2.lastAssembledTsnWatermark < tsn := by
  induction tsns generalizing queue with
  | nil => exact ⟨le_refl _, above⟩
  | cons first rest ih =>
    obtain ⟨firstNew, restNew⟩ := List.forall_mem_cons.mp new
    obtain ⟨notLater, restDistinct⟩ := List.nodup_cons.mp distinct
    unfold markDelivered
    split
    · exact ⟨le_refl _, above⟩
    split
    next adjacent =>
      have moved := ih { queue with
        lastAssembledTsnWatermark := queue.lastAssembledTsnWatermark + 1 } restDistinct restNew
        fun tsn member => by
          have differs : tsn ≠ first := fun same => firstNew (same ▸ member)
          have := above tsn member
          dsimp only
          omega
      exact ⟨by have := moved.1; dsimp only at this; omega, moved.2⟩
    next notBelow _ =>
      refine ih { queue with deliveredTsns := queue.deliveredTsns.insert first } restDistinct
        (fun tsn member inserted => ?_) fun tsn inserted => ?_
      · rcases ExtTreeSet.mem_insert.mp inserted with same | earlier
        · rw [Std.compare_eq_iff_eq] at same
          exact notLater (same ▸ member)
        · exact restNew tsn member earlier
      · rcases ExtTreeSet.mem_insert.mp inserted with same | earlier
        · rw [Std.compare_eq_iff_eq] at same
          dsimp only
          omega
        · exact above tsn earlier

/--
The delivered TSNs lie apart from the watermark, and from the TSNs of held
chunks.  Where messages may hold TSNs in any order, all held ones are above the
watermark.
-/
structure Apart (interleaved : Bool) (held : Multiset Int) (queue : ReassemblyQueue) : Prop where
  gapped : ∀ tsn ∈ queue.deliveredTsns, queue.lastAssembledTsnWatermark + 1 < tsn
  undelivered : ∀ tsn ∈ held, tsn ∉ queue.deliveredTsns
  above : interleaved = true → ∀ tsn ∈ held, queue.lastAssembledTsnWatermark < tsn

theorem maybeMoveLastAssembledWatermarkFurther_gapped {queue : ReassemblyQueue}
    (above : ∀ tsn ∈ queue.deliveredTsns, queue.lastAssembledTsnWatermark < tsn) :
    ∀ tsn ∈ queue.maybeMoveLastAssembledWatermarkFurther.deliveredTsns,
      queue.maybeMoveLastAssembledWatermarkFurther.lastAssembledTsnWatermark + 1 < tsn :=
  moveWatermark_gapped _ _ _ (le_refl _) above

variable {interleaved : Bool} {held rest : Multiset Int} {queue : ReassemblyQueue}
  {assembled : AssembledMessage}

/-- The record of a message whose TSNs are all new. -/
theorem addReassembledMessage_gapped (distinct : assembled.tsns.Nodup)
    (new : ∀ tsn ∈ assembled.tsns, queue.isDelivered tsn = false)
    (above : ∀ tsn ∈ queue.deliveredTsns, queue.lastAssembledTsnWatermark < tsn) :
    queue.lastAssembledTsnWatermark ≤
        (queue.addReassembledMessage assembled).lastAssembledTsnWatermark ∧
      ∀ tsn ∈ (queue.addReassembledMessage assembled).deliveredTsns,
        (queue.addReassembledMessage assembled).lastAssembledTsnWatermark + 1 < tsn := by
  obtain ⟨marked, step, -⟩ := markDelivered_spec assembled.tsns queue distinct new
  obtain ⟨higher, markedAbove⟩ := markDelivered_above assembled.tsns queue distinct
    (fun tsn member delivered => by
      have seen := (isDelivered_iff queue tsn).mpr (.inr delivered)
      rw [new tsn member] at seen
      cases seen) above
  rw [step] at higher markedAbove
  rw [addReassembledMessage, step]
  exact ⟨higher.trans (moveWatermark_bounds _ _ _).1,
    maybeMoveLastAssembledWatermarkFurther_gapped markedAbove⟩

/-- A message that begins below the watermark is not recorded at all. -/
theorem addReassembledMessage_of_increasing
    (increasing : TraditionalReassemblyStreams.Increasing assembled) {tsn : Int}
    (member : tsn ∈ assembled.tsns) (seen : tsn ≤ queue.lastAssembledTsnWatermark) :
    queue.addReassembledMessage assembled = queue := by
  obtain ⟨first, others, tsns⟩ := List.exists_cons_of_ne_nil (List.ne_nil_of_mem member)
  rw [TraditionalReassemblyStreams.Increasing, tsns, List.pairwise_cons] at increasing
  have least : first ≤ tsn := by
    rw [tsns, List.mem_cons] at member
    rcases member with same | later
    · exact same.ge
    · exact (increasing.1 tsn later).le
  rw [addReassembledMessage, tsns, markDelivered, if_pos (least.trans seen)]

/-- A message is recorded as a whole, or not at all. -/
theorem Apart.addReassembledMessage (apart : Apart interleaved (assembled.tsns + rest) queue)
    (distinct : ((assembled.tsns : Multiset Int) + rest).Nodup)
    (orderly : Orderly interleaved assembled) :
    Apart interleaved rest (queue.addReassembledMessage assembled) := by
  obtain ⟨tsnsDistinct, _, disjoint⟩ := Multiset.nodup_add.mp distinct
  have inMessage : ∀ tsn ∈ assembled.tsns, tsn ∈ (assembled.tsns + rest : Multiset Int) :=
    fun tsn member => Multiset.mem_add.mpr (.inl member)
  have inRest : ∀ tsn ∈ rest, tsn ∈ (assembled.tsns + rest : Multiset Int) :=
    fun tsn member => Multiset.mem_add.mpr (.inr member)
  by_cases whole : ∀ tsn ∈ assembled.tsns, queue.lastAssembledTsnWatermark < tsn
  · have new : ∀ tsn ∈ assembled.tsns, queue.isDelivered tsn = false := by
      intro tsn member
      rw [← Bool.not_eq_true, isDelivered_iff, not_or, not_le]
      exact ⟨whole tsn member, apart.undelivered tsn (inMessage tsn member)⟩
    obtain ⟨-, -, delivered⟩ := addReassembledMessage_spec assembled tsnsDistinct new
    obtain ⟨higher, gapped⟩ := addReassembledMessage_gapped tsnsDistinct new
      fun tsn member => by have := apart.gapped tsn member; omega
    -- a TSN of the rest that counts as delivered now was below the watermark before
    have earlier : ∀ tsn ∈ rest, (queue.addReassembledMessage assembled).isDelivered tsn = true →
        tsn ≤ queue.lastAssembledTsnWatermark := by
      intro tsn member seen
      rcases (delivered tsn).mp seen with before | marked
      · exact ((isDelivered_iff queue tsn).mp before).resolve_right
          (apart.undelivered tsn (inRest tsn member))
      · exact absurd member (Multiset.disjoint_left.mp disjoint marked)
    refine ⟨gapped, fun tsn member present => ?_, fun isInterleaved tsn member => ?_⟩
    · have before := earlier tsn member ((isDelivered_iff _ _).mpr (.inr present))
      have := gapped tsn present
      omega
    · by_contra below
      have before := earlier tsn member ((isDelivered_iff _ _).mpr (.inl (not_lt.mp below)))
      have := apart.above isInterleaved tsn (inRest tsn member)
      omega
  · push Not at whole
    obtain ⟨tsn, member, seen⟩ := whole
    cases interleaved with
    | true =>
      have := apart.above rfl tsn (inMessage tsn member)
      omega
    | false =>
      rw [addReassembledMessage_of_increasing orderly member seen]
      exact ⟨apart.gapped, fun tsn member => apart.undelivered tsn (inRest tsn member),
        fun isInterleaved => by cases isInterleaved⟩

theorem Apart.foldl_addReassembledMessage {assembled : List AssembledMessage}
    (apart : Apart interleaved (tsnsOfMessages assembled + rest) queue)
    (distinct : (tsnsOfMessages assembled + rest).Nodup)
    (orderly : ∀ message ∈ assembled, Orderly interleaved message) :
    Apart interleaved rest (assembled.foldl ReassemblyQueue.addReassembledMessage queue) := by
  induction assembled generalizing queue with
  | nil => simpa using apart
  | cons message others ih =>
    have parts : tsnsOfMessages (message :: others) + rest =
        message.tsns + (tsnsOfMessages others + rest) := by
      rw [← add_assoc]
      rfl
    rw [parts] at apart distinct
    obtain ⟨messageOrderly, othersOrderly⟩ := List.forall_mem_cons.mp orderly
    exact ih (apart.addReassembledMessage distinct messageOrderly)
      (Multiset.nodup_add.mp distinct).2.1 othersOrderly

end ReassemblyQueue

/-! ## Held chunks -/

namespace ReassemblyStreams

/-- Without interleaving, nothing is asked of a FORWARD-TSN. -/
def Skips (tsn : Int) (skippedStreams : List SkippedStream) : ReassemblyStreams → Prop
  | .traditional _ => True
  | .interleaved streams => streams.Skips tsn skippedStreams

instance (tsn : Int) (skippedStreams : List SkippedStream) :
    ∀ streams : ReassemblyStreams, Decidable (streams.Skips tsn skippedStreams)
  | .traditional _ => isTrue trivial
  | .interleaved streams => inferInstanceAs (Decidable (streams.Skips tsn skippedStreams))

end ReassemblyStreams

namespace ReassemblyQueue

def tsnsWith (waiting : List (Tsn × Data)) (queue : ReassemblyQueue) : Multiset Tsn :=
  (tsnsOf queue.streams.held).map (BitVec.ofInt 32) + (waiting.map Prod.fst : List Tsn)

def heldTsns (queue : ReassemblyQueue) : Multiset Tsn :=
  queue.tsnsWith queue.deferredChunks

/-- The TSNs of held chunks are distinct, and apart from the delivered ones. -/
structure Separate (waiting : List (Tsn × Data)) (queue : ReassemblyQueue) : Prop where
  tracks : queue.tsnUnwrapper.Tracks
  distinct : (queue.tsnsWith waiting).Nodup
  apart : Apart queue.streams.isInterleaved (tsnsOf queue.streams.held) queue

variable {waiting : List (Tsn × Data)} {queue : ReassemblyQueue} {tsn : Tsn}

namespace Separate

/-- The messages that an operation handed over are recorded. -/
theorem record {streams : ReassemblyStreams} {held dropped : Chunks} {bytes : BitVec 64}
    {assembled : List AssembledMessage} (tracks : queue.tsnUnwrapper.Tracks)
    (kind : streams.isInterleaved = queue.streams.isInterleaved)
    (accounts : Accounts (Orderly queue.streams.isInterleaved) held streams.held dropped bytes
      assembled)
    (distinct : ((tsnsOf held).map (BitVec.ofInt 32) + (waiting.map Prod.fst : List Tsn)).Nodup)
    (apart : Apart queue.streams.isInterleaved
      (tsnsOfMessages assembled + tsnsOf streams.held) queue)
    (queuedBytes : BitVec 64) :
    Separate waiting { assembled.foldl addReassembledMessage { queue with streams := streams } with
      queuedBytes := queuedBytes } := by
  have parts : tsnsOf held = tsnsOfMessages assembled + tsnsOf streams.held + tsnsOf dropped := by
    rw [accounts.tsns]
    abel
  have recordedDistinct : (tsnsOfMessages assembled + tsnsOf streams.held).Nodup := by
    have all := (Multiset.nodup_add.mp distinct).1.of_map
    rw [parts] at all
    exact (Multiset.nodup_add.mp all).1
  have fewer : tsnsOf streams.held ≤ tsnsOf held := by
    rw [accounts.tsns, add_assoc]
    exact Multiset.le_add_right _ _
  have moved : Apart queue.streams.isInterleaved (tsnsOfMessages assembled + tsnsOf streams.held)
      { queue with streams := streams } := ⟨apart.gapped, apart.undelivered, apart.above⟩
  have recorded := moved.foldl_addReassembledMessage recordedDistinct accounts.orderly
  have same := foldl_addReassembledMessage_same assembled { queue with streams := streams }
  set after := assembled.foldl addReassembledMessage { queue with streams := streams } with afterEq
  have streamsEq : after.streams = streams := same.streams
  refine ⟨?_, ?_, ?_⟩
  · rw [same.tsnUnwrapper]
    exact tracks
  · rw [tsnsWith, streamsEq]
    exact Multiset.nodup_of_le (Multiset.add_le_add_right (Multiset.map_le_map fewer)) distinct
  · rw [streamsEq, kind]
    exact ⟨recorded.gapped, recorded.undelivered, recorded.above⟩

section

variable (separate : Separate waiting queue)
include separate

theorem addToStreams {tsn : Int} (data : Data)
    (fresh : BitVec.ofInt 32 tsn ∉ queue.tsnsWith waiting) (new : queue.isDelivered tsn = false) :
    Separate waiting (queue.addToStreams tsn data) := by
  obtain ⟨kind, taken, bytes, choice, accounts, -⟩ := queue.streams.accounts_add tsn data
  have distinct : ((tsnsOf (queue.streams.held + taken)).map (BitVec.ofInt 32) +
      (waiting.map Prod.fst : List Tsn)).Nodup := by
    rcases choice with rfl | rfl
    · rw [add_zero]
      exact separate.distinct
    · rw [tsnsOf_add, Multiset.map_add, add_right_comm, add_comm]
      exact Multiset.nodup_cons.mpr ⟨fresh, separate.distinct⟩
  have undelivered := mt (isDelivered_iff queue tsn).mpr (by simp [new])
  simp only [not_or, not_le] at undelivered
  -- the chunk itself is as new as those that were held before
  have apart : Apart queue.streams.isInterleaved (tsnsOf (queue.streams.held + taken)) queue := by
    rcases choice with rfl | rfl
    · rw [add_zero]
      exact separate.apart
    refine ⟨separate.apart.gapped, fun other member => ?_,
      fun isInterleaved other member => ?_⟩ <;>
      rw [tsnsOf_add, Multiset.mem_add] at member
    · rcases member with earlier | now
      · exact separate.apart.undelivered other earlier
      · rw [Multiset.mem_singleton.mp now]
        exact undelivered.2
    · rcases member with earlier | now
      · exact separate.apart.above isInterleaved other earlier
      · rw [Multiset.mem_singleton.mp now]
        exact undelivered.1
  rw [accounts.tsns, tsnsOf_zero, add_zero, add_comm] at apart
  exact record separate.tracks kind accounts distinct apart _

/-- What is held does not depend on the unwrapper, as long as it follows the TSNs. -/
theorem seen (tsn : Tsn) : Separate waiting (queue.seen tsn) where
  tracks := separate.tracks.unwrap (by decide) tsn
  distinct := separate.distinct
  apart := ⟨separate.apart.gapped, separate.apart.undelivered, separate.apart.above⟩

theorem add_of_none (none : queue.deferredResetStreams = none) (data : Data)
    (fresh : tsn ∉ queue.tsnsWith waiting) : Separate waiting (queue.add tsn data) := by
  have wrapped := SeqNumUnwrapper.ofInt_peekUnwrap (by decide) separate.tracks tsn
  rcases add_cases tsn data queue with step | ⟨new, ⟨-, step⟩ | ⟨deferred, found, -⟩⟩
  · rw [step]
    exact separate.seen tsn
  · rw [step]
    exact (separate.seen tsn).addToStreams data (by rw [wrapped]; exact fresh) new
  · rw [none] at found
    cases found

theorem wait (data : Data) (fresh : tsn ∉ queue.tsnsWith waiting)
    (queuedBytes : BitVec 64) (deferred : Option DeferredResetStreams) :
    Separate (waiting ++ [(tsn, data)]) { queue with
      queuedBytes := queuedBytes
      deferredResetStreams := deferred } where
  tracks := separate.tracks
  distinct := by
    have all := Multiset.nodup_cons.mpr ⟨fresh, separate.distinct⟩
    rw [← Multiset.singleton_add, add_comm, tsnsWith, add_assoc] at all
    rw [tsnsWith, List.map_append, ← Multiset.coe_add]
    exact all
  apart := ⟨separate.apart.gapped, separate.apart.undelivered, separate.apart.above⟩

end

theorem addDeferred {chunk : Tsn × Data} (separate : Separate (chunk :: waiting) queue)
    (none : queue.deferredResetStreams = none) : Separate waiting (queue.addDeferred chunk) := by
  have tsns : queue.tsnsWith (chunk :: waiting) = chunk.1 ::ₘ queue.tsnsWith waiting := by
    rw [tsnsWith, List.map_cons, ← Multiset.cons_coe, Multiset.add_cons]
    rfl
  obtain ⟨fresh, distinct⟩ := Multiset.nodup_cons.mp (tsns ▸ separate.distinct)
  have removed : Separate waiting { queue with
      queuedBytes := queue.queuedBytes - BitVec.ofNat 64 chunk.2.size } :=
    { tracks := separate.tracks
      distinct := distinct
      apart := ⟨separate.apart.gapped, separate.apart.undelivered, separate.apart.above⟩ }
  exact removed.add_of_none none chunk.2 fresh

/-- The streams are reset, which does not touch what they hold. -/
theorem resetStreams (separate : Separate waiting queue) (streamIds : List StreamId)
    (completed : ReconfigRequestSn) (deferred : Option DeferredResetStreams) :
    Separate waiting { queue with
      streams := queue.streams.resetStreams streamIds
      lastCompletedResetReqSeqNbr := completed
      deferredResetStreams := deferred } where
  tracks := separate.tracks
  distinct := by
    rw [tsnsWith, held_resetStreams]
    exact separate.distinct
  apart := by
    rw [isInterleaved_resetStreams, held_resetStreams]
    exact ⟨separate.apart.gapped, separate.apart.undelivered, separate.apart.above⟩

theorem keptByReset : KeptByReset Separate where
  seen := seen
  resets := resetStreams
  defers separate _ := ⟨separate.tracks, separate.distinct,
    separate.apart.gapped, separate.apart.undelivered, separate.apart.above⟩
  adds := addDeferred

end Separate

/-! ## The operations -/

/-- The invariant of the TSNs in all runs. -/
def Separates (queue : ReassemblyQueue) : Prop :=
  Separate queue.deferredChunks queue

theorem separates_new (peerInitialTsn : Tsn) (maxSizeBytes watermarkBytes : BitVec 64)
    (useMessageInterleaving : Bool) :
    Separates (new peerInitialTsn maxSizeBytes watermarkBytes useMessageInterleaving) := by
  refine ⟨SeqNumUnwrapper.tracks_unwrap_new _, ?_, fun tsn member => ?_, fun tsn member => ?_,
    fun _ tsn member => ?_⟩
  · simp [tsnsWith, new, deferredChunks, held_createStreams]
  · simp [new] at member
  · simp [new, held_createStreams] at member
  · simp [new, held_createStreams] at member

namespace Separates

variable (separates : Separates queue)
include separates

theorem seen (tsn : Tsn) : Separates (queue.seen tsn) :=
  Separate.seen separates tsn

theorem add (data : Data) (fresh : tsn ∉ queue.heldTsns) : Separates (queue.add tsn data) := by
  have wrapped := SeqNumUnwrapper.ofInt_peekUnwrap (by decide) separates.tracks tsn
  have once := separates.seen tsn
  rcases add_cases tsn data queue with step | ⟨new, ⟨none, step⟩ | ⟨deferred, found, step | step⟩⟩
  · rw [step]
    exact once
  · rw [Separates, deferredChunks, step, deferredResetStreams_addToStreams]
    exact once.addToStreams data (by rw [wrapped]; exact fresh) new
  · rw [Separates, deferredChunks, step, deferredResetStreams_addToStreams]
    exact (once.seen deferred.req.senderLastAssignedTsn).addToStreams data
      (by rw [wrapped]; exact fresh) new
  · have twice := once.seen deferred.req.senderLastAssignedTsn
    have waits := twice.wait data fresh (queue.queuedBytes + BitVec.ofNat 64 data.size)
      (some { deferred with deferredChunks := deferred.deferredChunks ++ [(tsn, data)] })
    have before : ((queue.seen tsn).seen deferred.req.senderLastAssignedTsn).deferredChunks =
        deferred.deferredChunks := deferredChunks_of_some found
    rw [before] at waits
    rw [step]
    exact waits

end Separates

/-- The chunk skips all that the streams hold below its TSN. -/
def SkipsHeld (forwardTsn : AnyForwardTsnChunk) (queue : ReassemblyQueue) : Prop :=
  queue.streams.Skips (SeqNumUnwrapper.peekUnwrap 0 queue.tsnUnwrapper forwardTsn.newCumulativeTsn)
    forwardTsn.skippedStreams

theorem SkipsHeld.above {forwardTsn : AnyForwardTsnChunk} (skips : queue.SkipsHeld forwardTsn)
    (isInterleaved : queue.streams.isInterleaved = true) :
    let number := SeqNumUnwrapper.peekUnwrap 0 queue.tsnUnwrapper forwardTsn.newCumulativeTsn
    ∀ other ∈ tsnsOf (queue.streams.handleForwardTsn number forwardTsn.skippedStreams).1.held +
        tsnsOfMessages (queue.streams.handleForwardTsn number forwardTsn.skippedStreams).2.2,
      number < other := by
  rw [SkipsHeld] at skips
  cases kind : queue.streams with
  | traditional streams =>
    rw [kind] at isInterleaved
    cases isInterleaved
  | interleaved streams =>
    rw [kind] at skips
    exact InterleavedReassemblyStreams.Skips.handleForwardTsn skips

theorem Apart.forward {interleaved : Bool} {before after : Multiset Int}
    (apart : Apart interleaved before queue) (fewer : ∀ other ∈ after, other ∈ before)
    (above : interleaved = true → ∀ other ∈ after,
      SeqNumUnwrapper.peekUnwrap 0 queue.tsnUnwrapper tsn < other) :
    Apart interleaved after (queue.forward tsn) := by
  set number := SeqNumUnwrapper.peekUnwrap 0 queue.tsnUnwrapper tsn with numberEq
  set moved : ReassemblyQueue := { queue.seen tsn with
    lastAssembledTsnWatermark := max queue.lastAssembledTsnWatermark number
    deliveredTsns := queue.deliveredTsns.filter fun delivered => number < delivered } with movedEq
  have filtered : ∀ other, other ∈ moved.deliveredTsns ↔
      other ∈ queue.deliveredTsns ∧ number < other := by
    intro other
    rw [movedEq, ← ExtTreeSet.mem_toList, ExtTreeSet.toList_filter, List.mem_filter,
      ExtTreeSet.mem_toList, decide_eq_true_eq]
  have gapped : ∀ other ∈ moved.deliveredTsns, moved.lastAssembledTsnWatermark < other := by
    intro other member
    obtain ⟨present, beyond⟩ := (filtered other).mp member
    have := apart.gapped other present
    exact max_lt (by omega) beyond
  refine ⟨maybeMoveLastAssembledWatermarkFurther_gapped gapped, fun other member present => ?_,
    fun isInterleaved other member => ?_⟩
  · exact apart.undelivered other (fewer other member)
      ((filtered other).mp ((moveWatermark_bounds _ _ _).2 other present)).1
  by_contra below
  have delivered := (isDelivered_iff (queue.forward tsn) other).mpr (.inl (not_lt.mp below))
  rw [ReassemblyQueue.forward, maybeMoveLastAssembledWatermarkFurther_isDelivered,
    isDelivered_iff] at delivered
  rcases delivered with low | present
  · exact absurd low (not_le.mpr (max_lt
      (apart.above isInterleaved other (fewer other member)) (above isInterleaved other member)))
  · exact apart.undelivered other (fewer other member) ((filtered other).mp present).1

theorem Separates.handle (separates : Separates queue) {forwardTsn : AnyForwardTsnChunk}
    (skips : queue.SkipsHeld forwardTsn) : Separates (queue.handle forwardTsn) := by
  set number := SeqNumUnwrapper.peekUnwrap 0 queue.tsnUnwrapper forwardTsn.newCumulativeTsn
    with numberEq
  obtain ⟨kind, dropped, accounts⟩ :=
    queue.streams.accounts_handleForwardTsn number forwardTsn.skippedStreams
  set outcome := queue.streams.handleForwardTsn number forwardTsn.skippedStreams with outcomeEq
  have fewer : ∀ other ∈ tsnsOfMessages outcome.2.2 + tsnsOf outcome.1.held,
      other ∈ tsnsOf queue.streams.held := by
    intro other member
    rw [accounts.tsns, add_right_comm, Multiset.mem_add, add_comm]
    exact .inl member
  have apart : Apart queue.streams.isInterleaved
      (tsnsOfMessages outcome.2.2 + tsnsOf outcome.1.held)
      (queue.forward forwardTsn.newCumulativeTsn) :=
    separates.apart.forward fewer fun isInterleaved other member =>
      skips.above isInterleaved other (by rwa [add_comm] at member)
  set recorded := outcome.2.2.foldl addReassembledMessage
    { queue.forward forwardTsn.newCumulativeTsn with streams := outcome.1 } with recordedEq
  have tracks : (queue.forward forwardTsn.newCumulativeTsn).tsnUnwrapper.Tracks :=
    (separates.seen forwardTsn.newCumulativeTsn).tracks
  have separate : Separate queue.deferredChunks
      { recorded with queuedBytes := recorded.queuedBytes - outcome.2.1 } :=
    Separate.record tracks kind accounts separates.distinct apart _
  have waiting : recorded.deferredChunks = queue.deferredChunks := by
    rw [deferredChunks, deferredChunks, (foldl_addReassembledMessage_same outcome.2.2
      { queue.forward forwardTsn.newCumulativeTsn with streams := outcome.1 }).deferredResetStreams]
    rfl
  rw [← waiting] at separate
  exact separate

/-! ## Runs -/

inductive Operation where
  | add (tsn : Tsn) (data : Data)
  | handle (forwardTsn : AnyForwardTsnChunk)
  | resetStreams (req : OutgoingSsnResetRequestParameter) (cumTsnAck : Tsn)
  | maybeResetStreamsDeferred (cumAckTsn : Tsn)
  | flushMessages

def machine : Machine ReassemblyQueue Operation where
  pre _ _ := True
  next queue operation := match operation with
    | .add tsn data => queue.add tsn data
    | .handle forwardTsn => queue.handle forwardTsn
    | .resetStreams req cumTsnAck => (queue.resetStreams req cumTsnAck).2
    | .maybeResetStreamsDeferred cumAckTsn => (queue.maybeResetStreamsDeferred cumAckTsn).2
    | .flushMessages => queue.flushMessages.2

/--
The bytes are those of the held chunks, and the delivered TSNs neither overlap
with the watermark nor are next to it.
-/
structure Consistent (queue : ReassemblyQueue) : Prop where
  queuedBytes : queue.queuedBytes.toNat = queue.heldBytes
  deliveredTsns : ∀ tsn ∈ queue.deliveredTsns, queue.lastAssembledTsnWatermark + 1 < tsn

/--
A chunk does not come under the TSN of a held one, and the bytes of all of them
fit into an `int`.  A FORWARD-TSN skips what is held below its TSN.
-/
def Regular (queue : ReassemblyQueue) : Operation → Prop
  | .add tsn data => tsn ∉ queue.heldTsns ∧ queue.heldBytes + data.size < 2 ^ 31
  | .handle forwardTsn => queue.SkipsHeld forwardTsn
  | _ => True

theorem Separates.next (separates : Separates queue) {operation : Operation}
    (regular : queue.Regular operation) : Separates (machine.next queue operation) := by
  cases operation with
  | add tsn data => exact separates.add data regular.1
  | handle forwardTsn => exact separates.handle regular
  | resetStreams req cumTsnAck => exact Separate.keptByReset.resetStreams separates req cumTsnAck
  | maybeResetStreamsDeferred cumAckTsn => exact Separate.keptByReset.maybeResetStreamsDeferred separates cumAckTsn
  | flushMessages =>
    exact ⟨separates.tracks, separates.distinct,
      separates.apart.gapped, separates.apart.undelivered, separates.apart.above⟩

theorem Counts.next (counts : Counts (2 ^ 31 - 1) queue) {operation : Operation}
    (regular : queue.Regular operation) : Counts (2 ^ 31 - 1) (machine.next queue operation) := by
  have small : 2 ^ 31 - 1 < 2 ^ 31 := by norm_num
  cases operation with
  | add tsn data => exact counts.add small tsn (Nat.le_sub_one_of_lt regular.2)
  | handle forwardTsn => exact counts.handle small forwardTsn
  | resetStreams req cumTsnAck => exact (Counted.keptByReset small).resetStreams counts req cumTsnAck
  | maybeResetStreamsDeferred cumAckTsn => exact (Counted.keptByReset small).maybeResetStreamsDeferred counts cumAckTsn
  | flushMessages => exact ⟨counts.bytes, counts.within⟩

/-- In every run of regular operations the queue stays consistent. -/
theorem consistent_of_run (peerInitialTsn : Tsn) (maxSizeBytes watermarkBytes : BitVec 64)
    (useMessageInterleaving : Bool) (operations : List Operation) (queue : ReassemblyQueue)
    (run : (machine.restrict Regular).Run
      (new peerInitialTsn maxSizeBytes watermarkBytes useMessageInterleaving) operations queue) :
    queue.Consistent := by
  have separates : Separates queue := run.invariant (fun _ queue => Separates queue)
    (separates_new peerInitialTsn maxSizeBytes watermarkBytes useMessageInterleaving)
    fun _ _ _ _ separates admissible => separates.next admissible.2
  have counts : Counts (2 ^ 31 - 1) queue := run.invariant (fun _ queue => Counts (2 ^ 31 - 1) queue)
    (counts_new _ peerInitialTsn maxSizeBytes watermarkBytes useMessageInterleaving)
    fun _ _ _ _ counts admissible => counts.next admissible.2
  exact ⟨counts.toNat_queuedBytes (by norm_num), separates.apart.gapped⟩

/-- A fragment of a message, on stream 1 unless it is a message of its own. -/
def fragment (fsn : Fsn) (isBeginning isEnd : Bool) : Data :=
  { streamId := if isBeginning && isEnd then 2 else 1, ssn := 0, messageId := 0, fsn := fsn
    ppid := 53, payload := [7], isBeginning := isBeginning, isEnd := isEnd, isUnordered := false }

/-- The last fragment of a message arrives, and the peer skips its TSN, but no stream. -/
def halfSkipped (skippedStreams : List SkippedStream) : List Operation :=
  [.add 10 (fragment 1 false true),
    .handle { newCumulativeTsn := 10, skippedStreams := skippedStreams },
    .add 12 (fragment 0 true true),
    .add 11 (fragment 0 true false)]

instance (queue : ReassemblyQueue) :
    ∀ operation, Decidable ((machine.restrict Regular).pre queue operation)
  | .add _ _ => inferInstanceAs (Decidable (True ∧ (_ ∧ _)))
  | .handle forwardTsn => inferInstanceAs (Decidable (True ∧ queue.streams.Skips
      (SeqNumUnwrapper.peekUnwrap 0 queue.tsnUnwrapper forwardTsn.newCumulativeTsn)
      forwardTsn.skippedStreams))
  | .resetStreams _ _ => isTrue ⟨trivial, trivial⟩
  | .maybeResetStreamsDeferred _ => isTrue ⟨trivial, trivial⟩
  | .flushMessages => isTrue ⟨trivial, trivial⟩

/-- A peer that skips the stream keeps the queue consistent. -/
theorem consistent_after_skipped_stream :
    let operations := halfSkipped [{ streamId := 1 }]
    (machine.outcome (new 10 1000 900 true) operations).Consistent := by
  have admitted : (machine.restrict Regular).Admits (new 10 1000 900 true)
      (halfSkipped [{ streamId := 1 }]) := by
    decide +kernel
  exact consistent_of_run 10 1000 900 true _ _ admitted.run

/--
The loop over the TSNs 11 and 10 of the message moves the watermark to 11 and
stops at 10, so the watermark is next to the delivered TSN 12.
-/
theorem not_consistent_after_missing_stream :
    ∃ queue, machine.Run (new 10 1000 900 true) (halfSkipped []) queue ∧ ¬ queue.Consistent := by
  refine ⟨_, Machine.Admits.run (Machine.admits_of_forall (fun _ _ _ => trivial) _), ?_⟩
  intro consistent
  have delivered : (12 : Int) ∈
      (machine.outcome (new 10 1000 900 true) (halfSkipped [])).deliveredTsns := by
    decide +kernel
  have watermark : (machine.outcome (new 10 1000 900 true)
      (halfSkipped [])).lastAssembledTsnWatermark = 11 := by
    decide +kernel
  have apart := consistent.deliveredTsns 12 delivered
  omega

end ReassemblyQueue

end MaeRtc.DcSctp
