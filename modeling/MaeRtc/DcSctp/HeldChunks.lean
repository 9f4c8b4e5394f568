import MaeRtc.Base.Contents
import MaeRtc.Base.Words
import MaeRtc.DcSctp.ReassemblyQueue

/-!
# The chunks that streams hold

What the streams of a reassembly queue hold, as a multiset of chunks with their
TSNs, and an account of what an operation does with it: chunks are kept, dropped,
or handed over in messages, and the bytes that the operation returns are those of
the chunks that are gone.  The account of bytes is only good as long as fewer
than 2³¹ bytes are held, since the source sums sizes in an `int`.
-/

namespace MaeRtc.DcSctp

open MaeRtc.Base MaeRtc.Base.OrderedMap ReassemblyStreams
open Std (ExtTreeMap)

abbrev Chunks := Multiset (Int × Data)

def bytesOf (chunks : Chunks) : Nat :=
  (chunks.map fun chunk => chunk.2.size).sum

def tsnsOf (chunks : Chunks) : Multiset Int :=
  chunks.map Prod.fst

@[simp] theorem bytesOf_zero : bytesOf 0 = 0 := rfl

@[simp] theorem bytesOf_add (one two : Chunks) : bytesOf (one + two) = bytesOf one + bytesOf two := by
  simp [bytesOf]

@[simp] theorem bytesOf_singleton (chunk : Int × Data) : bytesOf {chunk} = chunk.2.size := by
  simp [bytesOf]

@[simp] theorem tsnsOf_zero : tsnsOf 0 = 0 := rfl

@[simp] theorem tsnsOf_add (one two : Chunks) : tsnsOf (one + two) = tsnsOf one + tsnsOf two :=
  Multiset.map_add _ _ _

theorem length_flatMap_payload (chunks : List (Int × Data)) :
    (chunks.flatMap fun entry => entry.2.payload).length = bytesOf chunks := by
  rw [List.length_flatMap]
  rfl

/-- As long as the sum fits into an `int`, it is the sum. -/
theorem accumulateSizes_of_small {chunks : List (Int × Data)} (small : bytesOf chunks < 2 ^ 31) :
    accumulateSizes chunks = BitVec.ofNat 64 (bytesOf chunks) := by
  rw [accumulateSizes_eq, length_flatMap_payload, Words.signExtend_ofNat small]

/-! ## Accounts -/

/-- The TSNs of messages. -/
def tsnsOfMessages (assembled : List AssembledMessage) : Multiset Int :=
  (assembled.flatMap AssembledMessage.tsns : List Int)

@[simp] theorem tsnsOfMessages_nil : tsnsOfMessages [] = 0 := rfl

@[simp] theorem tsnsOfMessages_append (one two : List AssembledMessage) :
    tsnsOfMessages (one ++ two) = tsnsOfMessages one + tsnsOfMessages two := by
  rw [tsnsOfMessages, List.flatMap_append, ← Multiset.coe_add]
  rfl

/--
An operation has turned the chunks `before` into the chunks `after`.  It dropped
some, handed over messages that are all `Orderly`, and returned the bytes.
-/
structure Accounts (Orderly : AssembledMessage → Prop) (before after dropped : Chunks)
    (bytes : BitVec 64) (assembled : List AssembledMessage) : Prop where
  tsns : tsnsOf before = tsnsOf after + tsnsOf dropped + tsnsOfMessages assembled
  bytes : bytesOf before < 2 ^ 31 → ∃ removed, bytesOf before = bytesOf after + removed ∧
    bytes = BitVec.ofNat 64 removed
  orderly : ∀ message ∈ assembled, Orderly message

/-- The account of an operation on streams. -/
abbrev Accounts.Of {Stream : Type} (Orderly : AssembledMessage → Prop) (held : Stream → Chunks)
    (stream : Stream) (dropped : Chunks) (outcome : Outcome Stream) : Prop :=
  Accounts Orderly (held stream) (held outcome.1) dropped outcome.2.1 outcome.2.2

variable {κ ν : Type} [Ord κ] [Std.TransOrd κ] [Std.LawfulEqOrd κ] [DecidableEq κ]
  {holds : ν → Chunks}

namespace Accounts

variable {Orderly : AssembledMessage → Prop} {before middle after dropped more rest : Chunks}
  {bytes moreBytes : BitVec 64} {assembled moreAssembled : List AssembledMessage}

theorem refl (Orderly : AssembledMessage → Prop) (chunks : Chunks) :
    Accounts Orderly chunks chunks 0 0 [] where
  tsns := by simp
  bytes _ := ⟨0, rfl, rfl⟩
  orderly _ member := by cases member

theorem trans (one : Accounts Orderly before middle dropped bytes assembled)
    (two : Accounts Orderly middle after more moreBytes moreAssembled) :
    Accounts Orderly before after (dropped + more) (bytes + moreBytes)
      (assembled ++ moreAssembled) where
  tsns := by
    rw [one.tsns, two.tsns, tsnsOf_add, tsnsOfMessages_append]
    abel
  bytes small := by
    obtain ⟨removed, count, rfl⟩ := one.bytes small
    obtain ⟨removedNext, countNext, rfl⟩ := two.bytes (by omega)
    exact ⟨removed + removedNext, by omega, by rw [BitVec.ofNat_add]⟩
  orderly message member := by
    rcases List.mem_append.mp member with first | second
    · exact one.orderly message first
    · exact two.orderly message second

/-- Chunks elsewhere do not matter. -/
theorem frame (one : Accounts Orderly before after dropped bytes assembled) (rest : Chunks) :
    Accounts Orderly (before + rest) (after + rest) dropped bytes assembled where
  tsns := by
    rw [tsnsOf_add, tsnsOf_add, one.tsns]
    abel
  bytes small := by
    rw [bytesOf_add] at small
    obtain ⟨removed, count, bytesEq⟩ := one.bytes (by omega)
    exact ⟨removed, by rw [bytesOf_add, bytesOf_add]; omega, bytesEq⟩
  orderly := one.orderly

theorem congr (one : Accounts Orderly before after dropped bytes assembled) {start stop : Chunks}
    (startEq : start = before) (stopEq : stop = after) :
    Accounts Orderly start stop dropped bytes assembled := by
  rwa [startEq, stopEq]

theorem drop (Orderly : AssembledMessage → Prop) (chunks : List (Int × Data)) :
    Accounts Orderly chunks 0 chunks (accumulateSizes chunks) [] where
  tsns := by simp
  bytes small := ⟨bytesOf chunks, by simp, accumulateSizes_of_small small⟩
  orderly _ member := by cases member

theorem assemble {chunks : List (Int × Data)} (nonempty : chunks ≠ [])
    (orderly : ∀ message : AssembledMessage, message.tsns = chunks.map Prod.fst → Orderly message) :
    Accounts Orderly chunks 0 0 (assembleMessage chunks).1 (assembleMessage chunks).2.toList := by
  obtain ⟨first, rest, rfl⟩ := List.exists_cons_of_ne_nil nonempty
  have message := assembleMessage_snd first rest
  constructor
  · rw [message]
    simp [tsnsOf, tsnsOfMessages]
  · intro small
    refine ⟨bytesOf (first :: rest : List (Int × Data)), by simp, ?_⟩
    cases rest with
    | nil => simp [assembleMessage]
    | cons next rest => exact accumulateSizes_of_small small
  · intro assembled member
    rw [message, Option.toList_some, List.mem_singleton] at member
    exact orderly assembled (by rw [member])

theorem assembleWhile {Stream : Type} (held : Stream → Chunks)
    {tryToAssemble : Stream → Outcome Stream}
    (attempt : ∀ stream, Of Orderly held stream 0 (tryToAssemble stream)) (fuel : Nat)
    (stream : Stream) : Of Orderly held stream 0 (assembleWhile tryToAssemble fuel stream) := by
  induction fuel generalizing stream with
  | zero => exact refl Orderly (held stream)
  | succ fuel ih =>
    have once := attempt stream
    simp only [ReassemblyStreams.assembleWhile]
    split
    next none =>
      rw [Of, none] at once
      exact once
    · simpa using once.trans (ih (tryToAssemble stream).1)

theorem forEachSkipped {Streams : Type} (held : Streams → Chunks)
    {erase : SkippedStream → Streams → Outcome Streams}
    (each : ∀ skipped streams, ∃ dropped, Of Orderly held streams dropped (erase skipped streams))
    (skippedStreams : List SkippedStream) (start : Outcome Streams)
    (begun : Accounts Orderly before (held start.1) dropped start.2.1 start.2.2) :
    ∃ dropped, Accounts Orderly before (held (forEachSkipped erase skippedStreams start).1) dropped
      (forEachSkipped erase skippedStreams start).2.1
      (forEachSkipped erase skippedStreams start).2.2 := by
  induction skippedStreams generalizing start dropped with
  | nil => exact ⟨dropped, begun⟩
  | cons skipped rest ih =>
    obtain ⟨more, erased⟩ := each skipped start.1
    exact ih _ (begun.trans erased)

/-- The account of the value at one key is an account of the map. -/
theorem insert (entries : ExtTreeMap κ ν) (key : κ) {blank stored : ν} (nothing : holds blank = 0)
    (inner : Accounts Orderly (holds (entries[key]?.getD blank)) (holds stored) dropped bytes
      assembled) :
    Accounts Orderly (gather holds entries) (gather holds (entries.insert key stored)) dropped bytes
      assembled :=
  (inner.frame (gather holds (entries.erase key))).congr (gather_getD entries key nothing)
    (gather_insert entries key stored)

theorem dropAll (Orderly : AssembledMessage → Prop) (groups : List (List (Int × Data))) :
    Accounts Orderly (groups.flatten : List (Int × Data)) 0 (groups.flatten : List (Int × Data))
      (groups.foldl (fun sum group => sum + accumulateSizes group) 0) [] := by
  induction groups using List.reverseRecOn with
  | nil => exact refl Orderly 0
  | append_singleton groups group ih =>
    have both := (ih.frame (group : List (Int × Data))).trans
      ((drop Orderly group).congr (zero_add _) rfl)
    simpa using both

end Accounts

/--
A chunk was added to the chunks `before`, unless it was there already.  The bytes
that are added to the queue are returned as an `int`.
-/
def AccountsAdd (Orderly : AssembledMessage → Prop) (chunk : Int × Data) (before after : Chunks)
    (result : BitVec 32) (assembled : List AssembledMessage) : Prop :=
  ∃ taken bytes, (taken = 0 ∨ taken = {chunk}) ∧
    Accounts Orderly (before + taken) after 0 bytes assembled ∧
    result = BitVec.ofNat 32 (bytesOf taken) - bytes.setWidth 32

/-- The account of adding a chunk to streams. -/
abbrev AccountsAdd.Of {Stream : Type} (Orderly : AssembledMessage → Prop) (held : Stream → Chunks)
    (chunk : Int × Data) (stream : Stream)
    (outcome : Stream × BitVec 32 × List AssembledMessage) : Prop :=
  AccountsAdd Orderly chunk (held stream) (held outcome.1) outcome.2.1 outcome.2.2

namespace AccountsAdd

variable {Orderly : AssembledMessage → Prop} {chunk : Int × Data} {before after : Chunks}
  {result : BitVec 32} {assembled : List AssembledMessage}

theorem refused (Orderly : AssembledMessage → Prop) (chunk : Int × Data) (chunks : Chunks) :
    AccountsAdd Orderly chunk chunks chunks 0 [] :=
  ⟨0, 0, .inl rfl, (Accounts.refl Orderly chunks).congr (add_zero _) rfl, rfl⟩

theorem taken {bytes : BitVec 64}
    (accounts : Accounts Orderly (before + {chunk}) after 0 bytes assembled) :
    AccountsAdd Orderly chunk before after
      (BitVec.ofNat 32 chunk.2.size - bytes.setWidth 32) assembled :=
  ⟨{chunk}, bytes, .inr rfl, accounts, by rw [bytesOf_singleton]⟩

theorem frame (accounts : AccountsAdd Orderly chunk before after result assembled)
    (rest : Chunks) : AccountsAdd Orderly chunk (before + rest) (after + rest) result assembled := by
  obtain ⟨taken, bytes, choice, inner, resultEq⟩ := accounts
  exact ⟨taken, bytes, choice, (inner.frame rest).congr (add_right_comm _ _ _) rfl, resultEq⟩

theorem congr (accounts : AccountsAdd Orderly chunk before after result assembled)
    {start stop : Chunks} (startEq : start = before) (stopEq : stop = after) :
    AccountsAdd Orderly chunk start stop result assembled := by
  rwa [startEq, stopEq]

theorem insert (entries : ExtTreeMap κ ν) (key : κ) {blank stored : ν} (nothing : holds blank = 0)
    (inner : AccountsAdd Orderly chunk (holds (entries[key]?.getD blank)) (holds stored) result
      assembled) :
    AccountsAdd Orderly chunk (gather holds entries) (gather holds (entries.insert key stored))
      result assembled :=
  (inner.frame (gather holds (entries.erase key))).congr (gather_getD entries key nothing)
    (gather_insert entries key stored)

end AccountsAdd

/-! ## Traditional streams -/

namespace TraditionalReassemblyStreams

/-- The TSNs of a message are increasing. -/
def Increasing (message : AssembledMessage) : Prop :=
  message.tsns.Pairwise (· < ·)

theorem increasing_of_sublist {chunks : ChunkMap} {part : List (Int × Data)}
    (sub : part.Sublist chunks.toList) (message : AssembledMessage)
    (tsns : message.tsns = part.map Prod.fst) : Increasing message := by
  rw [Increasing, tsns]
  exact List.pairwise_map.mpr ((toList_pairwise_lt chunks).sublist sub)

namespace UnorderedStream

theorem accounts_tryToAssembleMessage (tsn : Int) (data : Data) (chunks : ChunkMap) :
    Accounts.Of Increasing contents chunks 0 (tryToAssembleMessage tsn data chunks) := by
  unfold tryToAssembleMessage
  dsimp only
  split
  next start last _ _ =>
    have parts : contents chunks =
        (chunks.toList.filter fun entry => start ≤ entry.1 ∧ entry.1 ≤ last : List (Int × Data)) +
        contents (chunks.filter fun key _ => ¬ (start ≤ key ∧ key ≤ last)) := by
      rw [contents_filter, contents, ← Multiset.filter_coe]
      simp only [decide_eq_true_eq]
      exact (Multiset.filter_add_not _ _).symm
    by_cases empty : (chunks.toList.filter fun entry => start ≤ entry.1 ∧ entry.1 ≤ last) = []
    · rw [empty] at parts ⊢
      exact (Accounts.refl Increasing _).congr (by simpa using parts) rfl
    · exact ((Accounts.assemble empty (increasing_of_sublist List.filter_sublist)).frame _).congr
        parts (zero_add _).symm
  · exact Accounts.refl Increasing _

theorem accounts_add (tsn : Int) (data : Data) (chunks : ChunkMap) :
    AccountsAdd.Of Increasing contents (tsn, data) chunks (add tsn data chunks) := by
  unfold add
  split
  · exact .refused _ _ _
  next missing =>
    refine .taken ((accounts_tryToAssembleMessage tsn data _).congr ?_ rfl)
    rw [contents_insert, erase_of_missing (ExtTreeMap.getElem?_eq_none missing),
      ← Multiset.singleton_add, add_comm]

theorem accounts_eraseTo (tsn : Int) (chunks : ChunkMap) :
    contents chunks = contents (eraseTo tsn chunks).1 +
      (chunks.toList.filter fun entry => entry.1 ≤ tsn : List (Int × Data)) := by
  rw [eraseTo, contents_filter, contents, ← Multiset.filter_coe]
  simp only [decide_eq_true_eq, ← not_lt]
  exact (Multiset.filter_add_not _ _).symm

end UnorderedStream

namespace OrderedStream

def held (stream : OrderedStream) : Chunks :=
  gather contents stream.chunksBySsn

theorem accounts_tryToAssembleMessage (stream : OrderedStream) :
    Accounts.Of Increasing held stream 0 stream.tryToAssembleMessage := by
  have same := Accounts.refl Increasing stream.held
  unfold tryToAssembleMessage
  split
  · exact same
  next ssn chunks rest toList =>
    have found : stream.chunksBySsn[ssn]? = some chunks :=
      ExtTreeMap.mem_toList_iff_getElem?_eq_some.mp (by simp [toList])
    split
    · exact same
    split
    next first last head _ =>
      split
      · exact same
      split
      · exact same
      have nonempty : chunks.toList ≠ [] := by
        intro none
        simp [none] at head
      exact ((Accounts.assemble nonempty
        (increasing_of_sublist (List.Sublist.refl _))).frame _).congr
          (gather_of_found found) (zero_add _).symm
    · exact same

theorem accounts_tryToAssembleMessages (stream : OrderedStream) :
    Accounts.Of Increasing held stream 0 stream.tryToAssembleMessages :=
  Accounts.assembleWhile held accounts_tryToAssembleMessage _ stream

theorem held_store (stream : OrderedStream) (ssn tsn : Int) (data : Data) :
    gather contents (stream.chunksBySsn.insert ssn
        ((stream.chunksBySsn[ssn]?.getD ∅).insertIfNew tsn data)) =
      if tsn ∈ stream.chunksBySsn[ssn]?.getD ∅ then stream.held
      else stream.held + {(tsn, data)} :=
  gather_putIfNew _ _ contents_empty (contents_insertIfNew _ tsn data)

theorem accounts_add (tsn : Int) (data : Data) (stream : OrderedStream) :
    AccountsAdd.Of Increasing held (tsn, data) stream (stream.add tsn data) := by
  have stored := stream.held_store (SeqNumUnwrapper.unwrap 0 stream.ssnUnwrapper data.ssn).1 tsn data
  unfold add
  dsimp only
  split
  next present =>
    rw [if_pos present] at stored
    exact (AccountsAdd.refused _ _ _).congr rfl stored
  next missing =>
    rw [if_neg missing] at stored
    split
    · exact .taken ((accounts_tryToAssembleMessages _).congr stored.symm rfl)
    · have waits := AccountsAdd.taken ((Accounts.refl Increasing
        (stream.held + {(tsn, data)})).congr rfl stored)
      have noBytes : BitVec.setWidth 32 (0 : BitVec 64) = 0#32 := rfl
      rw [noBytes, BitVec.sub_zero] at waits
      exact waits

/-- The sum over messages in an `int` is the sum over their chunks. -/
theorem foldl_accumulateSizes (groups : List (List (Int × Data))) :
    (groups.foldl (fun (sum : BitVec 32) group => sum + (accumulateSizes group).setWidth 32)
      0).signExtend 64 = accumulateSizes groups.flatten := by
  have narrow : ∀ chunks, (accumulateSizes chunks).setWidth 32 =
      BitVec.ofNat 32 (bytesOf (chunks : List (Int × Data))) := by
    intro chunks
    rw [accumulateSizes_eq, length_flatMap_payload]
    grind
  have fold : groups.foldl (fun (sum : BitVec 32) group =>
      sum + (accumulateSizes group).setWidth 32) 0 =
        BitVec.ofNat 32 (bytesOf (groups.flatten : List (Int × Data))) := by
    induction groups using List.reverseRecOn with
    | nil => rfl
    | append_singleton groups group ih =>
      rw [List.foldl_append, List.foldl_cons, List.foldl_nil, ih, narrow, ← BitVec.ofNat_add]
      simp [← Multiset.coe_add]
  rw [fold, accumulateSizes_eq, length_flatMap_payload]

theorem accounts_eraseTo (ssn : Ssn) (stream : OrderedStream) :
    ∃ dropped, Accounts.Of Increasing held stream dropped (stream.eraseTo ssn) := by
  set unwrapped := SeqNumUnwrapper.peekUnwrap 0 stream.ssnUnwrapper ssn with unwrappedEq
  set kept : OrderedStream := { stream with
    chunksBySsn := stream.chunksBySsn.filter fun key _ => unwrapped < key
    ssnUnwrapper := ⟨unwrapped, some ssn⟩
    nextSsn := if stream.nextSsn ≤ unwrapped then unwrapped + 1 else stream.nextSsn } with keptEq
  set erased := stream.chunksBySsn.toList.filter fun entry => entry.1 ≤ unwrapped with erasedEq
  have step : stream.eraseTo ssn = (kept.tryToAssembleMessages.1,
      accumulateSizes ((erased.map fun entry => entry.2.toList).flatten) +
        kept.tryToAssembleMessages.2.1, kept.tryToAssembleMessages.2.2) := by
    rw [← foldl_accumulateSizes, List.foldl_map]
    rfl
  have parts : stream.held =
      ((erased.map fun entry => entry.2.toList).flatten : List (Int × Data)) + kept.held := by
    have split := gather_eq_flatten_add (fun chunks : ChunkMap => chunks.toList)
      stream.chunksBySsn fun key => decide (unwrapped < key)
    simp only [← decide_not, not_lt] at split
    exact split
  rw [step]
  refine ⟨_, (((Accounts.drop Increasing _).frame kept.held).trans
    ((accounts_tryToAssembleMessages kept).congr (zero_add _) rfl)).congr parts rfl⟩

@[simp] theorem held_new (nextSsn : Ssn) : (new nextSsn).held = 0 :=
  gather_empty

@[simp] theorem held_reset (stream : OrderedStream) : stream.reset.held = stream.held :=
  rfl

end OrderedStream

def held (streams : TraditionalReassemblyStreams) : Chunks :=
  gather contents streams.unorderedStreams + gather OrderedStream.held streams.orderedStreams

theorem accounts_add (tsn : Int) (data : Data) (streams : TraditionalReassemblyStreams) :
    AccountsAdd.Of Increasing held (tsn, data) streams (streams.add tsn data) := by
  unfold add
  split
  · exact (AccountsAdd.insert streams.unorderedStreams data.streamId contents_empty
      (UnorderedStream.accounts_add tsn data _)).frame (gather OrderedStream.held _)
  · exact ((AccountsAdd.insert streams.orderedStreams data.streamId (OrderedStream.held_new 0)
      (OrderedStream.accounts_add tsn data _)).frame (gather contents _)).congr
        (add_comm _ _) (add_comm _ _)

theorem accounts_eraseUnordered (newCumulativeAckTsn : Int)
    (streams : TraditionalReassemblyStreams) :
    ∃ dropped, Accounts Increasing streams.held (streams.eraseUnordered newCumulativeAckTsn).1.held
      dropped (streams.eraseUnordered newCumulativeAckTsn).2 [] := by
  have parts := gather_eq_flatten_add_map streams.unorderedStreams
    (fun chunks => chunks.toList.filter fun entry => entry.1 ≤ newCumulativeAckTsn)
    (fun chunks => (UnorderedStream.eraseTo newCumulativeAckTsn chunks).1)
    fun chunks => (UnorderedStream.accounts_eraseTo newCumulativeAckTsn chunks).trans (add_comm _ _)
  have dropped := Accounts.dropAll Increasing (streams.unorderedStreams.toList.map fun entry =>
    entry.2.toList.filter fun chunk => chunk.1 ≤ newCumulativeAckTsn)
  rw [List.foldl_map] at dropped
  refine ⟨_, (dropped.frame (streams.eraseUnordered newCumulativeAckTsn).1.held).congr ?_
    (zero_add _).symm⟩
  rw [held, parts, add_assoc]
  rfl

theorem accounts_eraseOrdered (skipped : SkippedStream) (streams : TraditionalReassemblyStreams) :
    ∃ dropped, Accounts.Of Increasing held streams dropped (streams.eraseOrdered skipped) := by
  obtain ⟨dropped, inner⟩ := OrderedStream.accounts_eraseTo skipped.ssn
    (streams.orderedStreams[skipped.streamId]?.getD (.new 0))
  exact ⟨dropped, ((inner.insert streams.orderedStreams skipped.streamId
    (OrderedStream.held_new 0)).frame (gather contents streams.unorderedStreams)).congr
      (add_comm _ _) (add_comm _ _)⟩

theorem accounts_handleForwardTsn (newCumulativeAckTsn : Int) (skippedStreams : List SkippedStream)
    (streams : TraditionalReassemblyStreams) :
    ∃ dropped, Accounts.Of Increasing held streams dropped
      (streams.handleForwardTsn newCumulativeAckTsn skippedStreams) := by
  obtain ⟨dropped, begun⟩ := streams.accounts_eraseUnordered newCumulativeAckTsn
  exact Accounts.forEachSkipped held accounts_eraseOrdered skippedStreams
    ((streams.eraseUnordered newCumulativeAckTsn).1,
      (streams.eraseUnordered newCumulativeAckTsn).2, []) begun

theorem held_resetStreams (streamIds : List StreamId) (streams : TraditionalReassemblyStreams) :
    (streams.resetStreams streamIds).held = streams.held := by
  unfold held resetStreams
  congr 1
  split
  · exact gather_map_of_eq OrderedStream.held_reset
  next named =>
    clear named
    generalize streams.orderedStreams = ordered
    induction streamIds generalizing ordered with
    | nil => rfl
    | cons streamId rest ih =>
      rw [List.foldl_cons, ih, gather_modify_of_eq OrderedStream.held_reset]

end TraditionalReassemblyStreams

/-! ## Interleaved streams -/

namespace InterleavedReassemblyStreams

/-- Messages are assembled in the order of the fragments, whatever their TSNs. -/
abbrev AnyOrder (_ : AssembledMessage) : Prop := True

def shelved (chunks : ChunkMap) : Chunks :=
  (contents chunks).map Prod.snd

@[simp] theorem shelved_empty : shelved ∅ = 0 := by
  simp [shelved]

namespace Stream

def held (stream : Stream) : Chunks :=
  gather shelved stream.chunksByMid

theorem accounts_tryToAssembleMessage (mid : Int) (stream : Stream) :
    Accounts.Of AnyOrder held stream 0 (stream.tryToAssembleMessage mid) := by
  have same := Accounts.refl AnyOrder stream.held
  unfold tryToAssembleMessage
  split
  · exact same
  next chunks found =>
    split
    next first last head _ =>
      split
      · exact same
      split
      · exact same
      have nonempty : chunks.toList.map Prod.snd ≠ [] := by
        intro none
        simp [List.map_eq_nil_iff.mp none] at head
      have before : stream.held = (chunks.toList.map Prod.snd : List (Int × Data)) +
          gather shelved (stream.chunksByMid.erase mid) := by
        exact gather_of_found found
      have taken : Accounts AnyOrder (chunks.toList.map Prod.snd : List (Int × Data)) 0 0 _ _ :=
        Accounts.assemble nonempty fun _ _ => trivial
      exact (taken.frame _).congr before (zero_add _).symm
    · exact same

theorem accounts_tryToAssembleNext (stream : Stream) :
    Accounts.Of AnyOrder held stream 0 stream.tryToAssembleNext := by
  have attempt := stream.accounts_tryToAssembleMessage stream.nextMid
  unfold tryToAssembleNext
  dsimp only
  split
  next none =>
    rw [Accounts.Of, none] at attempt
    exact attempt
  · exact attempt

theorem accounts_tryToAssembleMessages (stream : Stream) :
    Accounts.Of AnyOrder held stream 0 stream.tryToAssembleMessages :=
  Accounts.assembleWhile held accounts_tryToAssembleNext _ stream

theorem held_store (stream : Stream) (mid : Int) (fsn : Nat) (chunk : Int × Data) :
    gather shelved (stream.chunksByMid.insert mid
        ((stream.chunksByMid[mid]?.getD ∅).insertIfNew fsn chunk)) =
      if fsn ∈ stream.chunksByMid[mid]?.getD ∅ then stream.held else stream.held + {chunk} := by
  refine gather_putIfNew _ _ shelved_empty ?_
  rw [shelved, contents_insertIfNew]
  split
  · rfl
  · rw [Multiset.map_add, Multiset.map_singleton]
    rfl

theorem accounts_add (tsn : Int) (data : Data) (stream : Stream) :
    AccountsAdd.Of AnyOrder held (tsn, data) stream (stream.add tsn data) := by
  have stored := stream.held_store
    (SeqNumUnwrapper.unwrap 0 stream.midUnwrapper data.messageId).1 data.fsn.toNat (tsn, data)
  unfold add
  dsimp only
  split
  next present =>
    rw [if_pos present] at stored
    exact (AccountsAdd.refused _ _ _).congr rfl stored
  next missing =>
    rw [if_neg missing] at stored
    refine .taken ?_
    split
    · exact (accounts_tryToAssembleMessage _ _).congr stored.symm rfl
    split
    · exact (accounts_tryToAssembleMessages _).congr stored.symm rfl
    · exact (Accounts.refl AnyOrder _).congr stored.symm rfl

/-- What a stream keeps of its messages when it erases up to a message. -/
def keepAbove (messageId : Mid) (stream : Stream) : Chunks :=
  gather shelved (stream.chunksByMid.filter fun key _ =>
    SeqNumUnwrapper.peekUnwrap 0 stream.midUnwrapper messageId < key)

theorem accounts_eraseTo (messageId : Mid) (stream : Stream) :
    ∃ dropped bytes, Accounts AnyOrder stream.held (stream.keepAbove messageId) dropped bytes [] ∧
      ∃ more, Accounts AnyOrder (stream.keepAbove messageId) (stream.eraseTo messageId).1.held 0
          more (stream.eraseTo messageId).2.2 ∧
        (stream.eraseTo messageId).2.1 = bytes + more := by
  set unwrapped := SeqNumUnwrapper.peekUnwrap 0 stream.midUnwrapper messageId with unwrappedEq
  set erased := stream.chunksByMid.toList.filter fun entry => entry.1 ≤ unwrapped with erasedEq
  have parts : stream.held =
      ((erased.map fun entry => entry.2.toList.map Prod.snd).flatten : List (Int × Data)) +
        stream.keepAbove messageId := by
    have split := gather_eq_flatten_add (fun chunks : ChunkMap => chunks.toList.map Prod.snd)
      stream.chunksByMid fun key => decide (unwrapped < key)
    simp only [← decide_not, not_lt] at split
    exact split
  have dropped := Accounts.dropAll AnyOrder (erased.map fun entry => entry.2.toList.map Prod.snd)
  rw [List.foldl_map] at dropped
  refine ⟨_, _, (dropped.frame _).congr parts (zero_add _).symm, ?_⟩
  by_cases unordered : stream.unordered = true
  · refine ⟨0, ?_⟩
    simp only [eraseTo, unordered]
    exact ⟨Accounts.refl AnyOrder _, (add_zero _).symm⟩
  set kept : Stream := { stream with
    midUnwrapper := ⟨unwrapped, some messageId⟩
    chunksByMid := stream.chunksByMid.filter fun key _ => unwrapped < key
    nextMid := if stream.nextMid ≤ unwrapped then unwrapped + 1 else stream.nextMid } with keptEq
  have step : stream.eraseTo messageId = (kept.tryToAssembleMessages.1,
      erased.foldl (fun sum entry => sum + accumulateSizes (entry.2.toList.map Prod.snd)) 0 +
        kept.tryToAssembleMessages.2.1, kept.tryToAssembleMessages.2.2) :=
    if_neg unordered
  rw [step]
  exact ⟨_, accounts_tryToAssembleMessages kept, rfl⟩

@[simp] theorem held_new (unordered : Bool) (nextMid : Mid) : (new unordered nextMid).held = 0 :=
  gather_empty

@[simp] theorem held_reset (stream : Stream) : stream.reset.held = stream.held :=
  rfl

end Stream

def held (streams : InterleavedReassemblyStreams) : Chunks :=
  gather Stream.held streams.streams

theorem accounts_add (tsn : Int) (data : Data) (streams : InterleavedReassemblyStreams) :
    AccountsAdd.Of AnyOrder held (tsn, data) streams (streams.add tsn data) :=
  (Stream.accounts_add tsn data _).insert streams.streams
    (toLex (data.isUnordered, data.streamId)) (Stream.held_new data.isUnordered 0)

theorem accounts_eraseSkipped (skipped : SkippedStream) (streams : InterleavedReassemblyStreams) :
    ∃ dropped, Accounts.Of AnyOrder held streams dropped (streams.eraseSkipped skipped) := by
  obtain ⟨dropped, bytes, erased, more, assembled, bytesEq⟩ := Stream.accounts_eraseTo
    skipped.messageId (streams.streams[toLex (skipped.unordered, skipped.streamId)]?.getD
      (.new skipped.unordered 0))
  have inner := erased.trans assembled
  rw [← bytesEq] at inner
  exact ⟨_, inner.insert streams.streams _ (Stream.held_new skipped.unordered 0)⟩

theorem accounts_handleForwardTsn (skippedStreams : List SkippedStream)
    (streams : InterleavedReassemblyStreams) :
    ∃ dropped, Accounts.Of AnyOrder held streams dropped
      (streams.handleForwardTsn skippedStreams) :=
  Accounts.forEachSkipped held accounts_eraseSkipped skippedStreams (streams, 0, [])
    (Accounts.refl AnyOrder streams.held)

theorem held_resetStreams (streamIds : List StreamId) (streams : InterleavedReassemblyStreams) :
    (streams.resetStreams streamIds).held = streams.held := by
  unfold held resetStreams
  split
  · exact gather_map_of_eq Stream.held_reset
  next named =>
    clear named
    generalize streams.streams = entries
    induction streamIds generalizing entries with
    | nil => rfl
    | cons streamId rest ih =>
      rw [List.foldl_cons, ih, List.foldl_cons, List.foldl_cons, List.foldl_nil]
      have same : ∀ (entries : ExtTreeMap (Bool ×ₗ StreamId) Stream) (unordered : Bool),
          gather Stream.held (entries.insert (toLex (unordered, streamId))
            (entries[toLex (unordered, streamId)]?.getD (Stream.new unordered 0)).reset) =
          gather Stream.held entries := by
        intro entries unordered
        have put := (Stream.held_reset (entries[toLex (unordered, streamId)]?.getD
          (Stream.new unordered 0))).trans (add_zero _).symm
        rw [gather_put entries _ (Stream.held_new unordered 0) put, add_zero]
      rw [same, same]

/-! ## Skipped messages -/

/--
Every chunk up to a TSN belongs to a message that is skipped: the first entry for
its stream reaches to its message.
-/
def Skips (tsn : Int) (skippedStreams : List SkippedStream)
    (streams : InterleavedReassemblyStreams) : Prop :=
  ∀ entry ∈ streams.streams.toList, ∀ shelf ∈ entry.2.chunksByMid.toList,
    ∀ chunk ∈ shelf.2.toList, chunk.2.1 ≤ tsn →
      ∃ skipped ∈ skippedStreams.find? fun skipped =>
          toLex (skipped.unordered, skipped.streamId) = entry.1,
        shelf.1 ≤ SeqNumUnwrapper.peekUnwrap 0 entry.2.midUnwrapper skipped.messageId

instance (tsn : Int) (skippedStreams : List SkippedStream)
    (streams : InterleavedReassemblyStreams) : Decidable (Skips tsn skippedStreams streams) :=
  inferInstanceAs (Decidable (∀ entry ∈ _, ∀ shelf ∈ _, ∀ chunk ∈ _, _ → ∃ skipped ∈ _, _))

variable {tsn : Int} {skipped : SkippedStream} {rest : List SkippedStream}
  {streams : InterleavedReassemblyStreams}

theorem mem_tsns_of_accounts {Orderly : AssembledMessage → Prop} {before after : Chunks}
    {bytes : BitVec 64} {assembled : List AssembledMessage}
    (accounts : Accounts Orderly before after 0 bytes assembled) {other : Int}
    (member : other ∈ tsnsOf after + tsnsOfMessages assembled) : other ∈ tsnsOf before := by
  rw [accounts.tsns, tsnsOf_zero, add_zero]
  exact member

theorem Stream.mem_held_of_mem_shelf {stream : Stream} {shelf : Int × ChunkMap}
    (found : shelf ∈ stream.chunksByMid.toList) {chunk : Nat × Int × Data}
    (member : chunk ∈ shelf.2.toList) : chunk.2 ∈ stream.held :=
  mem_gather.mpr ⟨shelf.1, shelf.2, mem_toList.mp found, Multiset.mem_map.mpr ⟨chunk, member, rfl⟩⟩

/-- What the first skipped stream leaves of its messages lies above the TSN. -/
theorem Skips.keepAbove (skips : Skips tsn (skipped :: rest) streams) {chunk : Int × Data}
    (member : chunk ∈ ((streams.streams[toLex (skipped.unordered, skipped.streamId)]?.getD
      (.new skipped.unordered 0)).keepAbove skipped.messageId)) : tsn < chunk.1 := by
  obtain ⟨mid, shelf, kept, shelved⟩ := mem_gather.mp member
  obtain ⟨⟨fsn, found⟩, contained, rfl⟩ := Multiset.mem_map.mp shelved
  by_contra notAbove
  cases known : streams.streams[toLex (skipped.unordered, skipped.streamId)]? with
  | none =>
    rw [known, Option.getD_none, Stream.new] at kept
    simp at kept
  | some stream =>
    rw [known, Option.getD_some] at kept
    obtain ⟨present, above⟩ := found_filter_iff.mp kept
    obtain ⟨other, first, reached⟩ := skips (toLex (skipped.unordered, skipped.streamId), stream)
      (mem_toList.mpr known) (mid, shelf)
      (mem_toList.mpr present) (fsn, found) contained
      (not_lt.mp notAbove)
    rw [List.find?_cons_of_pos (by simp), Option.mem_some_iff] at first
    subst first
    exact absurd (of_decide_eq_true above) (not_lt.mpr reached)

theorem Skips.eraseSkipped (skips : Skips tsn (skipped :: rest) streams) :
    Skips tsn rest (streams.eraseSkipped skipped).1 ∧
      ∀ other ∈ tsnsOfMessages (streams.eraseSkipped skipped).2.2, tsn < other := by
  set key := toLex (skipped.unordered, skipped.streamId) with keyEq
  set stream := streams.streams[key]?.getD (.new skipped.unordered 0) with streamEq
  obtain ⟨_, _, _, _, assembled, _⟩ := stream.accounts_eraseTo skipped.messageId
  have above : ∀ other ∈ tsnsOf (stream.eraseTo skipped.messageId).1.held +
      tsnsOfMessages (stream.eraseTo skipped.messageId).2.2, tsn < other := by
    intro other member
    obtain ⟨chunk, kept, rfl⟩ := Multiset.mem_map.mp (mem_tsns_of_accounts assembled member)
    exact skips.keepAbove kept
  constructor
  · intro entry listed shelf found chunk member below
    have lookup := mem_toList.mp listed
    rw [InterleavedReassemblyStreams.eraseSkipped, lookup_insert] at lookup
    split at lookup
    · rw [← Option.some.inj lookup] at found
      have held := Stream.mem_held_of_mem_shelf found member
      have contradicts := above chunk.2.1
        (Multiset.mem_add.mpr (.inl (Multiset.mem_map.mpr ⟨_, held, rfl⟩)))
      omega
    next differs =>
      obtain ⟨other, first, reached⟩ := skips entry
        (mem_toList.mpr lookup) shelf found chunk member below
      rw [List.find?_cons_of_neg (by simpa using differs)] at first
      exact ⟨other, first, reached⟩
  · exact fun other member => above other (Multiset.mem_add.mpr (.inr member))

theorem Skips.forEachSkipped {skippedStreams : List SkippedStream}
    (start : Outcome InterleavedReassemblyStreams) (skips : Skips tsn skippedStreams start.1)
    (above : ∀ other ∈ tsnsOfMessages start.2.2, tsn < other) :
    let outcome := ReassemblyStreams.forEachSkipped InterleavedReassemblyStreams.eraseSkipped
      skippedStreams start
    Skips tsn [] outcome.1 ∧ ∀ other ∈ tsnsOfMessages outcome.2.2, tsn < other := by
  induction skippedStreams generalizing start with
  | nil => exact ⟨skips, above⟩
  | cons skipped rest ih =>
    obtain ⟨restSkips, assembledAbove⟩ := skips.eraseSkipped
    refine ih _ restSkips fun other member => ?_
    rw [tsnsOfMessages_append, Multiset.mem_add] at member
    exact member.elim (above other) (assembledAbove other)

/-- Where all chunks up to a TSN are skipped, only chunks above it are left. -/
theorem Skips.handleForwardTsn {skippedStreams : List SkippedStream}
    (skips : Skips tsn skippedStreams streams) :
    ∀ other ∈ tsnsOf (streams.handleForwardTsn skippedStreams).1.held +
      tsnsOfMessages (streams.handleForwardTsn skippedStreams).2.2, tsn < other := by
  obtain ⟨none, above⟩ := Skips.forEachSkipped (streams, 0, []) skips
    fun other member => absurd member (Multiset.notMem_zero other)
  intro other member
  rcases Multiset.mem_add.mp member with held | assembled
  · obtain ⟨chunk, contained, rfl⟩ := Multiset.mem_map.mp held
    obtain ⟨key, stream, known, inStream⟩ := mem_gather.mp contained
    obtain ⟨mid, shelf, found, shelved⟩ := mem_gather.mp inStream
    obtain ⟨entry, listed, rfl⟩ := Multiset.mem_map.mp shelved
    by_contra notAbove
    obtain ⟨skipped, first, _⟩ := none (key, stream)
      (mem_toList.mpr known) (mid, shelf)
      (mem_toList.mpr found) entry listed (not_lt.mp notAbove)
    cases first
  · exact above other assembled

end InterleavedReassemblyStreams

end MaeRtc.DcSctp
