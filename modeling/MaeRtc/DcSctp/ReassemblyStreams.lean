import MaeRtc.Base.OrderedMap
import MaeRtc.DcSctp.Data

/-!
# Reassembly of streams

The two implementations of `ReassemblyStreams`.  `TraditionalReassemblyStreams`
finds the fragments of a message by their consecutive TSNs, and orders the
messages of a stream by their stream sequence numbers.
`InterleavedReassemblyStreams` finds the fragments by message identifier and
fragment sequence number.  An iterator is the key it stands at.  The callback for
an assembled message does not touch the streams, so an operation returns the
messages it assembles, in the order of the calls.
-/

namespace MaeRtc.DcSctp

open MaeRtc.Base
open Std (ExtTreeMap)

namespace ReassemblyStreams

/-- What the callback for an assembled message gets. -/
structure AssembledMessage where
  tsns : List Int
  message : DcSctpMessage
  deriving DecidableEq

/-- A stream of which a FORWARD-TSN or I-FORWARD-TSN skips messages. -/
structure SkippedStream where
  streamId : StreamId
  ssn : Ssn := 0
  unordered : Bool := false
  messageId : Mid := 0
  deriving DecidableEq

/--
The sum of the sizes, as the type of its initial value `0` holds it: an `int`,
widened to a `size_t` in the end.
-/
def accumulateSizes (chunks : List (Int × Data)) : BitVec 64 :=
  (chunks.foldl (fun (sum : BitVec 32) entry => sum + BitVec.ofNat 32 entry.2.size) 0).signExtend 64

/--
The message of a range of chunks, and the number of its bytes.  The callers pass
a range that is not empty; a single chunk takes a path of its own.
-/
def assembleMessage : List (Int × Data) → BitVec 64 × Option AssembledMessage
  | [] => (0, none)
  | [(tsn, data)] =>
    (BitVec.ofNat 64 data.size, some
      { tsns := [tsn]
        message := { streamId := data.streamId, ppid := data.ppid, payload := data.payload } })
  | (tsn, data) :: next :: rest =>
    let chunks := (tsn, data) :: next :: rest
    (accumulateSizes chunks, some
      { tsns := chunks.map Prod.fst
        message :=
          { streamId := data.streamId
            ppid := data.ppid
            payload := chunks.flatMap fun entry => entry.2.payload } })

/-- What an operation on a stream returns: the stream, bytes, and assembled messages. -/
abbrev Outcome (Stream : Type) := Stream × BitVec 64 × List AssembledMessage

/--
The loop of `TryToAssembleMessages`: messages are assembled until an attempt
yields no bytes.
-/
def assembleWhile {Stream : Type} (tryToAssemble : Stream → Outcome Stream) :
    Nat → Stream → Outcome Stream
  | 0, stream => (stream, 0, [])
  | fuel + 1, stream =>
    let (stream, bytes, assembled) := tryToAssemble stream
    if bytes = 0 then (stream, 0, assembled)
    else
      let (stream, moreBytes, more) := assembleWhile tryToAssemble fuel stream
      (stream, bytes + moreBytes, assembled ++ more)

/-- The loop over the skipped streams of a FORWARD-TSN. -/
def forEachSkipped {Streams : Type} (erase : SkippedStream → Streams → Outcome Streams)
    (skippedStreams : List SkippedStream) (start : Outcome Streams) : Outcome Streams :=
  skippedStreams.foldl
    (fun (streams, bytes, assembled) skipped =>
      let (streams, moreBytes, more) := erase skipped streams
      (streams, bytes + moreBytes, assembled ++ more))
    start

end ReassemblyStreams

open ReassemblyStreams

/-! ## Traditional streams -/

namespace TraditionalReassemblyStreams

abbrev ChunkMap := ExtTreeMap Int Data

/--
The walk from a chunk to the chunks before it, nearest first, until one begins a
message.  A gap ends the walk.
-/
def findBeginning : Int × Data → List (Int × Data) → Option Int
  | (tsn, data), before =>
    if data.isBeginning then some tsn
    else match before with
      | [] => none
      | previous :: before =>
        if previous.1 + 1 ≠ tsn then none else findBeginning previous before

/-- The walk to the chunks behind a chunk, until one ends a message. -/
def findEnd : Int × Data → List (Int × Data) → Option Int
  | (tsn, data), after =>
    if data.isEnd then some tsn
    else match after with
      | [] => none
      | next :: after => if next.1 ≠ tsn + 1 then none else findEnd next after

namespace UnorderedStream

/-- Assembles the message of a chunk, if all of its chunks are there. -/
def tryToAssembleMessage (tsn : Int) (data : Data) (chunks : ChunkMap) : Outcome ChunkMap :=
  let before := (chunks.toList.filter fun entry => entry.1 < tsn).reverse
  let after := chunks.toList.filter fun entry => tsn < entry.1
  match findBeginning (tsn, data) before, findEnd (tsn, data) after with
  | some start, some last =>
    let (bytes, message) := assembleMessage
      (chunks.toList.filter fun entry => start ≤ entry.1 ∧ entry.1 ≤ last)
    (chunks.filter fun key _ => ¬ (start ≤ key ∧ key ≤ last), bytes, message.toList)
  | _, _ => (chunks, 0, [])

/-- The bytes are those the chunk adds to the queue, as an `int`. -/
def add (tsn : Int) (data : Data) (chunks : ChunkMap) :
    ChunkMap × BitVec 32 × List AssembledMessage :=
  if tsn ∈ chunks then (chunks, 0, [])
  else
    let (chunks, bytes, assembled) := tryToAssembleMessage tsn data (chunks.insert tsn data)
    (chunks, BitVec.ofNat 32 data.size - bytes.setWidth 32, assembled)

/-- Erases the chunks up to a TSN, and returns the number of their bytes. -/
def eraseTo (tsn : Int) (chunks : ChunkMap) : ChunkMap × BitVec 64 :=
  (chunks.filter fun key _ => tsn < key,
    accumulateSizes (chunks.toList.filter fun entry => entry.1 ≤ tsn))

end UnorderedStream

structure OrderedStream where
  chunksBySsn : ExtTreeMap Int ChunkMap := ∅
  ssnUnwrapper : SeqNumUnwrapper 16
  nextSsn : Int

namespace OrderedStream

def new (nextSsn : Ssn) : OrderedStream :=
  let (next, unwrapper) := SeqNumUnwrapper.unwrap 0 {} nextSsn
  { ssnUnwrapper := unwrapper, nextSsn := next }

/-- Assembles the first message, if it is the next one and all of its chunks are there. -/
def tryToAssembleMessage (stream : OrderedStream) : Outcome OrderedStream :=
  match stream.chunksBySsn.toList with
  | [] => (stream, 0, [])
  | (ssn, chunks) :: _ =>
    if ssn ≠ stream.nextSsn then (stream, 0, [])
    else match chunks.toList.head?, chunks.toList.getLast? with
      | some first, some last =>
        if !first.2.isBeginning || !last.2.isEnd then (stream, 0, [])
        else if (Unwrapped.difference 32 last.1 first.1).toNat ≠ chunks.size - 1 then
          (stream, 0, [])
        else
          let (bytes, message) := assembleMessage chunks.toList
          ({ stream with
              chunksBySsn := stream.chunksBySsn.erase ssn
              nextSsn := stream.nextSsn + 1 }, bytes, message.toList)
      | _, _ => (stream, 0, [])

/-- Every assembled message leaves the map, so its size bounds the attempts. -/
def tryToAssembleMessages (stream : OrderedStream) : Outcome OrderedStream :=
  assembleWhile tryToAssembleMessage (stream.chunksBySsn.size + 1) stream

def add (tsn : Int) (data : Data) (stream : OrderedStream) :
    OrderedStream × BitVec 32 × List AssembledMessage :=
  let (ssn, unwrapper) := SeqNumUnwrapper.unwrap 0 stream.ssnUnwrapper data.ssn
  let chunks := stream.chunksBySsn[ssn]?.getD ∅
  let stream := { stream with
    ssnUnwrapper := unwrapper
    chunksBySsn := stream.chunksBySsn.insert ssn (chunks.insertIfNew tsn data) }
  if tsn ∈ chunks then (stream, 0, [])
  else if ssn = stream.nextSsn then
    let (stream, bytes, assembled) := stream.tryToAssembleMessages
    (stream, BitVec.ofNat 32 data.size - bytes.setWidth 32, assembled)
  else (stream, BitVec.ofNat 32 data.size, [])

/--
Erases the messages up to a stream sequence number.  The sizes are summed in an
`int`, for each message and over all of them.  Messages behind may follow now.
-/
def eraseTo (ssn : Ssn) (stream : OrderedStream) : Outcome OrderedStream :=
  let (unwrapped, unwrapper) := SeqNumUnwrapper.unwrap 0 stream.ssnUnwrapper ssn
  let erased := stream.chunksBySsn.toList.filter fun entry => entry.1 ≤ unwrapped
  let removedBytes : BitVec 32 := erased.foldl
    (fun sum entry => sum + (accumulateSizes entry.2.toList).setWidth 32) 0
  let (stream, bytes, assembled) := tryToAssembleMessages { stream with
    chunksBySsn := stream.chunksBySsn.filter fun key _ => unwrapped < key
    ssnUnwrapper := unwrapper
    nextSsn := if stream.nextSsn ≤ unwrapped then unwrapped + 1 else stream.nextSsn }
  (stream, removedBytes.signExtend 64 + bytes, assembled)

def reset (stream : OrderedStream) : OrderedStream :=
  let (next, unwrapper) := SeqNumUnwrapper.unwrap 0 {} 0
  { stream with ssnUnwrapper := unwrapper, nextSsn := next }

end OrderedStream

end TraditionalReassemblyStreams

open TraditionalReassemblyStreams in
structure TraditionalReassemblyStreams where
  unorderedStreams : ExtTreeMap StreamId ChunkMap := ∅
  orderedStreams : ExtTreeMap StreamId OrderedStream := ∅

namespace TraditionalReassemblyStreams

def add (tsn : Int) (data : Data) (streams : TraditionalReassemblyStreams) :
    TraditionalReassemblyStreams × BitVec 32 × List AssembledMessage :=
  if data.isUnordered then
    let (stream, bytes, assembled) :=
      UnorderedStream.add tsn data (streams.unorderedStreams[data.streamId]?.getD ∅)
    ({ streams with unorderedStreams := streams.unorderedStreams.insert data.streamId stream },
      bytes, assembled)
  else
    let (stream, bytes, assembled) :=
      (streams.orderedStreams[data.streamId]?.getD (.new 0)).add tsn data
    ({ streams with orderedStreams := streams.orderedStreams.insert data.streamId stream },
      bytes, assembled)

/-- All unordered streams are erased up to the TSN; the skipped streams are the ordered ones. -/
def eraseUnordered (newCumulativeAckTsn : Int) (streams : TraditionalReassemblyStreams) :
    TraditionalReassemblyStreams × BitVec 64 :=
  ({ streams with
      unorderedStreams := streams.unorderedStreams.map fun _ chunks =>
        (UnorderedStream.eraseTo newCumulativeAckTsn chunks).1 },
    streams.unorderedStreams.toList.foldl
      (fun bytes entry => bytes + (UnorderedStream.eraseTo newCumulativeAckTsn entry.2).2) 0)

def eraseOrdered (skipped : SkippedStream) (streams : TraditionalReassemblyStreams) :
    Outcome TraditionalReassemblyStreams :=
  let (stream, bytes, assembled) :=
    (streams.orderedStreams[skipped.streamId]?.getD (.new 0)).eraseTo skipped.ssn
  ({ streams with orderedStreams := streams.orderedStreams.insert skipped.streamId stream },
    bytes, assembled)

def handleForwardTsn (newCumulativeAckTsn : Int) (skippedStreams : List SkippedStream)
    (streams : TraditionalReassemblyStreams) : Outcome TraditionalReassemblyStreams :=
  let (streams, bytes) := streams.eraseUnordered newCumulativeAckTsn
  forEachSkipped eraseOrdered skippedStreams (streams, bytes, [])

/-- No stream stands for all of them; streams that do not exist are left out. -/
def resetStreams (streamIds : List StreamId) (streams : TraditionalReassemblyStreams) :
    TraditionalReassemblyStreams :=
  { streams with
    orderedStreams :=
      if streamIds.isEmpty then streams.orderedStreams.map fun _ stream => stream.reset
      else streamIds.foldl (fun ordered streamId => ordered.modify streamId OrderedStream.reset)
        streams.orderedStreams }

end TraditionalReassemblyStreams

/-! ## Interleaved streams -/

namespace InterleavedReassemblyStreams

/-- The fragment sequence numbers are compared as plain numbers. -/
abbrev ChunkMap := ExtTreeMap Nat (Int × Data)

structure Stream where
  unordered : Bool
  chunksByMid : ExtTreeMap Int ChunkMap := ∅
  midUnwrapper : SeqNumUnwrapper 32
  nextMid : Int

namespace Stream

def new (unordered : Bool) (nextMid : Mid) : Stream :=
  let (next, unwrapper) := SeqNumUnwrapper.unwrap 0 {} nextMid
  { unordered := unordered, midUnwrapper := unwrapper, nextMid := next }

/-- Assembles the message of an identifier, if all of its chunks are there. -/
def tryToAssembleMessage (mid : Int) (stream : Stream) : Outcome Stream :=
  match stream.chunksByMid[mid]? with
  | none => (stream, 0, [])
  | some chunks =>
    match chunks.toList.head?, chunks.toList.getLast? with
    | some first, some last =>
      if !first.2.2.isBeginning || !last.2.2.isEnd then (stream, 0, [])
      else if (last.1 : Int) - first.1 ≠ (chunks.size : Int) - 1 then (stream, 0, [])
      else
        let (bytes, message) := assembleMessage (chunks.toList.map Prod.snd)
        ({ stream with chunksByMid := stream.chunksByMid.erase mid }, bytes, message.toList)
    | _, _ => (stream, 0, [])

/-- One round of the loop of `TryToAssembleMessages`. -/
def tryToAssembleNext (stream : Stream) : Outcome Stream :=
  let (stream, bytes, assembled) := stream.tryToAssembleMessage stream.nextMid
  if bytes = 0 then (stream, 0, assembled)
  else ({ stream with nextMid := stream.nextMid + 1 }, bytes, assembled)

/-- Every assembled message leaves the map, so its size bounds the attempts. -/
def tryToAssembleMessages (stream : Stream) : Outcome Stream :=
  assembleWhile tryToAssembleNext (stream.chunksByMid.size + 1) stream

def add (tsn : Int) (data : Data) (stream : Stream) :
    Stream × BitVec 32 × List AssembledMessage :=
  let (mid, unwrapper) := SeqNumUnwrapper.unwrap 0 stream.midUnwrapper data.messageId
  let chunks := stream.chunksByMid[mid]?.getD ∅
  let stream := { stream with
    midUnwrapper := unwrapper
    chunksByMid := stream.chunksByMid.insert mid
      (chunks.insertIfNew data.fsn.toNat (tsn, data)) }
  if data.fsn.toNat ∈ chunks then (stream, 0, [])
  else
    let (stream, bytes, assembled) :=
      if stream.unordered then stream.tryToAssembleMessage mid
      else if mid = stream.nextMid then stream.tryToAssembleMessages
      else (stream, 0, [])
    (stream, BitVec.ofNat 32 data.size - bytes.setWidth 32, assembled)

/--
Erases the messages up to a message identifier.  In an ordered stream, messages
behind may follow now.
-/
def eraseTo (messageId : Mid) (stream : Stream) : Outcome Stream :=
  let (unwrapped, unwrapper) := SeqNumUnwrapper.unwrap 0 stream.midUnwrapper messageId
  let erased := stream.chunksByMid.toList.filter fun entry => entry.1 ≤ unwrapped
  let removedBytes : BitVec 64 := erased.foldl
    (fun sum entry => sum + accumulateSizes (entry.2.toList.map Prod.snd)) 0
  let stream := { stream with
    midUnwrapper := unwrapper
    chunksByMid := stream.chunksByMid.filter fun key _ => unwrapped < key }
  if stream.unordered then (stream, removedBytes, [])
  else
    let (stream, bytes, assembled) := tryToAssembleMessages { stream with
      nextMid := if stream.nextMid ≤ unwrapped then unwrapped + 1 else stream.nextMid }
    (stream, removedBytes + bytes, assembled)

def reset (stream : Stream) : Stream :=
  let (next, unwrapper) := SeqNumUnwrapper.unwrap 0 {} 0
  { stream with midUnwrapper := unwrapper, nextMid := next }

end Stream

end InterleavedReassemblyStreams

open InterleavedReassemblyStreams in
/-- The streams of `std::map<FullStreamId, Stream>`, unordered flag first. -/
structure InterleavedReassemblyStreams where
  streams : ExtTreeMap (Bool ×ₗ StreamId) Stream := ∅

namespace InterleavedReassemblyStreams

def add (tsn : Int) (data : Data) (streams : InterleavedReassemblyStreams) :
    InterleavedReassemblyStreams × BitVec 32 × List AssembledMessage :=
  let key := toLex (data.isUnordered, data.streamId)
  let (stream, bytes, assembled) :=
    (streams.streams[key]?.getD (.new data.isUnordered 0)).add tsn data
  ({ streams with streams := streams.streams.insert key stream }, bytes, assembled)

def eraseSkipped (skipped : SkippedStream) (streams : InterleavedReassemblyStreams) :
    Outcome InterleavedReassemblyStreams :=
  let key := toLex (skipped.unordered, skipped.streamId)
  let (stream, bytes, assembled) :=
    (streams.streams[key]?.getD (.new skipped.unordered 0)).eraseTo skipped.messageId
  ({ streams with streams := streams.streams.insert key stream }, bytes, assembled)

/-- The new cumulative TSN is not used. -/
def handleForwardTsn (skippedStreams : List SkippedStream)
    (streams : InterleavedReassemblyStreams) : Outcome InterleavedReassemblyStreams :=
  forEachSkipped eraseSkipped skippedStreams (streams, 0, [])

/-- No stream stands for all of them; streams that do not exist are created. -/
def resetStreams (streamIds : List StreamId) (streams : InterleavedReassemblyStreams) :
    InterleavedReassemblyStreams :=
  { streams with
    streams :=
      if streamIds.isEmpty then streams.streams.map fun _ stream => stream.reset
      else streamIds.foldl
        (fun streams streamId => [true, false].foldl
          (fun streams unordered => streams.insert (toLex (unordered, streamId))
            (streams[toLex (unordered, streamId)]?.getD (.new unordered 0)).reset) streams)
        streams.streams }

end InterleavedReassemblyStreams

namespace ReassemblyStreams

/-- Both paths of `AssembleMessage` make the same message. -/
theorem assembleMessage_snd (first : Int × Data) (rest : List (Int × Data)) :
    (assembleMessage (first :: rest)).2 = some
      { tsns := (first :: rest).map Prod.fst
        message :=
          { streamId := first.2.streamId
            ppid := first.2.ppid
            payload := (first :: rest).flatMap fun entry => entry.2.payload } } := by
  cases rest with
  | nil => simp [assembleMessage]
  | cons next rest => rfl

theorem accumulateSizes_eq (chunks : List (Int × Data)) :
    accumulateSizes chunks =
      (BitVec.ofNat 32 (chunks.flatMap fun entry => entry.2.payload).length).signExtend 64 := by
  have fold : ∀ (chunks : List (Int × Data)) (sum : BitVec 32),
      chunks.foldl (fun (sum : BitVec 32) entry => sum + BitVec.ofNat 32 entry.2.size) sum =
        sum + BitVec.ofNat 32 (chunks.flatMap fun entry => entry.2.payload).length := by
    intro chunks
    induction chunks with
    | nil => simp
    | cons first rest ih =>
      intro sum
      rw [List.foldl_cons, ih, List.flatMap_cons, List.length_append, BitVec.ofNat_add,
        BitVec.add_assoc]
      rfl
  rw [accumulateSizes, fold]
  exact congrArg (BitVec.signExtend 64) (BitVec.zero_add _)

end ReassemblyStreams

end MaeRtc.DcSctp
