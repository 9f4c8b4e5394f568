import MaeRtc.Base.OrderedMap

/-!
# The prioritized packet queue of the pacer

`PrioritizedPacketQueue` of `prioritized_packet_queue.cc`.  Times and time
differences are microseconds.  A pointer to a stream queue names the object it
was taken from, so that a pointer to a queue that was culled is told apart from
one to a later queue of the same SSRC; an iterator into the list of enqueue times
is the number of the list node.  Each assertion of the source, and each access
that is only defined for a live object, is a `Violation` when it fails.
-/

namespace MaeRtc.Pacing

open Base Std

/-- Synchronisation source of an RTP stream. -/
abbrev Ssrc := UInt32

inductive RtpPacketMediaType where
  | audio
  | video
  | retransmission
  | forwardErrorCorrection
  | padding
  deriving DecidableEq, Repr

abbrev kNumPriorityLevels : Nat := 4

abbrev PrioLevel := Fin kNumPriorityLevels

def kAudioPrioLevel : PrioLevel := 0

/-- Lower number takes priority over higher. -/
def getPriorityForType : RtpPacketMediaType → PrioLevel
  | .audio => kAudioPrioLevel
  | .retransmission => kAudioPrioLevel + 1
  | .video | .forwardErrorCorrection => kAudioPrioLevel + 2
  | .padding => kAudioPrioLevel + 3

/-- What the queue reads of a packet, and the statistic that it writes. -/
structure RtpPacketToSend where
  ssrc : Ssrc
  packetType : Option RtpPacketMediaType
  isKeyFrame : Bool := false
  payloadSize : Nat := 0
  paddingSize : Nat := 0
  timeInSendQueue : Option Int := none
  deriving DecidableEq, Repr

structure QueuedPacket where
  packet : RtpPacketToSend
  enqueueTime : Int
  enqueueTimeIterator : Nat
  deriving DecidableEq, Repr

def QueuedPacket.packetSize (queued : QueuedPacket) : Int :=
  queued.packet.payloadSize + queued.packet.paddingSize

inductive Violation where
  /-- `packet_type().has_value()` -/
  | packetType
  /-- `now >= last_update_time_` -/
  | updateTime
  /-- `top_active_prio_level_ >= 0` -/
  | topActivePrioLevel
  /-- `front()` of a round-robin table that is empty -/
  | emptyTable
  /-- a pointer to a stream queue that no longer exists -/
  | streamPointer
  /-- `!packets_[priority_level].empty()` -/
  | emptyLevel
  /-- `num_keyframe_packets_ > 0` -/
  | keyframePackets
  /-- `size_packets_per_media_type_[..] >= 0` -/
  | packetsPerMediaType
  /-- `size_packets_ > 0 || queue_time_sum_ == TimeDelta::Zero()` -/
  | queueTimeSum
  /-- `packet.enqueue_time_iterator != enqueue_times_.end()` -/
  | enqueueTimeIterator
  /-- `streams_by_prio_[i].front() == &queue` -/
  | registeredQueue
  deriving DecidableEq, Repr

/-! ## Stream queues -/

/-- The queue of one stream; `serial` is the identity of the object. -/
structure StreamQueue where
  serial : Nat
  packets : PrioLevel → List QueuedPacket := fun _ => []
  lastEnqueueTime : Int
  numKeyframePackets : Int := 0

namespace StreamQueue

/-- The result says whether the level was empty. -/
def enqueuePacket (queue : StreamQueue) (packet : QueuedPacket) (priorityLevel : PrioLevel) :
    Bool × StreamQueue :=
  let firstPacketAtLevel := (queue.packets priorityLevel).isEmpty
  (firstPacketAtLevel, { queue with
    packets := Function.update queue.packets priorityLevel
      (queue.packets priorityLevel ++ [packet])
    numKeyframePackets :=
      if packet.packet.isKeyFrame then queue.numKeyframePackets + 1
      else queue.numKeyframePackets })

def dequeuePacket (queue : StreamQueue) (priorityLevel : PrioLevel) :
    Except Violation (QueuedPacket × StreamQueue) :=
  match queue.packets priorityLevel with
  | [] => .error .emptyLevel
  | packet :: rest =>
    let queue := { queue with packets := Function.update queue.packets priorityLevel rest }
    if packet.packet.isKeyFrame then do
      check (0 < queue.numKeyframePackets) .keyframePackets
      .ok (packet, { queue with numKeyframePackets := queue.numKeyframePackets - 1 })
    else .ok (packet, queue)

def hasPacketsAtPrio (queue : StreamQueue) (priorityLevel : PrioLevel) : Bool :=
  !(queue.packets priorityLevel).isEmpty

def isEmpty (queue : StreamQueue) : Bool :=
  (List.finRange kNumPriorityLevels).all fun level => (queue.packets level).isEmpty

/-- All packets by level, and the emptied queue. -/
def dequeueAll (queue : StreamQueue) : (PrioLevel → List QueuedPacket) × StreamQueue :=
  (queue.packets, { queue with packets := fun _ => [], numKeyframePackets := 0 })

end StreamQueue

/-- A pointer to a stream queue. -/
structure StreamPointer where
  ssrc : Ssrc
  serial : Nat
  deriving DecidableEq, Repr

/-! ## The queue -/

/-- `topActivePrioLevel` is `none` where the source has -1. -/
structure PrioritizedPacketQueue where
  queueTimeSum : Int := 0
  pauseTimeSum : Int := 0
  sizePackets : Int := 0
  sizePacketsPerMediaType : RtpPacketMediaType → Int := fun _ => 0
  sizePayload : Int := 0
  lastUpdateTime : Int
  paused : Bool := false
  lastCullingTime : Int
  streams : ExtTreeMap Ssrc StreamQueue := ∅
  streamsByPrio : PrioLevel → List StreamPointer := fun _ => []
  topActivePrioLevel : Option PrioLevel := none
  enqueueTimes : List (Nat × Int) := []
  /-- the next node of the list of enqueue times, and the next stream queue -/
  nextIterator : Nat := 0
  nextSerial : Nat := 0

namespace PrioritizedPacketQueue

def new (creationTime : Int) : PrioritizedPacketQueue where
  lastUpdateTime := creationTime
  lastCullingTime := creationTime

/-- The stream queue behind a pointer. -/
def dereference (queue : PrioritizedPacketQueue) (pointer : StreamPointer) :
    Except Violation StreamQueue :=
  match queue.streams[pointer.ssrc]? with
  | some stream => if stream.serial = pointer.serial then .ok stream else .error .streamPointer
  | none => .error .streamPointer

def updateAverageQueueTime (now : Int) (queue : PrioritizedPacketQueue) :
    Except Violation PrioritizedPacketQueue := do
  check (queue.lastUpdateTime ≤ now) .updateTime
  if now = queue.lastUpdateTime then .ok queue
  else
    let delta := now - queue.lastUpdateTime
    if queue.paused then
      .ok { queue with pauseTimeSum := queue.pauseTimeSum + delta, lastUpdateTime := now }
    else
      .ok { queue with
        queueTimeSum := queue.queueTimeSum + delta * queue.sizePackets
        lastUpdateTime := now }

def setPauseState (paused : Bool) (now : Int) (queue : PrioritizedPacketQueue) :
    Except Violation PrioritizedPacketQueue := do
  let queue ← queue.updateAverageQueueTime now
  .ok { queue with paused := paused }

/-- The lowest level whose round-robin table is not empty. -/
def firstActive (streamsByPrio : PrioLevel → List StreamPointer) : Option PrioLevel :=
  (List.finRange kNumPriorityLevels).find? fun level => !(streamsByPrio level).isEmpty

def maybeUpdateTopPrioLevel (queue : PrioritizedPacketQueue) :
    Except Violation PrioritizedPacketQueue :=
  match queue.topActivePrioLevel with
  | none => .error .topActivePrioLevel
  | some top =>
    if (queue.streamsByPrio top).isEmpty then
      if queue.sizePackets = 0 then .ok { queue with topActivePrioLevel := none }
      else match firstActive queue.streamsByPrio with
        | some level => .ok { queue with topActivePrioLevel := some level }
        | none => .ok queue
    else .ok queue

/-- Takes a packet out of the totals; the packet that is returned knows its time. -/
def dequeuePacketInternal (queued : QueuedPacket) (queue : PrioritizedPacketQueue) :
    Except Violation (QueuedPacket × PrioritizedPacketQueue) :=
  match queued.packet.packetType with
  | none => .error .packetType
  | some packetType => do
    let sizePackets := queue.sizePackets - 1
    let sizePacketsPerMediaType := Function.update queue.sizePacketsPerMediaType packetType
      (queue.sizePacketsPerMediaType packetType - 1)
    check (0 ≤ sizePacketsPerMediaType packetType) .packetsPerMediaType
    let timeInNonPausedState := queue.lastUpdateTime - queued.enqueueTime - queue.pauseTimeSum
    let queueTimeSum := queue.queueTimeSum - timeInNonPausedState
    check (0 < sizePackets ∨ queueTimeSum = 0) .queueTimeSum
    check (queue.enqueueTimes.any fun node => node.1 = queued.enqueueTimeIterator)
      .enqueueTimeIterator
    .ok ({ queued with packet.timeInSendQueue := some timeInNonPausedState }, { queue with
      sizePackets := sizePackets
      sizePacketsPerMediaType := sizePacketsPerMediaType
      sizePayload := queue.sizePayload - queued.packetSize
      queueTimeSum := queueTimeSum
      enqueueTimes := queue.enqueueTimes.filter
        fun node => node.1 ≠ queued.enqueueTimeIterator })

/-! ### Push -/

/-- `streams_.emplace`: the stream queue of an SSRC, which may be a new one. -/
def emplace (ssrc : Ssrc) (enqueueTime : Int) (queue : PrioritizedPacketQueue) :
    StreamQueue × PrioritizedPacketQueue :=
  match queue.streams[ssrc]? with
  | some stream => (stream, queue)
  | none =>
    let stream : StreamQueue := { serial := queue.nextSerial, lastEnqueueTime := enqueueTime }
    (stream, { queue with
      streams := queue.streams.insert ssrc stream
      nextSerial := queue.nextSerial + 1 })

def kTimeout : Int := 500000

/-- Drops the stream queues that have been empty for long, every now and then. -/
def cull (enqueueTime : Int) (queue : PrioritizedPacketQueue) : PrioritizedPacketQueue :=
  if kTimeout < enqueueTime - queue.lastCullingTime then
    { queue with
      streams := queue.streams.filter fun _ stream =>
        !(stream.isEmpty && stream.lastEnqueueTime + kTimeout < enqueueTime)
      lastCullingTime := enqueueTime }
  else queue

/-- Stores a packet in its stream queue, and registers the stream at its level. -/
def enqueue (pointer : StreamPointer) (stream : StreamQueue) (queued : QueuedPacket)
    (packetType : RtpPacketMediaType) (queue : PrioritizedPacketQueue) : PrioritizedPacketQueue :=
  let prioLevel := getPriorityForType packetType
  let (firstPacketAtLevel, stream) := stream.enqueuePacket queued prioLevel
  { queue with
    sizePackets := queue.sizePackets + 1
    sizePacketsPerMediaType := Function.update queue.sizePacketsPerMediaType packetType
      (queue.sizePacketsPerMediaType packetType + 1)
    sizePayload := queue.sizePayload + queued.packetSize
    streams := queue.streams.insert pointer.ssrc stream
    streamsByPrio :=
      if firstPacketAtLevel then
        Function.update queue.streamsByPrio prioLevel (queue.streamsByPrio prioLevel ++ [pointer])
      else queue.streamsByPrio
    topActivePrioLevel := match queue.topActivePrioLevel with
      | none => some prioLevel
      | some top => if prioLevel < top then some prioLevel else some top }

def push (enqueueTime : Int) (packet : RtpPacketToSend) (queue : PrioritizedPacketQueue) :
    Except Violation PrioritizedPacketQueue :=
  let (stream, queue) := queue.emplace packet.ssrc enqueueTime
  let iterator := queue.nextIterator
  let queue := { queue with
    enqueueTimes := queue.enqueueTimes ++ [(iterator, enqueueTime)]
    nextIterator := iterator + 1 }
  match packet.packetType with
  | none => .error .packetType
  | some packetType => do
    let queue ← queue.updateAverageQueueTime enqueueTime
    let queued : QueuedPacket :=
      { packet := packet
        enqueueTime := enqueueTime - queue.pauseTimeSum
        enqueueTimeIterator := iterator }
    .ok ((queue.enqueue ⟨packet.ssrc, stream.serial⟩ stream queued packetType).cull enqueueTime)

/-! ### Pop -/

def pop (queue : PrioritizedPacketQueue) :
    Except Violation (Option QueuedPacket × PrioritizedPacketQueue) :=
  if queue.sizePackets = 0 then .ok (none, queue)
  else match queue.topActivePrioLevel with
    | none => .error .topActivePrioLevel
    | some top => match queue.streamsByPrio top with
      | [] => .error .emptyTable
      | pointer :: others => do
        let stream ← queue.dereference pointer
        let (packet, stream) ← stream.dequeuePacket top
        let (packet, queue) ← queue.dequeuePacketInternal packet
        let queue := { queue with streams := queue.streams.insert pointer.ssrc stream }
        if stream.hasPacketsAtPrio top then
          .ok (some packet, { queue with
            streamsByPrio := Function.update queue.streamsByPrio top (others ++ [pointer]) })
        else
          let queue ← { queue with
            streamsByPrio := Function.update queue.streamsByPrio top others
            : PrioritizedPacketQueue }.maybeUpdateTopPrioLevel
          .ok (some packet, queue)

/-! ### RemovePacketsForSsrc -/

/-- The loop that takes the packets of one level out of the totals. -/
def dequeueEach (packets : List QueuedPacket) (queue : PrioritizedPacketQueue) :
    Except Violation PrioritizedPacketQueue :=
  match packets with
  | [] => .ok queue
  | packet :: rest => do
    let (_, queue) ← queue.dequeuePacketInternal packet
    queue.dequeueEach rest

/-- Takes a stream queue out of the round-robin table of a level. -/
def deregister (pointer : StreamPointer) (level : PrioLevel) (queue : PrioritizedPacketQueue) :
    Except Violation PrioritizedPacketQueue :=
  match queue.streamsByPrio level with
  | [] => .error .emptyTable
  | [only] => do
    check (only = pointer) .registeredQueue
    let queue := { queue with streamsByPrio := Function.update queue.streamsByPrio level [] }
    if queue.topActivePrioLevel = some level then queue.maybeUpdateTopPrioLevel
    else .ok queue
  | several => .ok { queue with
      streamsByPrio := Function.update queue.streamsByPrio level
        (several.filter fun other => other ≠ pointer) }

def removeLevel (pointer : StreamPointer) (packetsByPrio : PrioLevel → List QueuedPacket)
    (queue : PrioritizedPacketQueue) (level : PrioLevel) :
    Except Violation PrioritizedPacketQueue :=
  if (packetsByPrio level).isEmpty then .ok queue
  else do
    let queue ← queue.dequeueEach (packetsByPrio level)
    queue.deregister pointer level

def removePacketsForSsrc (ssrc : Ssrc) (queue : PrioritizedPacketQueue) :
    Except Violation PrioritizedPacketQueue :=
  match queue.streams[ssrc]? with
  | none => .ok queue
  | some stream =>
    let (packetsByPrio, stream) := stream.dequeueAll
    let queue := { queue with streams := queue.streams.insert ssrc stream }
    (List.finRange kNumPriorityLevels).foldlM (removeLevel ⟨ssrc, stream.serial⟩ packetsByPrio)
      queue

end PrioritizedPacketQueue

end MaeRtc.Pacing
