import MaeRtc.Base.Machine
import MaeRtc.Base.Contents
import MaeRtc.Pacing.PacketTotals

/-!
# The redundant summaries of the packet queue agree

The streams hold the waiting packets in order, the round-robin tables list the
streams that hold some, and the counters are their totals; every operation keeps
this, and on the way no assertion of the source fails.
-/

namespace MaeRtc.Pacing.PrioritizedPacketQueue

open Base Std

variable {queue : PrioritizedPacketQueue} {waiting : List Ticket}

structure Sound (queue : PrioritizedPacketQueue) (waiting : List Ticket) : Prop
    extends Totals queue waiting, Tables queue waiting where
  mirrors : ∀ (ssrc : Ssrc) (stream : StreamQueue), queue.streams[ssrc]? = some stream → ∀ level,
    (stream.packets level).map queue.ticket = waiting.filter (Ticket.isAt ssrc level)
  keyframes : ∀ (ssrc : Ssrc) (stream : StreamQueue), queue.streams[ssrc]? = some stream →
    stream.numKeyframePackets = waiting.countP (Ticket.isKeyFrameOf ssrc)
  numbered : ∀ ticket ∈ waiting, ticket.number < queue.nextIterator

theorem sound_new (creationTime : Int) : (new creationTime).Sound [] where
  packets := rfl
  perMediaType _ := rfl
  payload := rfl
  queueTime := rfl
  iterators := rfl
  ordered := List.Pairwise.nil
  nodup _ := List.nodup_nil
  listed level pointer := by simp [new]
  hosted ticket member := by cases member
  known ticket member := by cases member
  top := (firstActive_eq_none_iff.mpr fun _ => rfl).symm
  mirrors ssrc stream found := by simp [new] at found
  keyframes ssrc stream found := by simp [new] at found
  numbered ticket member := by cases member

variable {ssrc : Ssrc} {stream : StreamQueue} {pointer : StreamPointer}
  {after : PrioritizedPacketQueue}

namespace Sound

/-! ## Time passes -/

theorem advance (sound : queue.Sound waiting) (now : Int) :
    (queue.advance now).Sound (waiting.map (Ticket.wait (queue.elapsed now))) where
  toTotals := sound.toTotals.advance now
  nodup := sound.nodup
  listed level pointer := by
    rw [show (queue.advance now).streamsByPrio = queue.streamsByPrio from rfl, sound.listed]
    refine and_congr_right fun _ => ?_
    simp only [List.mem_map, exists_exists_and_eq_and]
    rfl
  hosted := by
    rintro _ member
    obtain ⟨ticket, waits, rfl⟩ := List.mem_map.mp member
    exact sound.hosted ticket waits
  known := by
    rintro _ member
    obtain ⟨ticket, waits, rfl⟩ := List.mem_map.mp member
    exact sound.known ticket waits
  top := sound.top
  mirrors ssrc stream found level := by
    rw [ticket_advance, List.filter_map, ← Function.comp_def, ← List.map_map]
    congr 1
    exact sound.mirrors ssrc stream found level
  keyframes ssrc stream found := by
    rw [List.countP_map]
    exact sound.keyframes ssrc stream found
  numbered := by
    rintro _ member
    obtain ⟨ticket, waits, rfl⟩ := List.mem_map.mp member
    exact sound.numbered ticket waits

theorem setPaused (sound : queue.Sound waiting) (paused : Bool) :
    Sound { queue with paused := paused } waiting :=
  { sound with }

/-! ## Push -/

/-- A pointer that is live stays live when an SSRC gets its stream queue. -/
theorem live_insert {streams : ExtTreeMap Ssrc StreamQueue} :
    (∃ found : StreamQueue, (streams.insert ssrc stream)[pointer.ssrc]? = some found ∧
        found.serial = pointer.serial) ↔
      if pointer.ssrc = ssrc then stream.serial = pointer.serial
      else ∃ found : StreamQueue, streams[pointer.ssrc]? = some found ∧ found.serial = pointer.serial := by
  rw [OrderedMap.lookup_insert]
  by_cases same : pointer.ssrc = ssrc
  · rw [if_pos same, if_pos same.symm]
    simp
  · rw [if_neg same, if_neg (Ne.symm same)]

/-- Pointers do not see what a stream queue holds. -/
theorem live_replace {replaced : StreamQueue} (found : queue.streams[ssrc]? = some stream)
    (streams : after.streams = queue.streams.insert ssrc replaced)
    (serial : replaced.serial = stream.serial) (pointer : StreamPointer) : after.Live pointer ↔ queue.Live pointer := by
  rw [Live, Live, streams, live_insert]
  by_cases same : pointer.ssrc = ssrc
  · rw [if_pos same, same, found, serial]
    simp
  · rw [if_neg same]

theorem emplace (sound : queue.Sound waiting) (ssrc : Ssrc) (enqueueTime : Int) :
    (queue.emplace ssrc enqueueTime).2.Sound waiting ∧
      (queue.emplace ssrc enqueueTime).2.streams[ssrc]? =
        some (queue.emplace ssrc enqueueTime).1 := by
  unfold PrioritizedPacketQueue.emplace
  cases found : queue.streams[ssrc]? with
  | some stream => exact ⟨sound, found⟩
  | none =>
    have noneWaits : ∀ ticket ∈ waiting, ticket.packet.ssrc ≠ ssrc := by
      rintro ticket member rfl
      obtain ⟨stream, isFound⟩ := sound.hosted ticket member
      rw [found] at isFound
      cases isFound
    refine ⟨{ sound with listed := ?_, hosted := ?_, mirrors := ?_, keyframes := ?_ }, ?_⟩
    · intro level pointer
      rw [sound.listed level pointer, Live, Live, live_insert]
      by_cases same : pointer.ssrc = ssrc
      · rw [if_pos same, same, found]
        have none : ¬ ∃ ticket ∈ waiting, ticket.isAt ssrc level = true := by
          rintro ⟨ticket, member, isAt⟩
          exact noneWaits ticket member (Ticket.isAt_iff.mp isAt).1
        simp only [none, and_false]
      · rw [if_neg same]
    · intro ticket member
      obtain ⟨stream, isFound⟩ := sound.hosted ticket member
      refine ⟨stream, ?_⟩
      rw [OrderedMap.lookup_insert, if_neg (Ne.symm (noneWaits ticket member))]
      exact isFound
    · refine OrderedMap.forall_insert (fun level => ?_) fun other stream _ =>
        sound.mirrors other stream
      refine (List.filter_eq_nil_iff.mpr fun ticket member isAt => ?_).symm
      exact noneWaits ticket member (Ticket.isAt_iff.mp isAt).1
    · refine OrderedMap.forall_insert ?_ fun other stream _ => sound.keyframes other stream
      rw [List.countP_eq_zero.mpr fun ticket member isKeyFrame => ?_]
      · rfl
      · simp only [Ticket.isKeyFrameOf, Bool.and_eq_true, decide_eq_true_eq] at isKeyFrame
        exact noneWaits ticket member isKeyFrame.2
    · rw [OrderedMap.lookup_insert, if_pos rfl]

/-- A stream queue holds nothing at a level exactly if no packet waits there. -/
theorem packets_eq_nil_iff (sound : queue.Sound waiting)
    (found : queue.streams[ssrc]? = some stream) (level : PrioLevel) :
    stream.packets level = [] ↔ ∀ ticket ∈ waiting, ¬ ticket.isAt ssrc level = true := by
  rw [← List.map_eq_nil_iff (f := queue.ticket), sound.mirrors ssrc stream found level,
    List.filter_eq_nil_iff]

def addEnqueueTime (enqueueTime : Int) (queue : PrioritizedPacketQueue) :
    PrioritizedPacketQueue :=
  { queue with
    enqueueTimes := queue.enqueueTimes ++ [(queue.nextIterator, enqueueTime)]
    nextIterator := queue.nextIterator + 1 }

section Enqueue

variable {stream : StreamQueue} {queued : QueuedPacket} {packetType : RtpPacketMediaType}

/-- Stream queues are only added at the ends of the tables. -/
theorem exists_streamsByPrio_enqueue (queue : PrioritizedPacketQueue) (pointer : StreamPointer)
    (stream : StreamQueue) (queued : QueuedPacket) (packetType : RtpPacketMediaType)
    (level : PrioLevel) :
    ∃ added, (queue.enqueue pointer stream queued packetType).streamsByPrio level =
      queue.streamsByPrio level ++ added := by
  simp only [PrioritizedPacketQueue.enqueue]
  split_ifs
  · by_cases here : level = getPriorityForType packetType
    · subst here
      exact ⟨[pointer], Function.update_self ..⟩
    · exact ⟨[], by rw [Function.update_of_ne here, List.append_nil]⟩
  · exact ⟨[], (List.append_nil _).symm⟩

variable (sound : queue.Sound waiting) (known : queued.packet.packetType = some packetType)
include sound known

theorem totals_enqueue (next : queued.enqueueTimeIterator = queue.nextIterator)
    (fresh : (queue.ticket queued).waited = 0) (pointer : StreamPointer) (enqueueTime : Int) :
    ((addEnqueueTime enqueueTime queue).enqueue pointer stream queued packetType).Totals
      (waiting ++ [queue.ticket queued]) where
  packets := by
    rw [List.length_append, List.length_singleton]
    push_cast
    rw [← sound.packets]
    rfl
  perMediaType other := by
    rw [List.countP_append, List.countP_singleton]
    push_cast
    rw [← sound.perMediaType other]
    change Function.update queue.sizePacketsPerMediaType packetType _ other = _
    by_cases same : other = packetType
    · subst same
      have isOfType : (queue.ticket queued).isOfType other = true := decide_eq_true known
      rw [Function.update_self, if_pos isOfType]
      rfl
    · have notOfType : ¬ (queue.ticket queued).isOfType other = true := by
        simpa [Ticket.isOfType, PrioritizedPacketQueue.ticket, known] using
          fun equal => same equal.symm
      rw [Function.update_of_ne same, if_neg notOfType, add_zero]
  payload := by
    rw [List.map_append, List.sum_append, ← sound.payload, List.map_singleton, List.sum_singleton]
    rfl
  queueTime := by
    rw [List.map_append, List.sum_append, ← sound.queueTime, List.map_singleton,
      List.sum_singleton, fresh, add_zero]
    rfl
  iterators := by
    rw [List.map_append, ← sound.iterators, List.map_singleton]
    change (queue.enqueueTimes ++ [(queue.nextIterator, enqueueTime)]).map Prod.fst = _
    rw [List.map_append, List.map_singleton, ← next]
    rfl
  ordered := by
    refine List.pairwise_append.mpr ⟨sound.ordered, List.pairwise_singleton _ _, ?_⟩
    intro ticket member last isLast
    obtain rfl := List.mem_singleton.mp isLast
    exact (sound.numbered ticket member).trans_eq next.symm

theorem tables_enqueue (found : queue.streams[queued.packet.ssrc]? = some stream)
    (enqueueTime : Int) :
    ((addEnqueueTime enqueueTime queue).enqueue ⟨queued.packet.ssrc, stream.serial⟩ stream queued
      packetType).Tables (waiting ++ [queue.ticket queued]) := by
  obtain ⟨pointer, isPointer⟩ : ∃ pointer : StreamPointer,
    pointer = ⟨queued.packet.ssrc, stream.serial⟩ := ⟨_, rfl⟩
  rw [← isPointer]
  have level : (queue.ticket queued).prioLevel = some (getPriorityForType packetType) := by
    simp [Ticket.prioLevel, PrioritizedPacketQueue.ticket, known]
  have emptyIff := sound.packets_eq_nil_iff found (getPriorityForType packetType)
  obtain ⟨after, isAfter⟩ : ∃ after, after =
    (addEnqueueTime enqueueTime queue).enqueue pointer stream queued packetType := ⟨_, rfl⟩
  have live : ∀ other, after.Live other ↔ queue.Live other := by
    rw [isAfter, isPointer]
    exact live_replace found rfl rfl
  have isLive : queue.Live pointer := isPointer ▸ ⟨stream, found, rfl⟩
  have eq_pointer : ∀ other, queue.Live other → other.ssrc = queued.packet.ssrc →
      other = pointer := by
    intro other otherLive sameSsrc
    exact otherLive.eq_of_ssrc isLive (sameSsrc.trans (by rw [isPointer]))
  -- the table of the level gets the stream unless it is there already
  have table : ∀ other, after.streamsByPrio other =
      if other = getPriorityForType packetType ∧ pointer ∉ queue.streamsByPrio other then
        queue.streamsByPrio other ++ [pointer] else queue.streamsByPrio other := by
    intro other
    have registered : pointer ∉ queue.streamsByPrio (getPriorityForType packetType) ↔
        stream.packets (getPriorityForType packetType) = [] := by
      rw [sound.listed, emptyIff, isPointer]
      simp only [isPointer ▸ isLive, true_and, not_exists, not_and]
    rw [isAfter]
    change (if (stream.packets (getPriorityForType packetType)).isEmpty = true then
        Function.update queue.streamsByPrio (getPriorityForType packetType)
          (queue.streamsByPrio (getPriorityForType packetType) ++ [pointer])
      else queue.streamsByPrio) other = _
    by_cases here : other = getPriorityForType packetType
    · subst here
      simp only [registered, true_and]
      split_ifs with one two two
      · exact Function.update_self ..
      · exact absurd (List.isEmpty_iff.mp one) two
      · exact absurd (List.isEmpty_iff.mpr two) one
      · rfl
    · simp only [here, false_and, if_false]
      split_ifs
      · exact Function.update_of_ne here ..
      · rfl
  rw [← isAfter]
  refine ⟨⟨fun other => ?_, fun other candidate => ?_, ?_, ?_⟩, ?_⟩
  · rw [table]
    split_ifs with added
    · refine List.nodup_append.mpr ⟨sound.nodup other, List.nodup_singleton _, ?_⟩
      rintro one oneMember two twoMember rfl
      exact added.2 (List.mem_singleton.mp twoMember ▸ oneMember)
    · exact sound.nodup other
  · rw [live, table]
    have splits : (∃ ticket ∈ waiting ++ [queue.ticket queued],
        ticket.isAt candidate.ssrc other = true) ↔
        (∃ ticket ∈ waiting, ticket.isAt candidate.ssrc other = true) ∨
          queued.packet.ssrc = candidate.ssrc ∧ getPriorityForType packetType = other := by
      simp only [List.mem_append, List.mem_singleton, or_and_right, exists_or, exists_eq_left]
      rw [Ticket.isAt_iff, level, Option.some.injEq]
      rfl
    rw [splits]
    split_ifs with added
    · rw [List.mem_append, List.mem_singleton, sound.listed, and_or_left]
      refine or_congr_right ⟨?_, ?_⟩
      · rintro rfl
        exact ⟨isLive, by rw [isPointer], added.1.symm⟩
      · rintro ⟨candidateLive, same, -⟩
        exact eq_pointer _ candidateLive same.symm
    · rw [sound.listed, and_or_left]
      refine ⟨Or.inl, ?_⟩
      rintro (already | ⟨candidateLive, sameSsrc, rfl⟩)
      · exact already
      · have registered : pointer ∈ queue.streamsByPrio (getPriorityForType packetType) := by
          by_contra missing
          exact added ⟨rfl, missing⟩
        rw [← eq_pointer _ candidateLive sameSsrc.symm] at registered
        exact (sound.listed _ _).mp registered
  · intro ticket member
    refine exists_of_live live ?_
    rcases List.mem_append.mp member with earlier | last
    · exact sound.hosted ticket earlier
    · obtain rfl := List.mem_singleton.mp last
      exact ⟨stream, found⟩
  · intro ticket member
    rcases List.mem_append.mp member with earlier | last
    · exact sound.known ticket earlier
    · obtain rfl := List.mem_singleton.mp last
      exact ⟨packetType, known⟩
  · have emptyAfter : ∀ other, after.streamsByPrio other = [] ↔
        queue.streamsByPrio other = [] ∧ other ≠ getPriorityForType packetType := by
      intro other
      rw [table]
      by_cases here : other = getPriorityForType packetType
      · subst here
        simp only [true_and, ne_eq, not_true_eq_false, and_false, iff_false]
        by_cases registered : pointer ∈ queue.streamsByPrio (getPriorityForType packetType)
        · rw [if_neg (not_not.mpr registered)]
          exact List.ne_nil_of_mem registered
        · rw [if_pos registered]
          exact List.append_ne_nil_of_right_ne_nil _ (List.cons_ne_nil _ _)
      · simp only [here, false_and, if_false, ne_eq, not_false_eq_true, and_true]
    rw [firstActive_of_added emptyAfter, ← sound.top, isAfter]
    rfl

theorem enqueue (next : queued.enqueueTimeIterator = queue.nextIterator)
    (fresh : (queue.ticket queued).waited = 0)
    (found : queue.streams[queued.packet.ssrc]? = some stream) (enqueueTime : Int) :
    ((addEnqueueTime enqueueTime queue).enqueue ⟨queued.packet.ssrc, stream.serial⟩ stream queued
      packetType).Sound (waiting ++ [queue.ticket queued]) where
  toTotals := sound.totals_enqueue known next fresh _ enqueueTime
  toTables := sound.tables_enqueue known found enqueueTime
  mirrors := by
    have isAt : ∀ ssrc level, (queue.ticket queued).isAt ssrc level =
        decide (queued.packet.ssrc = ssrc ∧ getPriorityForType packetType = level) := by
      simp [Ticket.isAt, Ticket.prioLevel, PrioritizedPacketQueue.ticket, known]
    simp only [List.filter_append, List.filter_singleton, isAt]
    refine OrderedMap.forall_insert (fun level => ?_) fun ssrc other different isFound level => ?_
    · rw [← sound.mirrors _ stream found level]
      change (Function.update stream.packets (getPriorityForType packetType) _ level).map
        queue.ticket = _
      by_cases here : level = getPriorityForType packetType
      · subst here
        simp
      · rw [Function.update_of_ne here]
        simp [Ne.symm here]
    · refine (sound.mirrors ssrc other isFound level).trans ?_
      simp [different]
  keyframes := by
    simp only [List.countP_append, List.countP_singleton]
    push_cast
    refine OrderedMap.forall_insert ?_ fun ssrc other different isFound => ?_
    · rw [← sound.keyframes _ stream found]
      cases isKeyFrame : queued.packet.isKeyFrame <;>
        simp [Ticket.isKeyFrameOf, PrioritizedPacketQueue.ticket, isKeyFrame]
    · rw [← sound.keyframes ssrc other isFound]
      simp [Ticket.isKeyFrameOf, PrioritizedPacketQueue.ticket, different]
  numbered ticket member := by
    rcases List.mem_append.mp member with earlier | last
    · exact (sound.numbered ticket earlier).trans (Nat.lt_succ_self _)
    · obtain rfl := List.mem_singleton.mp last
      exact next.trans_lt (Nat.lt_succ_self _)

end Enqueue

/-- Culling drops only stream queues that nothing waits in. -/
theorem cull (sound : queue.Sound waiting) (enqueueTime : Int) :
    (queue.cull enqueueTime).Sound waiting := by
  unfold PrioritizedPacketQueue.cull
  split_ifs
  · have kept : ∀ {ssrc : Ssrc} {stream : StreamQueue} {level : PrioLevel},
        queue.streams[ssrc]? = some stream →
        (∃ ticket ∈ waiting, ticket.isAt ssrc level = true) →
        (!(stream.isEmpty && stream.lastEnqueueTime + kTimeout < enqueueTime)) = true := by
      rintro ssrc stream level found ⟨ticket, member, isAt⟩
      have notEmpty : stream.isEmpty = false := by
        rw [StreamQueue.isEmpty, List.all_eq_false]
        refine ⟨level, List.mem_finRange level, ?_⟩
        rw [List.isEmpty_iff, sound.packets_eq_nil_iff found]
        exact fun none => none ticket member isAt
      rw [notEmpty]
      rfl
    refine { sound with listed := ?_, hosted := ?_, mirrors := ?_, keyframes := ?_ }
    · intro level pointer
      rw [sound.listed level pointer]
      refine and_congr_left fun waits => ?_
      simp only [Live, OrderedMap.found_filter_iff]
      constructor
      · rintro ⟨stream, found, serial⟩
        exact ⟨stream, ⟨found, kept found waits⟩, serial⟩
      · rintro ⟨stream, ⟨found, _⟩, serial⟩
        exact ⟨stream, found, serial⟩
    · intro ticket member
      obtain ⟨stream, found⟩ := sound.hosted ticket member
      obtain ⟨packetType, known⟩ := sound.known ticket member
      exact ⟨stream, OrderedMap.found_filter_iff.mpr
        ⟨found, kept found ⟨ticket, member, Ticket.isAt_own known⟩⟩⟩
    · intro ssrc stream found
      exact sound.mirrors ssrc stream (OrderedMap.found_filter_iff.mp found).1
    · intro ssrc stream found
      exact sound.keyframes ssrc stream (OrderedMap.found_filter_iff.mp found).1
  · exact sound

/-- The packet gets a ticket of its own, and the others have waited a little longer. -/
theorem push_ensures (sound : queue.Sound waiting) {enqueueTime : Int}
    (later : queue.lastUpdateTime ≤ enqueueTime) {packet : RtpPacketToSend}
    (known : packet.packetType.isSome = true) :
    Ensures (queue.push enqueueTime packet) fun result =>
      result.Sound (waiting.map (Ticket.wait (queue.elapsed enqueueTime)) ++
        [⟨queue.nextIterator, packet, 0⟩]) ∧
      (∀ level, ∃ added, result.streamsByPrio level = queue.streamsByPrio level ++ added) ∧
      result.lastUpdateTime = enqueueTime ∧ result.paused = queue.paused ∧
      result.nextIterator = queue.nextIterator + 1 := by
  obtain ⟨packetType, isType⟩ := Option.isSome_iff_exists.mp known
  obtain ⟨emplaced, found⟩ := sound.emplace packet.ssrc enqueueTime
  obtain ⟨stream, start, isEmplaced⟩ : ∃ stream start,
    queue.emplace packet.ssrc enqueueTime = (stream, start) := ⟨_, _, rfl⟩
  have same : start.lastUpdateTime = queue.lastUpdateTime ∧ start.paused = queue.paused ∧
      start.nextIterator = queue.nextIterator ∧ start.streamsByPrio = queue.streamsByPrio := by
    unfold PrioritizedPacketQueue.emplace at isEmplaced
    split at isEmplaced <;> cases isEmplaced <;> exact ⟨rfl, rfl, rfl, rfl⟩
  have elapsed : start.elapsed enqueueTime = queue.elapsed enqueueTime := by
    simp only [PrioritizedPacketQueue.elapsed, same]
  rw [isEmplaced] at emplaced found
  have startLater : (addEnqueueTime enqueueTime start).lastUpdateTime ≤ enqueueTime :=
    same.1.trans_le later
  have advanced := emplaced.advance enqueueTime
  obtain ⟨queued, isQueued⟩ : ∃ queued : QueuedPacket, queued =
    { packet := packet
      enqueueTime := enqueueTime - (start.advance enqueueTime).pauseTimeSum
      enqueueTimeIterator := start.nextIterator } := ⟨_, rfl⟩
  have ticketEq : (start.advance enqueueTime).ticket queued = ⟨queue.nextIterator, packet, 0⟩ := by
    rw [isQueued, PrioritizedPacketQueue.ticket, same.2.2.1]
    simp [PrioritizedPacketQueue.advance]
  have returns : queue.push enqueueTime packet =
      .ok (((addEnqueueTime enqueueTime (start.advance enqueueTime)).enqueue
        ⟨queued.packet.ssrc, stream.serial⟩ stream queued packetType).cull enqueueTime) := by
    unfold PrioritizedPacketQueue.push
    rw [isEmplaced, isQueued]
    rw [isType]
    change ((addEnqueueTime enqueueTime start).updateAverageQueueTime enqueueTime >>= _) = _
    rw [updateAverageQueueTime_eq startLater]
    rfl
  have enqueued : ((addEnqueueTime enqueueTime (start.advance enqueueTime)).enqueue
      ⟨queued.packet.ssrc, stream.serial⟩ stream queued packetType).Sound
        (waiting.map (Ticket.wait (start.elapsed enqueueTime)) ++
          [(start.advance enqueueTime).ticket queued]) :=
    advanced.enqueue (by rw [isQueued]; exact isType) (by rw [isQueued]; rfl) (by rw [ticketEq])
      (by rw [isQueued]; exact found) enqueueTime
  rw [elapsed, ticketEq] at enqueued
  refine ⟨_, returns, enqueued.cull enqueueTime, ?_⟩
  have frame : ∀ queue : PrioritizedPacketQueue,
      (queue.cull enqueueTime).lastUpdateTime = queue.lastUpdateTime ∧
      (queue.cull enqueueTime).paused = queue.paused ∧
      (queue.cull enqueueTime).nextIterator = queue.nextIterator ∧
      (queue.cull enqueueTime).streamsByPrio = queue.streamsByPrio := by
    intro queue
    unfold PrioritizedPacketQueue.cull
    split_ifs <;> exact ⟨rfl, rfl, rfl, rfl⟩
  refine ⟨fun level => ?_, (frame _).1, (frame _).2.1.trans same.2.1, (frame _).2.2.1.trans ?_⟩
  · rw [(frame _).2.2.2, ← same.2.2.2]
    exact exists_streamsByPrio_enqueue _ _ _ _ _ level
  · rw [← same.2.2.1]
    rfl

/-! ## Pop -/

theorem dereference_of_live (live : queue.Live pointer) :
    ∃ stream, queue.streams[pointer.ssrc]? = some stream ∧ stream.serial = pointer.serial ∧
      queue.dereference pointer = .ok stream := by
  obtain ⟨stream, found, serial⟩ := live
  refine ⟨stream, found, serial, ?_⟩
  rw [dereference, found]
  exact if_pos serial

variable {ssrc : Ssrc} {stream : StreamQueue} {level : PrioLevel} {queued : QueuedPacket}
  {rest : List QueuedPacket} (sound : queue.Sound waiting)
  (found : queue.streams[ssrc]? = some stream) (holds : stream.packets level = queued :: rest)
include sound found holds

theorem isAt_head :
    queue.ticket queued ∈ waiting ∧ (queue.ticket queued).isAt ssrc level = true := by
  rw [← List.mem_filter, ← sound.mirrors ssrc stream found level, holds]
  exact List.mem_cons_self

theorem dequeuePacket_ensures :
    Ensures (stream.dequeuePacket level) fun result =>
      result.1 = queued ∧ result.2.serial = stream.serial ∧
      result.2.packets = Function.update stream.packets level rest ∧
      result.2.numKeyframePackets =
        stream.numKeyframePackets - if queued.packet.isKeyFrame then 1 else 0 := by
  unfold StreamQueue.dequeuePacket
  rw [holds]
  dsimp only
  cases isKeyFrame : queued.packet.isKeyFrame with
  | false => exact .ok ⟨rfl, rfl, rfl, by simp⟩
  | true =>
    have counted : 0 < stream.numKeyframePackets := by
      rw [sound.keyframes ssrc stream found]
      obtain ⟨waits, isAt⟩ := sound.isAt_head found holds
      have isOf : (queue.ticket queued).isKeyFrameOf ssrc = true := by
        simp only [Ticket.isKeyFrameOf, Bool.and_eq_true, decide_eq_true_eq]
        exact ⟨isKeyFrame, (Ticket.isAt_iff.mp isAt).1⟩
      exact_mod_cast List.countP_pos_iff.mpr ⟨_, waits, isOf⟩
    exact .bind (.check (decide_eq_true counted)) fun _ _ => .ok ⟨rfl, rfl, rfl, rfl⟩

end Sound

/-- What a pop does: the stream queue at the head of the table of the level that is
served gives its oldest packet, and goes to the end of the table if it has more. -/
structure Serves (queue : PrioritizedPacketQueue) (waiting : List Ticket)
    (queued : QueuedPacket) (after : PrioritizedPacketQueue) where
  level : PrioLevel
  pointer : StreamPointer
  others : List StreamPointer
  ticket : Ticket
  rest : List Ticket
  lowest : ∀ lower < level, queue.streamsByPrio lower = []
  served : queue.streamsByPrio level = pointer :: others
  oldest : waiting.filter (Ticket.isAt pointer.ssrc level) = ticket :: rest
  iterator : queued.enqueueTimeIterator = ticket.number
  packet : queued.packet = { ticket.packet with timeInSendQueue := some ticket.waited }
  table : after.streamsByPrio level = if rest = [] then others else others ++ [pointer]
  elsewhere : ∀ other ≠ level, after.streamsByPrio other = queue.streamsByPrio other
  lastUpdateTime : after.lastUpdateTime = queue.lastUpdateTime
  paused : after.paused = queue.paused
  nextIterator : after.nextIterator = queue.nextIterator

namespace Sound

/-- The stream queue without its oldest packet mirrors the tickets that are left. -/
theorem of_dequeued (sound : queue.Sound waiting) {shorter : StreamQueue}
    (found : queue.streams[ssrc]? = some stream) {level : PrioLevel} {queued : QueuedPacket}
    {more : List QueuedPacket} (holds : stream.packets level = queued :: more)
    {front back : List Ticket} (split : waiting = front ++ queue.ticket queued :: back)
    (notBefore : ∀ ticket ∈ front, ¬ ticket.isAt ssrc level = true)
    (packets : shorter.packets = Function.update stream.packets level more)
    (keyframes : shorter.numKeyframePackets =
      stream.numKeyframePackets - if queued.packet.isKeyFrame then 1 else 0)
    (totals : after.Totals (front ++ back)) (tables : after.Tables (front ++ back))
    (streams : after.streams = queue.streams.insert ssrc shorter)
    (sameTicket : after.ticket = queue.ticket)
    (nextIterator : after.nextIterator = queue.nextIterator) : after.Sound (front ++ back) := by
  have isAt := (sound.isAt_head found holds).2
  have mirrors := sound.mirrors
  have keyframesBefore := sound.keyframes
  simp only [split, List.filter_append, List.filter_cons] at mirrors
  simp only [split, List.countP_append, List.countP_cons] at keyframesBefore
  refine ⟨totals, tables, ?_, ?_, fun ticket member => ?_⟩
  · rw [streams, sameTicket]
    refine OrderedMap.forall_insert (fun otherLevel => ?_)
      fun other candidate different isFound otherLevel => ?_
    · have before := mirrors ssrc stream found otherLevel
      rw [packets, List.filter_append]
      by_cases here : otherLevel = level
      · subst here
        rw [if_pos isAt, holds, List.filter_eq_nil_iff.mpr notBefore, List.map_cons,
          List.nil_append, List.cons.injEq] at before
        rw [Function.update_self, List.filter_eq_nil_iff.mpr notBefore, List.nil_append]
        exact before.2
      · rw [if_neg fun isThere => here (Ticket.isAt_unique isThere isAt).2] at before
        rw [Function.update_of_ne here, before]
    · have before := mirrors other candidate isFound otherLevel
      rw [if_neg fun isThere => different (Ticket.isAt_unique isAt isThere).1] at before
      rw [before, List.filter_append]
  · have isKeyFrameOf : ∀ other, (queue.ticket queued).isKeyFrameOf other =
        (queued.packet.isKeyFrame && decide (ssrc = other)) := by
      rw [← (Ticket.isAt_iff.mp isAt).1]
      exact fun _ => rfl
    rw [streams]
    refine OrderedMap.forall_insert ?_ fun other candidate different isFound => ?_
    · rw [keyframes, keyframesBefore ssrc stream found, isKeyFrameOf, List.countP_append]
      cases queued.packet.isKeyFrame
      · simp
      · simp only [decide_true, Bool.and_true]
        push_cast
        ring
    · rw [keyframesBefore other candidate isFound, isKeyFrameOf, List.countP_append]
      simp [different]
  · rw [nextIterator]
    refine sound.numbered ticket ?_
    rw [split]
    simp only [List.mem_append] at member ⊢
    tauto

theorem pop_ensures (sound : queue.Sound waiting) :
    Ensures queue.pop fun result =>
      (waiting = [] ∧ result = (none, queue)) ∨
      ∃ queued, result.1 = some queued ∧ Nonempty (Serves queue waiting queued result.2) ∧
        result.2.Sound (waiting.filter fun ticket =>
          ticket.number ≠ queued.enqueueTimeIterator) := by
  unfold PrioritizedPacketQueue.pop
  by_cases empty : waiting = []
  · have size : queue.sizePackets = 0 := by rw [sound.packets, empty]; rfl
    rw [if_pos size]
    exact .ok (.inl ⟨empty, rfl⟩)
  have size : queue.sizePackets ≠ 0 := by
    rw [sound.packets]
    exact_mod_cast fun none => empty (List.length_eq_zero_iff.mp none)
  obtain ⟨level, active, inUse, lowest⟩ := sound.exists_top empty
  obtain ⟨pointer, others, served⟩ := List.exists_cons_of_ne_nil inUse
  have isRegistered : pointer ∈ queue.streamsByPrio level := served ▸ List.mem_cons_self
  obtain ⟨live, waits⟩ := (sound.listed level pointer).mp isRegistered
  obtain ⟨stream, found, serial, isStream⟩ := dereference_of_live live
  obtain ⟨queued, more, holds⟩ : ∃ queued more, stream.packets level = queued :: more := by
    refine List.exists_cons_of_ne_nil fun none => ?_
    obtain ⟨ticket, member, isAt⟩ := waits
    exact (sound.packets_eq_nil_iff found level).mp none ticket member isAt
  have oldest := sound.mirrors pointer.ssrc stream found level
  rw [holds, List.map_cons] at oldest
  obtain ⟨front, back, split, notBefore, isAt, remaining⟩ := List.filter_eq_cons_iff.mp oldest.symm
  obtain ⟨packetType, known⟩ := sound.known (queue.ticket queued) (by rw [split]; simp)
  have left : waiting.filter (fun ticket => ticket.number ≠ queued.enqueueTimeIterator) =
      front ++ back := by
    have ordered := sound.ordered
    rw [split] at ordered ⊢
    exact ordered.filter_number_ne
  rw [if_neg size, active]
  dsimp only
  rw [served]
  dsimp only
  rw [isStream]
  refine .bind (.ok rfl) fun _ same => ?_
  subst same
  refine .bind (sound.dequeuePacket_ensures found holds) ?_
  rintro ⟨queued, shorter⟩ ⟨rfl, sameSerial, packets, keyframes⟩
  refine .bind (Totals.dequeuePacketInternal_ensures (split ▸ sound.toTotals) known) ?_
  rintro ⟨finished, middle⟩ ⟨totals, frame, tables, top, isFinished⟩
  dsimp only at totals frame tables top isFinished ⊢
  have moreIff : more = [] ↔ ¬ ∃ ticket ∈ front ++ back,
      ticket.isAt pointer.ssrc level = true := by
    rw [← List.map_eq_nil_iff (f := queue.ticket), ← remaining, not_exists]
    rw [List.filter_eq_nil_iff]
    simp only [List.mem_append, not_and, or_imp, forall_and]
    exact ⟨fun none => ⟨notBefore, none⟩, And.right⟩
  have leaves : ∀ list : List StreamPointer, list.Nodup →
      (∀ other, other ∈ list ↔ other ∈ queue.streamsByPrio level ∧ (other = pointer → more ≠ [])) →
      Registered { middle with
        streams := middle.streams.insert pointer.ssrc shorter
        streamsByPrio := Function.update middle.streamsByPrio level list } (front ++ back) := by
    intro list nodup members
    refine sound.toRegistered.leave isRegistered ?_ ?_ ?_ ?_ ?_ ?_ 
    · intro ticket member
      rw [split]
      simp only [List.mem_append] at member ⊢
      tauto
    · intro ticket member notAt
      rw [split, List.mem_append, List.mem_cons] at member
      rcases member with before | rfl | after
      · exact List.mem_append_left _ before
      · exact absurd isAt notAt
      · exact List.mem_append_right _ after
    · refine live_replace found ?_ sameSerial
      rw [frame.streams]
    · intro other different
      dsimp only
      rw [Function.update_of_ne different, tables]
    · dsimp only
      rwa [Function.update_self]
    · intro other
      dsimp only
      rw [Function.update_self, members other, ne_eq, moreIff, not_not]
  have nodup := sound.nodup level
  rw [served, List.nodup_cons] at nodup
  -- what is left to show for either end: the table of the level and the level to serve
  have finishes : ∀ (list : List StreamPointer) (top : Option PrioLevel),
      list = (if more = [] then others else others ++ [pointer]) →
      ∀ after, after = { middle with
        streams := middle.streams.insert pointer.ssrc shorter
        streamsByPrio := Function.update middle.streamsByPrio level list
        topActivePrioLevel := top } → after.Tables (front ++ back) →
      ∃ queued, some finished = some queued ∧ Nonempty (Serves queue waiting queued after) ∧
        after.Sound (waiting.filter fun ticket => ticket.number ≠ queued.enqueueTimeIterator) := by
    rintro list top isList after rfl tablesAfter
    refine ⟨finished, rfl, ⟨⟨level, pointer, others, queue.ticket queued, more.map queue.ticket,
      lowest, served, oldest.symm, by rw [isFinished]; rfl, by rw [isFinished]; rfl, ?_, ?_,
      frame.lastUpdateTime, frame.paused, frame.nextIterator⟩⟩, ?_⟩
    · dsimp only
      rw [Function.update_self, isList]
      simp only [List.map_eq_nil_iff]
    · intro other different
      dsimp only
      rw [Function.update_of_ne different, tables]
    · rw [isFinished, left]
      refine sound.of_dequeued found holds split notBefore packets keyframes { totals with }
        tablesAfter ?_ ?_ frame.nextIterator
      · rw [frame.streams]
      · rw [← frame.ticket]
        rfl
  by_cases last : more = []
  · have hasNone : ¬ shorter.hasPacketsAtPrio level = true := by
      rw [StreamQueue.hasPacketsAtPrio, packets, Function.update_self, last]
      simp
    rw [if_neg hasNone]
    have registered := leaves others nodup.2 fun other => by
      rw [served, List.mem_cons, last]
      constructor
      · intro member
        refine ⟨.inr member, ?_⟩
        rintro rfl
        exact absurd member nodup.1
      · rintro ⟨rfl | member, different⟩
        · exact absurd rfl (different rfl)
        · exact member
    refine .bind (maybeUpdateTopPrioLevel_ensures (top.trans active) ?_
      (registered.sizePackets_eq_zero_iff { totals with })) ?_
    · intro lower isLower
      dsimp only
      rw [Function.update_of_ne isLower.ne, tables, lowest lower isLower]
    · rintro after rfl
      exact .ok (.inr (finishes others _ (if_pos last).symm _ rfl { registered with top := rfl }))
  · have hasMore : shorter.hasPacketsAtPrio level = true := by
      rw [StreamQueue.hasPacketsAtPrio, packets, Function.update_self]
      simpa using last
    rw [if_pos hasMore]
    have registered := leaves (others ++ [pointer]) (by
        rw [List.nodup_append]
        refine ⟨nodup.2, List.nodup_singleton _, ?_⟩
        rintro one member two isPointer rfl
        exact nodup.1 (List.mem_singleton.mp isPointer ▸ member)) fun other => by
      rw [served, List.mem_cons, List.mem_append, List.mem_singleton, or_comm]
      simp [last]
    refine .ok (.inr (finishes _ _ (if_neg last).symm _ rfl { registered with top := ?_ }))
    dsimp only
    rw [top, active]
    refine (firstActive_eq_some_iff.mpr ⟨?_, fun lower isLower => ?_⟩).symm
    · rw [Function.update_self]
      exact List.append_ne_nil_of_right_ne_nil _ (List.cons_ne_nil _ _)
    · rw [Function.update_of_ne isLower.ne, tables, lowest lower isLower]

end Sound

/-! ## RemovePacketsForSsrc -/

/-- All packets of one level of a stream queue go, and its entry in the table. -/
theorem removeLevel_ensures (totals : queue.Totals waiting) (tables : queue.Tables waiting)
    (live : queue.Live pointer) {packetsByPrio : PrioLevel → List QueuedPacket} {level : PrioLevel}
    (listed : (packetsByPrio level).map queue.ticket =
      waiting.filter (Ticket.isAt pointer.ssrc level)) :
    Ensures (removeLevel pointer packetsByPrio queue level) fun result =>
      result.Totals (waiting.filter fun ticket => !ticket.isAt pointer.ssrc level) ∧
      result.Tables (waiting.filter fun ticket => !ticket.isAt pointer.ssrc level) ∧
      Frame queue result ∧
      result.streamsByPrio = Function.update queue.streamsByPrio level
        ((queue.streamsByPrio level).filter fun other => other ≠ pointer) := by
  have registeredIff : pointer ∈ queue.streamsByPrio level ↔ packetsByPrio level ≠ [] := by
    rw [tables.listed, ne_eq, ← List.map_eq_nil_iff (f := queue.ticket), listed,
      List.filter_eq_nil_iff]
    simp only [live, true_and, not_forall, not_not, exists_prop]
  unfold removeLevel
  by_cases none : packetsByPrio level = []
  · rw [if_pos (List.isEmpty_iff.mpr none)]
    have absent : pointer ∉ queue.streamsByPrio level := fun member =>
      registeredIff.mp member none
    rw [none, List.map_nil] at listed
    have nothing : waiting.filter (fun ticket => !ticket.isAt pointer.ssrc level) = waiting := by
      refine List.filter_eq_self.mpr fun ticket member => ?_
      simpa using List.filter_eq_nil_iff.mp listed.symm ticket member
    refine .ok ⟨nothing.symm ▸ totals, nothing.symm ▸ tables, .refl queue, ?_⟩
    have same : (queue.streamsByPrio level).filter (fun other => decide (other ≠ pointer)) =
        queue.streamsByPrio level := by
      refine List.filter_eq_self.mpr fun other member => decide_eq_true ?_
      rintro rfl
      exact absent member
    rw [same, Function.update_eq_self]
  · rw [if_neg (by simpa using none)]
    refine .bind (totals.dequeueEach_ensures listed tables.known) ?_
    rintro middle ⟨middleTotals, frame, middleTables, middleTop⟩
    have isRegistered := registeredIff.mpr none
    have registered : Registered { middle with
        streamsByPrio := Function.update queue.streamsByPrio level
          ((queue.streamsByPrio level).filter fun other => other ≠ pointer) }
        (waiting.filter fun ticket => !ticket.isAt pointer.ssrc level) := by
      refine tables.toRegistered.leave isRegistered (fun ticket => List.mem_of_mem_filter) ?_ ?_ ?_
        ?_ ?_
      · intro ticket member notAt
        exact List.mem_filter.mpr ⟨member, by simpa using notAt⟩
      · intro other
        rw [Live, Live, frame.streams]
      · intro other different
        exact Function.update_of_ne different ..
      · dsimp only
        rw [Function.update_self]
        exact (tables.nodup level).filter _
      · intro other
        dsimp only
        rw [Function.update_self, List.mem_filter, decide_eq_true_iff]
        refine and_congr_right fun _ => imp_congr_right fun _ => ?_
        simp
    refine (deregister_ensures pointer level ?_ ?_ ?_ ?_).weaken ?_
    · rw [middleTables]
      exact tables.nodup level
    · rw [middleTables]
      exact isRegistered
    · rw [middleTop, middleTables]
      exact tables.top
    · rw [middleTables]
      exact registered.sizePackets_eq_zero_iff { middleTotals with }
    · rintro result ⟨after, isAfter, rfl⟩
      rw [middleTables] at isAfter
      subst isAfter
      exact ⟨{ middleTotals with }, { registered with top := rfl },
        ⟨frame.streams, frame.lastUpdateTime, frame.pauseTimeSum, frame.paused,
          frame.nextIterator, frame.nextSerial⟩, rfl⟩

theorem removeLevels_ensures {packetsByPrio : PrioLevel → List QueuedPacket}
    (levels : List PrioLevel) (nodup : levels.Nodup) (totals : queue.Totals waiting)
    (tables : queue.Tables waiting) (live : queue.Live pointer)
    (listed : ∀ level ∈ levels, (packetsByPrio level).map queue.ticket =
      waiting.filter (Ticket.isAt pointer.ssrc level)) :
    Ensures (levels.foldlM (removeLevel pointer packetsByPrio) queue) fun result =>
      result.Totals (waiting.filter fun ticket => !levels.any fun level =>
        ticket.isAt pointer.ssrc level) ∧
      result.Tables (waiting.filter fun ticket => !levels.any fun level =>
        ticket.isAt pointer.ssrc level) ∧
      Frame queue result ∧
      ∀ level, result.streamsByPrio level = if level ∈ levels then
        (queue.streamsByPrio level).filter fun other => other ≠ pointer
        else queue.streamsByPrio level := by
  induction levels generalizing queue waiting with
  | nil =>
    refine .ok ⟨?_, ?_, .refl queue, fun _ => rfl⟩
    · simpa using totals
    · simpa using tables
  | cons level rest ih =>
    obtain ⟨notLater, restNodup⟩ := List.nodup_cons.mp nodup
    refine .bind (removeLevel_ensures totals tables live (listed level List.mem_cons_self)) ?_
    rintro middle ⟨middleTotals, middleTables, frame, table⟩
    refine (ih restNodup middleTotals middleTables ?_ ?_).weaken ?_
    · rwa [Live, frame.streams]
    · intro later member
      rw [frame.ticket, listed later (List.mem_cons_of_mem _ member), List.filter_filter]
      refine List.filter_congr fun ticket _ => ?_
      -- a packet waits at one level only
      have different : later ≠ level := fun same => notLater (same ▸ member)
      cases isLater : ticket.isAt pointer.ssrc later with
      | false => rfl
      | true =>
        rw [Bool.eq_false_iff.mpr fun isHere => different (Ticket.isAt_unique isLater isHere).2]
        rfl
    · rintro result ⟨resultTotals, resultTables, resultFrame, resultTable⟩
      have both : (waiting.filter fun ticket => !ticket.isAt pointer.ssrc level).filter
          (fun ticket => !rest.any fun level => ticket.isAt pointer.ssrc level) =
          waiting.filter fun ticket => !(level :: rest).any fun level =>
            ticket.isAt pointer.ssrc level := by
        rw [List.filter_filter]
        refine List.filter_congr fun ticket _ => ?_
        rw [List.any_cons, Bool.not_or, Bool.and_comm]
      rw [both] at resultTotals resultTables
      refine ⟨resultTotals, resultTables, frame.trans resultFrame, fun other => ?_⟩
      rw [resultTable other, table]
      by_cases here : other = level
      · subst here
        rw [if_neg notLater, if_pos List.mem_cons_self, Function.update_self]
      · rw [Function.update_of_ne here]
        simp only [List.mem_cons, here, false_or]

theorem Sound.of_removed (sound : queue.Sound waiting) (emptied : StreamQueue)
    (packets : emptied.packets = fun _ => []) (keyframes : emptied.numKeyframePackets = 0)
    (totals : after.Totals (waiting.filter fun ticket => ticket.packet.ssrc ≠ ssrc))
    (tables : after.Tables (waiting.filter fun ticket => ticket.packet.ssrc ≠ ssrc))
    (streams : after.streams = queue.streams.insert ssrc emptied)
    (sameTicket : after.ticket = queue.ticket)
    (nextIterator : after.nextIterator = queue.nextIterator) :
    after.Sound (waiting.filter fun ticket => ticket.packet.ssrc ≠ ssrc) := by
  refine ⟨totals, tables, ?_, ?_, fun ticket member => ?_⟩
  · rw [streams, sameTicket]
    refine OrderedMap.forall_insert (fun level => ?_) fun other candidate different isFound level => ?_
    · rw [packets, List.filter_filter]
      refine (List.filter_eq_nil_iff.mpr fun ticket _ isBoth => ?_).symm
      simp only [Bool.and_eq_true, decide_eq_true_eq] at isBoth
      exact isBoth.2 (Ticket.isAt_iff.mp isBoth.1).1
    · rw [sound.mirrors other candidate isFound level, List.filter_filter]
      refine List.filter_congr fun ticket _ => ?_
      cases isAt : ticket.isAt other level with
      | false => rfl
      | true =>
        rw [(Ticket.isAt_iff.mp isAt).1]
        simp [Ne.symm different]
  · rw [streams]
    refine OrderedMap.forall_insert ?_ fun other candidate different isFound => ?_
    · rw [keyframes, eq_comm, Int.natCast_eq_zero, List.countP_filter, List.countP_eq_zero]
      intro ticket _ isBoth
      simp only [Ticket.isKeyFrameOf, Bool.and_eq_true, decide_eq_true_eq] at isBoth
      exact isBoth.2 isBoth.1.2
    · rw [sound.keyframes other candidate isFound, List.countP_filter]
      congr 1
      refine List.countP_congr fun ticket _ => ?_
      simp only [Ticket.isKeyFrameOf, Bool.and_eq_true, decide_eq_true_eq]
      constructor
      · rintro ⟨isKeyFrame, rfl⟩
        exact ⟨⟨isKeyFrame, rfl⟩, Ne.symm different⟩
      · exact And.left
  · rw [nextIterator]
    exact sound.numbered ticket (List.mem_of_mem_filter member)

/-- The tables do not depend on what the stream queues hold. -/
theorem Tables.of_live (tables : queue.Tables waiting)
    (live : ∀ pointer, after.Live pointer ↔ queue.Live pointer)
    (same : after.streamsByPrio = queue.streamsByPrio)
    (sameTop : after.topActivePrioLevel = queue.topActivePrioLevel) : after.Tables waiting := by
  refine ⟨⟨?_, fun level pointer => ?_, fun ticket member => ?_, tables.known⟩, ?_⟩
  · rw [same]
    exact tables.nodup
  · rw [live, ← tables.listed, same]
  · exact exists_of_live live (tables.hosted ticket member)
  · rw [sameTop, same]
    exact tables.top

/-- A packet of an SSRC waits at one of the levels. -/
theorem Registered.any_isAt (registered : queue.Registered waiting) {ticket : Ticket}
    (member : ticket ∈ waiting) (ssrc : Ssrc) :
    ((List.finRange kNumPriorityLevels).any fun level => ticket.isAt ssrc level) =
      decide (ticket.packet.ssrc = ssrc) := by
  obtain ⟨packetType, known⟩ := registered.known ticket member
  rw [Bool.eq_iff_iff, List.any_eq_true, decide_eq_true_iff]
  constructor
  · rintro ⟨level, _, isAt⟩
    exact (Ticket.isAt_iff.mp isAt).1
  · rintro rfl
    exact ⟨getPriorityForType packetType, List.mem_finRange _, Ticket.isAt_own known⟩

/-- All packets of an SSRC go, and its entries in the tables. -/
theorem Sound.removePacketsForSsrc_ensures (sound : queue.Sound waiting) (ssrc : Ssrc) :
    Ensures (queue.removePacketsForSsrc ssrc) fun result =>
      result.Sound (waiting.filter fun ticket => ticket.packet.ssrc ≠ ssrc) ∧
      (∀ level, result.streamsByPrio level =
        (queue.streamsByPrio level).filter fun pointer => pointer.ssrc ≠ ssrc) ∧
      result.lastUpdateTime = queue.lastUpdateTime ∧ result.paused = queue.paused ∧
      result.nextIterator = queue.nextIterator := by
  unfold removePacketsForSsrc
  cases found : queue.streams[ssrc]? with
  | none =>
    have nothing : waiting.filter (fun ticket => decide (ticket.packet.ssrc ≠ ssrc)) =
        waiting := by
      refine List.filter_eq_self.mpr fun ticket member => decide_eq_true ?_
      rintro rfl
      obtain ⟨stream, isFound⟩ := sound.hosted ticket member
      rw [found] at isFound
      cases isFound
    refine .ok ⟨nothing.symm ▸ sound, fun level => ?_, rfl, rfl, rfl⟩
    refine (List.filter_eq_self.mpr fun pointer member => decide_eq_true ?_).symm
    rintro rfl
    obtain ⟨⟨stream, isFound, _⟩, _⟩ := (sound.listed level pointer).mp member
    rw [found] at isFound
    cases isFound
  | some stream =>
    dsimp only [StreamQueue.dequeueAll]
    obtain ⟨emptied, isEmptied⟩ : ∃ emptied : StreamQueue, emptied =
      { stream with packets := fun _ => [], numKeyframePackets := 0 } := ⟨_, rfl⟩
    obtain ⟨start, isStart⟩ : ∃ start : PrioritizedPacketQueue, start =
      { queue with streams := queue.streams.insert ssrc emptied } := ⟨_, rfl⟩
    rw [← isEmptied, ← isStart]
    have live : ∀ pointer, start.Live pointer ↔ queue.Live pointer :=
      Sound.live_replace found (congrArg streams isStart) (by rw [isEmptied])
    have tables : start.Tables waiting :=
      sound.toTables.of_live live (by rw [isStart]) (by rw [isStart])
    have totals : start.Totals waiting := by
      rw [isStart]
      exact { sound.toTotals with }
    have sameTicket : start.ticket = queue.ticket := by
      rw [isStart]
      rfl
    refine (removeLevels_ensures _ (List.nodup_finRange _) totals tables
      ((live _).mpr ⟨stream, found, rfl⟩) fun level _ => ?_).weaken ?_
    · rw [sameTicket]
      exact sound.mirrors ssrc stream found level
    rintro result ⟨resultTotals, resultTables, frame, table⟩
    have remaining : waiting.filter (fun ticket => !(List.finRange kNumPriorityLevels).any
        fun level => ticket.isAt ssrc level) =
        waiting.filter fun ticket => ticket.packet.ssrc ≠ ssrc := by
      refine List.filter_congr fun ticket member => ?_
      rw [sound.any_isAt member ssrc, decide_not]
    rw [remaining] at resultTotals resultTables
    refine ⟨?_, fun level => ?_, ?_⟩
    · refine sound.of_removed emptied (by rw [isEmptied]) (by rw [isEmptied])
        resultTotals resultTables ?_ (frame.ticket.trans sameTicket) ?_
      · rw [frame.streams, isStart]
      · rw [frame.nextIterator, isStart]
    · rw [table level, if_pos (List.mem_finRange level), isStart]
      refine List.filter_congr fun pointer member => ?_
      rw [decide_eq_decide, not_iff_not]
      constructor
      · rintro rfl
        rfl
      · intro same
        refine ((sound.listed level pointer).mp member).1.eq_of_ssrc ?_ same
        exact ⟨stream, found, rfl⟩
    · rw [frame.lastUpdateTime, frame.paused, frame.nextIterator, isStart]
      exact ⟨rfl, rfl, rfl⟩

end MaeRtc.Pacing.PrioritizedPacketQueue
