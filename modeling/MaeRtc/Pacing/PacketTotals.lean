import MaeRtc.Pacing.PrioritizedPacketQueue

/-!
# Totals and round-robin tables of the packet queue

The queue is compared with a list of tickets: one for every packet that waits, in
the order in which the packets were pushed, and each with a stopwatch that runs
while the queue is not paused.  `Totals` says what the counters are, `Tables` what
the round-robin tables hold.  Both speak about the tickets only, so that they also
hold between the steps of an operation, when the streams are no longer what they
were and the tables are not yet what they will be.
-/

namespace MaeRtc.Pacing

open Base Std

/-- A packet that waits, its place in the order of all packets pushed, and how long
it has waited. -/
structure Ticket where
  number : Nat
  packet : RtpPacketToSend
  waited : Int
  deriving DecidableEq, Repr

variable {ssrc : Ssrc} {level : PrioLevel}

namespace Ticket

def prioLevel (ticket : Ticket) : Option PrioLevel :=
  ticket.packet.packetType.map getPriorityForType

/-- The packet waits in the queue of this SSRC, at this level. -/
def isAt (ssrc : Ssrc) (level : PrioLevel) (ticket : Ticket) : Bool :=
  ticket.packet.ssrc = ssrc ∧ ticket.prioLevel = some level

theorem isAt_iff {ticket : Ticket} :
    ticket.isAt ssrc level = true ↔ ticket.packet.ssrc = ssrc ∧ ticket.prioLevel = some level := by
  rw [isAt, decide_eq_true_iff]

theorem isAt_own {ticket : Ticket} {packetType : RtpPacketMediaType}
    (known : ticket.packet.packetType = some packetType) :
    ticket.isAt ticket.packet.ssrc (getPriorityForType packetType) = true :=
  isAt_iff.mpr ⟨rfl, congrArg _ known⟩

theorem isAt_unique {ticket : Ticket} {other : Ssrc} {otherLevel : PrioLevel}
    (one : ticket.isAt ssrc level = true) (two : ticket.isAt other otherLevel = true) :
    ssrc = other ∧ level = otherLevel := by
  obtain ⟨rfl, isLevel⟩ := isAt_iff.mp one
  obtain ⟨rfl, isOther⟩ := isAt_iff.mp two
  exact ⟨rfl, Option.some.inj (isLevel.symm.trans isOther)⟩

def isOfType (packetType : RtpPacketMediaType) (ticket : Ticket) : Bool :=
  ticket.packet.packetType = some packetType

def size (ticket : Ticket) : Int :=
  ticket.packet.payloadSize + ticket.packet.paddingSize

def wait (elapsed : Int) (ticket : Ticket) : Ticket :=
  { ticket with waited := ticket.waited + elapsed }

def isKeyFrameOf (ssrc : Ssrc) (ticket : Ticket) : Bool :=
  ticket.packet.isKeyFrame && ticket.packet.ssrc = ssrc

end Ticket

/-- The packets were pushed one after the other. -/
def Ordered (waiting : List Ticket) : Prop :=
  waiting.Pairwise fun one two => one.number < two.number

theorem Ordered.of_sublist {some all : List Ticket} (ordered : Ordered all)
    (sublist : some.Sublist all) : Ordered some :=
  List.Pairwise.sublist sublist ordered

section

variable {front back : List Ticket} {ticket : Ticket} (ordered : Ordered (front ++ ticket :: back))
include ordered

theorem Ordered.number_ne : ∀ other ∈ front ++ back, other.number ≠ ticket.number := by
  intro other member
  obtain ⟨_, later, between⟩ := List.pairwise_append.mp ordered
  rcases List.mem_append.mp member with before | after
  · exact (between other before ticket List.mem_cons_self).ne
  · exact ((List.pairwise_cons.mp later).1 other after).ne'

theorem Ordered.filter_number_ne :
    (front ++ ticket :: back).filter (fun other => other.number ≠ ticket.number) =
      front ++ back := by
  have others := ordered.number_ne
  rw [List.filter_append, List.filter_cons_of_neg (by simp), ← List.filter_append]
  exact List.filter_eq_self.mpr fun other member => by simpa using others other member

end

namespace PrioritizedPacketQueue

variable {queue : PrioritizedPacketQueue} {waiting : List Ticket}

def ticket (queue : PrioritizedPacketQueue) (queued : QueuedPacket) : Ticket where
  number := queued.enqueueTimeIterator
  packet := queued.packet
  waited := queue.lastUpdateTime - queued.enqueueTime - queue.pauseTimeSum

/-- What neither totals nor tables are. -/
structure Frame (before after : PrioritizedPacketQueue) : Prop where
  streams : after.streams = before.streams
  lastUpdateTime : after.lastUpdateTime = before.lastUpdateTime
  pauseTimeSum : after.pauseTimeSum = before.pauseTimeSum
  paused : after.paused = before.paused
  nextIterator : after.nextIterator = before.nextIterator
  nextSerial : after.nextSerial = before.nextSerial

theorem Frame.refl (queue : PrioritizedPacketQueue) : Frame queue queue :=
  ⟨rfl, rfl, rfl, rfl, rfl, rfl⟩

theorem Frame.trans {one two three : PrioritizedPacketQueue} (first : Frame one two)
    (second : Frame two three) : Frame one three where
  streams := second.streams.trans first.streams
  lastUpdateTime := second.lastUpdateTime.trans first.lastUpdateTime
  pauseTimeSum := second.pauseTimeSum.trans first.pauseTimeSum
  paused := second.paused.trans first.paused
  nextIterator := second.nextIterator.trans first.nextIterator
  nextSerial := second.nextSerial.trans first.nextSerial

variable {after : PrioritizedPacketQueue}

theorem Frame.ticket {before : PrioritizedPacketQueue} (frame : Frame before after) :
    after.ticket = before.ticket := by
  funext queued
  simp only [PrioritizedPacketQueue.ticket, frame.lastUpdateTime, frame.pauseTimeSum]

/-! ## Totals -/

/-- The counters are the totals over the waiting packets. -/
structure Totals (queue : PrioritizedPacketQueue) (waiting : List Ticket) : Prop where
  packets : queue.sizePackets = waiting.length
  perMediaType : ∀ packetType, queue.sizePacketsPerMediaType packetType =
    waiting.countP (Ticket.isOfType packetType)
  payload : queue.sizePayload = (waiting.map Ticket.size).sum
  queueTime : queue.queueTimeSum = (waiting.map Ticket.waited).sum
  iterators : queue.enqueueTimes.map Prod.fst = waiting.map Ticket.number
  ordered : Ordered waiting

/-- The packet leaves the totals, and nothing else changes. -/
theorem Totals.dequeuePacketInternal_ensures {front back : List Ticket} {queued : QueuedPacket}
    (totals : queue.Totals (front ++ queue.ticket queued :: back)) {packetType : RtpPacketMediaType}
    (known : queued.packet.packetType = some packetType) :
    Ensures (queue.dequeuePacketInternal queued) fun result =>
      result.2.Totals (front ++ back) ∧ Frame queue result.2 ∧
      result.2.streamsByPrio = queue.streamsByPrio ∧
      result.2.topActivePrioLevel = queue.topActivePrioLevel ∧
      result.1 = { queued with
        packet.timeInSendQueue := some (queue.ticket queued).waited } := by
  have packets : queue.sizePackets - 1 = (front ++ back).length := by
    rw [totals.packets]
    simp only [List.length_append, List.length_cons]
    push_cast
    ring
  have ofType : (queue.ticket queued).isOfType packetType = true := by
    simp [Ticket.isOfType, ticket, known]
  have perMediaType : ∀ other, (Function.update queue.sizePacketsPerMediaType packetType
      (queue.sizePacketsPerMediaType packetType - 1)) other =
        ((front ++ back).countP (Ticket.isOfType other) : Int) := by
    intro other
    have total := totals.perMediaType other
    simp only [List.countP_append, List.countP_cons] at total ⊢
    by_cases same : other = packetType
    · subst same
      rw [if_pos ofType] at total
      rw [Function.update_self, total]
      push_cast
      ring
    · have notOfType : (queue.ticket queued).isOfType other = false := by
        simpa [Ticket.isOfType, ticket, known] using fun equal => same equal.symm
      rw [notOfType] at total
      rw [Function.update_of_ne same, total]
      simp
  have queueTime : queue.queueTimeSum - (queue.ticket queued).waited =
      ((front ++ back).map Ticket.waited).sum := by
    rw [totals.queueTime]
    simp only [List.map_append, List.map_cons, List.sum_append, List.sum_cons]
    ring
  have found : (queue.enqueueTimes.any
      fun node => node.1 = queued.enqueueTimeIterator) = true := by
    have member : queued.enqueueTimeIterator ∈ queue.enqueueTimes.map Prod.fst := by
      rw [totals.iterators]
      exact List.mem_map.mpr ⟨queue.ticket queued, by simp, rfl⟩
    obtain ⟨node, nodeMember, same⟩ := List.mem_map.mp member
    exact List.any_eq_true.mpr ⟨node, nodeMember, decide_eq_true same⟩
  have noTime : 0 < queue.sizePackets - 1 ∨
      queue.queueTimeSum - (queue.ticket queued).waited = 0 := by
    rw [packets, queueTime]
    cases front ++ back with
    | nil => right; rfl
    | cons first rest => left; simp only [List.length_cons]; omega
  have iterators : (queue.enqueueTimes.filter
      fun node => node.1 ≠ queued.enqueueTimeIterator).map Prod.fst =
        (front ++ back).map Ticket.number := by
    have listed := congrArg (List.filter fun number => number ≠ queued.enqueueTimeIterator)
      totals.iterators
    rw [List.filter_map, List.filter_map] at listed
    refine listed.trans ?_
    rw [← totals.ordered.filter_number_ne]
    rfl
  unfold dequeuePacketInternal
  rw [known]
  refine .bind (.check (decide_eq_true ?_)) fun _ _ =>
    .bind (.check (decide_eq_true noTime)) fun _ _ => .bind (.check found) fun _ _ =>
    .ok ⟨⟨packets, perMediaType, ?_, queueTime, iterators, ?_⟩, ⟨rfl, rfl, rfl, rfl, rfl, rfl⟩,
      rfl, rfl, rfl⟩
  · rw [perMediaType packetType]
    exact Int.natCast_nonneg _
  · change queue.sizePayload - (queue.ticket queued).size = _
    rw [totals.payload]
    simp only [List.map_append, List.map_cons, List.sum_append, List.sum_cons]
    ring
  · exact totals.ordered.of_sublist
      ((List.sublist_cons_self _ _).append_left front)

/-- A part of the waiting packets, taken out one by one. -/
theorem Totals.dequeueEach_ensures {part : Ticket → Bool} {packets : List QueuedPacket}
    (totals : queue.Totals waiting) (listed : packets.map queue.ticket = waiting.filter part)
    (known : ∀ ticket ∈ waiting, ∃ packetType, ticket.packet.packetType = some packetType) :
    Ensures (queue.dequeueEach packets) fun result =>
      result.Totals (waiting.filter fun ticket => !part ticket) ∧ Frame queue result ∧
      result.streamsByPrio = queue.streamsByPrio ∧
      result.topActivePrioLevel = queue.topActivePrioLevel := by
  induction packets generalizing queue waiting with
  | nil =>
    have none : waiting.filter (fun ticket => !part ticket) = waiting := by
      refine List.filter_eq_self.mpr fun ticket member => ?_
      simpa using List.filter_eq_nil_iff.mp listed.symm ticket member
    exact .ok ⟨none.symm ▸ totals, .refl queue, rfl, rfl⟩
  | cons packet rest ih =>
    obtain ⟨front, back, rfl, notBefore, belongs, remaining⟩ :=
      List.filter_eq_cons_iff.mp listed.symm
    have frontNone : front.filter part = [] := List.filter_eq_nil_iff.mpr notBefore
    obtain ⟨packetType, isType⟩ := known (queue.ticket packet) (by simp)
    refine .bind (totals.dequeuePacketInternal_ensures isType) ?_
    rintro ⟨_, middle⟩ ⟨middleTotals, frame, tables, top, _⟩
    refine (ih middleTotals ?_ ?_).weaken ?_
    · rw [frame.ticket, List.filter_append, frontNone, List.nil_append]
      exact remaining.symm
    · intro ticket member
      refine known ticket ?_
      simp only [List.mem_append] at member ⊢
      tauto
    · rintro result ⟨resultTotals, resultFrame, resultTables, resultTop⟩
      refine ⟨?_, frame.trans resultFrame, resultTables.trans tables, resultTop.trans top⟩
      rw [List.filter_append, List.filter_cons_of_neg (by simp [belongs]), ← List.filter_append]
      exact resultTotals

/-- The time that packets have waited since the last update. -/
def elapsed (queue : PrioritizedPacketQueue) (now : Int) : Int :=
  if queue.paused then 0 else now - queue.lastUpdateTime

/-- The queue after an update of the queue time. -/
def advance (now : Int) (queue : PrioritizedPacketQueue) : PrioritizedPacketQueue :=
  { queue with
    lastUpdateTime := now
    pauseTimeSum := queue.pauseTimeSum + (now - queue.lastUpdateTime) - queue.elapsed now
    queueTimeSum := queue.queueTimeSum + queue.elapsed now * queue.sizePackets }

theorem updateAverageQueueTime_eq {now : Int} (later : queue.lastUpdateTime ≤ now) :
    queue.updateAverageQueueTime now = .ok (queue.advance now) := by
  unfold updateAverageQueueTime advance elapsed check
  rw [if_pos (decide_eq_true later)]
  by_cases same : now = queue.lastUpdateTime
  · subst same
    simp [bind, Except.bind]
  · cases paused : queue.paused <;> simp [bind, Except.bind, same]

/-- The stopwatches of all tickets run at the same pace. -/
theorem ticket_advance (now : Int) (queue : PrioritizedPacketQueue) :
    (queue.advance now).ticket = fun queued =>
      (queue.ticket queued).wait (queue.elapsed now) := by
  funext queued
  simp only [ticket, advance, Ticket.wait, Ticket.mk.injEq, true_and]
  ring

/-- Waiting changes no total but the queue time. -/
theorem Totals.advance (totals : queue.Totals waiting) (now : Int) :
    (queue.advance now).Totals (waiting.map (Ticket.wait (queue.elapsed now))) where
  packets := by
    rw [List.length_map]
    exact totals.packets
  perMediaType packetType := by
    rw [List.countP_map]
    exact totals.perMediaType packetType
  payload := by
    rw [List.map_map]
    exact totals.payload
  queueTime := by
    have sum : (waiting.map fun ticket => ticket.waited + queue.elapsed now).sum =
        (waiting.map Ticket.waited).sum + queue.elapsed now * waiting.length := by
      simp [mul_comm]
    rw [List.map_map]
    refine Eq.trans ?_ sum.symm
    rw [← totals.queueTime, ← totals.packets]
    rfl
  iterators := by
    rw [List.map_map]
    exact totals.iterators
  ordered := List.pairwise_map.mpr totals.ordered

/-! ## Tables -/

theorem firstActive_eq_some_iff {tables : PrioLevel → List StreamPointer} :
    firstActive tables = some level ↔ tables level ≠ [] ∧ ∀ lower < level, tables lower = [] := by
  have active : (fun level => !(tables level).isEmpty) =
      fun level => decide (tables level ≠ []) := by
    funext other
    cases tables other <;> rfl
  rw [firstActive, active, OrderedMap.find?_eq_some_iff_of_pairwise (List.pairwise_lt_finRange _)]
  simp only [List.mem_finRange, true_and, forall_const]
  refine and_congr_right fun _ => forall_congr' fun lower => ?_
  constructor
  · intro least isLower
    by_contra holds
    exact (least holds).not_gt isLower
  · intro empty holds
    by_contra isLower
    exact holds (empty (lt_of_not_ge isLower))

theorem firstActive_eq_none_iff {tables : PrioLevel → List StreamPointer} :
    firstActive tables = none ↔ ∀ level, tables level = [] := by
  simp [firstActive]

/-- Only the empty tables matter. -/
theorem firstActive_congr {one two : PrioLevel → List StreamPointer}
    (same : ∀ level, one level = [] ↔ two level = []) : firstActive one = firstActive two := by
  unfold firstActive
  congr 1
  funext level
  rw [Bool.eq_iff_iff, Bool.not_eq_true', Bool.not_eq_true', List.isEmpty_eq_false_iff,
    List.isEmpty_eq_false_iff, not_iff_not]
  exact same level

/-- One more table is in use. -/
theorem firstActive_of_added {before after : PrioLevel → List StreamPointer} {added : PrioLevel}
    (empty : ∀ level, after level = [] ↔ before level = [] ∧ level ≠ added) :
    firstActive after = match firstActive before with
      | none => some added
      | some top => if added < top then some added else some top := by
  have inUse : after added ≠ [] := fun none => ((empty added).mp none).2 rfl
  cases active : firstActive before with
  | none =>
    have all := firstActive_eq_none_iff.mp active
    exact firstActive_eq_some_iff.mpr
      ⟨inUse, fun lower isLower => (empty lower).mpr ⟨all lower, isLower.ne⟩⟩
  | some top =>
    obtain ⟨holds, below⟩ := firstActive_eq_some_iff.mp active
    dsimp only
    split_ifs with above
    · exact firstActive_eq_some_iff.mpr ⟨inUse, fun lower isLower =>
        (empty lower).mpr ⟨below lower (isLower.trans above), isLower.ne⟩⟩
    · refine firstActive_eq_some_iff.mpr ⟨fun none => holds ((empty top).mp none).1,
        fun lower isLower => (empty lower).mpr ⟨below lower isLower, ?_⟩⟩
      rintro rfl
      exact above isLower

/-- The level is brought up to date after a table at or below it has lost a queue. -/
theorem maybeUpdateTopPrioLevel_ensures {top : PrioLevel}
    (active : queue.topActivePrioLevel = some top)
    (below : ∀ level < top, queue.streamsByPrio level = [])
    (empty : queue.sizePackets = 0 ↔ ∀ level, queue.streamsByPrio level = []) :
    Ensures queue.maybeUpdateTopPrioLevel fun result =>
      result = { queue with topActivePrioLevel := firstActive queue.streamsByPrio } := by
  unfold maybeUpdateTopPrioLevel
  rw [active]
  dsimp only
  by_cases emptied : queue.streamsByPrio top = []
  · rw [if_pos (by rw [emptied]; rfl)]
    refine .ite (fun none => ?_) fun none => ?_
    · refine .ok ?_
      rw [firstActive_eq_none_iff.mpr (empty.mp none)]
    · cases first : firstActive queue.streamsByPrio with
      | none => exact absurd (empty.mpr (firstActive_eq_none_iff.mp first)) none
      | some level => exact .ok rfl
  · rw [if_neg (by simpa using emptied)]
    refine .ok ?_
    rw [firstActive_eq_some_iff.mpr ⟨emptied, below⟩, ← active]

/-- A pointer to a stream queue that exists. -/
def Live (queue : PrioritizedPacketQueue) (pointer : StreamPointer) : Prop :=
  ∃ stream, queue.streams[pointer.ssrc]? = some stream ∧ stream.serial = pointer.serial

/-- One live object stands for an SSRC. -/
theorem Live.eq_of_ssrc {one two : StreamPointer} (oneLive : queue.Live one)
    (twoLive : queue.Live two) (same : one.ssrc = two.ssrc) : one = two := by
  obtain ⟨oneStream, oneFound, oneSerial⟩ := oneLive
  obtain ⟨twoStream, twoFound, twoSerial⟩ := twoLive
  rw [same, twoFound] at oneFound
  cases oneFound
  cases one
  cases two
  simp_all

/-- The SSRCs of live objects have stream queues. -/
theorem exists_of_live (live : ∀ pointer, after.Live pointer ↔ queue.Live pointer)
    (hosted : ∃ stream, queue.streams[ssrc]? = some stream) :
    ∃ stream, after.streams[ssrc]? = some stream := by
  obtain ⟨stream, found⟩ := hosted
  obtain ⟨kept, keptFound, _⟩ := (live ⟨ssrc, stream.serial⟩).mpr ⟨stream, found, rfl⟩
  exact ⟨kept, keptFound⟩

/-- The tables list the stream queues that packets wait in. -/
structure Registered (queue : PrioritizedPacketQueue) (waiting : List Ticket) : Prop where
  nodup : ∀ level, (queue.streamsByPrio level).Nodup
  listed : ∀ level pointer, pointer ∈ queue.streamsByPrio level ↔
    queue.Live pointer ∧ ∃ ticket ∈ waiting, ticket.isAt pointer.ssrc level = true
  hosted : ∀ ticket ∈ waiting, ∃ stream, queue.streams[ticket.packet.ssrc]? = some stream
  known : ∀ ticket ∈ waiting, ∃ packetType, ticket.packet.packetType = some packetType

namespace Registered

variable (registered : queue.Registered waiting)
include registered

/-- A packet waits where the table of its level says so. -/
theorem exists_pointer {ticket : Ticket} (member : ticket ∈ waiting) :
    ∃ level pointer, ticket.isAt pointer.ssrc level = true ∧
      pointer ∈ queue.streamsByPrio level := by
  obtain ⟨packetType, known⟩ := registered.known ticket member
  obtain ⟨stream, found⟩ := registered.hosted ticket member
  have isAt := Ticket.isAt_own known
  exact ⟨_, ⟨_, stream.serial⟩, isAt,
    (registered.listed _ _).mpr ⟨⟨stream, found, rfl⟩, ticket, member, isAt⟩⟩

theorem eq_nil_iff : waiting = [] ↔ ∀ level, queue.streamsByPrio level = [] := by
  constructor
  · rintro rfl level
    refine List.eq_nil_iff_forall_not_mem.mpr fun pointer member => ?_
    obtain ⟨_, _, none, _⟩ := (registered.listed level pointer).mp member
    cases none
  · intro empty
    refine List.eq_nil_iff_forall_not_mem.mpr fun ticket member => ?_
    obtain ⟨level, pointer, _, listed⟩ := registered.exists_pointer member
    rw [empty level] at listed
    cases listed

theorem sizePackets_eq_zero_iff (totals : queue.Totals waiting) :
    queue.sizePackets = 0 ↔ ∀ level, queue.streamsByPrio level = [] := by
  rw [totals.packets, ← registered.eq_nil_iff, Int.natCast_eq_zero, List.length_eq_zero_iff]

/-- Packets of one stream queue leave one level; the queue stays listed if others wait. -/
theorem leave {remaining : List Ticket} {pointer : StreamPointer}
    (isRegistered : pointer ∈ queue.streamsByPrio level)
    (remain : ∀ ticket ∈ remaining, ticket ∈ waiting)
    (left : ∀ ticket ∈ waiting, ¬ ticket.isAt pointer.ssrc level = true → ticket ∈ remaining)
    (live : ∀ other, after.Live other ↔ queue.Live other)
    (elsewhere : ∀ other ≠ level, after.streamsByPrio other = queue.streamsByPrio other)
    (nodup : (after.streamsByPrio level).Nodup)
    (members : ∀ other, other ∈ after.streamsByPrio level ↔ other ∈ queue.streamsByPrio level ∧
      (other = pointer → ∃ ticket ∈ remaining, ticket.isAt pointer.ssrc level = true)) :
    after.Registered remaining where
  nodup other := by
    by_cases here : other = level
    · rw [here]
      exact nodup
    · rw [elsewhere other here]
      exact registered.nodup other
  listed other candidate := by
    rw [live candidate]
    have stay : ¬ (candidate.ssrc = pointer.ssrc ∧ other = level) →
        ((∃ ticket ∈ remaining, ticket.isAt candidate.ssrc other = true) ↔
          ∃ ticket ∈ waiting, ticket.isAt candidate.ssrc other = true) := by
      intro different
      constructor
      · rintro ⟨ticket, member, isAt⟩
        exact ⟨ticket, remain ticket member, isAt⟩
      · rintro ⟨ticket, member, isAt⟩
        refine ⟨ticket, left ticket member fun isThere => different ?_, isAt⟩
        exact Ticket.isAt_unique isAt isThere
    by_cases here : other = level
    · subst here
      rw [members candidate]
      by_cases same : candidate = pointer
      · subst same
        simp only [isRegistered, ((registered.listed _ _).mp isRegistered).1, forall_const]
      · simp only [same, false_implies, and_true]
        rw [registered.listed]
        refine and_congr_right fun candidateLive => ?_
        rw [stay fun both => same (candidateLive.eq_of_ssrc
          ((registered.listed _ _).mp isRegistered).1 both.1)]
    · rw [elsewhere other here, registered.listed, stay fun both => here both.2]
  hosted ticket member := exists_of_live live (registered.hosted ticket (remain ticket member))
  known ticket member := registered.known ticket (remain ticket member)

end Registered

/-- The level to serve is the lowest one whose table is not empty. -/
structure Tables (queue : PrioritizedPacketQueue) (waiting : List Ticket) : Prop
    extends Registered queue waiting where
  top : queue.topActivePrioLevel = firstActive queue.streamsByPrio

/-- Where packets wait, the level to serve is known, and they wait at it or above. -/
theorem Tables.exists_top (tables : queue.Tables waiting) (some : waiting ≠ []) :
    ∃ top, queue.topActivePrioLevel = .some top ∧ queue.streamsByPrio top ≠ [] ∧
      ∀ level < top, queue.streamsByPrio level = [] := by
  cases active : queue.topActivePrioLevel with
  | none =>
    rw [tables.top, firstActive_eq_none_iff, ← tables.eq_nil_iff] at active
    exact absurd active some
  | some top =>
    rw [tables.top, firstActive_eq_some_iff] at active
    exact ⟨top, rfl, active⟩

/-- A stream queue leaves one table, and the level to serve follows. -/
theorem deregister_ensures (pointer : StreamPointer) (level : PrioLevel)
    (nodup : (queue.streamsByPrio level).Nodup) (member : pointer ∈ queue.streamsByPrio level)
    (top : queue.topActivePrioLevel = firstActive queue.streamsByPrio)
    (empty : queue.sizePackets = 0 ↔ ∀ other, Function.update queue.streamsByPrio level
      ((queue.streamsByPrio level).filter fun other => other ≠ pointer) other = []) :
    Ensures (queue.deregister pointer level) fun result =>
      ∃ tables, tables = Function.update queue.streamsByPrio level
          ((queue.streamsByPrio level).filter fun other => other ≠ pointer) ∧
        result = { queue with
          streamsByPrio := tables
          topActivePrioLevel := firstActive tables } := by
  unfold deregister
  split
  next none =>
    rw [none] at member
    cases member
  next only single =>
    rw [single] at member empty
    obtain rfl := List.mem_singleton.mp member
    have emptied : [pointer].filter (fun other => decide (other ≠ pointer)) = [] := by simp
    rw [emptied] at empty
    refine .bind (.check (decide_eq_true rfl)) fun _ _ => ?_
    rw [single, emptied]
    refine .ite (fun serves => ?_) fun serves => ?_
    · obtain ⟨_, below⟩ := firstActive_eq_some_iff.mp (top.symm.trans serves)
      have belowAfter : ∀ lower < level,
          Function.update queue.streamsByPrio level [] lower = [] := by
        intro lower isLower
        rw [Function.update_of_ne isLower.ne, below lower isLower]
      let after : PrioritizedPacketQueue :=
        { queue with streamsByPrio := Function.update queue.streamsByPrio level [] }
      have updated : Ensures after.maybeUpdateTopPrioLevel fun result =>
          result = { after with topActivePrioLevel := firstActive after.streamsByPrio } :=
        maybeUpdateTopPrioLevel_ensures serves belowAfter empty
      exact updated.weaken fun result same => ⟨_, rfl, same⟩
    · refine .ok ⟨_, rfl, ?_⟩
      -- the level that is served is another one, and keeps its table
      have kept : firstActive (Function.update queue.streamsByPrio level []) =
          firstActive queue.streamsByPrio := by
        cases active : firstActive queue.streamsByPrio with
        | none =>
          have all := firstActive_eq_none_iff.mp active level
          rw [single] at all
          cases all
        | some served =>
          have other : served ≠ level := by
            rintro rfl
            exact serves (top.trans active)
          obtain ⟨holds, below⟩ := firstActive_eq_some_iff.mp active
          refine firstActive_eq_some_iff.mpr ⟨?_, fun lower isLower => ?_⟩
          · rwa [Function.update_of_ne other]
          · by_cases same : lower = level
            · rw [same, Function.update_self]
            · rw [Function.update_of_ne same, below lower isLower]
      rw [kept, ← top]
  next several notNone notSingle =>
    refine .ok ⟨_, rfl, ?_⟩
    have same : firstActive queue.streamsByPrio = firstActive (Function.update
        queue.streamsByPrio level
        ((queue.streamsByPrio level).filter fun other => other ≠ pointer)) := by
      refine firstActive_congr fun other => ?_
      by_cases here : other = level
      · subst here
        rw [Function.update_self]
        -- of two different queues one stays
        match tableEq : queue.streamsByPrio other with
        | [] => exact absurd tableEq notNone
        | [only] => exact absurd tableEq (notSingle only)
        | one :: two :: rest =>
          rw [tableEq] at nodup
          have different : one ≠ two := by
            rintro rfl
            simp at nodup
          simp only [List.cons_ne_nil, false_iff, List.filter_eq_nil_iff]
          intro allEqual
          have oneEq := allEqual one (by simp)
          have twoEq := allEqual two (by simp)
          simp only [ne_eq, decide_not, Bool.not_eq_true', decide_eq_false_iff_not,
            not_not] at oneEq twoEq
          exact different (oneEq.trans twoEq.symm)
      · rw [Function.update_of_ne here]
    rw [← same, ← top]

end PrioritizedPacketQueue

end MaeRtc.Pacing
