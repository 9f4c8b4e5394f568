import MaeRtc.Pacing.PacketQueueConsistency

/-!
# Runs of the packet queue

The queue runs beside a list of tickets that knows nothing of it: a push appends a
ticket, a pop takes away the ticket of the packet that was returned, a removal
those of its SSRC, and while the queue is not paused the stopwatches of all tickets
run.  After every operation of every run the queue holds the packets of the
tickets, and its summaries are right.
-/

namespace MaeRtc.Pacing

open Base Std

/-- What happened to the packets, which are numbered in the order of their pushes. -/
inductive PacketEvent where
  | pushed (number : Nat) (packet : RtpPacketToSend)
  | popped (number : Nat) (packet : RtpPacketToSend)
  | removed (ssrc : Ssrc) (numbers : List Nat)
  deriving DecidableEq, Repr

/-- The queue, the tickets of the packets that wait, and what happened so far. -/
structure Watched where
  queue : PrioritizedPacketQueue
  waiting : List Ticket := []
  clock : Int
  paused : Bool := false
  pushes : Nat := 0
  log : List PacketEvent := []
  fault : Option Violation := none

namespace Watched

def start (creationTime : Int) : Watched where
  queue := .new creationTime
  clock := creationTime

/-- All stopwatches run until `now`, unless the queue is paused. -/
def waitUntil (state : Watched) (now : Int) : List Ticket :=
  state.waiting.map (Ticket.wait (if state.paused then 0 else now - state.clock))

end Watched

inductive PacketCall where
  | push (enqueueTime : Int) (packet : RtpPacketToSend)
  | pop
  | removePacketsForSsrc (ssrc : Ssrc)
  | setPauseState (paused : Bool) (now : Int)
  | updateAverageQueueTime (now : Int)
  deriving DecidableEq, Repr

/-- Times do not decrease, and the pacer has checked that each packet has a type. -/
def watch : Machine Watched PacketCall where
  pre state call := match call with
    | .push enqueueTime packet =>
      state.clock ≤ enqueueTime ∧ packet.packetType.isSome = true
    | .setPauseState _ now | .updateAverageQueueTime now => state.clock ≤ now
    | .pop | .removePacketsForSsrc _ => True
  next state call := match call with
    | .push enqueueTime packet =>
      match state.queue.push enqueueTime packet with
      | .error violation => { state with fault := some violation }
      | .ok queue => { state with
          queue := queue
          waiting := state.waitUntil enqueueTime ++ [⟨state.pushes, packet, 0⟩]
          clock := enqueueTime
          pushes := state.pushes + 1
          log := state.log ++ [.pushed state.pushes packet] }
    | .pop =>
      match state.queue.pop with
      | .error violation => { state with fault := some violation }
      | .ok (none, queue) => { state with queue := queue }
      | .ok (some queued, queue) => { state with
          queue := queue
          waiting := state.waiting.filter fun ticket =>
            ticket.number ≠ queued.enqueueTimeIterator
          log := state.log ++ [.popped queued.enqueueTimeIterator queued.packet] }
    | .removePacketsForSsrc ssrc =>
      match state.queue.removePacketsForSsrc ssrc with
      | .error violation => { state with fault := some violation }
      | .ok queue => { state with
          queue := queue
          waiting := state.waiting.filter fun ticket => ticket.packet.ssrc ≠ ssrc
          log := state.log ++ [.removed ssrc ((state.waiting.filter fun ticket =>
            ticket.packet.ssrc = ssrc).map Ticket.number)] }
    | .setPauseState paused now =>
      match state.queue.setPauseState paused now with
      | .error violation => { state with fault := some violation }
      | .ok queue => { state with
          queue := queue
          waiting := state.waitUntil now
          clock := now
          paused := paused }
    | .updateAverageQueueTime now =>
      match state.queue.updateAverageQueueTime now with
      | .error violation => { state with fault := some violation }
      | .ok queue => { state with
          queue := queue
          waiting := state.waitUntil now
          clock := now }

instance (state : Watched) (call : PacketCall) : Decidable (watch.pre state call) :=
  match call with
  | .push _ _ => inferInstanceAs (Decidable (_ ∧ _))
  | .setPauseState _ _ => inferInstanceAs (Decidable (_ ≤ _))
  | .updateAverageQueueTime _ => inferInstanceAs (Decidable (_ ≤ _))
  | .pop => isTrue trivial
  | .removePacketsForSsrc _ => isTrue trivial

namespace Watched

/-- The queue is that of the tickets, and nothing has failed. -/
structure InStep (state : Watched) : Prop where
  sound : state.queue.Sound state.waiting
  lastUpdateTime : state.queue.lastUpdateTime = state.clock
  paused : state.queue.paused = state.paused
  nextIterator : state.queue.nextIterator = state.pushes
  noFault : state.fault = none

variable {state : Watched}

theorem InStep.elapsed (inStep : state.InStep) (now : Int) :
    state.waitUntil now = state.waiting.map (Ticket.wait (state.queue.elapsed now)) := by
  rw [waitUntil, PrioritizedPacketQueue.elapsed, inStep.paused, inStep.lastUpdateTime]

theorem inStep_start (creationTime : Int) : (start creationTime).InStep :=
  ⟨PrioritizedPacketQueue.sound_new creationTime, rfl, rfl, rfl, rfl⟩

/-! ## One step -/

theorem inStep_of_next {call : PacketCall} {after : Watched} (next : watch.next state call = after)
    (inStep : after.InStep) :
    watch.next state call = after ∧ (watch.next state call).InStep :=
  ⟨next, next ▸ inStep⟩

section

variable (inStep : state.InStep)
include inStep

theorem InStep.next_push {enqueueTime : Int} {packet : RtpPacketToSend}
    (admissible : watch.pre state (.push enqueueTime packet)) :
    ∃ queue, (∀ level, ∃ added, queue.streamsByPrio level =
        state.queue.streamsByPrio level ++ added) ∧
      watch.next state (.push enqueueTime packet) = { state with
        queue := queue
        waiting := state.waitUntil enqueueTime ++ [⟨state.pushes, packet, 0⟩]
        clock := enqueueTime
        pushes := state.pushes + 1
        log := state.log ++ [.pushed state.pushes packet] } ∧
      (watch.next state (.push enqueueTime packet)).InStep := by
  obtain ⟨queue, returned, sound, tables, lastUpdateTime, paused, nextIterator⟩ :=
    inStep.sound.push_ensures (inStep.lastUpdateTime.trans_le admissible.1) admissible.2
  refine ⟨queue, tables, inStep_of_next (by simp only [watch, returned]) ?_⟩
  refine ⟨?_, lastUpdateTime, paused.trans inStep.paused, ?_, inStep.noFault⟩
  · rw [inStep.elapsed, ← inStep.nextIterator]
    exact sound
  · rw [nextIterator, inStep.nextIterator]

theorem InStep.next_pop :
    (state.waiting = [] ∧ watch.next state .pop = state) ∨
    ∃ queued queue, Nonempty (state.queue.Serves state.waiting queued queue) ∧
      watch.next state .pop = { state with
        queue := queue
        waiting := state.waiting.filter fun ticket =>
          ticket.number ≠ queued.enqueueTimeIterator
        log := state.log ++ [.popped queued.enqueueTimeIterator queued.packet] } ∧
      (watch.next state .pop).InStep := by
  obtain ⟨⟨popped, queue⟩, returned, ⟨none, isNone⟩ | ⟨queued, isSome, ⟨serves⟩, sound⟩⟩ :=
    inStep.sound.pop_ensures
  · cases isNone
    exact .inl ⟨none, by simp only [watch, returned]⟩
  · subst isSome
    refine .inr ⟨queued, queue, ⟨serves⟩, inStep_of_next (by simp only [watch, returned]) ?_⟩
    exact ⟨sound, serves.lastUpdateTime.trans inStep.lastUpdateTime,
      serves.paused.trans inStep.paused, serves.nextIterator.trans inStep.nextIterator,
      inStep.noFault⟩

theorem InStep.next_removePacketsForSsrc (ssrc : Ssrc) :
    ∃ queue, (∀ level, queue.streamsByPrio level =
        (state.queue.streamsByPrio level).filter fun pointer => pointer.ssrc ≠ ssrc) ∧
      watch.next state (.removePacketsForSsrc ssrc) = { state with
        queue := queue
        waiting := state.waiting.filter fun ticket => ticket.packet.ssrc ≠ ssrc
        log := state.log ++ [.removed ssrc ((state.waiting.filter fun ticket =>
          ticket.packet.ssrc = ssrc).map Ticket.number)] } ∧
      (watch.next state (.removePacketsForSsrc ssrc)).InStep := by
  obtain ⟨queue, returned, sound, tables, lastUpdateTime, paused, nextIterator⟩ :=
    inStep.sound.removePacketsForSsrc_ensures ssrc
  refine ⟨queue, tables, inStep_of_next (by simp only [watch, returned]) ?_⟩
  exact ⟨sound, lastUpdateTime.trans inStep.lastUpdateTime, paused.trans inStep.paused,
    nextIterator.trans inStep.nextIterator, inStep.noFault⟩

theorem InStep.next_setPauseState {paused : Bool} {now : Int} (later : state.clock ≤ now) :
    watch.next state (.setPauseState paused now) = { state with
        queue := { state.queue.advance now with paused := paused }
        waiting := state.waitUntil now
        clock := now
        paused := paused } ∧
      (watch.next state (.setPauseState paused now)).InStep := by
  have returned : state.queue.setPauseState paused now =
      .ok { state.queue.advance now with paused := paused } := by
    rw [PrioritizedPacketQueue.setPauseState, PrioritizedPacketQueue.updateAverageQueueTime_eq
      (inStep.lastUpdateTime.trans_le later)]
    rfl
  refine inStep_of_next (by simp only [watch, returned]) ⟨?_, rfl, rfl, inStep.nextIterator, inStep.noFault⟩
  rw [inStep.elapsed]
  exact (inStep.sound.advance now).setPaused paused

theorem InStep.next_updateAverageQueueTime {now : Int} (later : state.clock ≤ now) :
    watch.next state (.updateAverageQueueTime now) = { state with
        queue := state.queue.advance now
        waiting := state.waitUntil now
        clock := now } ∧
      (watch.next state (.updateAverageQueueTime now)).InStep := by
  have returned := PrioritizedPacketQueue.updateAverageQueueTime_eq
    (inStep.lastUpdateTime.trans_le later)
  refine inStep_of_next (by simp only [watch, returned]) ⟨?_, rfl, inStep.paused, inStep.nextIterator, inStep.noFault⟩
  rw [inStep.elapsed]
  exact inStep.sound.advance now

/-- Every operation keeps the queue in step with the tickets. -/
theorem InStep.next {call : PacketCall} (admissible : watch.pre state call) :
    (watch.next state call).InStep := by
  cases call with
  | push enqueueTime packet =>
    obtain ⟨_, _, _, after⟩ := inStep.next_push admissible
    exact after
  | pop =>
    obtain ⟨_, same⟩ | ⟨_, _, _, _, after⟩ := inStep.next_pop
    · rw [same]
      exact inStep
    · exact after
  | removePacketsForSsrc ssrc =>
    obtain ⟨_, _, _, after⟩ := inStep.next_removePacketsForSsrc ssrc
    exact after
  | setPauseState paused now => exact (inStep.next_setPauseState admissible).2
  | updateAverageQueueTime now => exact (inStep.next_updateAverageQueueTime admissible).2

end

/-! ## Whole runs -/

theorem inStep_of_run {first last : Watched} {calls : List PacketCall}
    (inStep : first.InStep) (run : watch.Run first calls last) : last.InStep :=
  run.invariant (fun _ state => state.InStep) inStep
    fun _ _ _ _ holds admissible => holds.next admissible

end Watched

open PrioritizedPacketQueue in
/--
After every operation of every run no assertion has failed; the tables list, each
once, the live stream queues with packets at their level; the level to serve is the
lowest with such a queue; and the counters are the totals over the waiting packets,
the queue time being what they have waited while the queue was not paused.  The
waiting packets are those the stream queues hold.
-/
theorem summaries_agree_of_run (creationTime : Int) (calls : List PacketCall) (last : Watched)
    (run : watch.Run (.start creationTime) calls last) :
    last.fault = none ∧
    (∀ level, (last.queue.streamsByPrio level).Nodup ∧
      ∀ pointer, pointer ∈ last.queue.streamsByPrio level ↔
        ∃ stream : StreamQueue, last.queue.streams[pointer.ssrc]? = some stream ∧
          stream.serial = pointer.serial ∧ stream.packets level ≠ []) ∧
    (∀ level, last.queue.topActivePrioLevel = some level ↔
      last.queue.streamsByPrio level ≠ [] ∧ ∀ lower < level, last.queue.streamsByPrio lower = []) ∧
    (last.queue.topActivePrioLevel = none ↔ ∀ level, last.queue.streamsByPrio level = []) ∧
    last.queue.sizePackets = last.waiting.length ∧
    (∀ packetType, last.queue.sizePacketsPerMediaType packetType =
      last.waiting.countP fun ticket => ticket.packet.packetType = some packetType) ∧
    last.queue.sizePayload = (last.waiting.map fun ticket =>
      (ticket.packet.payloadSize + ticket.packet.paddingSize : Int)).sum ∧
    last.queue.queueTimeSum = (last.waiting.map Ticket.waited).sum ∧
    (∀ (ssrc : Ssrc) (stream : StreamQueue), last.queue.streams[ssrc]? = some stream →
      stream.numKeyframePackets = last.waiting.countP fun ticket =>
        ticket.packet.isKeyFrame && ticket.packet.ssrc = ssrc) ∧
    (∀ (ssrc : Ssrc) (stream : StreamQueue), last.queue.streams[ssrc]? = some stream → ∀ level,
      (stream.packets level).map (fun queued => (queued.enqueueTimeIterator, queued.packet)) =
        (last.waiting.filter fun ticket => ticket.packet.ssrc = ssrc ∧
          ticket.packet.packetType.map getPriorityForType = some level).map
          fun ticket => (ticket.number, ticket.packet)) ∧
    ∀ ticket ∈ last.waiting, ∃ stream : StreamQueue,
      last.queue.streams[ticket.packet.ssrc]? = some stream := by
  obtain ⟨sound, _, _, _, noFault⟩ := Watched.inStep_of_run (Watched.inStep_start creationTime) run
  refine ⟨noFault, fun level => ⟨sound.nodup level, fun pointer => ?_⟩, fun level => ?_, ?_,
    sound.packets, sound.perMediaType, sound.payload, sound.queueTime, sound.keyframes,
    fun ssrc stream found level => ?_, sound.hosted⟩
  · rw [sound.listed]
    constructor
    · rintro ⟨⟨stream, found, serial⟩, ticket, member, isAt⟩
      refine ⟨stream, found, serial, fun none => ?_⟩
      exact (sound.packets_eq_nil_iff found level).mp none ticket member isAt
    · rintro ⟨stream, found, serial, holds⟩
      rw [ne_eq, sound.packets_eq_nil_iff found] at holds
      simp only [not_forall, not_not] at holds
      obtain ⟨ticket, member, isAt⟩ := holds
      exact ⟨⟨stream, found, serial⟩, ticket, member, isAt⟩
  · rw [sound.top]
    exact firstActive_eq_some_iff
  · rw [sound.top]
    exact firstActive_eq_none_iff
  · have mirrored := congrArg (List.map fun ticket : Ticket => (ticket.number, ticket.packet))
      (sound.mirrors ssrc stream found level)
    rw [List.map_map] at mirrored
    exact mirrored

def interleavedCalls : List PacketCall :=
  [.push 0 { ssrc := 1, packetType := some .video, isKeyFrame := true, payloadSize := 100 },
   .push 10 { ssrc := 2, packetType := some .video, payloadSize := 50 },
   .push 10 { ssrc := 1, packetType := some .audio, payloadSize := 20 },
   .setPauseState true 30,
   .push 40 { ssrc := 2, packetType := some .padding, paddingSize := 7 },
   .setPauseState false 50,
   .pop,
   .updateAverageQueueTime 60,
   .removePacketsForSsrc 1]

theorem summaries_agree_after_removal :
    watch.Admits (.start 0) interleavedCalls ∧
    (watch.outcome (.start 0) interleavedCalls).queue.sizePackets = 2 ∧
    (watch.outcome (.start 0) interleavedCalls).queue.queueTimeSum = 40 ∧
    (watch.outcome (.start 0) interleavedCalls).fault = none := by
  have admitted : watch.Admits (.start 0) interleavedCalls := by decide +kernel
  have agree := summaries_agree_of_run 0 interleavedCalls _ admitted.run
  refine ⟨admitted, ?_, ?_, agree.1⟩
  · decide +kernel
  · decide +kernel

end MaeRtc.Pacing
