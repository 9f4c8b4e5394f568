import MaeRtc.Pacing.PacketQueueRuns

/-!
# In which order packets leave the queue

The history of a run is read off its log.  Packets of one SSRC and level come out
in the order of their pushes; every packet that was pushed waits, has come out, or
was removed, and only one of these; and the stream queues of a level take turns,
so that the place of one in its table only gets better until it is served.
-/

namespace MaeRtc.Pacing

open Base Std

def RtpPacketToSend.prioLevel (packet : RtpPacketToSend) : Option PrioLevel :=
  packet.packetType.map getPriorityForType

namespace PacketEvent

def pushedPacket : PacketEvent → Option (Nat × RtpPacketToSend)
  | .pushed number packet => some (number, packet)
  | _ => none

def poppedPacket : PacketEvent → Option (Nat × RtpPacketToSend)
  | .popped number packet => some (number, packet)
  | _ => none

def removedNumbers : PacketEvent → List Nat
  | .removed _ numbers => numbers
  | _ => []

def popsAt (level : PrioLevel) : PacketEvent → Bool
  | .popped _ packet => packet.prioLevel = some level
  | _ => false

def popsFrom (ssrc : Ssrc) (level : PrioLevel) : PacketEvent → Bool
  | .popped _ packet => packet.ssrc = ssrc ∧ packet.prioLevel = some level
  | _ => false

def removes (ssrc : Ssrc) : PacketEvent → Bool
  | .removed other _ => other = ssrc
  | _ => false

end PacketEvent

def pushedIn (log : List PacketEvent) : List (Nat × RtpPacketToSend) :=
  log.filterMap PacketEvent.pushedPacket

def poppedIn (log : List PacketEvent) : List (Nat × RtpPacketToSend) :=
  log.filterMap PacketEvent.poppedPacket

def removedIn (log : List PacketEvent) : List Nat :=
  log.flatMap PacketEvent.removedNumbers

section

variable (log : List PacketEvent) (event : PacketEvent)

theorem pushedIn_snoc : pushedIn (log ++ [event]) = pushedIn log ++ event.pushedPacket.toList := by
  cases event <;> simp [pushedIn, PacketEvent.pushedPacket]

theorem poppedIn_snoc : poppedIn (log ++ [event]) = poppedIn log ++ event.poppedPacket.toList := by
  cases event <;> simp [poppedIn, PacketEvent.poppedPacket]

theorem removedIn_snoc : removedIn (log ++ [event]) = removedIn log ++ event.removedNumbers := by
  simp [removedIn]

end

namespace Watched

variable {state : Watched}

/-! ## Every packet once, and in order -/

/-- What the log says about the packets that were pushed. -/
structure Accounts (state : Watched) : Prop where
  pushed : (pushedIn state.log).map Prod.fst = List.range state.pushes
  once : List.Perm ((poppedIn state.log).map Prod.fst ++
    (state.waiting.map Ticket.number ++ removedIn state.log)) (List.range state.pushes)
  intact : ∀ ticket ∈ state.waiting, (ticket.number, ticket.packet) ∈ pushedIn state.log
  same : ∀ entry ∈ poppedIn state.log, ∃ original, (entry.1, original) ∈ pushedIn state.log ∧
    entry.2 = { original with timeInSendQueue := entry.2.timeInSendQueue }
  removed : ∀ ssrc numbers, .removed ssrc numbers ∈ state.log → ∀ number ∈ numbers,
    ∃ packet, (number, packet) ∈ pushedIn state.log ∧ packet.ssrc = ssrc
  inOrder : (poppedIn state.log).Pairwise fun one two =>
    one.2.ssrc = two.2.ssrc → one.2.prioLevel = two.2.prioLevel → one.1 < two.1
  older : ∀ entry ∈ poppedIn state.log, ∀ ticket ∈ state.waiting,
    entry.2.ssrc = ticket.packet.ssrc → entry.2.prioLevel = ticket.packet.prioLevel →
      entry.1 < ticket.number

theorem accounts_start (creationTime : Int) : (start creationTime).Accounts where
  pushed := rfl
  once := .refl _
  intact _ member := by cases member
  same _ member := by cases member
  removed _ _ member := by cases member
  inOrder := .nil
  older _ member := by cases member

variable {after : Watched} {call : PacketCall}

section

variable (accounts : state.Accounts)
include accounts

theorem Accounts.wait {waiting : List Ticket} {elapsed : Int}
    (waits : waiting = state.waiting.map (Ticket.wait elapsed))
    (isWaiting : after.waiting = waiting) (log : after.log = state.log)
    (pushes : after.pushes = state.pushes) : after.Accounts := by
  subst waits
  have tickets : ∀ ticket ∈ after.waiting, ∃ before ∈ state.waiting,
      ticket.number = before.number ∧ ticket.packet = before.packet := by
    intro ticket member
    rw [isWaiting] at member
    obtain ⟨before, beforeMember, rfl⟩ := List.mem_map.mp member
    exact ⟨before, beforeMember, rfl, rfl⟩
  refine ⟨?_, ?_, fun ticket member => ?_, ?_, ?_, ?_, fun entry popped ticket member => ?_⟩
  · rw [log, pushes]
    exact accounts.pushed
  · rw [log, pushes, isWaiting, List.map_map]
    exact accounts.once
  · obtain ⟨before, beforeMember, number, packet⟩ := tickets ticket member
    rw [log, number, packet]
    exact accounts.intact before beforeMember
  · rw [log]
    exact accounts.same
  · rw [log]
    exact accounts.removed
  · rw [log]
    exact accounts.inOrder
  · obtain ⟨before, beforeMember, number, packet⟩ := tickets ticket member
    rw [log] at popped
    rw [number, packet]
    exact accounts.older entry popped before beforeMember

theorem Accounts.popped_lt {entry : Nat × RtpPacketToSend} (member : entry ∈ poppedIn state.log) :
    entry.1 < state.pushes := by
  rw [← List.mem_range, ← accounts.once.mem_iff]
  exact List.mem_append_left _ (List.mem_map_of_mem member)

theorem Accounts.push {packet : RtpPacketToSend}
    (waiting : after.waiting = state.waiting ++ [⟨state.pushes, packet, 0⟩])
    (log : after.log = state.log ++ [.pushed state.pushes packet])
    (pushes : after.pushes = state.pushes + 1) : after.Accounts := by
  have pushedLog : pushedIn after.log = pushedIn state.log ++ [(state.pushes, packet)] := by
    rw [log, pushedIn_snoc]
    rfl
  have poppedLog : poppedIn after.log = poppedIn state.log := by
    rw [log, poppedIn_snoc]
    exact List.append_nil _
  have removedLog : removedIn after.log = removedIn state.log := by
    rw [log, removedIn_snoc]
    exact List.append_nil _
  refine ⟨?_, ?_, fun ticket member => ?_, ?_, ?_, ?_, fun entry popped ticket member => ?_⟩
  · rw [pushedLog, pushes, List.map_append, accounts.pushed, List.range_succ]
    rfl
  · rw [poppedLog, removedLog, pushes, waiting, List.map_append, List.range_succ]
    have moved : List.Perm
        ((poppedIn state.log).map Prod.fst ++ (state.waiting.map Ticket.number ++
          [state.pushes] ++ removedIn state.log))
        ((poppedIn state.log).map Prod.fst ++ (state.waiting.map Ticket.number ++
          removedIn state.log) ++ [state.pushes]) := by
      rw [List.append_assoc, List.append_assoc, List.append_assoc]
      exact (List.perm_append_comm.append_left _).append_left _
    exact moved.trans (accounts.once.append_right _)
  · rw [pushedLog]
    rw [waiting] at member
    rcases List.mem_append.mp member with earlier | last
    · exact List.mem_append_left _ (accounts.intact ticket earlier)
    · obtain rfl := List.mem_singleton.mp last
      exact List.mem_append_right _ List.mem_cons_self
  · rw [poppedLog, pushedLog]
    intro entry popped
    obtain ⟨original, pushed, isSame⟩ := accounts.same entry popped
    exact ⟨original, List.mem_append_left _ pushed, isSame⟩
  · intro ssrc numbers member number isNumber
    rw [log, List.mem_append, List.mem_singleton] at member
    obtain ⟨original, pushed, isSsrc⟩ :=
      accounts.removed ssrc numbers (member.resolve_right nofun) number isNumber
    rw [pushedLog]
    exact ⟨original, List.mem_append_left _ pushed, isSsrc⟩
  · rw [poppedLog]
    exact accounts.inOrder
  · rw [poppedLog] at popped
    rw [waiting] at member
    rcases List.mem_append.mp member with earlier | last
    · exact accounts.older entry popped ticket earlier
    · obtain rfl := List.mem_singleton.mp last
      exact fun _ _ => accounts.popped_lt popped

/-- The ticket that leaves is the oldest of its SSRC and level. -/
theorem Accounts.pop (ordered : Ordered state.waiting) {front back : List Ticket} {ticket : Ticket}
    (split : state.waiting = front ++ ticket :: back)
    (oldest : ∀ other ∈ front, ¬ (other.packet.ssrc = ticket.packet.ssrc ∧
      other.packet.prioLevel = ticket.packet.prioLevel))
    {timeInSendQueue : Option Int} (waiting : after.waiting = front ++ back)
    (log : after.log = state.log ++
      [.popped ticket.number { ticket.packet with timeInSendQueue := timeInSendQueue }])
    (pushes : after.pushes = state.pushes) : after.Accounts := by
  have member : ticket ∈ state.waiting := by
    rw [split]
    exact List.mem_append_right _ List.mem_cons_self
  have remain : ∀ other ∈ after.waiting, other ∈ state.waiting := by
    intro other otherMember
    rw [waiting, List.mem_append] at otherMember
    rw [split, List.mem_append, List.mem_cons]
    tauto
  have pushedLog : pushedIn after.log = pushedIn state.log := by
    rw [log, pushedIn_snoc]
    exact List.append_nil _
  have poppedLog : poppedIn after.log = poppedIn state.log ++
      [(ticket.number, { ticket.packet with timeInSendQueue := timeInSendQueue })] := by
    rw [log, poppedIn_snoc]
    rfl
  have removedLog : removedIn after.log = removedIn state.log := by
    rw [log, removedIn_snoc]
    exact List.append_nil _
  refine ⟨?_, ?_, fun other otherMember => ?_, fun entry popped => ?_, ?_, ?_,
    fun entry popped other otherMember sameSsrc sameLevel => ?_⟩
  · rw [pushedLog, pushes]
    exact accounts.pushed
  · rw [poppedLog, removedLog, pushes, waiting, List.map_append]
    refine List.Perm.trans ?_ accounts.once
    rw [split, List.append_assoc]
    refine List.Perm.append_left _ ?_
    simp only [List.map_append, List.map_cons, List.map_nil, List.append_assoc,
      List.cons_append, List.nil_append]
    exact List.perm_middle.symm
  · rw [pushedLog]
    exact accounts.intact other (remain other otherMember)
  · rw [poppedLog] at popped
    rw [pushedLog]
    rcases List.mem_append.mp popped with earlier | last
    · exact accounts.same entry earlier
    · obtain rfl := List.mem_singleton.mp last
      exact ⟨ticket.packet, accounts.intact ticket member, rfl⟩
  · intro ssrc numbers isRemoved
    rw [log, List.mem_append, List.mem_singleton] at isRemoved
    rw [pushedLog]
    exact accounts.removed ssrc numbers (isRemoved.resolve_right nofun)
  · rw [poppedLog]
    refine List.pairwise_append.mpr ⟨accounts.inOrder, List.pairwise_singleton _ _, ?_⟩
    intro entry popped last isLast
    obtain rfl := List.mem_singleton.mp isLast
    exact accounts.older entry popped ticket member
  · rw [poppedLog] at popped
    rcases List.mem_append.mp popped with earlier | last
    · exact accounts.older entry earlier other (remain other otherMember) sameSsrc sameLevel
    obtain rfl := List.mem_singleton.mp last
    rw [waiting] at otherMember
    rw [split] at ordered
    rcases List.mem_append.mp otherMember with before | later
    · exact absurd ⟨sameSsrc.symm, sameLevel.symm⟩ (oldest other before)
    · obtain ⟨_, orderedBack, _⟩ := List.pairwise_append.mp ordered
      exact (List.pairwise_cons.mp orderedBack).1 other later

theorem Accounts.remove {ssrc : Ssrc}
    (waiting : after.waiting = state.waiting.filter fun ticket => ticket.packet.ssrc ≠ ssrc)
    (log : after.log = state.log ++ [.removed ssrc
      ((state.waiting.filter fun ticket => ticket.packet.ssrc = ssrc).map Ticket.number)])
    (pushes : after.pushes = state.pushes) : after.Accounts := by
  have remain : ∀ ticket ∈ after.waiting, ticket ∈ state.waiting := by
    intro ticket member
    rw [waiting] at member
    exact List.mem_of_mem_filter member
  have pushedLog : pushedIn after.log = pushedIn state.log := by
    rw [log, pushedIn_snoc]
    exact List.append_nil _
  have poppedLog : poppedIn after.log = poppedIn state.log := by
    rw [log, poppedIn_snoc]
    exact List.append_nil _
  have removedLog : removedIn after.log = removedIn state.log ++
      (state.waiting.filter fun ticket => ticket.packet.ssrc = ssrc).map Ticket.number := by
    rw [log, removedIn_snoc]
    rfl
  refine ⟨?_, ?_, fun ticket member => ?_, ?_, ?_, ?_, fun entry popped ticket member => ?_⟩
  · rw [pushedLog, pushes]
    exact accounts.pushed
  · rw [poppedLog, removedLog, pushes, waiting]
    refine List.Perm.trans ?_ accounts.once
    refine List.Perm.append_left _ ?_
    have parts : List.Perm
        (state.waiting.filter (fun ticket => ticket.packet.ssrc ≠ ssrc) ++
          state.waiting.filter fun ticket => ticket.packet.ssrc = ssrc) state.waiting := by
      have both := List.filter_append_perm
        (fun ticket : Ticket => decide (ticket.packet.ssrc ≠ ssrc)) state.waiting
      simpa using both
    refine (List.perm_append_comm.append_left _).trans ?_
    rw [← List.append_assoc, ← List.map_append]
    exact (parts.map _).append_right _
  · rw [pushedLog]
    exact accounts.intact ticket (remain ticket member)
  · rw [poppedLog, pushedLog]
    exact accounts.same
  · intro other numbers isRemoved number isNumber
    rw [log, List.mem_append, List.mem_singleton] at isRemoved
    rw [pushedLog]
    rcases isRemoved with earlier | last
    · exact accounts.removed other numbers earlier number isNumber
    · cases last
      obtain ⟨ticket, member, rfl⟩ := List.mem_map.mp isNumber
      obtain ⟨waits, isSsrc⟩ := List.mem_filter.mp member
      exact ⟨ticket.packet, accounts.intact ticket waits, of_decide_eq_true isSsrc⟩
  · rw [poppedLog]
    exact accounts.inOrder
  · rw [poppedLog] at popped
    exact accounts.older entry popped ticket (remain ticket member)

end

/-- The packet served is the oldest of its SSRC and level, and no better level has any. -/
theorem InStep.serves_best (inStep : state.InStep) {queued : QueuedPacket}
    {queue : PrioritizedPacketQueue} (serves : state.queue.Serves state.waiting queued queue) :
    serves.ticket ∈ state.waiting ∧
    serves.ticket.packet.ssrc = serves.pointer.ssrc ∧
    serves.ticket.packet.prioLevel = some serves.level ∧
    (∀ other ∈ state.waiting, ∃ level, other.packet.prioLevel = some level ∧ serves.level ≤ level) ∧
    ∃ front back, state.waiting = front ++ serves.ticket :: back ∧
      ∀ other ∈ front, ¬ (other.packet.ssrc = serves.ticket.packet.ssrc ∧
        other.packet.prioLevel = serves.ticket.packet.prioLevel) := by
  obtain ⟨front, back, split, notBefore, isAt, _⟩ := List.filter_eq_cons_iff.mp serves.oldest
  obtain ⟨ownSsrc, ownLevel⟩ := Ticket.isAt_iff.mp isAt
  refine ⟨?_, ownSsrc, ownLevel, fun other member => ?_, front, back, split, ?_⟩
  · have first : serves.ticket ∈
        state.waiting.filter (Ticket.isAt serves.pointer.ssrc serves.level) := by
      rw [serves.oldest]
      exact List.mem_cons_self
    exact List.mem_of_mem_filter first
  · obtain ⟨level, pointer, otherAt, listed⟩ := inStep.sound.exists_pointer member
    refine ⟨level, (Ticket.isAt_iff.mp otherAt).2, ?_⟩
    by_contra above
    rw [serves.lowest level (lt_of_not_ge above)] at listed
    cases listed
  · rintro other member ⟨sameSsrc, sameLevel⟩
    exact notBefore other member
      (Ticket.isAt_iff.mpr ⟨sameSsrc.trans ownSsrc, sameLevel.trans ownLevel⟩)

theorem Accounts.next (accounts : state.Accounts) (inStep : state.InStep)
    (admissible : watch.pre state call) : (watch.next state call).Accounts := by
  cases call with
  | push enqueueTime packet =>
    obtain ⟨queue, _, next, _⟩ := inStep.next_push admissible
    have waited : Accounts { state with waiting := state.waitUntil enqueueTime } :=
      accounts.wait rfl rfl rfl rfl
    rw [next]
    exact waited.push rfl rfl rfl
  | pop =>
    obtain ⟨_, same⟩ | ⟨queued, queue, ⟨serves⟩, next, _⟩ := inStep.next_pop
    · rw [same]
      exact accounts
    obtain ⟨_, _, _, _, front, back, split, oldest⟩ := inStep.serves_best serves
    rw [next]
    refine accounts.pop inStep.sound.ordered split oldest ?_
      (by rw [serves.iterator, serves.packet]) rfl
    have ordered := inStep.sound.ordered
    rw [split] at ordered
    rw [serves.iterator]
    exact (congrArg (List.filter _) split).trans ordered.filter_number_ne
  | removePacketsForSsrc ssrc =>
    obtain ⟨queue, _, next, _⟩ := inStep.next_removePacketsForSsrc ssrc
    rw [next]
    exact accounts.remove rfl rfl rfl
  | setPauseState paused now =>
    rw [(inStep.next_setPauseState admissible).1]
    exact accounts.wait rfl rfl rfl rfl
  | updateAverageQueueTime now =>
    rw [(inStep.next_updateAverageQueueTime admissible).1]
    exact accounts.wait rfl rfl rfl rfl

/-! ## Turns -/

/-- A stream queue of the SSRC has at most `places` before it in the table of the level. -/
def InLine (state : Watched) (ssrc : Ssrc) (level : PrioLevel) (places : Nat) : Prop :=
  ∃ before pointer behind, state.queue.streamsByPrio level = before ++ pointer :: behind ∧
    pointer.ssrc = ssrc ∧ before.length ≤ places

def competing (state : Watched) (level : PrioLevel) : List Ssrc :=
  ((state.waiting.filter fun ticket => ticket.packet.prioLevel = some level).map
    fun ticket => ticket.packet.ssrc).dedup

theorem InStep.inLine (inStep : state.InStep) {ticket : Ticket} (member : ticket ∈ state.waiting)
    {level : PrioLevel} (isLevel : ticket.packet.prioLevel = some level) :
    0 < (state.competing level).length ∧
    state.InLine ticket.packet.ssrc level ((state.competing level).length - 1) := by
  have sound := inStep.sound
  obtain ⟨stream, found⟩ := sound.hosted ticket member
  have listed : (⟨ticket.packet.ssrc, stream.serial⟩ : StreamPointer) ∈
      state.queue.streamsByPrio level := by
    refine (sound.listed _ _).mpr ⟨⟨stream, found, rfl⟩, ticket, member, ?_⟩
    exact Ticket.isAt_iff.mpr ⟨rfl, isLevel⟩
  obtain ⟨before, behind, split⟩ := List.append_of_mem listed
  -- the table has one entry for each SSRC that competes
  have nodup : ((state.queue.streamsByPrio level).map StreamPointer.ssrc).Nodup := by
    refine List.Nodup.map_on (fun one oneListed two twoListed same => ?_) (sound.nodup level)
    exact ((sound.listed _ _).mp oneListed).1.eq_of_ssrc ((sound.listed _ _).mp twoListed).1 same
  have subset : (state.queue.streamsByPrio level).map StreamPointer.ssrc ⊆
      state.competing level := by
    intro ssrc isListed
    obtain ⟨pointer, pointerListed, rfl⟩ := List.mem_map.mp isListed
    obtain ⟨_, other, otherMember, isAt⟩ := (sound.listed _ _).mp pointerListed
    obtain ⟨sameSsrc, otherLevel⟩ := Ticket.isAt_iff.mp isAt
    refine List.mem_dedup.mpr (List.mem_map.mpr ⟨other, List.mem_filter.mpr
      ⟨otherMember, decide_eq_true otherLevel⟩, sameSsrc⟩)
  have atMost := (nodup.subperm subset).length_le
  rw [List.length_map, split, List.length_append, List.length_cons] at atMost
  exact ⟨by omega, before, _, behind, split, rfl, by omega⟩

/-- Unless it is served or removed by the events on the way to `after`, a stream queue keeps
its place in line, and gets a better one with each pop of its level. -/
def MovesUp (state after : Watched) (events : List PacketEvent) : Prop :=
  ∀ ssrc level places, state.InLine ssrc level places →
    (∀ event ∈ events, ¬ event.popsFrom ssrc level = true ∧ ¬ event.removes ssrc = true) →
    ∃ fewer, fewer + events.countP (PacketEvent.popsAt level) ≤ places ∧
      after.InLine ssrc level fewer

theorem movesUp_of_same {after : Watched}
    (same : after.queue.streamsByPrio = state.queue.streamsByPrio) : state.MovesUp after [] := by
  intro ssrc level places inLine _
  refine ⟨places, Nat.le_refl _, ?_⟩
  rw [InLine, same]
  exact inLine

theorem MovesUp.trans {middle after : Watched} {events more : List PacketEvent}
    (earlier : state.MovesUp middle events) (later : middle.MovesUp after more) :
    state.MovesUp after (events ++ more) := by
  intro ssrc level places inLine spared
  obtain ⟨earlierSpared, laterSpared⟩ := List.forall_mem_append.mp spared
  obtain ⟨between, middleAtMost, middleInLine⟩ := earlier ssrc level places inLine earlierSpared
  obtain ⟨fewer, atMost, after⟩ := later ssrc level between middleInLine laterSpared
  refine ⟨fewer, ?_, after⟩
  rw [List.countP_append]
  omega

theorem InStep.movesUp_pop (inStep : state.InStep) {queued : QueuedPacket}
    {queue : PrioritizedPacketQueue} (serves : state.queue.Serves state.waiting queued queue)
    {after : Watched} (isQueue : after.queue = queue) :
    state.MovesUp after [.popped queued.enqueueTimeIterator queued.packet] := by
  obtain ⟨_, servedSsrc, servedLevel, _⟩ := inStep.serves_best serves
  have poppedSsrc : queued.packet.ssrc = serves.pointer.ssrc := by
    rw [serves.packet]
    exact servedSsrc
  have poppedLevel : queued.packet.prioLevel = some serves.level := by
    rw [serves.packet]
    exact servedLevel
  subst isQueue
  rintro ssrc level places ⟨before, pointer, behind, table, isSsrc, atMost⟩ spared
  have notServed := (spared _ List.mem_cons_self).1
  by_cases here : level = serves.level
  · subst here
    have isPop : PacketEvent.popsAt serves.level
        (.popped queued.enqueueTimeIterator queued.packet) = true :=
      decide_eq_true poppedLevel
    rw [serves.served] at table
    cases before with
    | nil =>
      obtain ⟨rfl, _⟩ := List.cons.inj table
      exact absurd (decide_eq_true ⟨poppedSsrc.trans isSsrc, poppedLevel⟩) notServed
    | cons first rest =>
      rw [List.cons_append] at table
      obtain ⟨rfl, others⟩ := List.cons.inj table
      rw [List.length_cons] at atMost
      refine ⟨places - 1, ?_, rest, pointer, ?_⟩
      · rw [List.countP_singleton, if_pos isPop]
        omega
      have tableAfter := serves.table
      rw [others] at tableAfter
      split_ifs at tableAfter with none
      · exact ⟨behind, tableAfter, isSsrc, by omega⟩
      · refine ⟨behind ++ [serves.pointer], ?_, isSsrc, by omega⟩
        rw [tableAfter, List.append_assoc, List.cons_append]
  · have notPop : ¬ PacketEvent.popsAt level
        (.popped queued.enqueueTimeIterator queued.packet) = true := by
      intro isPop
      exact here (Option.some.inj ((of_decide_eq_true isPop).symm.trans poppedLevel))
    refine ⟨places, ?_, before, pointer, behind, ?_, isSsrc, atMost⟩
    · rw [List.countP_singleton, if_neg notPop, add_zero]
    · rw [serves.elsewhere level here, table]

/-- One step: the log grows by events along which stream queues move up. -/
theorem InStep.next_movesUp (inStep : state.InStep) (admissible : watch.pre state call) :
    ∃ events, (watch.next state call).log = state.log ++ events ∧
      state.MovesUp (watch.next state call) events := by
  cases call with
  | push enqueueTime packet =>
    obtain ⟨queue, tables, next, _⟩ := inStep.next_push admissible
    rw [next]
    refine ⟨_, rfl, ?_⟩
    rintro ssrc level places ⟨before, pointer, behind, table, isSsrc, atMost⟩ _
    obtain ⟨added, isAdded⟩ := tables level
    refine ⟨places, Nat.le_refl _, before, pointer, behind ++ added, ?_, isSsrc, atMost⟩
    rw [isAdded, table, List.append_assoc, List.cons_append]
  | pop =>
    obtain ⟨_, same⟩ | ⟨queued, queue, ⟨serves⟩, next, _⟩ := inStep.next_pop
    · rw [same]
      exact ⟨[], (List.append_nil _).symm, movesUp_of_same rfl⟩
    · rw [next]
      exact ⟨_, rfl, inStep.movesUp_pop serves rfl⟩
  | removePacketsForSsrc removed =>
    obtain ⟨queue, tables, next, _⟩ := inStep.next_removePacketsForSsrc removed
    rw [next]
    refine ⟨_, rfl, ?_⟩
    rintro ssrc level places ⟨before, pointer, behind, table, isSsrc, atMost⟩ spared
    have other : pointer.ssrc ≠ removed := by
      intro same
      exact (spared _ List.mem_cons_self).2 (decide_eq_true (same.symm.trans isSsrc))
    refine ⟨places, Nat.le_refl _, before.filter fun pointer => pointer.ssrc ≠ removed, pointer,
      behind.filter fun pointer => pointer.ssrc ≠ removed, ?_, isSsrc,
      (List.length_filter_le _ _).trans atMost⟩
    rw [tables level, table, List.filter_append, List.filter_cons_of_pos (by simpa using other)]
  | setPauseState paused now =>
    rw [(inStep.next_setPauseState admissible).1]
    exact ⟨[], (List.append_nil _).symm, movesUp_of_same rfl⟩
  | updateAverageQueueTime now =>
    rw [(inStep.next_updateAverageQueueTime admissible).1]
    exact ⟨[], (List.append_nil _).symm, movesUp_of_same rfl⟩

/-- A run: the place in line and the pops of the level account for the wait. -/
theorem InLine.run {first last : Watched} {calls : List PacketCall} (inStep : first.InStep)
    (run : watch.Run first calls last) :
    ∃ events, last.log = first.log ++ events ∧ first.MovesUp last events := by
  refine (run.invariant (fun _ state => state.InStep ∧ ∃ events, state.log = first.log ++ events ∧
    first.MovesUp state events)
      ⟨inStep, [], (List.append_nil _).symm, movesUp_of_same rfl⟩ ?_).2
  rintro _ state call _ ⟨stateInStep, events, isLog, kept⟩ admissible
  obtain ⟨newEvents, newLog, step⟩ := stateInStep.next_movesUp admissible
  refine ⟨stateInStep.next admissible, events ++ newEvents, ?_, kept.trans step⟩
  rw [newLog, isLog, List.append_assoc]

end Watched

open Watched in
/--
Every pop returns a packet if any waits, and one of the best level present.  Packets
of one SSRC and level come out in the order of their pushes.  The packets pushed are
those that came out, those that wait and those whose SSRC was removed, each counted
once.  And as long as an SSRC that has packets at a level is neither served there nor
removed, fewer packets of that level are popped than there were SSRCs with packets
at it.
-/
theorem scheduling_of_run (creationTime : Int) (calls : List PacketCall) (last : Watched)
    (run : watch.Run (.start creationTime) calls last) :
    (last.waiting ≠ [] → ∃ queued queue, last.queue.pop = .ok (some queued, queue)) ∧
    (∀ queued queue, last.queue.pop = .ok (some queued, queue) →
      ∃ ticket ∈ last.waiting, queued.enqueueTimeIterator = ticket.number ∧
        queued.packet = { ticket.packet with timeInSendQueue := some ticket.waited } ∧
        ∃ level, ticket.packet.prioLevel = some level ∧ ∀ other ∈ last.waiting,
          ∃ otherLevel, other.packet.prioLevel = some otherLevel ∧ level ≤ otherLevel) ∧
    ((poppedIn last.log).Pairwise fun one two =>
      one.2.ssrc = two.2.ssrc → one.2.prioLevel = two.2.prioLevel → one.1 < two.1) ∧
    (pushedIn last.log).map Prod.fst = List.range last.pushes ∧
    List.Perm ((poppedIn last.log).map Prod.fst ++
      (last.waiting.map Ticket.number ++ removedIn last.log)) (List.range last.pushes) ∧
    (∀ entry ∈ poppedIn last.log, ∃ original, (entry.1, original) ∈ pushedIn last.log ∧
      entry.2 = { original with timeInSendQueue := entry.2.timeInSendQueue }) ∧
    (∀ ssrc numbers, .removed ssrc numbers ∈ last.log → ∀ number ∈ numbers,
      ∃ packet, (number, packet) ∈ pushedIn last.log ∧ packet.ssrc = ssrc) ∧
    ∀ more final, watch.Run last more final → ∃ events, final.log = last.log ++ events ∧
      ∀ ticket ∈ last.waiting, ∀ level, ticket.packet.prioLevel = some level →
        (∀ event ∈ events, ¬ event.popsFrom ticket.packet.ssrc level = true ∧
          ¬ event.removes ticket.packet.ssrc = true) →
        events.countP (PacketEvent.popsAt level) < (last.competing level).length := by
  have inStep := inStep_of_run (inStep_start creationTime) run
  have accounts : last.Accounts := by
    refine (run.invariant (fun _ state => state.InStep ∧ state.Accounts)
      ⟨inStep_start creationTime, accounts_start creationTime⟩ ?_).2
    rintro _ state call _ ⟨stateInStep, stateAccounts⟩ admissible
    exact ⟨stateInStep.next admissible, stateAccounts.next stateInStep admissible⟩
  refine ⟨fun waits => ?_, fun queued queue returned => ?_, accounts.inOrder, accounts.pushed,
    accounts.once, accounts.same, accounts.removed, fun more final further => ?_⟩
  · obtain ⟨⟨popped, queue⟩, returned, ⟨none, _⟩ | ⟨queued, isSome, _⟩⟩ :=
      inStep.sound.pop_ensures
    · exact absurd none waits
    · subst isSome
      exact ⟨queued, queue, returned⟩
  · obtain ⟨_, isReturned, ⟨_, isNone⟩ | ⟨other, isSome, ⟨serves⟩, _⟩⟩ :=
      inStep.sound.pop_ensures
    · rw [returned] at isReturned
      cases isReturned
      cases isNone
    · rw [returned] at isReturned
      cases isReturned
      cases isSome
      obtain ⟨member, _, level, best, _⟩ := inStep.serves_best serves
      exact ⟨serves.ticket, member, serves.iterator, serves.packet, serves.level, level, best⟩
  · obtain ⟨events, isLog, places⟩ := InLine.run inStep further
    refine ⟨events, isLog, fun ticket member level isLevel spared => ?_⟩
    obtain ⟨positive, inLine⟩ := inStep.inLine member isLevel
    obtain ⟨fewer, atMost, _⟩ := places _ _ _ inLine spared
    omega

/-- Two streams of one level take turns while a better level comes and goes. -/
def turnTakingCalls : List PacketCall :=
  [.push 0 { ssrc := 1, packetType := some .video },
   .push 0 { ssrc := 1, packetType := some .video },
   .push 1 { ssrc := 2, packetType := some .forwardErrorCorrection },
   .push 2 { ssrc := 3, packetType := some .retransmission },
   .pop, .pop]

theorem scheduling_after_turns :
    watch.Admits (.start 0) turnTakingCalls ∧
    (poppedIn (watch.outcome (.start 0) turnTakingCalls).log).map Prod.fst = [3, 0] ∧
    (pushedIn (watch.outcome (.start 0) turnTakingCalls).log).map Prod.fst = List.range 4 := by
  have admitted : watch.Admits (.start 0) turnTakingCalls := by decide +kernel
  have scheduled := scheduling_of_run 0 turnTakingCalls _ admitted.run
  refine ⟨admitted, by decide +kernel, ?_⟩
  rw [scheduled.2.2.2.1]
  decide +kernel

end MaeRtc.Pacing
