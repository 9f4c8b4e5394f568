import MaeRtc.VideoCoding.NackRuns

/-!
# Losses that are requested

Runs in which packets only arrive, each less than a thousand ahead of the newest one.
Beside the requester the positions of packets are counted without wrapping, and the
positions of recovered packets are remembered.  A packet that is skipped is requested
unless the list of recovered packets has its number; that list is only pruned when another
packet is recovered, so that a number may be left in it from an earlier cycle.
-/

namespace MaeRtc.VideoCoding

open Base SeqNum

/-- The sequence number at a position. -/
def number (position : Int) : SeqNum :=
  BitVec.ofInt 16 position

theorem behind_number (newer older : Int) :
    (behind (number newer) (number older) : Int) = (newer - older) % 65536 := by
  rw [behind_eq, number, number, BitVec.toNat_ofInt, BitVec.toNat_ofInt]
  omega

theorem number_add_behind (position : Int) (seqNum : SeqNum) :
    number (position + behind seqNum (number position)) = seqNum := by
  rw [← BitVec.toNat_inj, behind_eq, number, number, BitVec.toNat_ofInt, BitVec.toNat_ofInt]
  omega

/-- On less than half of the circle numbers compare as their positions. -/
theorem less_number {one two : Int} (near : one - two < 32768) (near' : two - one < 32768) :
    descendingSeqNumComp (number one) (number two) = decide (one < two) := by
  have distance := behind_number two one
  rw [descendingSeqNumComp, Bool.eq_iff_iff, aheadOf_iff, decide_eq_true_eq]
  omega

/-! ## The list of recovered packets -/

section

variable {search : Search descendingSeqNumComp} {positions : List Int} {key : Int}
  (ordered : positions.Pairwise (· < ·))
  (near : ∀ position ∈ positions, position - key < 32768 ∧ key - position < 32768)

include ordered near

theorem lowerBound_number :
    (∀ position ∈ positions.take (search.lowerBound (positions.map number) (number key)),
      position < key) ∧
    ∀ position ∈ positions.drop (search.lowerBound (positions.map number) (number key)),
      key ≤ position := by
  have lessKey : ∀ position ∈ positions,
      (descendingSeqNumComp (number position) (number key) = true ↔ position < key) := by
    intro position member
    rw [less_number (near position member).1 (near position member).2, decide_eq_true_eq]
  have first : (positions.map number).Pairwise fun one two =>
      descendingSeqNumComp two (number key) = true →
        descendingSeqNumComp one (number key) = true := by
    refine List.pairwise_map.mpr (ordered.imp_of_mem fun oneMember twoMember before => ?_)
    rw [lessKey _ oneMember, lessKey _ twoMember]
    exact before.trans
  obtain ⟨before, after⟩ := search.lowerBound_spec first
  rw [← List.map_take] at before
  rw [← List.map_drop] at after
  refine ⟨fun position member => ?_, fun position member => ?_⟩
  · rw [← lessKey position (List.mem_of_mem_take member)]
    exact before _ (List.mem_map_of_mem member)
  · rw [← not_lt, ← lessKey position (List.mem_of_mem_drop member), Bool.not_eq_true]
    exact after _ (List.mem_map_of_mem member)

theorem upperBound_number :
    (∀ position ∈ positions.take (search.upperBound (positions.map number) (number key)),
      position ≤ key) ∧
    ∀ position ∈ positions.drop (search.upperBound (positions.map number) (number key)),
      key < position := by
  have lessKey : ∀ position ∈ positions,
      (descendingSeqNumComp (number key) (number position) = true ↔ key < position) := by
    intro position member
    rw [less_number (near position member).2 (near position member).1, decide_eq_true_eq]
  have last : (positions.map number).Pairwise fun one two =>
      descendingSeqNumComp (number key) one = true →
        descendingSeqNumComp (number key) two = true := by
    refine List.pairwise_map.mpr (ordered.imp_of_mem fun oneMember twoMember before => ?_)
    rw [lessKey _ oneMember, lessKey _ twoMember]
    exact fun above => above.trans before
  obtain ⟨before, after⟩ := search.upperBound_spec last
  rw [← List.map_take] at before
  rw [← List.map_drop] at after
  refine ⟨fun position member => ?_, fun position member => ?_⟩
  · rw [← not_lt, ← lessKey position (List.mem_of_mem_take member), Bool.not_eq_true]
    exact before _ (List.mem_map_of_mem member)
  · rw [← lessKey position (List.mem_of_mem_drop member)]
    exact after _ (List.mem_map_of_mem member)

/-- What is erased are the positions before the key. -/
theorem eraseBefore_number : ∃ after : List Int, after.Sublist positions ∧
    search.eraseBefore (positions.map number) (number key) = after.map number ∧
    ∀ position ∈ after, key ≤ position :=
  ⟨_, List.drop_sublist _ positions, (List.map_drop).symm, (lowerBound_number ordered near).2⟩

/-- The key is inserted at its position, unless it is there. -/
theorem insert_number : ∃ after : List Int,
    search.insert (positions.map number) (number key) = after.map number ∧
    after.Pairwise (· < ·) ∧ ∀ position ∈ after, position = key ∨ position ∈ positions := by
  obtain ⟨below, above⟩ := @upperBound_number search positions key ordered near
  have le := search.upperBound_le (positions.map number) (number key)
  unfold Search.insert
  cases isBound : search.upperBound (positions.map number) (number key) with
  | zero =>
    rw [isBound, List.drop_zero] at above
    exact ⟨key :: positions, rfl, List.pairwise_cons.mpr ⟨above, ordered⟩, by simp⟩
  | succ before =>
    rw [isBound] at below above le
    rw [List.length_map] at le
    obtain ⟨last, isLast⟩ : ∃ last, positions[before]? = some last :=
      ⟨_, List.getElem?_eq_getElem (by omega)⟩
    have member : last ∈ positions := List.mem_of_getElem? isLast
    have isElement : (positions.map number)[before]? = some (number last) := by
      rw [List.getElem?_map, isLast]
      rfl
    dsimp only
    rw [isElement]
    dsimp only
    rw [less_number (near last member).1 (near last member).2]
    by_cases isBefore : last < key
    · rw [if_pos (decide_eq_true isBefore)]
      refine ⟨positions.take (before + 1) ++ key :: positions.drop (before + 1), ?_, ?_, ?_⟩
      · rw [List.map_append, List.map_cons, List.map_take, List.map_drop]
      · have split : positions.take (before + 1) = positions.take before ++ [last] := by
          rw [List.take_add_one, isLast]
          rfl
        have strictly : ∀ position ∈ positions.take (before + 1), position < key := by
          rw [split]
          refine List.forall_mem_append.mpr ⟨fun position isPosition => ?_,
            List.forall_mem_singleton.mpr isBefore⟩
          have sorted := ordered.sublist (List.take_sublist (before + 1) positions)
          rw [split, List.pairwise_append] at sorted
          exact (sorted.2.2 position isPosition last List.mem_cons_self).trans isBefore
        refine List.pairwise_append.mpr ⟨ordered.sublist (List.take_sublist _ _),
          List.pairwise_cons.mpr ⟨above, ordered.sublist (List.drop_sublist _ _)⟩, ?_⟩
        intro one isOne two isTwo
        rcases List.mem_cons.mp isTwo with rfl | later
        · exact strictly one isOne
        · exact (strictly one isOne).trans (above two later)
      · intro position isPosition
        rcases List.mem_append.mp isPosition with early | late
        · exact .inr (List.mem_of_mem_take early)
        · rcases List.mem_cons.mp late with rfl | later
          · exact .inl rfl
          · exact .inr (List.mem_of_mem_drop later)
    · rw [if_neg (by simpa using isBefore)]
      exact ⟨positions, rfl, ordered, fun _ => .inr⟩

end

/-! ## The machine -/

/-- The requester, the position of its newest packet, the positions of packets that were
reported as recovered, and the numbers that the last call lost. -/
structure WatchedLosses where
  requester : NackRequester
  position : Int := 0
  reports : List Int := []
  lost : List SeqNum := []
  fault : Option NackViolation := none

namespace WatchedLosses

def start (sendNackDelay : Int) : WatchedLosses where
  requester := { sendNackDelay := sendNackDelay }

/-- The packet is ahead of the newest one. -/
def isAhead (state : WatchedLosses) (seqNum : SeqNum) : Bool :=
  state.requester.initialized && seqNum ≠ state.requester.newestSeqNum &&
    !aheadOf state.requester.newestSeqNum seqNum

/-- The position of a packet that is ahead. -/
def positionOf (state : WatchedLosses) (seqNum : SeqNum) : Int :=
  state.position + behind seqNum state.requester.newestSeqNum

/-- The number was reported as recovered within the last ten thousand. -/
def recentlyRecovered (state : WatchedLosses) (position : Int) (seqNum : SeqNum) : Bool :=
  state.reports.any fun report => position - 10000 ≤ report && number report = seqNum

end WatchedLosses

/-- A packet that arrives. -/
structure Packet where
  trees : Trees
  now : Int
  seqNum : SeqNum
  isKeyframe : Bool := false
  isRecovered : Bool := false

open WatchedLosses in
/-- Sequence numbers advance by less than a thousand at a time. -/
def watchLosses : Machine WatchedLosses Packet where
  pre state packet := state.isAhead packet.seqNum = true →
    behind packet.seqNum state.requester.newestSeqNum < 1000
  next state packet :=
    match state.requester.onReceivedPacket packet.trees packet.now packet.seqNum
      packet.isKeyframe packet.isRecovered with
    | .error violation => { state with fault := some violation }
    | .ok received =>
      if !state.requester.initialized then
        ⟨received.requester, packet.seqNum.toNat, state.reports, [], state.fault⟩
      else if !state.isAhead packet.seqNum then
        ⟨received.requester, state.position, state.reports, [], state.fault⟩
      else if packet.isRecovered then
        ⟨received.requester, state.position, state.positionOf packet.seqNum :: state.reports, [],
          state.fault⟩
      else
        ⟨received.requester, state.positionOf packet.seqNum, state.reports,
          if received.keyFrameRequested then []
          else (span (behind packet.seqNum state.requester.newestSeqNum - 1)
            (state.requester.newestSeqNum + 1)).filter fun skipped =>
              !state.recentlyRecovered (state.positionOf packet.seqNum) skipped &&
              skipped ∉ NackRequester.keys received.requester.nackList &&
              skipped ∉ received.nackBatch,
          state.fault⟩

namespace WatchedLosses

/-- Once packets were reported as recovered, a packet that is ahead is not too far from
the highest of them. -/
def KeepsUp (state : WatchedLosses) (packet : Packet) : Prop :=
  state.isAhead packet.seqNum = true → state.reports ≠ [] → ∃ report ∈ state.reports,
    state.positionOf packet.seqNum ≤ report + if packet.isRecovered then 21767 else 54536

/-- The list of recovered packets holds recent reports, oldest first. -/
structure Recent (reports : List Int) (recoveredList : List SeqNum) : Prop where
  ordered : ∃ positions : List Int, recoveredList = positions.map number ∧
    positions.Pairwise (· < ·) ∧ ∀ position ∈ positions, position ∈ reports ∧
      ∀ report ∈ reports, report ≤ position + 11000

structure InStep (state : WatchedLosses) : Prop where
  window : Window state.requester.newestSeqNum kMaxPacketAge state.requester.nackList
  empty : state.requester.initialized = false →
    state.requester.nackList = [] ∧ state.reports = []
  newest : state.requester.initialized = true →
    state.requester.newestSeqNum = number state.position
  below : ∀ report ∈ state.reports, report < state.position + 1000
  recent : Recent state.reports state.requester.recoveredList
  noLoss : state.lost = []
  noFault : state.fault = none

theorem inStep_start (sendNackDelay : Int) : (start sendNackDelay).InStep :=
  ⟨.nil, fun _ => ⟨rfl, rfl⟩, nofun,
    by simp [start],
    ⟨[], rfl, .nil, by simp⟩, rfl, rfl⟩

variable {state : WatchedLosses}

/-- A report is added, and those that are too old are dropped. -/
theorem Recent.report {reports : List Int} {recoveredList : List SeqNum}
    (recent : Recent reports recoveredList) (search : Search descendingSeqNumComp)
    {position new : Int} (below : ∀ report ∈ reports, report < position + 1000)
    (isAhead : position < new) (keepsUp : reports ≠ [] → ∃ report ∈ reports, new ≤ report + 21767) :
    Recent (new :: reports) (search.eraseBefore (search.insert recoveredList (number new))
      (number (new - 10000))) := by
  obtain ⟨positions, rfl, ordered, inReports⟩ := recent
  have near : ∀ old ∈ positions, old - new < 32768 ∧ new - old < 32768 := by
    intro old member
    obtain ⟨isReport, isRecent⟩ := inReports old member
    obtain ⟨report, isLast, within⟩ := keepsUp (List.ne_nil_of_mem isReport)
    have := isRecent report isLast
    have := below old isReport
    omega
  obtain ⟨after, inserted, afterOrdered, fromOld⟩ := @insert_number search positions new ordered near
  have nearKey : ∀ old ∈ after, old - (new - 10000) < 32768 ∧ new - 10000 - old < 32768 := by
    intro old member
    rcases fromOld old member with rfl | isOld
    · omega
    · have := near old isOld
      have := below old (inReports old isOld).1
      omega
  obtain ⟨final, isSublist, erased, above⟩ := @eraseBefore_number search after (new - 10000)
    afterOrdered nearKey
  refine ⟨final, by rw [inserted, erased], afterOrdered.sublist isSublist, ?_⟩
  intro old member
  have isAbove := above old member
  refine ⟨?_, List.forall_mem_cons.mpr ⟨by omega, fun report isReport => ?_⟩⟩
  · rcases fromOld old (isSublist.subset member) with rfl | isOld
    · exact List.mem_cons_self
    · exact List.mem_cons_of_mem _ (inReports old isOld).1
  · have := below report isReport
    omega

variable {seqNum : SeqNum} {packet : Packet}

theorem isAhead_of (initialized : state.requester.initialized = true)
    (isNew : seqNum ≠ state.requester.newestSeqNum)
    (isAhead : aheadOf state.requester.newestSeqNum seqNum = false) :
    state.isAhead seqNum = true := by
  simp [WatchedLosses.isAhead, initialized, isNew, isAhead]

theorem not_isAhead_of_late (isLate : seqNum = state.requester.newestSeqNum ∨
      aheadOf state.requester.newestSeqNum seqNum = true) : state.isAhead seqNum = false := by
  rcases isLate with same | behindIt
  · simp [WatchedLosses.isAhead, same]
  · simp [WatchedLosses.isAhead, behindIt]

theorem number_toNat (seqNum : SeqNum) : number seqNum.toNat = seqNum := by
  rw [← BitVec.toNat_inj, number, BitVec.toNat_ofInt]
  omega

theorem number_sub {position : Int} (isPosition : seqNum = number position) :
    seqNum - BitVec.ofNat 16 kMaxPacketAge = number (position - 10000) := by
  have isAge : (BitVec.ofNat 16 kMaxPacketAge).toNat = 10000 := rfl
  rw [← BitVec.toNat_inj, BitVec.toNat_sub, isAge, isPosition, number, number, BitVec.toNat_ofInt,
    BitVec.toNat_ofInt]
  omega

/-- Nothing that is listed is lost in a batch. -/
theorem listed_or_requested {between requester : NackRequester} {batch : List SeqNum} {now : Int}
    (sent : (batch, requester) = between.getNackBatch .seqNumOnly now)
    (listed : seqNum ∈ NackRequester.keys between.nackList) :
    seqNum ∈ NackRequester.keys requester.nackList ∨ seqNum ∈ batch := by
  rw [NackRequester.getNackBatch, nackBatch_eq, Prod.mk.injEq] at sent
  obtain ⟨info, isInfo, rfl⟩ := List.mem_map.mp listed
  rw [sent.1, sent.2]
  by_cases isDue : between.isDue .seqNumOnly now info = true
  · exact .inr (List.mem_map_of_mem (List.mem_filter.mpr ⟨isInfo, isDue⟩))
  · left
    refine List.mem_map.mpr ⟨info, List.mem_filterMap.mpr ⟨info, isInfo, ?_⟩, rfl⟩
    rw [renewed, if_neg isDue]

section

variable (inStep : state.InStep) (initialized : state.requester.initialized = true)
  (isNew : packet.seqNum ≠ state.requester.newestSeqNum)
  (advance : behind packet.seqNum state.requester.newestSeqNum < 1000)
  (keepsUp : state.reports ≠ [] → ∃ report ∈ state.reports,
    state.positionOf packet.seqNum ≤ report + 54536)
include inStep initialized isNew advance keepsUp

/-- A skipped number that the list of recovered packets has was reported recently. -/
theorem InStep.recentlyRecovered {skipped : SeqNum}
    (isSkipped : skipped ∈ span (behind packet.seqNum state.requester.newestSeqNum - 1)
      (state.requester.newestSeqNum + 1)) (member : skipped ∈ state.requester.recoveredList) :
    state.recentlyRecovered (state.positionOf packet.seqNum) skipped = true := by
  obtain ⟨positions, isList, _, inReports⟩ := inStep.recent.ordered
  rw [isList] at member
  obtain ⟨report, isPosition, rfl⟩ := List.mem_map.mp member
  obtain ⟨isReport, isRecent⟩ := inReports report isPosition
  obtain ⟨last, isLast, within⟩ := keepsUp (List.ne_nil_of_mem isReport)
  have lastRecent := isRecent last isLast
  have isNewest := inStep.newest initialized
  rw [WatchedNacks.mem_skipped_iff isNew] at isSkipped
  unfold positionOf at within
  have isPacket : packet.seqNum = number (state.position +
      behind packet.seqNum state.requester.newestSeqNum) := by
    rw [isNewest, number_add_behind]
  have distance := behind_number (state.position +
    behind packet.seqNum state.requester.newestSeqNum) report
  rw [← isPacket] at distance
  refine List.any_eq_true.mpr ⟨report, isReport, ?_⟩
  rw [Bool.and_eq_true]
  refine ⟨decide_eq_true ?_, decide_eq_true rfl⟩
  unfold positionOf
  omega

/-- A packet that is ahead and not recovered loses nothing. -/
theorem InStep.next_ahead {received : NackRequester.Received} {between : NackRequester}
    (sent : (received.nackBatch, received.requester) = between.getNackBatch .seqNumOnly packet.now)
    (added : ∀ skipped ∈ span (behind packet.seqNum state.requester.newestSeqNum - 1)
      (state.requester.newestSeqNum + 1), skipped ∉ state.requester.recoveredList →
        skipped ∈ NackRequester.keys between.nackList) :
    ((span (behind packet.seqNum state.requester.newestSeqNum - 1)
      (state.requester.newestSeqNum + 1)).filter fun skipped =>
        !state.recentlyRecovered (state.positionOf packet.seqNum) skipped &&
        skipped ∉ NackRequester.keys received.requester.nackList &&
        skipped ∉ received.nackBatch) = [] := by
  rw [List.filter_eq_nil_iff]
  intro skipped isSkipped
  simp only [Bool.and_eq_true, decide_eq_true_eq]
  rintro ⟨⟨notRecovered, notListed⟩, notRequested⟩
  by_cases member : skipped ∈ state.requester.recoveredList
  · rw [inStep.recentlyRecovered initialized isNew advance keepsUp isSkipped member] at notRecovered
    cases notRecovered
  · exact (listed_or_requested sent (added skipped isSkipped member)).elim notListed notRequested

end

theorem InStep.next (inStep : state.InStep) (admissible : watchLosses.pre state packet)
    (keepsUp : state.KeepsUp packet) : (watchLosses.next state packet).InStep := by
  obtain ⟨received, returned, isInitialized, arrival⟩ := @onReceivedPacket_cases packet.trees _
    inStep.window packet.now packet.seqNum packet.isKeyframe packet.isRecovered
  have notFresh : ¬ received.requester.initialized = false := by simp [isInitialized]
  simp only [watchLosses, returned]
  cases arrival with
  | first notInitialized newest nackList recoveredList batch =>
    obtain ⟨noNacks, noReports⟩ := inStep.empty notInitialized
    rw [if_pos (by rw [notInitialized]; rfl)]
    refine ⟨?_, fun fresh => absurd fresh notFresh, fun _ => ?_, ?_, ?_, rfl, inStep.noFault⟩
    · rw [nackList, noNacks]
      exact .nil
    · rw [newest, number_toNat]
    · simp [noReports]
    · rw [recoveredList]
      exact inStep.recent
  | late initialized isLate newest nackList recoveredList batch =>
    rw [if_neg (by rw [initialized]; decide), if_pos (by rw [not_isAhead_of_late isLate]; rfl)]
    refine ⟨?_, fun fresh => absurd fresh notFresh, fun _ => ?_, inStep.below, ?_, rfl,
      inStep.noFault⟩
    · rw [newest, nackList]
      exact inStep.window.sublist List.filter_sublist
    · rw [newest, inStep.newest initialized]
    · rw [recoveredList]
      exact inStep.recent
  | recovered initialized wasRecovered isNew isAhead newest nackList recoveredList batch =>
    have ahead := isAhead_of initialized isNew isAhead
    have advance := admissible ahead
    have catchesUp := keepsUp ahead
    rw [wasRecovered, if_pos rfl] at catchesUp
    have isPacket : packet.seqNum = number (state.positionOf packet.seqNum) := by
      rw [positionOf, inStep.newest initialized, number_add_behind]
    have some : behind packet.seqNum state.requester.newestSeqNum ≠ 0 :=
      fun zero => isNew (behind_eq_zero_iff.mp zero).symm
    rw [if_neg (by rw [initialized]; decide), if_neg (by rw [ahead]; decide), if_pos wasRecovered]
    refine ⟨?_, fun fresh => absurd fresh notFresh, fun _ => ?_,
      List.forall_mem_cons.mpr ⟨?_, inStep.below⟩, ?_, rfl, inStep.noFault⟩
    · rw [newest, nackList]
      exact inStep.window
    · rw [newest, inStep.newest initialized]
    · unfold positionOf
      dsimp only
      omega
    · have isAfter : state.position < state.positionOf packet.seqNum := by
        unfold positionOf
        omega
      rw [recoveredList, number_sub isPacket]
      have reported := inStep.recent.report packet.trees.recoveredList inStep.below isAfter
        catchesUp
      rwa [← isPacket] at reported
  | ahead initialized notRecovered isNew isAhead between newest sent recoveredList nackList =>
    have ahead := isAhead_of initialized isNew isAhead
    have advance := admissible ahead
    have catchesUp := keepsUp ahead
    rw [notRecovered, if_neg Bool.false_ne_true] at catchesUp
    have after := sent
    rw [NackRequester.getNackBatch, nackBatch_eq, Prod.mk.injEq] at after
    have isPacket : packet.seqNum = number (state.positionOf packet.seqNum) := by
      rw [positionOf, inStep.newest initialized, number_add_behind]
    rw [if_neg (by rw [initialized]; decide), if_neg (by rw [ahead]; decide),
      if_neg (by rw [notRecovered]; decide)]
    refine ⟨?_, fun fresh => absurd fresh notFresh, fun _ => ?_, fun report isReport => ?_, ?_, ?_,
      inStep.noFault⟩
    · rw [after.2]
      rw [newest]
      refine Window.of_keys ?_ (keys_filterMap_renewed between .seqNumOnly packet.now _)
      rcases nackList with ⟨_, none⟩ | ⟨_, old, added, isList, _, _, window, _, _⟩
      · rw [none]
        exact .nil
      · rw [isList]
        exact window
    · rw [after.2]
      rw [newest]
      exact isPacket
    · have isBelow := inStep.below report isReport
      unfold positionOf
      dsimp only
      omega
    · rw [after.2]
      rw [recoveredList]
      exact inStep.recent
    · rcases nackList with ⟨requested, _⟩ | ⟨notRequested, old, added, isList, _, isAdded, _⟩
      · rw [requested, if_pos rfl]
      rw [notRequested, if_neg Bool.false_ne_true]
      refine inStep.next_ahead initialized isNew advance catchesUp sent fun skipped isSkipped
        notIn => ?_
      rw [isList, NackRequester.keys, List.map_append, List.mem_append]
      right
      rw [isAdded, List.map_map]
      refine List.mem_map.mpr ⟨skipped, List.mem_filter.mpr ⟨isSkipped, ?_⟩, rfl⟩
      rw [Option.isNone_iff_eq_none, ← Option.not_isSome_iff_eq_none]
      exact fun found => notIn (mem_of_find found)

end WatchedLosses

/--
In every run in which, once packets were reported as recovered, each packet that is ahead
is not too far from the highest of them, no call loses a skipped number.
-/
theorem no_loss_of_run (sendNackDelay : Int) (packets : List Packet) (last : WatchedLosses)
    (run : (watchLosses.restrict WatchedLosses.KeepsUp).Run (.start sendNackDelay) packets last) :
    last.fault = none ∧ last.lost = [] := by
  have inStep : last.InStep := run.invariant (fun _ state => state.InStep)
    (WatchedLosses.inStep_start sendNackDelay)
    fun _ _ _ _ holds admissible => holds.next admissible.1 admissible.2
  exact ⟨inStep.noFault, inStep.noLoss⟩

instance (state : WatchedLosses) (packet : Packet) : Decidable (watchLosses.pre state packet) :=
  inferInstanceAs (Decidable (_ → _))

instance (state : WatchedLosses) (packet : Packet) :
    Decidable ((watchLosses.restrict WatchedLosses.KeepsUp).pre state packet) :=
  inferInstanceAs (Decidable (watchLosses.pre state packet ∧ (_ → _ → _)))

/-- A packet is recovered inside a gap. -/
def recoveredGap : List Packet :=
  [{ trees := earliestTrees, now := 0, seqNum := 65534 },
   { trees := earliestTrees, now := 0, seqNum := 0, isRecovered := true },
   { trees := earliestTrees, now := 0, seqNum := 2 }]

theorem no_loss_recoveredGap :
    NackRequester.keys
        (watchLosses.outcome (.start 0) recoveredGap).requester.nackList = [65535, 1] ∧
      (watchLosses.outcome (.start 0) recoveredGap).lost = [] := by
  have admitted : (watchLosses.restrict WatchedLosses.KeepsUp).Admits (.start 0) recoveredGap := by
    decide +kernel
  have holds := no_loss_of_run 0 recoveredGap _ admitted.run
  exact ⟨by decide +kernel, holds.2⟩

/-! ## A whole cycle after a recovered packet -/

def inOrder (count : Nat) : Packet where
  trees := earliestTrees
  now := 0
  seqNum := BitVec.ofNat 16 (count + 1)

/-- The packet 0, then 1 as recovered, then packets in order, from 1 on. -/
def cycle (count : Nat) : List Packet :=
  [{ trees := earliestTrees, now := 0, seqNum := 0 },
   { trees := earliestTrees, now := 0, seqNum := 1, isRecovered := true }] ++
  (List.range count).map inOrder

/-- Nothing is missing, and the recovered packet stays in its list. -/
def afterCycle (count : Nat) : WatchedLosses where
  requester := {
    recoveredList := [1]
    initialized := true
    newestSeqNum := BitVec.ofNat 16 count }
  position := count
  reports := [1]

theorem seqNum_inOrder (count : Nat) :
    (inOrder count).seqNum = (afterCycle count).requester.newestSeqNum + 1 := by
  have one : (1 : SeqNum).toNat = 1 := rfl
  rw [← BitVec.toNat_inj, inOrder, afterCycle, BitVec.toNat_add, BitVec.toNat_ofNat,
    BitVec.toNat_ofNat, one]
  omega

theorem behind_inOrder (count : Nat) :
    behind (inOrder count).seqNum (afterCycle count).requester.newestSeqNum = 1 := by
  rw [behind_eq, inOrder, afterCycle, BitVec.toNat_ofNat, BitVec.toNat_ofNat]
  omega

theorem inOrder_isAhead (count : Nat) :
    (inOrder count).seqNum ≠ (afterCycle count).requester.newestSeqNum ∧
      aheadOf (afterCycle count).requester.newestSeqNum (inOrder count).seqNum = false := by
  have one := behind_inOrder count
  have isNew : (inOrder count).seqNum ≠ (afterCycle count).requester.newestSeqNum := fun same => by
    rw [behind_eq_zero_iff.mpr same.symm] at one
    cases one
  have total := behind_add_comm isNew
  refine ⟨isNew, Bool.eq_false_iff.mpr fun late => ?_⟩
  rw [aheadOf_iff] at late
  omega

theorem addPacketsToNack_none {trees : Trees} {requester : NackRequester}
    (empty : requester.nackList = []) (now : Int) (seqNum : SeqNum) :
    requester.addPacketsToNack trees now seqNum seqNum = .ok (requester, false) := by
  have none : (forwardDiff 0 seqNum seqNum).toNat = 0 := by simp [forwardDiff]
  have isEmpty : { requester with nackList := [] } = requester := by rw [← empty]
  unfold NackRequester.addPacketsToNack
  rw [none, empty, NackRequester.eraseNacksBefore, List.drop_nil]
  exact congrArg (fun same => Except.ok (same, false)) isEmpty

/-- The next packet in order only becomes the newest one. -/
theorem onReceivedPacket_inOrder (count : Nat) :
    (afterCycle count).requester.onReceivedPacket (inOrder count).trees (inOrder count).now
        (inOrder count).seqNum (inOrder count).isKeyframe (inOrder count).isRecovered =
      .ok { requester := (afterCycle (count + 1)).requester } := by
  obtain ⟨isNew, notLate⟩ := inOrder_isAhead count
  unfold NackRequester.onReceivedPacket
  rw [if_neg (by simp [afterCycle]), if_neg isNew, notLate, if_neg Bool.false_ne_true,
    if_neg (by simp [inOrder]), ← seqNum_inOrder]
  rw [addPacketsToNack_none (by rfl)]
  rfl

theorem next_afterCycle (count : Nat) :
    watchLosses.next (afterCycle count) (inOrder count) = afterCycle (count + 1) := by
  obtain ⟨isNew, notLate⟩ := inOrder_isAhead count
  have isAhead : (afterCycle count).isAhead (inOrder count).seqNum = true :=
    WatchedLosses.isAhead_of rfl isNew notLate
  simp only [watchLosses, onReceivedPacket_inOrder, isAhead, behind_inOrder,
    WatchedLosses.positionOf]
  rfl

theorem run_cycle (count : Nat) : watchLosses.Run (.start 0) (cycle count) (afterCycle count) := by
  induction count with
  | zero =>
    have admitted : watchLosses.Admits (.start 0) (cycle 0) := by decide +kernel
    exact admitted.run
  | succ count ih =>
    have longer : cycle (count + 1) = cycle count ++ [inOrder count] := by
      rw [cycle, List.range_succ, List.map_append, ← List.append_assoc]
      rfl
    rw [longer, ← next_afterCycle]
    refine ih.snoc (inOrder count) fun _ => ?_
    rw [behind_inOrder]
    decide

/-- One cycle after a packet was recovered its number is skipped and not requested. -/
theorem loss_after_cycle :
    ∃ packets last, watchLosses.Run (.start 0) packets last ∧ last.lost = [1] := by
  refine ⟨_, _, (run_cycle 65536).snoc { trees := earliestTrees, now := 0, seqNum := 2 } ?_, ?_⟩
  · decide +kernel
  · decide +kernel

end MaeRtc.VideoCoding
