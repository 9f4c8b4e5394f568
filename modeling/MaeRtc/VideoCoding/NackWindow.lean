import MaeRtc.VideoCoding.NackRequester

/-!
# The list to request as a window behind the newest packet

All entries lie within a stretch behind the newest packet that is less than half of the
circle, and are ordered by their age.  On such a list the searches of the requester mean
what they should, whatever the shape of the tree.
-/

namespace MaeRtc.VideoCoding

open Base SeqNum

/-- The entries, oldest first, are at most `age` behind the newest packet. -/
structure Window (newest : SeqNum) (age : Nat) (nackList : List NackInfo) : Prop where
  within : ∀ info ∈ nackList, 1 ≤ behind newest info.seqNum ∧ behind newest info.seqNum ≤ age
  ordered : nackList.Pairwise fun one two =>
    behind newest two.seqNum < behind newest one.seqNum

variable {newest : SeqNum}

/-- A number that is behind by less than half of the circle, seen from another. -/
theorem aheadOf_iff_of_near {key number : SeqNum} (some : 1 ≤ behind newest number)
    (near : behind newest number < 32768) (keyNear : behind newest key ≤ 32768) :
    aheadOf key number = true ↔ behind newest key < behind newest number := by
  have between := @behind_of_behind newest key number
  rw [aheadOf_iff]
  omega

namespace Window

variable {newest : SeqNum} {age : Nat} {nackList : List NackInfo}

theorem nil : Window newest age [] :=
  ⟨by simp, .nil⟩

theorem sublist (window : Window newest age nackList) {fewer : List NackInfo}
    (isSublist : fewer.Sublist nackList) : Window newest age fewer :=
  ⟨fun info member => window.within info (isSublist.subset member),
    window.ordered.sublist isSublist⟩

theorem rebase (window : Window newest age nackList) {newer : SeqNum}
    (small : behind newer newest + age < 65536) :
    Window newer (behind newer newest + age) nackList ∧
      ∀ info ∈ nackList, behind newer newest < behind newer info.seqNum := by
  have shifted : ∀ info ∈ nackList,
      behind newer info.seqNum = behind newer newest + behind newest info.seqNum := by
    intro info member
    have within := window.within info member
    have between := @behind_of_behind newer newest info.seqNum
    have bound := behind_lt newer info.seqNum
    omega
  refine ⟨⟨fun info member => ?_, ?_⟩, fun info member => ?_⟩
  · have within := window.within info member
    rw [shifted info member]
    omega
  · refine window.ordered.imp_of_mem fun oneMember twoMember older => ?_
    rw [shifted _ oneMember, shifted _ twoMember]
    omega
  · have within := window.within info member
    rw [shifted info member]
    omega

section

variable (window : Window newest age nackList) (half : age < 32768) {key : SeqNum}
  (near : behind newest key ≤ 32768)

include window half near

theorem less_iff {info : NackInfo} (member : info ∈ nackList) :
    descendingSeqNumComp info.seqNum key = true ↔ behind newest key < behind newest info.seqNum := by
  have within := window.within info member
  exact aheadOf_iff_of_near within.1 (by omega) near

/-- The numbers that are older than the key come first. -/
theorem older_first : (NackRequester.keys nackList).Pairwise fun one two =>
    descendingSeqNumComp two key = true → descendingSeqNumComp one key = true := by
  refine List.pairwise_map.mpr (window.ordered.imp_of_mem ?_)
  intro one two oneMember twoMember older
  rw [window.less_iff half near oneMember, window.less_iff half near twoMember]
  omega

/-- The search divides the list at the age of the key. -/
theorem lowerBound_spec (search : Search descendingSeqNumComp) :
    (∀ info ∈ nackList.take (search.lowerBound (NackRequester.keys nackList) key),
      behind newest key < behind newest info.seqNum) ∧
    ∀ info ∈ nackList.drop (search.lowerBound (NackRequester.keys nackList) key),
      behind newest info.seqNum ≤ behind newest key := by
  obtain ⟨before, after⟩ := search.lowerBound_spec (window.older_first half near)
  constructor
  · intro info member
    rw [← window.less_iff half near (List.mem_of_mem_take member)]
    refine before _ ?_
    rw [NackRequester.keys, ← List.map_take]
    exact List.mem_map_of_mem member
  · intro info member
    rw [← not_lt, ← window.less_iff half near (List.mem_of_mem_drop member), Bool.not_eq_true]
    refine after _ ?_
    rw [NackRequester.keys, ← List.map_drop]
    exact List.mem_map_of_mem member

theorem eraseNacksBefore (trees : Trees) :
    Window newest (behind newest key) (NackRequester.eraseNacksBefore trees nackList key) := by
  refine ⟨fun info member => ⟨?_, ?_⟩, window.ordered.sublist (List.drop_sublist _ _)⟩
  · exact (window.within info (List.mem_of_mem_drop member)).1
  · exact (window.lowerBound_spec half near trees.nackList).2 info member

end

/-- The numbers are ordered, and hence different. -/
theorem keys_ordered (window : Window newest age nackList) (half : age < 32768) :
    (NackRequester.keys nackList).Pairwise fun one two => descendingSeqNumComp one two = true := by
  refine List.pairwise_map.mpr (window.ordered.imp_of_mem ?_)
  intro one two oneMember twoMember older
  have within := window.within two twoMember
  exact (window.less_iff half (by omega) oneMember).mpr older

theorem nodup (window : Window newest age nackList) : (NackRequester.keys nackList).Nodup := by
  refine List.pairwise_map.mpr (window.ordered.imp fun older same => ?_)
  rw [same] at older
  exact lt_irrefl _ older

end Window

/-! ## Searches -/

theorem eq_of_find {search : Search descendingSeqNumComp} {numbers : List SeqNum} {seqNum : SeqNum}
    {position : Nat} (found : search.find numbers seqNum = some position) :
    numbers[position]? = some seqNum := by
  obtain ⟨_, element, isElement, notLess, notMore⟩ := Search.of_find found
  rcases aheadOf_or element seqNum with rfl | ahead | ahead
  · exact isElement
  · rw [descendingSeqNumComp, ahead] at notMore
    cases notMore
  · rw [descendingSeqNumComp, ahead] at notLess
    cases notLess

theorem mem_of_find {search : Search descendingSeqNumComp} {numbers : List SeqNum} {seqNum : SeqNum}
    (found : (search.find numbers seqNum).isSome) : seqNum ∈ numbers := by
  obtain ⟨position, isPosition⟩ := Option.isSome_iff_exists.mp found
  exact List.mem_of_getElem? (eq_of_find isPosition)

variable {newest : SeqNum} {age : Nat} {nackList : List NackInfo}

/-- In a window a number is found if it is there. -/
theorem Window.find_isSome_iff (window : Window newest age nackList) (half : age < 32768)
    {seqNum : SeqNum} (near : behind newest seqNum ≤ 32768) (search : Search descendingSeqNumComp) :
    (search.find (NackRequester.keys nackList) seqNum).isSome ↔
      seqNum ∈ NackRequester.keys nackList := by
  refine ⟨mem_of_find, fun member => ?_⟩
  obtain ⟨found, _⟩ := search.find_isSome (window.keys_ordered half) not_aheadOf_self
    (window.older_first half near) member
  rw [found]
  rfl

/-- The entry at the position of a number is the only one with that number. -/
theorem eraseIdx_eq_filter {nackList : List NackInfo} (nodup : (NackRequester.keys nackList).Nodup)
    {seqNum : SeqNum} {position : Nat}
    (isSeqNum : (NackRequester.keys nackList)[position]? = some seqNum) :
    nackList.eraseIdx position = nackList.filter fun info => info.seqNum ≠ seqNum := by
  induction nackList generalizing position with
  | nil => rfl
  | cons head rest ih =>
    obtain ⟨notIn, restNodup⟩ := List.nodup_cons.mp nodup
    cases position with
    | zero =>
      cases isSeqNum
      rw [List.eraseIdx_cons_zero, List.filter_cons_of_neg (by simp), eq_comm, List.filter_eq_self]
      intro info member
      refine decide_eq_true fun same => notIn ?_
      rw [← same]
      exact List.mem_map_of_mem member
    | succ position =>
      have differs : head.seqNum ≠ seqNum := by
        rintro rfl
        exact notIn (List.mem_of_getElem? isSeqNum)
      rw [List.eraseIdx_cons_succ, List.filter_cons_of_pos (by simpa using differs),
        ih restNodup isSeqNum]

/-! ## New entries -/

/-- The `count` numbers from `seqNum` on. -/
def span : Nat → SeqNum → List SeqNum
  | 0, _ => []
  | count + 1, seqNum => seqNum :: span count (seqNum + 1)

/-- The entry of a number that is added. -/
def newNack (now : Int) (seqNum : SeqNum) : NackInfo :=
  ⟨seqNum, seqNum + NackRequester.waitNumberOfPackets, now, none, 0⟩

theorem behind_succ {seqNum : SeqNum} {count : Nat}
    (isBehind : behind newest seqNum = count + 1) : behind newest (seqNum + 1) = count := by
  rw [behind_eq] at isBehind ⊢
  rw [BitVec.toNat_add]
  have one : (1 : SeqNum).toNat = 1 := rfl
  omega

theorem mem_span (count : Nat) {seqNum : SeqNum} (isBehind : behind newest seqNum = count)
    (number : SeqNum) :
    number ∈ span count seqNum ↔ 1 ≤ behind newest number ∧ behind newest number ≤ count := by
  induction count generalizing seqNum with
  | zero =>
    rw [span]
    simp only [List.not_mem_nil, false_iff]
    omega
  | succ count ih =>
    rw [span, List.mem_cons, ih (behind_succ isBehind)]
    constructor
    · rintro (rfl | ⟨atLeast, atMost⟩) <;> omega
    · rintro ⟨atLeast, atMost⟩
      by_cases same : behind newest number = count + 1
      · exact .inl (eq_of_behind_eq (same.trans isBehind.symm))
      · exact .inr (by omega)

variable {trees : Trees}

/-- A number that is newer than all others goes to the end. -/
theorem Window.insertNack (window : Window newest age nackList) (half : age < 32768)
    {info : NackInfo} (isNewer : ∀ other ∈ nackList,
      behind newest info.seqNum < behind newest other.seqNum)
    (near : behind newest info.seqNum ≤ 32768) :
    trees.nackList.find (NackRequester.keys nackList) info.seqNum = none ∧
      NackRequester.insertNack trees nackList info = nackList ++ [info] := by
  have notFound : trees.nackList.find (NackRequester.keys nackList) info.seqNum = none := by
    rw [← Option.not_isSome_iff_eq_none, window.find_isSome_iff half near]
    intro member
    obtain ⟨other, isOther, same⟩ := List.mem_map.mp member
    have newer := isNewer other isOther
    rw [same] at newer
    exact lt_irrefl _ newer
  refine ⟨notFound, ?_⟩
  obtain ⟨_, after⟩ := window.lowerBound_spec half near trees.nackList
  have none : nackList.drop
      (trees.nackList.lowerBound (NackRequester.keys nackList) info.seqNum) = [] := by
    rw [List.eq_nil_iff_forall_not_mem]
    intro other member
    have newer := isNewer other (List.mem_of_mem_drop member)
    have older := after other member
    omega
  unfold NackRequester.insertNack
  rw [notFound]
  dsimp only
  rw [none, List.take_of_length_le (List.drop_eq_nil_iff.mp none)]

theorem Window.append (window : Window newest age nackList) {info : NackInfo}
    (isNewer : ∀ other ∈ nackList, behind newest info.seqNum < behind newest other.seqNum)
    (some : 1 ≤ behind newest info.seqNum) (within : behind newest info.seqNum ≤ age) :
    Window newest age (nackList ++ [info]) := by
  refine ⟨List.forall_mem_append.mpr ⟨window.within, List.forall_mem_singleton.mpr
    ⟨some, within⟩⟩, List.pairwise_append.mpr ⟨window.ordered, List.pairwise_singleton _ _, ?_⟩⟩
  intro other isOther last isLast
  rw [List.mem_singleton.mp isLast]
  exact isNewer other isOther

/-- The numbers that were not recovered are added at the end. -/
theorem Window.addNacks (count : Nat) {nackList : List NackInfo}
    (window : Window newest age nackList) (half : age < 32768) (within : count ≤ age)
    {seqNum : SeqNum} (isBehind : behind newest seqNum = count)
    (older : ∀ other ∈ nackList, count < behind newest other.seqNum) (recoveredList : List SeqNum)
    (now : Int) :
    ∃ added, NackRequester.addNacks trees recoveredList now count seqNum nackList =
        .ok (nackList ++ added) ∧
      Window newest age (nackList ++ added) ∧
      added = ((span count seqNum).filter fun number =>
        (trees.recoveredList.find recoveredList number).isNone).map (newNack now) := by
  induction count generalizing nackList seqNum with
  | zero =>
    refine ⟨[], ?_, ?_, rfl⟩
    · rw [NackRequester.addNacks, List.append_nil]
    · rw [List.append_nil]
      exact window
  | succ count ih =>
    rw [NackRequester.addNacks, span]
    by_cases recovered : (trees.recoveredList.find recoveredList seqNum).isSome
    · obtain ⟨added, returned, windowAfter, isAdded⟩ := ih window (by omega)
        (behind_succ isBehind) fun other member => (Nat.lt_succ_self _).trans (older other member)
      refine ⟨added, ?_, windowAfter, ?_⟩
      · rw [if_pos recovered, returned]
      · rw [isAdded, List.filter_cons_of_neg (by
          simpa [Option.isSome_iff_ne_none] using recovered)]
    · have isNewer : ∀ other ∈ nackList,
          behind newest (newNack now seqNum).seqNum < behind newest other.seqNum := by
        intro other member
        have isOlder := older other member
        change behind newest seqNum < _
        omega
      have isBehind' : behind newest (newNack now seqNum).seqNum = count + 1 := isBehind
      obtain ⟨notFound, inserted⟩ := @Window.insertNack _ _ _ trees window half
        (newNack now seqNum) isNewer (by omega)
      have windowThen := window.append isNewer (by omega) (by omega)
      obtain ⟨added, returned, windowAfter, isAdded⟩ := ih windowThen (by omega)
        (behind_succ isBehind) (by
          refine List.forall_mem_append.mpr ⟨fun other member => ?_,
            List.forall_mem_singleton.mpr (by omega)⟩
          exact (Nat.lt_succ_self _).trans (older other member))
      refine ⟨newNack now seqNum :: added, ?_, ?_, ?_⟩
      · change trees.nackList.find (NackRequester.keys nackList) seqNum = none at notFound
        rw [if_neg recovered, notFound]
        change NackRequester.addNacks trees recoveredList now count (seqNum + 1)
          (NackRequester.insertNack trees nackList (newNack now seqNum)) = _
        rw [inserted, returned, List.append_assoc]
        rfl
      · rw [List.append_cons]
        exact windowAfter
      · rw [isAdded, List.filter_cons_of_pos (by simpa using recovered), List.map_cons]

/-! ## Making room -/

theorem removePacketsUntilKeyFrame_spec (trees : Trees) (nackList : List NackInfo)
    (keyframeList : List SeqNum) :
    (NackRequester.removePacketsUntilKeyFrame trees nackList keyframeList).2.1.Sublist
      nackList := by
  induction keyframeList with
  | nil => exact List.Sublist.refl nackList
  | cons keyframe rest ih =>
    rw [NackRequester.removePacketsUntilKeyFrame]
    split_ifs
    · exact List.drop_sublist _ _
    · exact ih

theorem removeWhileFull_spec (trees : Trees) (numNewNacks fuel : Nat) (nackList : List NackInfo)
    (keyframeList : List SeqNum) :
    (NackRequester.removeWhileFull trees numNewNacks fuel nackList keyframeList).1.Sublist
      nackList := by
  induction fuel generalizing nackList keyframeList with
  | zero => exact List.Sublist.refl nackList
  | succ fuel ih =>
    have removed := removePacketsUntilKeyFrame_spec trees nackList keyframeList
    rw [NackRequester.removeWhileFull]
    dsimp only
    split_ifs
    · exact (ih _ _).trans removed
    · exact removed

theorem length_span (count : Nat) (seqNum : SeqNum) : (span count seqNum).length = count := by
  induction count generalizing seqNum with
  | zero => rfl
  | succ count ih => rw [span, List.length_cons, ih]

theorem behind_sub (seqNum : SeqNum) {distance : Nat} (small : distance < 65536) :
    behind seqNum (seqNum - BitVec.ofNat 16 distance) = distance := by
  have isDistance : (BitVec.ofNat 16 distance).toNat = distance := by
    rw [BitVec.toNat_ofNat]
    omega
  rw [behind_eq, BitVec.toNat_sub, isDistance]
  omega

theorem forwardDiff_succ {seqNum : SeqNum} (isNew : seqNum ≠ newest) :
    (forwardDiff 0 (newest + 1) seqNum).toNat = behind seqNum newest - 1 := by
  have some : behind seqNum newest ≠ 0 := fun zero => isNew (behind_eq_zero_iff.mp zero).symm
  have pred : behind seqNum (newest + 1) = behind seqNum newest - 1 := behind_succ (by omega)
  rw [← pred]
  rfl

/-- What new packets leave of the list: it is given up, or the newest old entries stay and the
numbers that were skipped and not recovered follow. -/
def Replaces (trees : Trees) (requester : NackRequester) (now : Int) (seqNum : SeqNum)
    (nackList : List NackInfo) (givenUp : Bool) : Prop :=
  (givenUp = true ∧ nackList = []) ∨ givenUp = false ∧ ∃ old added : List NackInfo,
    nackList = old ++ added ∧ old.Sublist requester.nackList ∧
    added = ((span (behind seqNum requester.newestSeqNum - 1)
      (requester.newestSeqNum + 1)).filter fun number =>
        (trees.recoveredList.find requester.recoveredList number).isNone).map (newNack now) ∧
    Window seqNum kMaxPacketAge (old ++ added) ∧ (old ++ added).length ≤ kMaxNackPackets ∧
    ∀ info ∈ old, behind seqNum requester.newestSeqNum < behind seqNum info.seqNum

theorem addPacketsToNack_replaces {requester : NackRequester}
    (window : Window requester.newestSeqNum kMaxPacketAge requester.nackList) (now : Int)
    {seqNum : SeqNum} (isNew : seqNum ≠ requester.newestSeqNum) :
    ∃ nackList keyframeList givenUp,
      NackRequester.addPacketsToNack trees requester now (requester.newestSeqNum + 1) seqNum =
        .ok ({ requester with nackList := nackList, keyframeList := keyframeList }, givenUp) ∧
      Replaces trees requester now seqNum nackList givenUp := by
  have some : behind seqNum requester.newestSeqNum ≠ 0 :=
    fun zero => isNew (behind_eq_zero_iff.mp zero).symm
  obtain ⟨pruned, isPruned⟩ : ∃ pruned, pruned = NackRequester.eraseNacksBefore trees
    requester.nackList (seqNum - BitVec.ofNat 16 kMaxPacketAge) := ⟨_, rfl⟩
  obtain ⟨new, isNumber⟩ : ∃ new, new = behind seqNum requester.newestSeqNum - 1 := ⟨_, rfl⟩
  obtain ⟨room, isRoom⟩ : ∃ room, room =
    if pruned.length + new > kMaxNackPackets then
      NackRequester.removeWhileFull trees new (pruned.length + 1) pruned requester.keyframeList
    else (pruned, requester.keyframeList) := ⟨_, rfl⟩
  have fewer : room.1.Sublist pruned := by
    rw [isRoom]
    split_ifs
    · exact removeWhileFull_spec trees _ _ _ _
    · exact List.Sublist.refl pruned
  have step : NackRequester.addPacketsToNack trees requester now (requester.newestSeqNum + 1)
      seqNum = if room.1.length + new > kMaxNackPackets then
        .ok ({ requester with nackList := [], keyframeList := room.2 }, true)
      else NackRequester.addNacks trees requester.recoveredList now new
        (requester.newestSeqNum + 1) room.1 >>= fun nackList =>
          .ok ({ requester with nackList := nackList, keyframeList := room.2 }, false) := by
    unfold NackRequester.addPacketsToNack
    rw [forwardDiff_succ isNew, ← isNumber, ← isPruned]
    dsimp only
    rw [← isRoom]
  rw [step]
  by_cases full : room.1.length + new > kMaxNackPackets
  · rw [if_pos full]
    exact ⟨_, _, _, rfl, .inl ⟨rfl, rfl⟩⟩
  rw [if_neg full]
  unfold kMaxNackPackets at full
  have isAge := behind_sub seqNum (by decide : kMaxPacketAge < 65536)
  obtain ⟨rebased, older⟩ := window.rebase
    (by unfold kMaxPacketAge; omega : behind seqNum requester.newestSeqNum + kMaxPacketAge < _)
  have windowPruned := rebased.eraseNacksBefore (by unfold kMaxPacketAge; omega)
    (by rw [isAge]; decide) trees
  rw [isAge, ← isPruned] at windowPruned
  have windowRoom := windowPruned.sublist fewer
  have isBehind : behind seqNum (requester.newestSeqNum + 1) = new := behind_succ (by omega)
  have inList : room.1.Sublist requester.nackList := by
    rw [isPruned] at fewer
    exact fewer.trans (List.drop_sublist _ _)
  have olderRoom : ∀ other ∈ room.1, new < behind seqNum other.seqNum := by
    intro other member
    have isOlder := older other (inList.subset member)
    omega
  obtain ⟨added, returned, windowAfter, isAdded⟩ := @Window.addNacks _ _ trees new _ windowRoom
    (by decide) (by unfold kMaxPacketAge; omega) _ isBehind olderRoom requester.recoveredList now
  rw [returned]
  refine ⟨_, _, _, rfl, .inr ⟨rfl, room.1, added, rfl, inList, ?_, windowAfter, ?_, fun info member =>
    older info (inList.subset member)⟩⟩
  · rw [isAdded, isNumber]
  · have count : added.length ≤ new := by
      rw [isAdded, List.length_map]
      exact (List.length_filter_le _ _).trans_eq (length_span _ _)
    rw [List.length_append]
    unfold kMaxNackPackets
    omega

/-! ## A packet arrives -/

/-- What a packet does to the requester. -/
inductive Arrival (trees : Trees) (requester : NackRequester) (now : Int) (seqNum : SeqNum)
    (isRecovered : Bool) (received : NackRequester.Received) : Prop
  | first (notInitialized : requester.initialized = false)
      (newest : received.requester.newestSeqNum = seqNum)
      (nackList : received.requester.nackList = requester.nackList)
      (recoveredList : received.requester.recoveredList = requester.recoveredList)
      (batch : received.nackBatch = [])
  | late (initialized : requester.initialized = true)
      (isLate : seqNum = requester.newestSeqNum ∨ aheadOf requester.newestSeqNum seqNum = true)
      (newest : received.requester.newestSeqNum = requester.newestSeqNum)
      (nackList : received.requester.nackList =
        requester.nackList.filter fun info => info.seqNum ≠ seqNum)
      (recoveredList : received.requester.recoveredList = requester.recoveredList)
      (batch : received.nackBatch = [])
  | recovered (initialized : requester.initialized = true) (wasRecovered : isRecovered = true)
      (isNew : seqNum ≠ requester.newestSeqNum)
      (isAhead : aheadOf requester.newestSeqNum seqNum = false)
      (newest : received.requester.newestSeqNum = requester.newestSeqNum)
      (nackList : received.requester.nackList = requester.nackList)
      (recoveredList : received.requester.recoveredList = trees.recoveredList.eraseBefore
        (trees.recoveredList.insert requester.recoveredList seqNum)
        (seqNum - BitVec.ofNat 16 kMaxPacketAge))
      (batch : received.nackBatch = [])
  | ahead (initialized : requester.initialized = true) (notRecovered : isRecovered = false)
      (isNew : seqNum ≠ requester.newestSeqNum)
      (isAhead : aheadOf requester.newestSeqNum seqNum = false)
      (between : NackRequester) (newest : between.newestSeqNum = seqNum)
      (sent : (received.nackBatch, received.requester) = between.getNackBatch .seqNumOnly now)
      (recoveredList : between.recoveredList = requester.recoveredList)
      (nackList : Replaces trees requester now seqNum between.nackList received.keyFrameRequested)

theorem onReceivedPacket_cases {requester : NackRequester}
    (window : Window requester.newestSeqNum kMaxPacketAge requester.nackList) (now : Int)
    (seqNum : SeqNum) (isKeyframe isRecovered : Bool) :
    ∃ received, requester.onReceivedPacket trees now seqNum isKeyframe isRecovered =
        .ok received ∧ received.requester.initialized = true ∧
      Arrival trees requester now seqNum isRecovered received := by
  unfold NackRequester.onReceivedPacket
  rcases Bool.eq_false_or_eq_true requester.initialized with initialized | notInitialized
  · rw [if_neg (by rw [initialized]; decide)]
    by_cases isNew : seqNum = requester.newestSeqNum
    · rw [if_pos isNew]
      refine ⟨_, rfl, initialized, .late initialized (.inl isNew) rfl ?_ rfl rfl⟩
      rw [eq_comm, List.filter_eq_self]
      intro info member
      refine decide_eq_true fun same => ?_
      have within := window.within info member
      rw [same, behind_eq_zero_iff.mpr isNew] at within
      omega
    rw [if_neg isNew]
    by_cases isAhead : aheadOf requester.newestSeqNum seqNum = true
    · rw [if_pos isAhead]
      have near : behind requester.newestSeqNum seqNum ≤ 32768 := by
        rw [aheadOf_iff] at isAhead
        omega
      cases found : trees.nackList.find (NackRequester.keys requester.nackList) seqNum with
      | none =>
        refine ⟨_, rfl, initialized, .late initialized (.inr isAhead) rfl ?_ rfl rfl⟩
        rw [eq_comm, List.filter_eq_self]
        intro info member
        refine decide_eq_true fun same => ?_
        have isSome := (window.find_isSome_iff (by decide) near trees.nackList).mpr
          (List.mem_map.mpr ⟨info, member, same⟩)
        rw [found] at isSome
        cases isSome
      | some position =>
        exact ⟨_, rfl, initialized, .late initialized (.inr isAhead) rfl
          (eraseIdx_eq_filter window.nodup (eq_of_find found)) rfl rfl⟩
    · rw [if_neg isAhead]
      rw [Bool.not_eq_true] at isAhead
      cases isRecovered with
      | true => exact ⟨_, rfl, initialized, .recovered initialized rfl isNew isAhead rfl rfl rfl rfl⟩
      | false =>
        rw [if_neg (by decide)]
        obtain ⟨keyframeList, isList⟩ : ∃ keyframeList, keyframeList =
            trees.keyframeList.eraseBefore (if isKeyframe = true then
              trees.keyframeList.insert requester.keyframeList seqNum
              else requester.keyframeList) (seqNum - BitVec.ofNat 16 kMaxPacketAge) := ⟨_, rfl⟩
        rw [← isList]
        obtain ⟨nackList, keyframesAfter, givenUp, returned, replaces⟩ :=
          @addPacketsToNack_replaces trees { requester with keyframeList := keyframeList } window
            now seqNum isNew
        rw [returned]
        exact ⟨_, rfl, initialized, .ahead initialized rfl isNew isAhead
          { requester with
            nackList := nackList, keyframeList := keyframesAfter, newestSeqNum := seqNum }
          rfl rfl rfl replaces⟩
  · rw [if_pos (by rw [notInitialized]; rfl)]
    exact ⟨_, rfl, rfl, .first notInitialized rfl rfl rfl rfl⟩

end MaeRtc.VideoCoding
