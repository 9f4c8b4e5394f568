import MaeRtc.Base.Machine
import MaeRtc.VideoCoding.PacketFrames

/-!
# Runs of the packet buffer

Every packet that is inserted gets a ticket.  The packets a call returns make up frames, no
ticket is returned twice, and a packet that is no longer in the buffer was returned or
cleared.
-/

namespace MaeRtc.VideoCoding

open Base

namespace PacketBuffer

/-- Both sizes are powers of two. -/
def Sizes (packets : PacketBuffer) : Prop :=
  ∃ size limit, size ≤ limit ∧ packets.buffer.length = 2 ^ size ∧ packets.maxSize = 2 ^ limit

theorem tickets_replicate (size : Nat) : tickets (List.replicate size none) = [] := by
  simp [tickets, stored]

theorem Fits.of_dvd {size larger : Nat} {packets others : List Packet} {packet : Packet}
    (fits : Fits size packets packet) (divides : size ∣ larger)
    (subset : ∀ other ∈ others, other ∈ packets) : Fits larger others packet := by
  intro other member differ
  obtain ⟨near, free⟩ := fits other (subset other member) differ
  refine ⟨fun same => ⟨fun before => (near same).1 (before.of_dvd divides),
    fun before => (near same).2 (before.of_dvd divides)⟩, fun continuous notFirst before => ?_⟩
  exact free continuous notFirst (before.of_dvd divides)

section

variable {packets : PacketBuffer}

theorem expandBufferSize_spec (sizes : packets.Sizes) (separated : Separated packets.buffer)
    {larger : PacketBuffer} (expanded : packets.expandBufferSize = some larger) :
    ∃ size limit, size + 1 ≤ limit ∧ packets.buffer.length = 2 ^ size ∧
      larger.buffer.length = 2 ^ (size + 1) ∧ larger.maxSize = 2 ^ limit ∧
      larger.maxSize = packets.maxSize ∧ Separated larger.buffer ∧
      (stored larger.buffer).Perm (stored packets.buffer) := by
  obtain ⟨size, limit, le, isSize, isLimit⟩ := sizes
  unfold expandBufferSize at expanded
  split_ifs at expanded with isFull
  have below : size < limit := by
    refine lt_of_le_of_ne le fun same => isFull ?_
    rw [isSize, isLimit, same]
  have doubled : min packets.maxSize (2 * packets.buffer.length) = 2 ^ (size + 1) := by
    rw [isSize, isLimit, ← Nat.pow_succ', min_eq_right (Nat.pow_le_pow_right (by decide) below)]
  cases expanded
  obtain ⟨isSeparated, isLength, moved⟩ := separated.rehash
    (Nat.two_pow_pos (size + 1)) (by rw [isSize]; exact Nat.pow_dvd_pow 2 (Nat.le_succ size))
  rw [doubled]
  exact ⟨size, limit, below, isSize, isLength, isLimit, rfl, isSeparated, moved⟩

/-- The buffer grows until the slot is free or the buffer has its largest size. -/
theorem expandWhileOccupied_spec (seqNum : SeqNum) {fuel size limit : Nat}
    (enough : limit ≤ size + fuel) (le : size ≤ limit) (isSize : packets.buffer.length = 2 ^ size)
    (isLimit : packets.maxSize = 2 ^ limit) (separated : Separated packets.buffer) :
    let after := expandWhileOccupied seqNum fuel packets
    after.Sizes ∧ after.maxSize = packets.maxSize ∧ Separated after.buffer ∧
      packets.buffer.length ∣ after.buffer.length ∧
      (stored after.buffer).Perm (stored packets.buffer) ∧
      (entry after.buffer (slot after.buffer seqNum) = none ∨
        after.buffer.length = after.maxSize) := by
  have sizes : packets.Sizes := ⟨size, limit, le, isSize, isLimit⟩
  induction fuel generalizing packets size with
  | zero =>
    have full : size = limit := by omega
    exact ⟨sizes, rfl, separated, dvd_refl _, .refl _, .inr (isSize.trans (full ▸ isLimit.symm))⟩
  | succ fuel ih =>
    unfold expandWhileOccupied
    cases expanded : packets.expandBufferSize with
    | none =>
      have full : packets.buffer.length = packets.maxSize := by
        unfold expandBufferSize at expanded
        by_contra notFull
        rw [if_neg notFull] at expanded
        cases expanded
      exact ⟨sizes, rfl, separated, dvd_refl _, .refl _, .inr full⟩
    | some larger =>
      obtain ⟨size', limit', le', isSize', isLarger, isLimit', sameLimit, isSeparated, moved⟩ :=
        expandBufferSize_spec sizes separated expanded
      obtain rfl : size = size' := Nat.pow_right_injective (le_refl 2) (isSize.symm.trans isSize')
      obtain rfl : limit = limit' := Nat.pow_right_injective (le_refl 2)
        (isLimit.symm.trans (sameLimit.symm.trans isLimit'))
      have divides : packets.buffer.length ∣ larger.buffer.length := by
        rw [isSize, isLarger]
        exact Nat.pow_dvd_pow 2 (Nat.le_succ size)
      have sizes' : larger.Sizes := ⟨size + 1, limit, le', isLarger, isLimit'⟩
      dsimp only
      split_ifs with isOccupied
      · obtain ⟨afterSizes, afterLimit, afterSeparated, afterDivides, afterMoved, done⟩ :=
          ih (by omega) le' isLarger isLimit' isSeparated sizes'
        exact ⟨afterSizes, afterLimit.trans sameLimit, afterSeparated,
          divides.trans afterDivides, afterMoved.trans moved, done⟩
      · refine ⟨sizes', sameLimit, isSeparated, divides, moved, .inl ?_⟩
        rwa [Bool.not_eq_true, Option.isSome_eq_false_iff, Option.isNone_iff_eq_none] at isOccupied

theorem updateMissingPackets_same (search : Search descendingSeqNumComp) (packets : PacketBuffer)
    (seqNum : SeqNum) :
    (updateMissingPackets search packets seqNum).buffer = packets.buffer ∧
      (updateMissingPackets search packets seqNum).maxSize = packets.maxSize := by
  unfold updateMissingPackets
  dsimp only
  split_ifs <;> exact ⟨rfl, rfl⟩

/-! ## The calls -/

/-- What a call does: frames are returned, and the tickets in the buffer are returned or
kept, unless the whole buffer was cleared; `added` is the ticket of a new packet. -/
structure Settles (before : PacketBuffer) (added : List Nat) (result : InsertResult) : Prop where
  separated : Separated result.packets.buffer
  sizes : result.packets.Sizes
  frames : ∃ frames : List (List Packet),
    result.found = frames.flatten ∧ ∀ frame ∈ frames, Genuine frame
  moved : ∃ new, new.Sublist added ∧
    (result.found.map Packet.ticket ++ tickets result.packets.buffer).Perm
      (new ++ if result.cleared then [] else tickets before.buffer)

theorem storePacket_spec (trees : PacketTrees) (sizes : packets.Sizes)
    (separated : Separated packets.buffer) {packet : Packet}
    (free : entry packets.buffer (slot packets.buffer packet.seqNum) = none)
    (fits : Fits packets.buffer.length (stored packets.buffer) packet) (cleared : Bool) :
    Ensures (storePacket trees packets packet cleared) fun result =>
      Separated result.packets.buffer ∧ result.packets.Sizes ∧ result.cleared = cleared ∧
      (∃ frames : List (List Packet),
        result.found = frames.flatten ∧ ∀ frame ∈ frames, Genuine frame) ∧
      (result.found.map Packet.ticket ++ tickets result.packets.buffer).Perm
        (packet.ticket :: tickets packets.buffer) := by
  have inside : slot packets.buffer packet.seqNum < packets.buffer.length :=
    Nat.mod_lt _ separated.positive
  have added := (stored_set_perm inside (some { packet with continuous := false })).map Packet.ticket
  rw [free, Option.toList_none, List.nil_append, Option.toList_some, List.singleton_append,
    List.map_cons] at added
  unfold storePacket
  dsimp only
  obtain ⟨sameBuffer, sameLimit⟩ := updateMissingPackets_same trees.missingPackets
    { packets with
      buffer := packets.buffer.set (slot packets.buffer packet.seqNum)
        (some { packet with continuous := false }) } packet.seqNum
  generalize updateMissingPackets trees.missingPackets { packets with
      buffer := packets.buffer.set (slot packets.buffer packet.seqNum)
        (some { packet with continuous := false }) } packet.seqNum = updated at sameBuffer sameLimit ⊢
  have isSeparated : Separated updated.buffer := sameBuffer ▸ separated.insert fits
  refine (@findFramesFrom_spec { updated with
    receivedPadding := trees.receivedPadding.eraseBefore updated.receivedPadding
      (packet.seqNum - BitVec.ofNat 16 (updated.buffer.length / 4)) } trees packet.seqNum
    updated.buffer.length packet.seqNum isSeparated).bind ?_
  rintro ⟨found, after⟩ takes
  refine .ok ⟨takes.separated, ?_, rfl, takes.frames, takes.moved.trans ?_⟩
  · obtain ⟨size, limit, le, isSize, isLimit⟩ := sizes
    refine ⟨size, limit, le, ?_, (takes.sameLimit.trans sameLimit).trans isLimit⟩
    rw [takes.sameLength, sameBuffer, List.length_set, isSize]
  · rw [sameBuffer]
    exact added

theorem separated_clearInternal (sizes : packets.Sizes) : Separated packets.clearInternal.buffer ∧
    packets.clearInternal.Sizes ∧ tickets packets.clearInternal.buffer = [] := by
  obtain ⟨size, limit, le, isSize, isLimit⟩ := sizes
  refine ⟨separated_replicate (by rw [isSize]; exact Nat.two_pow_pos size),
    ⟨size, limit, le, ?_, isLimit⟩, tickets_replicate _⟩
  rw [clearInternal, List.length_replicate, isSize]

section

variable {packet : Packet} (trees : PacketTrees) (sizes : packets.Sizes)
  (separated : Separated packets.buffer)
  (regular : (∃ other ∈ stored packets.buffer, other.seqNum = packet.seqNum) ∨
    Fits packets.buffer.length (stored packets.buffer) packet)
include sizes separated regular

/-- The packet is new to the buffer it is placed in, and fits, or it is there. -/
theorem placePacket_spec {before : PacketBuffer} {cleared : Bool}
    (kept : tickets packets.buffer = if cleared then [] else tickets before.buffer) :
    Ensures (placePacket trees packets packet cleared) (Settles before [packet.ticket]) := by
  have fitsUnlessThere : ∀ {other}, entry packets.buffer (slot packets.buffer packet.seqNum) = other →
      other.all (·.seqNum ≠ packet.seqNum) = true →
      Fits packets.buffer.length (stored packets.buffer) packet := by
    rintro _ rfl notThere
    refine regular.resolve_left fun ⟨other, isOther, same⟩ => ?_
    rw [← same, separated.entry_slot isOther] at notThere
    simp at notThere
  unfold placePacket
  cases isEntry : entry packets.buffer (slot packets.buffer packet.seqNum) with
  | none =>
    refine (storePacket_spec trees sizes separated isEntry (fitsUnlessThere isEntry rfl)
      cleared).weaken ?_
    rintro result ⟨isSeparated, isSizes, rfl, frames, moved⟩
    exact ⟨isSeparated, isSizes, frames, [packet.ticket], .refl _, kept ▸ moved⟩
  | some other =>
    dsimp only
    obtain ⟨size, limit, le, isSize, isLimit⟩ := sizes
    obtain ⟨isSizes, _, isSeparated, divides, moved, _⟩ := expandWhileOccupied_spec packet.seqNum
      (isLimit ▸ Nat.lt_two_pow_self.le.trans (Nat.le_add_left _ _)) le isSize isLimit separated
    split_ifs with same isOccupied
    · refine .ok ⟨separated, ⟨size, limit, le, isSize, isLimit⟩, ⟨[], rfl, by simp⟩, [], by simp, ?_⟩
      exact kept ▸ .refl _
    · obtain ⟨clearSeparated, clearSizes, empty⟩ := separated_clearInternal isSizes
      exact .ok ⟨clearSeparated, clearSizes, ⟨[], rfl, by simp⟩, [], by simp, by simp [empty]⟩
    · have fits := (fitsUnlessThere isEntry (by simpa using same)).of_dvd divides
        fun other member => moved.mem_iff.mp member
      have free : entry (expandWhileOccupied packet.seqNum packets.maxSize packets).buffer
          (slot (expandWhileOccupied packet.seqNum packets.maxSize packets).buffer
            packet.seqNum) = none := by
        rwa [Bool.not_eq_true, Option.isSome_eq_false_iff, Option.isNone_iff_eq_none] at isOccupied
      refine (storePacket_spec trees isSizes isSeparated free fits cleared).weaken ?_
      rintro result ⟨afterSeparated, afterSizes, rfl, frames, afterMoved⟩
      refine ⟨afterSeparated, afterSizes, frames, [packet.ticket], .refl _, afterMoved.trans ?_⟩
      rw [← kept]
      exact (moved.map Packet.ticket).cons _

theorem insertPacket_spec :
    Ensures (insertPacket trees packets packet) (Settles packets [packet.ticket]) := by
  have kept : ∀ {base : PacketBuffer}, base.buffer = packets.buffer →
      base.maxSize = packets.maxSize →
      Ensures (placePacket trees base packet false) (Settles packets [packet.ticket]) := by
    intro base sameBuffer sameLimit
    have baseSizes : base.Sizes := by rwa [Sizes, sameBuffer, sameLimit]
    refine placePacket_spec trees baseSizes (sameBuffer ▸ separated) (sameBuffer ▸ regular) ?_
    rw [sameBuffer]
    rfl
  unfold insertPacket
  dsimp only
  split_ifs
  · exact kept rfl rfl
  · refine .ok ⟨separated, sizes, ⟨[], rfl, by simp⟩, [], List.nil_sublist _, ?_⟩
    exact .refl _
  · obtain ⟨isSeparated, isSizes, empty⟩ := separated_clearInternal sizes
    have nothing : ∀ other, other ∉ stored packets.clearInternal.buffer := by
      intro other member
      have isTicket : other.ticket ∈ tickets packets.clearInternal.buffer :=
        List.mem_map_of_mem member
      rw [empty] at isTicket
      cases isTicket
    exact @placePacket_spec { packets.clearInternal with
        firstPacketReceived := true, firstSeqNum := packet.seqNum } packet trees isSizes isSeparated
      (.inr fun other member => absurd member (nothing other)) packets true empty
  · exact kept rfl rfl
  · exact kept rfl rfl

end

theorem insertPadding_spec (trees : PacketTrees) (sizes : packets.Sizes)
    (separated : Separated packets.buffer) (seqNum : SeqNum) :
    Ensures (insertPadding trees packets seqNum) (Settles packets []) := by
  unfold insertPadding
  obtain ⟨sameBuffer, sameLimit⟩ := updateMissingPackets_same trees.missingPackets packets seqNum
  generalize updateMissingPackets trees.missingPackets packets seqNum = updated
    at sameBuffer sameLimit ⊢
  refine (@findFramesFrom_spec { updated with
    receivedPadding := trees.receivedPadding.insert updated.receivedPadding seqNum } trees
    (seqNum + 1) updated.buffer.length (seqNum + 1) (sameBuffer ▸ separated)).bind ?_
  rintro ⟨found, after⟩ takes
  refine .ok ⟨takes.separated, ?_, takes.frames, [], .refl _, ?_⟩
  · obtain ⟨size, limit, le, isSize, isLimit⟩ := sizes
    exact ⟨size, limit, le, takes.sameLength.trans (sameBuffer ▸ isSize),
      (takes.sameLimit.trans sameLimit).trans isLimit⟩
  · rw [if_neg Bool.false_ne_true, List.nil_append, ← sameBuffer]
    exact takes.moved

/-- Clearing takes packets before the sequence number only. -/
theorem clearSlots_spec (seqNum : SeqNum) (iterations : Nat) (firstSeqNum : SeqNum)
    {buffer : List (Option Packet)} (separated : Separated buffer) :
    let after := clearSlots seqNum iterations firstSeqNum buffer
    Separated after ∧ after.length = buffer.length ∧ (tickets after).Subperm (tickets buffer) ∧
      ∀ packet ∈ stored buffer, packet ∈ stored after ∨ aheadOf seqNum packet.seqNum = true := by
  induction iterations generalizing firstSeqNum buffer with
  | zero => exact ⟨separated, rfl, .refl _, fun packet member => .inl member⟩
  | succ iterations ih =>
    unfold clearSlots
    dsimp only
    split_ifs with isOld
    · rw [Option.any_eq_true] at isOld
      obtain ⟨packet, isEntry, isAhead⟩ := isOld
      have taken := tickets_remove isEntry
      obtain ⟨isSeparated, isLength, fewer, kept⟩ := ih (firstSeqNum + 1) separated.remove
      refine ⟨isSeparated, isLength.trans (List.length_set ..), fewer.trans ?_, fun other member => ?_⟩
      · exact (List.sublist_cons_self _ _).subperm.trans taken.subperm
      obtain ⟨index, atIndex⟩ := mem_stored.mp member
      by_cases same : index = slot buffer firstSeqNum
      · rw [same, isEntry] at atIndex
        cases atIndex
        exact .inr isAhead
      · refine kept other (mem_stored.mpr ⟨index, ?_⟩)
        rw [entry_set (lt_of_entry isEntry), if_neg same]
        exact atIndex
    · exact ih (firstSeqNum + 1) separated

theorem clearTo_spec (trees : PacketTrees) (separated : Separated packets.buffer) (seqNum : SeqNum) :
    let after := packets.clearTo trees seqNum
    Separated after.buffer ∧ after.buffer.length = packets.buffer.length ∧
      after.maxSize = packets.maxSize ∧ (tickets after.buffer).Subperm (tickets packets.buffer) ∧
      ∀ packet ∈ stored packets.buffer,
        packet ∈ stored after.buffer ∨ aheadOf (seqNum + 1) packet.seqNum = true := by
  unfold clearTo
  split_ifs
  · exact ⟨separated, rfl, rfl, .refl _, fun packet member => .inl member⟩
  · exact ⟨separated, rfl, rfl, .refl _, fun packet member => .inl member⟩
  · obtain ⟨isSeparated, isLength, fewer, kept⟩ := clearSlots_spec (seqNum + 1)
      (min (forwardDiff 0 packets.firstSeqNum (seqNum + 1)).toNat packets.buffer.length)
      packets.firstSeqNum separated
    exact ⟨isSeparated, isLength, rfl, fewer, kept⟩

end

end PacketBuffer

/-! ## Runs -/

inductive PacketCall where
  | insertPacket (trees : PacketTrees) (packet : PacketBuffer.Packet)
  | insertPadding (trees : PacketTrees) (seqNum : SeqNum)
  | clearTo (trees : PacketTrees) (seqNum : SeqNum)
  | clear

/-- The buffer, the tickets given and returned so far, what the last call returned, and the
packets that it made vanish without an excuse. -/
structure WatchedPackets where
  packets : PacketBuffer
  nextTicket : Nat := 0
  returned : List Nat := []
  found : List PacketBuffer.Packet := []
  vanished : List PacketBuffer.Packet := []
  fault : Option PacketViolation := none
  deriving DecidableEq, Repr

namespace WatchedPackets

open PacketBuffer

def start (startBufferSize maxBufferSize : Nat) (spsPpsIdrIsH264Keyframe : Bool) :
    WatchedPackets where
  packets := .new startBufferSize maxBufferSize spsPpsIdrIsH264Keyframe

/-- The packets that were stored, and are neither stored nor returned nor excused. -/
def lost (before after : PacketBuffer) (found : List PacketBuffer.Packet)
    (excused : PacketBuffer.Packet → Bool) : List PacketBuffer.Packet :=
  (stored before.buffer).filter fun packet =>
    packet.ticket ∉ tickets after.buffer && packet.ticket ∉ found.map PacketBuffer.Packet.ticket &&
      !excused packet

def settle (state : WatchedPackets) (given : Nat) (result : InsertResult) : WatchedPackets where
  packets := result.packets
  nextTicket := state.nextTicket + given
  returned := state.returned ++ result.found.map PacketBuffer.Packet.ticket
  found := result.found
  vanished := lost state.packets result.packets result.found fun _ => result.cleared
  fault := state.fault

end WatchedPackets

open WatchedPackets in
/-- The calls in any order. -/
def watchPackets : Machine WatchedPackets PacketCall where
  pre _ _ := True
  next state
    | .insertPacket trees packet =>
      match state.packets.insertPacket trees { packet with ticket := state.nextTicket } with
      | .error violation => { state with fault := some violation }
      | .ok result => state.settle 1 result
    | .insertPadding trees seqNum =>
      match state.packets.insertPadding trees seqNum with
      | .error violation => { state with fault := some violation }
      | .ok result => state.settle 0 result
    | .clearTo trees seqNum =>
      let after := state.packets.clearTo trees seqNum
      { state with
        packets := after
        found := []
        vanished := lost state.packets after [] fun packet =>
          aheadOf (seqNum + 1) packet.seqNum }
    | .clear => { state with packets := state.packets.clear, found := [], vanished := [] }

namespace WatchedPackets

open PacketBuffer

/-- A packet that is inserted is there, or fits. -/
def Regular (state : WatchedPackets) : PacketCall → Prop
  | .insertPacket _ packet =>
    (∃ other ∈ stored state.packets.buffer, other.seqNum = packet.seqNum) ∨
      Fits state.packets.buffer.length (stored state.packets.buffer) packet
  | _ => True

structure InStep (state : WatchedPackets) : Prop where
  separated : Separated state.packets.buffer
  sizes : state.packets.Sizes
  once : (state.returned ++ tickets state.packets.buffer).Nodup
  given : ∀ ticket ∈ state.returned ++ tickets state.packets.buffer, ticket < state.nextTicket
  frames : ∃ frames : List (List PacketBuffer.Packet),
    state.found = frames.flatten ∧ ∀ frame ∈ frames, Genuine frame
  noneVanished : state.vanished = []
  noFault : state.fault = none

theorem lost_eq_nil {before after : PacketBuffer} {found : List PacketBuffer.Packet}
    {excused : PacketBuffer.Packet → Bool}
    (accounted : ∀ packet ∈ stored before.buffer, packet.ticket ∈ tickets after.buffer ∨
      packet.ticket ∈ found.map PacketBuffer.Packet.ticket ∨ excused packet = true) :
    lost before after found excused = [] := by
  rw [lost, List.filter_eq_nil_iff]
  intro packet member
  simp only [Bool.and_eq_true, decide_eq_true_eq, Bool.not_eq_true']
  rintro ⟨⟨notKept, notReturned⟩, notExcused⟩
  rcases accounted packet member with kept | returned | isExcused
  · exact notKept kept
  · exact notReturned returned
  · exact Bool.false_ne_true (notExcused.symm.trans isExcused)

variable {state : WatchedPackets}

/-- A call that settles all packets keeps the account. -/
theorem InStep.settle (inStep : state.InStep) {given : Nat} {result : InsertResult}
    (settles : Settles state.packets (List.range' state.nextTicket given) result) :
    (state.settle given result).InStep := by
  obtain ⟨new, isNew, moved⟩ := settles.moved
  have newTickets : ∀ ticket ∈ new, state.nextTicket ≤ ticket ∧ ticket < state.nextTicket + given := by
    intro ticket member
    simpa using isNew.subset member
  have keptSublist : (if result.cleared then [] else tickets state.packets.buffer).Sublist
      (tickets state.packets.buffer) := by
    split_ifs
    · exact List.nil_sublist _
    · exact .refl _
  have oldSublist := keptSublist.append_left state.returned
  have moves : (state.returned ++ result.found.map PacketBuffer.Packet.ticket ++
      tickets result.packets.buffer).Perm (new ++ (state.returned ++
        if result.cleared then [] else tickets state.packets.buffer)) := by
    rw [List.append_assoc]
    exact (moved.append_left _).trans (List.perm_append_comm_assoc _ _ _)
  refine ⟨settles.separated, settles.sizes, ?_, ?_, settles.frames, ?_, inStep.noFault⟩
  · refine moves.nodup_iff.mpr (List.nodup_append.mpr ⟨?_, inStep.once.sublist oldSublist, ?_⟩)
    · exact (List.nodup_range' (h := by decide)).sublist isNew
    · intro one isOne two isTwo same
      have := newTickets one isOne
      have := inStep.given two (oldSublist.subset isTwo)
      omega
  · intro ticket member
    rcases List.mem_append.mp (moves.mem_iff.mp member) with isGiven | wasGiven
    · exact (newTickets ticket isGiven).2
    · have := inStep.given ticket (oldSublist.subset wasGiven)
      simp only [WatchedPackets.settle]
      omega
  · refine lost_eq_nil fun packet member => ?_
    by_cases isCleared : result.cleared = true
    · exact .inr (.inr isCleared)
    rw [if_neg isCleared] at moved
    have isTicket : packet.ticket ∈ new ++ tickets state.packets.buffer :=
      List.mem_append_right _ (List.mem_map_of_mem member)
    rcases List.mem_append.mp (moved.mem_iff.mpr isTicket) with isReturned | isKept
    · exact .inr (.inl isReturned)
    · exact .inl isKept

theorem InStep.next (inStep : state.InStep) {call : PacketCall} (regular : state.Regular call) :
    (watchPackets.next state call).InStep := by
  cases call with
  | insertPacket trees packet =>
    obtain ⟨result, returned, settles⟩ := @insertPacket_spec state.packets
      { packet with ticket := state.nextTicket } trees inStep.sizes inStep.separated regular
    simp only [watchPackets, returned]
    exact inStep.settle settles
  | insertPadding trees seqNum =>
    obtain ⟨result, returned, settles⟩ :=
      insertPadding_spec trees inStep.sizes inStep.separated seqNum
    simp only [watchPackets, returned]
    exact inStep.settle settles
  | clearTo trees seqNum =>
    obtain ⟨isSeparated, isLength, isLimit, fewer, kept⟩ :=
      clearTo_spec trees inStep.separated seqNum
    obtain ⟨left, isLeft, isSublist⟩ := fewer
    have moves := isLeft.symm.append_left state.returned
    have isFewer := isSublist.append_left state.returned
    refine ⟨isSeparated, ?_, moves.nodup_iff.mpr (inStep.once.sublist isFewer),
      fun ticket member => inStep.given ticket (isFewer.subset (moves.mem_iff.mp member)),
      ⟨[], rfl, by simp⟩, ?_, inStep.noFault⟩
    · obtain ⟨size, limit, le, isSize, isMax⟩ := inStep.sizes
      exact ⟨size, limit, le, isLength.trans isSize, isLimit.trans isMax⟩
    · refine lost_eq_nil fun packet member => ?_
      rcases kept packet member with isKept | isAhead
      · exact .inl (List.mem_map_of_mem isKept)
      · exact .inr (.inr isAhead)
  | clear =>
    obtain ⟨isSeparated, isSizes, empty⟩ := separated_clearInternal inStep.sizes
    have fewer : (state.returned ++ tickets state.packets.clear.buffer).Sublist
        (state.returned ++ tickets state.packets.buffer) := by
      rw [clear, empty]
      exact (List.nil_sublist _).append_left _
    exact ⟨isSeparated, isSizes, inStep.once.sublist fewer,
      fun ticket member => inStep.given ticket (fewer.subset member), ⟨[], rfl, by simp⟩, rfl,
      inStep.noFault⟩

theorem inStep_start {size limit : Nat} (le : size ≤ limit) (spsPpsIdr : Bool) :
    (start (2 ^ size) (2 ^ limit) spsPpsIdr).InStep := by
  have empty : tickets (start (2 ^ size) (2 ^ limit) spsPpsIdr).packets.buffer = [] :=
    tickets_replicate _
  refine ⟨separated_replicate (Nat.two_pow_pos size), ⟨size, limit, le, List.length_replicate, rfl⟩,
    ?_, ?_, ⟨[], rfl, by simp⟩, rfl, rfl⟩
  · rw [empty]
    exact .nil
  · rw [empty]
    simp [start]

end WatchedPackets

/--
In every run in which the packets fit: no assertion fails and no null slot is read, what a
call returns makes up frames, no packet is returned twice, and none vanishes.
-/
theorem packets_of_run (size limit : Nat) (le : size ≤ limit) (spsPpsIdrIsH264Keyframe : Bool)
    (calls : List PacketCall) (last : WatchedPackets)
    (run : (watchPackets.restrict WatchedPackets.Regular).Run
      (.start (2 ^ size) (2 ^ limit) spsPpsIdrIsH264Keyframe) calls last) :
    last.fault = none ∧
    (∃ frames : List (List PacketBuffer.Packet),
      last.found = frames.flatten ∧ ∀ frame ∈ frames, PacketBuffer.Genuine frame) ∧
    last.returned.Nodup ∧ last.vanished = [] := by
  have inStep : last.InStep := run.invariant (fun _ state => state.InStep)
    (WatchedPackets.inStep_start le spsPpsIdrIsH264Keyframe)
    fun _ _ _ _ holds admissible => holds.next admissible.2
  exact ⟨inStep.noFault, inStep.frames, (List.nodup_append.mp inStep.once).1, inStep.noneVanished⟩

instance (size : Nat) (packets : List PacketBuffer.Packet) (packet : PacketBuffer.Packet) :
    Decidable (PacketBuffer.Fits size packets packet) :=
  inferInstanceAs (Decidable (∀ other ∈ packets, _ → _ ∧ _))

instance decidableRegularPacket (state : WatchedPackets) : ∀ call, Decidable (state.Regular call)
  | .insertPacket _ _ => inferInstanceAs (Decidable (_ ∨ _))
  | .insertPadding _ _ => isTrue trivial
  | .clearTo _ _ => isTrue trivial
  | .clear => isTrue trivial

instance (state : WatchedPackets) (call : PacketCall) :
    Decidable ((watchPackets.restrict WatchedPackets.Regular).pre state call) :=
  inferInstanceAs (Decidable (True ∧ state.Regular call))

def earliestPacketTrees : PacketTrees :=
  ⟨.earliest _, .earliest _⟩

/-- A frame misses a packet, the buffer is expanded, the packet arrives, and a key frame of
H.264 follows after padding. -/
def expandingCalls : List PacketCall :=
  [.insertPacket earliestPacketTrees
    { seqNum := 9, timestamp := 5, isFirstPacketInFrame := true },
   .insertPacket earliestPacketTrees { seqNum := 11, timestamp := 5, isLastPacketInFrame := true },
   .insertPacket earliestPacketTrees
    { seqNum := 16, timestamp := 7, isFirstPacketInFrame := true },
   .insertPacket earliestPacketTrees { seqNum := 20, timestamp := 8 },
   .clearTo earliestPacketTrees 8,
   .insertPacket earliestPacketTrees { seqNum := 10, timestamp := 5 },
   .insertPadding earliestPacketTrees 21,
   .insertPacket earliestPacketTrees
    { seqNum := 22, timestamp := 9, codec := .h264, isFirstPacketInFrame := true,
      isLastPacketInFrame := true, h264Header := some [7, 8, 5] }]

theorem packets_after_expanding :
    (watchPackets.outcome (.start 4 8 false) expandingCalls).returned = [0, 4, 1, 5] ∧
      (watchPackets.outcome (.start 4 8 false) expandingCalls).fault = none := by
  have admitted : (watchPackets.restrict WatchedPackets.Regular).Admits
      (.start (2 ^ 2) (2 ^ 3) false) expandingCalls := by decide +kernel
  have holds := packets_of_run 2 3 (by decide) false expandingCalls _ admitted.run
  exact ⟨by decide +kernel, holds.1⟩

/-- The search through a key frame of H.264 does not look at sequence numbers: 0 is taken
for the packet before 5 in a buffer of four slots. -/
theorem packets_aliased :
    ∃ calls last, watchPackets.Run (.start (2 ^ 2) (2 ^ 2) false) calls last ∧
      last.fault = some .seqNumMismatch := by
  have admitted : watchPackets.Admits (.start (2 ^ 2) (2 ^ 2) false)
      [.insertPacket earliestPacketTrees
        { seqNum := 0, timestamp := 5, codec := .h264, h264Header := some [] },
       .insertPacket earliestPacketTrees
        { seqNum := 5, timestamp := 5, codec := .h264, isFirstPacketInFrame := true,
          isLastPacketInFrame := true, h264Header := some [5] }] :=
    Machine.admits_of_forall (fun _ _ _ => trivial) _
  exact ⟨_, _, admitted.run, by decide +kernel⟩

end MaeRtc.VideoCoding
