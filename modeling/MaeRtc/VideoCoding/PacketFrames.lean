import MaeRtc.VideoCoding.PacketSlots

/-!
# Frames in the packet buffer

In a buffer whose packets are separated, the searches backward from the last packet of a
frame only pass packets with the previous sequence numbers and the same timestamp, so that
the packets that are handed out make up a frame.
-/

namespace MaeRtc.VideoCoding

open Base

namespace PacketBuffer

/-- Packets with consecutive sequence numbers and one timestamp, of which the first is
flagged as the first and the last as the last. -/
structure Genuine (frame : List Packet) : Prop where
  nonempty : frame ≠ []
  consecutive : ∃ startSeqNum : SeqNum, ∀ i packet, frame[i]? = some packet →
    packet.seqNum = startSeqNum + BitVec.ofNat 16 i
  sameTimestamp : ∃ timestamp, ∀ packet ∈ frame, packet.timestamp = timestamp
  first : ∀ i packet, frame[i]? = some packet →
    (packet.isFirstPacketInFrame = true ↔ i = 0)
  last : ∀ i packet, frame[i]? = some packet →
    (packet.isLastPacketInFrame = true ↔ i + 1 = frame.length)

/-- The packets from a sequence number on are in their slots, with one timestamp. -/
def Consecutive (buffer : List (Option Packet)) (timestamp : BitVec 32) (startSeqNum : SeqNum)
    (count : Nat) : Prop :=
  ∀ i < count, ∃ packet, entry buffer (slot buffer (startSeqNum + BitVec.ofNat 16 i)) = some packet ∧
    packet.seqNum = startSeqNum + BitVec.ofNat 16 i ∧ packet.timestamp = timestamp

section

variable {buffer : List (Option Packet)} {timestamp : BitVec 32}

theorem sub_one_add (number : SeqNum) (count : Nat) :
    number - 1 + BitVec.ofNat 16 (count + 1) = number + BitVec.ofNat 16 count := by
  have one : (BitVec.ofNat 16 1 : SeqNum) = 1 := rfl
  rw [BitVec.ofNat_add, one]
  ring

theorem add_one_add (number : SeqNum) (count : Nat) :
    number + 1 + BitVec.ofNat 16 count = number + BitVec.ofNat 16 (count + 1) := by
  have one : (BitVec.ofNat 16 1 : SeqNum) = 1 := rfl
  rw [BitVec.ofNat_add, one]
  ring

theorem add_ofNat_zero (number : SeqNum) : number + BitVec.ofNat 16 0 = number :=
  BitVec.add_zero number

theorem Consecutive.cons {startSeqNum : SeqNum} {count : Nat}
    (consecutive : Consecutive buffer timestamp startSeqNum count) {packet : Packet}
    (isEntry : entry buffer (slot buffer (startSeqNum - 1)) = some packet)
    (isNumber : packet.seqNum = startSeqNum - 1) (isTimestamp : packet.timestamp = timestamp) :
    Consecutive buffer timestamp (startSeqNum - 1) (count + 1) := by
  intro i inside
  cases i with
  | zero => exact ⟨packet, by simpa using isEntry, by simpa using isNumber, isTimestamp⟩
  | succ i =>
    rw [sub_one_add]
    exact consecutive i (by omega)

/-! ## The searches -/

/-- Where a search has come to: the packets from here to the end. -/
structure Reached (buffer : List (Option Packet)) (timestamp : BitVec 32) (endSeqNum startSeqNum : SeqNum)
    (packet : Packet) (count : Nat) : Prop where
  isEntry : entry buffer (slot buffer startSeqNum) = some packet
  isNumber : packet.seqNum = startSeqNum
  isTimestamp : packet.timestamp = timestamp
  consecutive : Consecutive buffer timestamp startSeqNum count
  isEnd : startSeqNum + BitVec.ofNat 16 count = endSeqNum

/-- One step back, to a packet with the previous number. -/
theorem Reached.back {endSeqNum startSeqNum : SeqNum} {packet previous : Packet} {count : Nat}
    (reached : Reached buffer timestamp endSeqNum startSeqNum packet count)
    (separated : Separated buffer)
    (isEntry : entry buffer (prevIndex buffer.length (slot buffer startSeqNum)) = some previous)
    (isNumber : previous.seqNum = packet.seqNum - 1) (sameTimestamp : previous.timestamp = timestamp) :
    slot buffer (startSeqNum - 1) = prevIndex buffer.length (slot buffer startSeqNum) ∧
      Reached buffer timestamp endSeqNum (startSeqNum - 1) previous (count + 1) := by
  rw [reached.isNumber] at isNumber
  have isSlot := separated.placed _ previous isEntry
  rw [isNumber] at isSlot
  rw [isSlot] at isEntry
  refine ⟨isSlot.symm, isEntry, isNumber, sameTimestamp,
    reached.consecutive.cons isEntry isNumber sameTimestamp, ?_⟩
  rw [← reached.isEnd, sub_one_add]

theorem prevIndex_ne {size : Nat} (two : 2 ≤ size) (index : Nat) :
    prevIndex size index ≠ index := by
  unfold prevIndex
  split_ifs <;> omega

theorem Reached.differ {endSeqNum startSeqNum : SeqNum} {packet previous : Packet} {count : Nat}
    (reached : Reached buffer timestamp endSeqNum startSeqNum packet count)
    (separated : Separated buffer) (two : 2 ≤ buffer.length)
    (isEntry : entry buffer (prevIndex buffer.length (slot buffer startSeqNum)) = some previous) :
    previous.seqNum ≠ packet.seqNum := by
  intro same
  have isSlot := separated.placed _ previous isEntry
  rw [same, reached.isNumber] at isSlot
  exact prevIndex_ne two _ isSlot

/-- The search for the first packet passes the packets of the frame. -/
theorem findFirst_spec (separated : Separated buffer) {tests : Nat} (le : tests ≤ buffer.length)
    {endSeqNum startSeqNum : SeqNum} {packet : Packet} {count : Nat}
    (reached : Reached buffer timestamp endSeqNum startSeqNum packet count)
    (continuous : packet.continuous = true) {found : SeqNum}
    (isFound : findFirst buffer tests (slot buffer startSeqNum) startSeqNum = (true, found)) :
    ∃ first total, Reached buffer timestamp endSeqNum found first total := by
  induction tests generalizing startSeqNum packet count with
  | zero => cases isFound
  | succ tests ih =>
    unfold findFirst at isFound
    rw [reached.isEntry] at isFound
    dsimp only at isFound
    split_ifs at isFound with isFirst isDone
    · cases isFound
      exact ⟨packet, count, reached⟩
    · cases isFound
    · rw [Bool.not_eq_true] at isFirst
      cases isPrevious : entry buffer (prevIndex buffer.length (slot buffer startSeqNum)) with
      | none =>
        cases tests with
        | zero => exact absurd rfl isDone
        | succ tests =>
          unfold findFirst at isFound
          rw [isPrevious] at isFound
          cases isFound
      | some previous =>
        have differ := reached.differ separated (by omega) isPrevious
        have isMember := mem_stored.mpr ⟨_, reached.isEntry⟩
        have before := @Separated.before_of_entry buffer separated previous packet
          (by rw [reached.isNumber]; exact isPrevious)
        obtain ⟨isNumber, sameTimestamp, isContinuous⟩ := separated.chained previous
          (mem_stored.mpr ⟨_, isPrevious⟩) packet isMember differ before continuous isFirst
        obtain ⟨isSlot, isReached⟩ := reached.back separated isPrevious isNumber
          (sameTimestamp.trans reached.isTimestamp)
        rw [← isSlot] at isFound
        exact ih (by omega) isReached isContinuous isFound

/-- The search through a frame of H.264 passes its packets. -/
theorem scanH264_spec (separated : Separated buffer) (spsPpsIdr : Bool) {tests : Nat}
    (le : tests ≤ buffer.length) {endSeqNum : SeqNum} {scan : H264Scan} {packet : Packet}
    {count : Nat} (reached : Reached buffer timestamp endSeqNum scan.startSeqNum packet count) :
    Ensures (scanH264 spsPpsIdr buffer timestamp tests (slot buffer scan.startSeqNum) scan)
      fun scanned => ∀ final ∈ scanned, ∃ first total,
        Reached buffer timestamp endSeqNum final.startSeqNum first total := by
  induction tests generalizing scan packet count with
  | zero =>
    refine .ok ?_
    rintro final ⟨⟩
    exact ⟨packet, count, reached⟩
  | succ tests ih =>
    unfold scanH264
    rw [reached.isEntry]
    dsimp only
    cases packet.h264Header with
    | none => exact .ok (by simp)
    | some nalus =>
      dsimp only
      have sameStart : (scanPacket spsPpsIdr scan packet nalus).startSeqNum =
          scan.startSeqNum := by
        unfold scanPacket
        dsimp only
        split_ifs <;> rfl
      have here : ∀ final ∈ some (scanPacket spsPpsIdr scan packet nalus), ∃ first total,
          Reached buffer timestamp endSeqNum final.startSeqNum first total := by
        rintro final ⟨⟩
        rw [sameStart]
        exact ⟨packet, count, reached⟩
      split_ifs with tooMany isDone ends
      · exact .ok (by simp)
      · exact .ok here
      · exact .ok here
      · cases isPrevious : entry buffer (prevIndex buffer.length
            (slot buffer scan.startSeqNum)) with
        | none =>
          rw [isPrevious] at ends
          exact absurd rfl ends
        | some previous =>
          rw [isPrevious] at ends
          have sameTimestamp : previous.timestamp = timestamp := by simpa using ends
          have differ := reached.differ separated (by omega) isPrevious
          have before := @Separated.before_of_entry buffer separated previous packet
            (by rw [reached.isNumber]; exact isPrevious)
          have isNumber := separated.neighbours previous (mem_stored.mpr ⟨_, isPrevious⟩)
            packet (mem_stored.mpr ⟨_, reached.isEntry⟩) differ before
            (sameTimestamp.trans reached.isTimestamp.symm)
          obtain ⟨isSlot, isReached⟩ := reached.back separated isPrevious isNumber sameTimestamp
          rw [← isSlot, sameStart]
          exact @ih (by omega) { scanPacket spsPpsIdr scan packet nalus with
            startSeqNum := scan.startSeqNum - 1 } previous (count + 1) isReached

end

/-! ## Handing out -/

def tickets (buffer : List (Option Packet)) : List Nat :=
  (stored buffer).map Packet.ticket

variable {buffer : List (Option Packet)} {index : Nat}

theorem tickets_remove {packet : Packet} (isEntry : entry buffer index = some packet) :
    (packet.ticket :: tickets (buffer.set index none)).Perm (tickets buffer) := by
  have moved := stored_set_perm (lt_of_entry isEntry) none
  rw [isEntry, Option.toList_some, Option.toList_none, List.nil_append,
    List.singleton_append] at moved
  exact moved.map Packet.ticket

theorem tickets_replace {packet new : Packet} (isEntry : entry buffer index = some packet)
    (sameTicket : new.ticket = packet.ticket) :
    (tickets (buffer.set index (some new))).Perm (tickets buffer) := by
  have moved := (stored_set_perm (lt_of_entry isEntry) (some new)).map Packet.ticket
  rw [isEntry, Option.toList_some, Option.toList_some, List.singleton_append,
    List.singleton_append, List.map_cons, List.map_cons, sameTicket] at moved
  exact moved.cons_inv

section

variable {buffer : List (Option Packet)} {timestamp : BitVec 32}

theorem ofNat_inj_of_lt {i j : Nat} (iLt : i < 65536) (jLt : j < 65536)
    (same : BitVec.ofNat 16 i = BitVec.ofNat 16 j) : i = j := by
  rw [← BitVec.toNat_inj, BitVec.toNat_ofNat, BitVec.toNat_ofNat] at same
  omega

/-- Once the first of some consecutive packets is taken, the others are left. -/
theorem Consecutive.tail {seqNum : SeqNum} {count : Nat}
    (consecutive : Consecutive buffer timestamp seqNum (count + 1)) (short : count + 1 < 65536)
    {packet : Packet} (isEntry : entry buffer (slot buffer seqNum) = some packet)
    (isNumber : packet.seqNum = seqNum) :
    Consecutive (buffer.set (slot buffer seqNum) none) timestamp (seqNum + 1) count := by
  intro i inside
  obtain ⟨other, isOther, otherNumber, otherTimestamp⟩ := consecutive (i + 1) (by omega)
  rw [add_one_add]
  refine ⟨other, ?_, otherNumber, otherTimestamp⟩
  rw [slot_set, entry_set (lt_of_entry isEntry), if_neg]
  · exact isOther
  · -- one slot does not hold packets with two numbers
    intro sameSlot
    rw [sameSlot, isEntry] at isOther
    cases isOther
    rw [isNumber] at otherNumber
    have zero : BitVec.ofNat 16 (i + 1) = BitVec.ofNat 16 0 := by
      have cancelled := left_eq_add.mp otherNumber
      rw [cancelled]
      rfl
    exact absurd (ofNat_inj_of_lt (by omega) (by omega) zero) (Nat.succ_ne_zero i)

/-- The packets are in their slots, so that they are handed out. -/
theorem handOut_spec (separated : Separated buffer) (startSeqNum endSeqNum : SeqNum) {count : Nat}
    (short : count < 65536) {seqNum : SeqNum}
    (consecutive : Consecutive buffer timestamp seqNum count) :
    Ensures (handOut startSeqNum endSeqNum count seqNum buffer) fun result =>
      Separated result.2 ∧ result.2.length = buffer.length ∧
      (result.1.map Packet.ticket ++ tickets result.2).Perm (tickets buffer) ∧
      result.1.length = count ∧
      ∀ i packet, result.1[i]? = some packet → packet.timestamp = timestamp ∧
        packet.seqNum = seqNum + BitVec.ofNat 16 i ∧
        packet.isFirstPacketInFrame = decide (seqNum + BitVec.ofNat 16 i = startSeqNum) ∧
        packet.isLastPacketInFrame = decide (seqNum + BitVec.ofNat 16 i + 1 = endSeqNum) := by
  induction count generalizing seqNum buffer with
  | zero => exact .ok ⟨separated, rfl, .refl _, rfl, by simp⟩
  | succ count ih =>
    obtain ⟨packet, isEntry, isNumber, isTimestamp⟩ := consecutive 0 (Nat.succ_pos _)
    rw [add_ofNat_zero] at isEntry isNumber
    unfold handOut
    rw [isEntry]
    refine (Ensures.check (decide_eq_true isNumber)).bind fun _ _ => ?_
    refine (ih separated.remove (by omega) (consecutive.tail short isEntry isNumber)).bind ?_
    rintro ⟨frame, after⟩ ⟨isSeparated, isLength, moved, isCount, isFrame⟩
    refine .ok ⟨isSeparated, by simpa using isLength, ?_, by simpa using isCount, ?_⟩
    · exact (moved.cons packet.ticket).trans (tickets_remove isEntry)
    intro i other isOther
    cases i with
    | zero =>
      cases isOther
      rw [add_ofNat_zero]
      exact ⟨isTimestamp, isNumber, rfl, rfl⟩
    | succ i =>
      rw [← add_one_add]
      exact isFrame i other isOther

end

/-! ## Finding frames -/

/-- What finding frames does: packets are taken from the slots, and make up frames. -/
structure Takes (before after : PacketBuffer) (found : List Packet) : Prop where
  separated : Separated after.buffer
  sameLength : after.buffer.length = before.buffer.length
  sameLimit : after.maxSize = before.maxSize
  moved : (found.map Packet.ticket ++ tickets after.buffer).Perm (tickets before.buffer)
  frames : ∃ frames : List (List Packet), found = frames.flatten ∧ ∀ frame ∈ frames, Genuine frame

theorem Takes.nothing {before after : PacketBuffer} (separated : Separated after.buffer)
    (sameLength : after.buffer.length = before.buffer.length)
    (sameLimit : after.maxSize = before.maxSize)
    (moved : (tickets after.buffer).Perm (tickets before.buffer)) : Takes before after [] :=
  ⟨separated, sameLength, sameLimit, moved, [], rfl, by simp⟩

theorem Takes.trans {before middle after : PacketBuffer} {first second : List Packet}
    (takesFirst : Takes before middle first) (takesSecond : Takes middle after second) :
    Takes before after (first ++ second) := by
  obtain ⟨frames, rfl, genuine⟩ := takesFirst.frames
  obtain ⟨others, rfl, othersGenuine⟩ := takesSecond.frames
  refine ⟨takesSecond.separated, takesSecond.sameLength.trans takesFirst.sameLength,
    takesSecond.sameLimit.trans takesFirst.sameLimit, ?_, frames ++ others, by simp,
    List.forall_mem_append.mpr ⟨genuine, othersGenuine⟩⟩
  rw [List.map_append, List.append_assoc]
  exact (takesSecond.moved.append_left _).trans takesFirst.moved

section

variable {packets : PacketBuffer} {timestamp : BitVec 32}

theorem takeFrame_spec (trees : PacketTrees) (separated : Separated packets.buffer) (start : SeqNum)
    {seqNum startSeqNum : SeqNum} {first : Packet} {total : Nat}
    (reached : Reached packets.buffer timestamp (seqNum + 1) startSeqNum first total) :
    Ensures (takeFrame trees packets start startSeqNum seqNum) fun result =>
      Takes packets result.2 result.1 := by
  have isCount : (seqNum + 1 - startSeqNum).toNat = total % 65536 := by
    rw [← reached.isEnd, add_sub_cancel_left, BitVec.toNat_ofNat]
  have isEnd : startSeqNum + BitVec.ofNat 16 (total % 65536) = seqNum + 1 := by
    rw [← isCount, BitVec.ofNat_toNat, BitVec.setWidth_eq, add_sub_cancel]
  have short : total % 65536 < 65536 := Nat.mod_lt _ (by decide)
  unfold takeFrame
  dsimp only
  rw [isCount]
  refine (handOut_spec separated startSeqNum (seqNum + 1) short fun i inside =>
    reached.consecutive i (inside.trans_le (Nat.mod_le _ _))).bind ?_
  rintro ⟨frame, after⟩ ⟨isSeparated, isLength, moved, isFrameLength, isFrame⟩
  refine .ok ⟨isSeparated, isLength, rfl, moved, ?_⟩
  have within : ∀ {i packet}, frame[i]? = some packet → i < total % 65536 := fun isPacket =>
    isFrameLength ▸ (List.getElem?_eq_some_iff.mp isPacket).1
  rcases Nat.eq_zero_or_pos (total % 65536) with none | some
  · have isNil : frame = [] := List.eq_nil_of_length_eq_zero (isFrameLength.trans none)
    exact ⟨[], isNil, by simp⟩
  refine ⟨[frame], by simp, List.forall_mem_singleton.mpr ⟨?_, ⟨startSeqNum, ?_⟩,
    ⟨timestamp, ?_⟩, ?_, ?_⟩⟩
  · intro isNil
    rw [isNil, List.length_nil] at isFrameLength
    omega
  · exact fun i packet isPacket => (isFrame i packet isPacket).2.1
  · intro packet member
    obtain ⟨i, isPacket⟩ := List.mem_iff_getElem?.mp member
    exact (isFrame i packet isPacket).1
  · intro i packet isPacket
    rw [(isFrame i packet isPacket).2.2.1, decide_eq_true_eq]
    have inside := within isPacket
    refine ⟨fun same => ?_, fun isFirst => by rw [isFirst, add_ofNat_zero]⟩
    exact ofNat_inj_of_lt (by omega) (by omega) (add_eq_left.mp same)
  · intro i packet isPacket
    rw [(isFrame i packet isPacket).2.2.2, decide_eq_true_eq, isFrameLength, ← isEnd]
    have inside := within isPacket
    have next : startSeqNum + BitVec.ofNat 16 i + 1 = startSeqNum + BitVec.ofNat 16 (i + 1) := by
      rw [← add_one_add]
      ring
    rw [next]
    refine ⟨fun same => ?_, fun isLast => by rw [isLast]⟩
    exact ofNat_inj_of_lt (by omega) (by omega) (add_left_cancel same)

theorem finalize_same (scan : H264Scan) (packet : Packet) :
    (finalize scan packet).seqNum = packet.seqNum ∧
      (finalize scan packet).timestamp = packet.timestamp ∧
      (finalize scan packet).isFirstPacketInFrame = packet.isFirstPacketInFrame ∧
      (finalize scan packet).continuous = packet.continuous ∧
      (finalize scan packet).ticket = packet.ticket := by
  unfold finalize
  split_ifs <;> exact ⟨rfl, rfl, rfl, rfl, rfl⟩

/-- A packet is changed, but not its number, timestamp, flags and ticket. -/
theorem Takes.replace {old new : Packet} (separated : Separated packets.buffer)
    (isOld : entry packets.buffer (slot packets.buffer old.seqNum) = some old)
    (sameSeqNum : new.seqNum = old.seqNum) (sameTimestamp : new.timestamp = old.timestamp)
    (sameFirst : new.isFirstPacketInFrame = old.isFirstPacketInFrame)
    (sameContinuous : new.continuous = old.continuous) (sameTicket : new.ticket = old.ticket) :
    Takes packets { packets with
      buffer := packets.buffer.set (slot packets.buffer old.seqNum) (some new) } [] := by
  have isStored := mem_stored.mpr ⟨_, isOld⟩
  refine .nothing ?_ (List.length_set ..) rfl (tickets_replace isOld sameTicket)
  refine separated.replace isStored sameSeqNum sameTimestamp sameFirst
    (fun was => sameContinuous.trans was) fun isContinuous notFirst earlier isEarlier differ before =>
      separated.chained earlier isEarlier old isStored differ before
        (sameContinuous.symm.trans isContinuous) notFirst

theorem Consecutive.replace {startSeqNum : SeqNum} {count : Nat}
    (consecutive : Consecutive buffer timestamp startSeqNum count) {old new : Packet}
    (isOld : entry buffer index = some old) (sameSeqNum : new.seqNum = old.seqNum)
    (sameTimestamp : new.timestamp = old.timestamp) :
    Consecutive (buffer.set index (some new)) timestamp startSeqNum count := by
  intro i inside
  obtain ⟨packet, isEntry, isNumber, isTimestamp⟩ := consecutive i inside
  rw [slot_set, entry_set (lt_of_entry isOld)]
  split_ifs with same
  · rw [same, isOld] at isEntry
    cases isEntry
    exact ⟨new, rfl, sameSeqNum.trans isNumber, sameTimestamp.trans isTimestamp⟩
  · exact ⟨packet, isEntry, isNumber, isTimestamp⟩

theorem completeFrame_spec (trees : PacketTrees) (separated : Separated packets.buffer)
    (start : SeqNum) {seqNum : SeqNum} {last : Packet}
    (isEntry : entry packets.buffer (slot packets.buffer seqNum) = some last)
    (isNumber : last.seqNum = seqNum) (continuous : last.continuous = true) :
    Ensures (completeFrame trees packets start seqNum last) fun result =>
      Takes packets result.2.2 result.2.1 := by
  have reached : Reached packets.buffer last.timestamp (seqNum + 1) seqNum last 1 := by
    refine ⟨isEntry, isNumber, rfl, fun i inside => ⟨last, ?_⟩, rfl⟩
    obtain rfl : i = 0 := by omega
    rw [add_ofNat_zero]
    exact ⟨isEntry, isNumber, rfl⟩
  unfold completeFrame
  dsimp only
  split_ifs with isH264 isFull
  · refine (@scanH264_spec _ _ separated packets.spsPpsIdrIsH264Keyframe _ (le_refl _) _
      { startSeqNum := seqNum } _ _ reached).bind fun scanned isScanned => ?_
    cases scanned with
    | none => exact .ok (.nothing separated rfl rfl (.refl _))
    | some scan =>
      obtain ⟨first, total, isReached⟩ := isScanned scan rfl
      obtain ⟨sameSeqNum, sameTimestamp, sameFirst, sameContinuous, sameTicket⟩ :=
        finalize_same scan first
      have isFirst := isReached.isEntry
      dsimp only
      rw [isFirst]
      dsimp only
      rw [← isReached.isNumber] at isFirst ⊢
      have replaced := Takes.replace separated isFirst sameSeqNum sameTimestamp sameFirst
        sameContinuous sameTicket
      split_ifs with gap
      · exact .ok replaced
      have stillReached : Reached (packets.buffer.set (slot packets.buffer first.seqNum)
          (some (finalize scan first))) last.timestamp (seqNum + 1) first.seqNum
          (finalize scan first) total := by
        refine ⟨?_, sameSeqNum, sameTimestamp.trans isReached.isTimestamp, ?_, ?_⟩
        · rw [slot_set, entry_set (lt_of_entry isFirst), if_pos rfl]
        · rw [isReached.isNumber]
          rw [isReached.isNumber] at isFirst
          exact isReached.consecutive.replace isFirst sameSeqNum sameTimestamp
        · rw [isReached.isNumber]
          exact isReached.isEnd
      refine (@takeFrame_spec { packets with
          buffer := packets.buffer.set (slot packets.buffer first.seqNum)
            (some (finalize scan first)) } _ trees replaced.separated start _ _ _ _
        stillReached).bind fun taken isTaken => ?_
      exact .ok (replaced.trans isTaken)
  · obtain ⟨first, total, isReached⟩ := findFirst_spec separated (le_refl _) reached continuous
      (Prod.ext isFull rfl)
    exact (takeFrame_spec trees separated start isReached).bind fun taken isTaken => .ok isTaken
  · exact .ok (.nothing separated rfl rfl (.refl _))

/-- A packet that may be part of a frame, and its predecessor. -/
theorem of_potentialNewFrame {seqNum : SeqNum}
    (potential : potentialNewFrame buffer seqNum = true) :
    ∃ packet, entry buffer (slot buffer seqNum) = some packet ∧ packet.seqNum = seqNum ∧
      (packet.isFirstPacketInFrame = false → ∀ previous,
        entry buffer (prevIndex buffer.length (slot buffer seqNum)) = some previous →
          previous.seqNum = packet.seqNum - 1 ∧ previous.timestamp = packet.timestamp ∧
            previous.continuous = true) := by
  unfold potentialNewFrame at potential
  dsimp only at potential
  cases isEntry : entry buffer (slot buffer seqNum) with
  | none =>
    rw [isEntry] at potential
    cases potential
  | some packet =>
    rw [isEntry] at potential
    dsimp only at potential
    split_ifs at potential with other isFirst
    · exact ⟨packet, rfl, by simpa using other, fun notFirst => absurd (notFirst.symm.trans isFirst)
        Bool.false_ne_true⟩
    · refine ⟨packet, rfl, by simpa using other, fun _ previous isPrevious => ?_⟩
      rw [isPrevious] at potential
      dsimp only at potential
      split_ifs at potential with notBefore otherFrame
      exact ⟨by simpa using notBefore, by simpa using otherFrame, potential⟩

/-- A packet with all its predecessors is marked as continuous. -/
theorem Takes.mark {seqNum : SeqNum} {packet : Packet} (separated : Separated packets.buffer)
    (potential : potentialNewFrame packets.buffer seqNum = true)
    (isEntry : entry packets.buffer (slot packets.buffer seqNum) = some packet) :
    packet.seqNum = seqNum ∧ Takes packets { packets with
      buffer := packets.buffer.set (slot packets.buffer seqNum)
        (some { packet with continuous := true }) } [] := by
  obtain ⟨_, isSame, isNumber, follows⟩ := of_potentialNewFrame potential
  cases isEntry.symm.trans isSame
  refine ⟨isNumber, .nothing ?_ (List.length_set ..) rfl (tickets_replace isEntry rfl)⟩
  subst isNumber
  refine separated.replace (mem_stored.mpr ⟨_, isEntry⟩) rfl rfl rfl (fun _ => rfl) ?_
  intro _ notFirst earlier isEarlier _ before
  refine follows notFirst earlier ?_
  rw [slot, before.prevIndex separated.positive]
  exact separated.entry_slot isEarlier

theorem findFramesFrom_spec (trees : PacketTrees) (start : SeqNum) (fuel : Nat) (seqNum : SeqNum)
    (separated : Separated packets.buffer) :
    Ensures (findFramesFrom trees start fuel seqNum packets) fun result =>
      Takes packets result.2 result.1 := by
  induction fuel generalizing seqNum packets with
  | zero => exact .ok (.nothing separated rfl rfl (.refl _))
  | succ fuel ih =>
    unfold findFramesFrom
    split_ifs with isPadding isGap
    · exact ih (seqNum + 1) separated
    · exact .ok (.nothing separated rfl rfl (.refl _))
    · rw [Bool.not_eq_true, Bool.not_eq_false'] at isGap
      obtain ⟨packet, isEntry, _⟩ := of_potentialNewFrame isGap
      obtain ⟨isNumber, marked⟩ := Takes.mark separated isGap isEntry
      dsimp only
      rw [isEntry]
      dsimp only
      split_ifs with isLast
      · have isMarked : entry (packets.buffer.set (slot packets.buffer seqNum)
            (some { packet with continuous := true })) (slot (packets.buffer.set
              (slot packets.buffer seqNum) (some { packet with continuous := true })) seqNum) =
            some { packet with continuous := true } := by
          rw [slot_set, entry_set (lt_of_entry isEntry), if_pos rfl]
        refine (completeFrame_spec trees marked.separated start isMarked isNumber rfl).bind ?_
        rintro ⟨goesOn, frame, after⟩ isTaken
        split_ifs
        · refine (ih (seqNum + 1) isTaken.separated).bind ?_
          rintro ⟨found, final⟩ isFound
          exact .ok ((marked.trans isTaken).trans isFound)
        · exact .ok (marked.trans isTaken)
      · refine (ih (seqNum + 1) marked.separated).weaken fun result isTaken => ?_
        exact marked.trans isTaken

end

end PacketBuffer

end MaeRtc.VideoCoding
