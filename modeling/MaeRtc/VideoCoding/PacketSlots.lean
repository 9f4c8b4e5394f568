import MaeRtc.VideoCoding.PacketBuffer

/-!
# The slots of the packet buffer

Each packet is in the slot of its sequence number.  Two packets with one timestamp in
neighbouring slots have neighbouring sequence numbers, and a continuous packet that is not
the first of its frame either follows its predecessor or has a free slot before its own.
Both are kept when packets are removed and when the buffer grows.
-/

namespace MaeRtc.VideoCoding

open Base

namespace PacketBuffer

/-- The packets in the slots, in their order. -/
def stored (buffer : List (Option Packet)) : List Packet :=
  buffer.reduceOption

variable {buffer : List (Option Packet)} {earlier later : Packet} {index : Nat} {packet : Packet}

theorem entry_eq_some : entry buffer index = some packet ↔ buffer[index]? = some (some packet) := by
  unfold entry
  cases buffer[index]? with
  | none => simp
  | some slot => simp

theorem lt_of_entry (isEntry : entry buffer index = some packet) : index < buffer.length :=
  (List.getElem?_eq_some_iff.mp (entry_eq_some.mp isEntry)).1

theorem mem_stored : packet ∈ stored buffer ↔ ∃ index, entry buffer index = some packet := by
  rw [stored, List.reduceOption_mem_iff, List.mem_iff_getElem?]
  simp only [entry_eq_some]

theorem entry_set (inside : index < buffer.length) (new : Option Packet) (other : Nat) :
    entry (buffer.set index new) other = if other = index then new else entry buffer other := by
  unfold entry
  by_cases same : other = index
  · subst same
    rw [List.getElem?_set_self inside, if_pos rfl]
    rfl
  · rw [List.getElem?_set_ne (Ne.symm same), if_neg same]

@[simp] theorem slot_set (buffer : List (Option Packet)) (index : Nat) (new : Option Packet)
    (seqNum : SeqNum) : slot (buffer.set index new) seqNum = slot buffer seqNum := by
  rw [slot, List.length_set, slot]

theorem stored_set_perm (inside : index < buffer.length) (new : Option Packet) :
    ((entry buffer index).toList ++ stored (buffer.set index new)).Perm
      (new.toList ++ stored buffer) := by
  have isEntry : entry buffer index = buffer[index] := by
    rw [entry, List.getElem?_eq_getElem inside, Option.getD_some]
  have split : buffer = buffer.take index ++ buffer[index] :: buffer.drop (index + 1) := by
    rw [List.getElem_cons_drop, List.take_append_drop]
  have replaced : buffer.set index new =
      buffer.take index ++ new :: buffer.drop (index + 1) := by
    rw [List.set_eq_take_append_cons_drop, if_pos inside]
  have parts (middle : Option Packet) (front back : List (Option Packet)) :
      (stored (front ++ middle :: back)).Perm
        (middle.toList ++ (stored front ++ stored back)) := by
    unfold stored
    rw [List.reduceOption_append]
    cases middle with
    | none => simp
    | some packet =>
      exact List.perm_middle
  rw [isEntry, replaced]
  have old := parts buffer[index] (buffer.take index) (buffer.drop (index + 1))
  rw [← split] at old
  refine ((parts new _ _).append_left _).trans (.trans ?_ (old.symm.append_left _))
  exact List.perm_append_comm_assoc _ _ _

/-! ## Neighbours -/

/-- The slot of the first packet is the one before the slot of the second. -/
def Before (size : Nat) (earlier later : Packet) : Prop :=
  (earlier.seqNum.toNat + 1) % size = later.seqNum.toNat % size

instance (size : Nat) (earlier later : Packet) : Decidable (Before size earlier later) :=
  inferInstanceAs (Decidable (_ = _))

variable {size : Nat}

theorem before_of_prevIndex (positive : 0 < size)
    (isPrev : prevIndex size (later.seqNum.toNat % size) = earlier.seqNum.toNat % size) :
    Before size earlier later := by
  unfold prevIndex at isPrev
  rw [Before, ← Nat.mod_add_mod, ← isPrev]
  split_ifs with after
  · rw [Nat.sub_add_cancel after, Nat.mod_mod]
  · rw [Nat.sub_add_cancel positive, Nat.mod_self]
    omega

theorem Before.prevIndex (positive : 0 < size) (before : Before size earlier later) :
    PacketBuffer.prevIndex size (later.seqNum.toNat % size) = earlier.seqNum.toNat % size := by
  have inside := Nat.mod_lt earlier.seqNum.toNat positive
  rw [Before, ← Nat.mod_add_mod] at before
  rw [← before]
  rcases Nat.lt_or_ge (earlier.seqNum.toNat % size + 1) size with fits | wraps
  · rw [Nat.mod_eq_of_lt fits, PacketBuffer.prevIndex, if_pos (Nat.succ_pos _), Nat.add_sub_cancel]
  · have isSize : earlier.seqNum.toNat % size + 1 = size := by omega
    rw [isSize, Nat.mod_self, PacketBuffer.prevIndex, if_neg (lt_irrefl 0)]
    omega

theorem Before.of_dvd {larger : Nat} (divides : size ∣ larger)
    (before : Before larger earlier later) : Before size earlier later := by
  rw [Before, ← Nat.mod_mod_of_dvd _ divides, before, Nat.mod_mod_of_dvd _ divides]

structure Separated (buffer : List (Option Packet)) : Prop where
  positive : 0 < buffer.length
  placed : ∀ index packet, entry buffer index = some packet → index = slot buffer packet.seqNum
  neighbours : ∀ earlier ∈ stored buffer, ∀ later ∈ stored buffer,
    earlier.seqNum ≠ later.seqNum → Before buffer.length earlier later →
    earlier.timestamp = later.timestamp → earlier.seqNum = later.seqNum - 1
  chained : ∀ earlier ∈ stored buffer, ∀ later ∈ stored buffer,
    earlier.seqNum ≠ later.seqNum → Before buffer.length earlier later →
    later.continuous = true → later.isFirstPacketInFrame = false →
      earlier.seqNum = later.seqNum - 1 ∧ earlier.timestamp = later.timestamp ∧
        earlier.continuous = true

section

variable {buffer : List (Option Packet)}

theorem Separated.entry_slot (separated : Separated buffer) {packet : Packet}
    (member : packet ∈ stored buffer) : entry buffer (slot buffer packet.seqNum) = some packet := by
  obtain ⟨index, isEntry⟩ := mem_stored.mp member
  rwa [← separated.placed index packet isEntry]

theorem Separated.before_of_entry (separated : Separated buffer) {earlier later : Packet}
    (isEntry : entry buffer (prevIndex buffer.length (slot buffer later.seqNum)) = some earlier) :
    Before buffer.length earlier later :=
  before_of_prevIndex separated.positive (separated.placed _ earlier isEntry)

theorem separated_replicate (positive : 0 < size) : Separated (List.replicate size none) := by
  have none : ∀ packet, packet ∉ stored (List.replicate size none) := by
    intro packet member
    simp [stored] at member
  refine ⟨by simpa using positive, fun index packet isEntry => ?_, fun earlier isEarlier => ?_,
    fun earlier isEarlier => ?_⟩
  · exact absurd (mem_stored.mpr ⟨index, isEntry⟩) (none packet)
  · exact absurd isEarlier (none earlier)
  · exact absurd isEarlier (none earlier)

section

variable (separated : Separated buffer)
include separated

theorem Separated.fewer {left : List (Option Packet)} (sameLength : left.length = buffer.length)
    (fewer : ∀ index packet, entry left index = some packet → entry buffer index = some packet) :
    Separated left := by
  have subset : ∀ packet ∈ stored left, packet ∈ stored buffer := by
    intro packet member
    obtain ⟨index, isEntry⟩ := mem_stored.mp member
    exact mem_stored.mpr ⟨index, fewer index packet isEntry⟩
  refine ⟨sameLength ▸ separated.positive, fun index packet isEntry => ?_, ?_, ?_⟩
  · rw [slot, sameLength]
    exact separated.placed index packet (fewer index packet isEntry)
  · rw [sameLength]
    exact fun earlier isEarlier later isLater => separated.neighbours earlier
      (subset earlier isEarlier) later (subset later isLater)
  · rw [sameLength]
    exact fun earlier isEarlier later isLater => separated.chained earlier
      (subset earlier isEarlier) later (subset later isLater)

theorem Separated.remove {index : Nat} : Separated (buffer.set index none) := by
  refine separated.fewer (List.length_set ..) fun other packet isEntry => ?_
  by_cases inside : index < buffer.length
  · rw [entry_set inside] at isEntry
    split_ifs at isEntry
    exact isEntry
  · rwa [List.set_eq_of_length_le (by omega)] at isEntry

/-- A packet is put into its slot, next to packets that suit it. -/
theorem Separated.set {new : Packet}
    (neighbours : ∀ other ∈ stored buffer, other.seqNum ≠ new.seqNum →
      other.timestamp = new.timestamp →
      (Before buffer.length other new → other.seqNum = new.seqNum - 1) ∧
      (Before buffer.length new other → new.seqNum = other.seqNum - 1))
    (followed : ∀ other ∈ stored buffer, other.seqNum ≠ new.seqNum →
      Before buffer.length new other → other.continuous = true →
      other.isFirstPacketInFrame = false → new.seqNum = other.seqNum - 1 ∧
      new.timestamp = other.timestamp ∧ new.continuous = true)
    (follows : new.continuous = true → new.isFirstPacketInFrame = false → ∀ earlier ∈ stored buffer,
      earlier.seqNum ≠ new.seqNum → Before buffer.length earlier new →
      earlier.seqNum = new.seqNum - 1 ∧ earlier.timestamp = new.timestamp ∧
      earlier.continuous = true) :
    Separated (buffer.set (slot buffer new.seqNum) (some new)) := by
  have inside : slot buffer new.seqNum < buffer.length := Nat.mod_lt _ separated.positive
  -- each packet afterwards is the new one, or was in another slot
  have origin : ∀ packet ∈ stored (buffer.set (slot buffer new.seqNum) (some new)),
      packet = new ∨ (packet ∈ stored buffer ∧ packet.seqNum ≠ new.seqNum) := by
    intro packet member
    obtain ⟨index, atIndex⟩ := mem_stored.mp member
    rw [entry_set inside] at atIndex
    split_ifs at atIndex with same
    · exact .inl (Option.some.inj atIndex).symm
    · refine .inr ⟨mem_stored.mpr ⟨index, atIndex⟩, fun sameNumber => same ?_⟩
      rw [separated.placed index packet atIndex, sameNumber]
  refine ⟨by simpa using separated.positive, fun index packet atIndex => ?_, ?_, ?_⟩
  · rw [slot, List.length_set]
    rw [entry_set inside] at atIndex
    split_ifs at atIndex with same
    · cases atIndex
      exact same
    · exact separated.placed index packet atIndex
  · rw [List.length_set]
    intro earlier isEarlier later isLater differ before same
    rcases origin earlier isEarlier with rfl | ⟨wasEarlier, _⟩ <;>
      rcases origin later isLater with rfl | ⟨wasLater, _⟩
    · exact absurd rfl differ
    · exact (neighbours later wasLater differ.symm same.symm).2 before
    · exact (neighbours earlier wasEarlier differ same).1 before
    · exact separated.neighbours earlier wasEarlier later wasLater differ before same
  · rw [List.length_set]
    intro earlier isEarlier later isLater differ before continuous notFirst
    rcases origin earlier isEarlier with rfl | ⟨wasEarlier, _⟩ <;>
      rcases origin later isLater with rfl | ⟨wasLater, _⟩
    · exact absurd rfl differ
    · exact followed later wasLater differ.symm before continuous notFirst
    · exact follows continuous notFirst earlier wasEarlier differ before
    · exact separated.chained earlier wasEarlier later wasLater differ before continuous notFirst

/-- A packet is replaced by one with the same number, timestamp and first flag, that is
continuous if it was, or if its predecessor is before it. -/
theorem Separated.replace {old new : Packet} (isOld : old ∈ stored buffer)
    (sameSeqNum : new.seqNum = old.seqNum) (sameTimestamp : new.timestamp = old.timestamp)
    (sameFirst : new.isFirstPacketInFrame = old.isFirstPacketInFrame)
    (stays : old.continuous = true → new.continuous = true)
    (follows : new.continuous = true → old.isFirstPacketInFrame = false → ∀ earlier ∈ stored buffer,
      earlier.seqNum ≠ old.seqNum → Before buffer.length earlier old →
      earlier.seqNum = old.seqNum - 1 ∧ earlier.timestamp = old.timestamp ∧
      earlier.continuous = true) :
    Separated (buffer.set (slot buffer old.seqNum) (some new)) := by
  rw [← sameSeqNum]
  refine separated.set ?_ ?_ ?_ <;> unfold Before <;> rw [sameSeqNum, sameTimestamp]
  · exact fun other isOther differ same =>
      ⟨fun before => separated.neighbours other isOther old isOld differ before same,
        fun before => separated.neighbours old isOld other isOther differ.symm before same.symm⟩
  · intro other isOther differ before continuous notFirst
    obtain ⟨isNumber, isTimestamp, wasContinuous⟩ :=
      separated.chained old isOld other isOther differ.symm before continuous notFirst
    exact ⟨isNumber, isTimestamp, stays wasContinuous⟩
  · exact fun continuous notFirst => follows continuous (sameFirst ▸ notFirst)

end

/-! ## Insertion into a free slot -/

/-- A packet may be inserted: its neighbours with its timestamp have the neighbouring
sequence numbers, and the slot after its own holds no continuous packet that is not the
first of its frame. -/
def Fits (size : Nat) (packets : List Packet) (packet : Packet) : Prop :=
  ∀ other ∈ packets, other.seqNum ≠ packet.seqNum →
    (other.timestamp = packet.timestamp →
      (Before size other packet → other.seqNum = packet.seqNum - 1) ∧
      (Before size packet other → other.seqNum = packet.seqNum + 1)) ∧
    (other.continuous = true → other.isFirstPacketInFrame = false → ¬ Before size packet other)

theorem Separated.insert (separated : Separated buffer) {packet : Packet}
    (fits : Fits buffer.length (stored buffer) packet) :
    Separated (buffer.set (slot buffer packet.seqNum) (some { packet with continuous := false })) := by
  refine @Separated.set _ separated { packet with continuous := false }
    (fun other isOther differ same => ?_)
    (fun other isOther differ before continuous notFirst => ?_)
    nofun
  · obtain ⟨near, _⟩ := fits other isOther differ
    exact ⟨(near same).1, fun before => eq_sub_of_add_eq ((near same).2 before).symm⟩
  · exact absurd before ((fits other isOther differ).2 continuous notFirst)

/-! ## A larger buffer -/

/-- The packets have different slots in a buffer of this size. -/
def Spread (size : Nat) (packets : List Packet) : Prop :=
  packets.Pairwise fun one two => one.seqNum.toNat % size ≠ two.seqNum.toNat % size

theorem Separated.spread (separated : Separated buffer) : Spread buffer.length (stored buffer) := by
  unfold Spread stored List.reduceOption
  rw [List.pairwise_filterMap, List.pairwise_iff_getElem]
  intro i j iLt jLt before one isOne two isTwo same
  have atI : entry buffer i = some one := by
    rw [entry_eq_some, List.getElem?_eq_getElem iLt]
    exact congrArg some isOne
  have atJ : entry buffer j = some two := by
    rw [entry_eq_some, List.getElem?_eq_getElem jLt]
    exact congrArg some isTwo
  have isI : i = one.seqNum.toNat % buffer.length := separated.placed i one atI
  have isJ : j = two.seqNum.toNat % buffer.length := separated.placed j two atJ
  omega

/-- The packets of the entries are added to those in the new buffer. -/
theorem rehash_loop {newSize : Nat} (positive : 0 < newSize) (entries : List (Option Packet))
    {newBuffer : List (Option Packet)} (isSize : newBuffer.length = newSize)
    (placed : ∀ index packet, entry newBuffer index = some packet →
      index = packet.seqNum.toNat % newSize)
    (spread : Spread newSize entries.reduceOption)
    (apart : ∀ one ∈ stored newBuffer, ∀ two ∈ entries.reduceOption,
      one.seqNum.toNat % newSize ≠ two.seqNum.toNat % newSize) :
    let after := entries.foldl (fun newBuffer stored => match stored with
      | none => newBuffer
      | some packet => newBuffer.set (packet.seqNum.toNat % newSize) (some packet)) newBuffer
    after.length = newSize ∧
      (∀ index packet, entry after index = some packet → index = packet.seqNum.toNat % newSize) ∧
      (stored after).Perm (stored newBuffer ++ entries.reduceOption) := by
  induction entries generalizing newBuffer with
  | nil => exact ⟨isSize, placed, by simp⟩
  | cons head rest ih =>
    cases head with
    | none =>
      exact ih isSize placed spread apart
    | some packet =>
      obtain ⟨fromPacket, spreadRest⟩ := List.pairwise_cons.mp spread
      have inside : packet.seqNum.toNat % newSize < newBuffer.length := by
        rw [isSize]
        exact Nat.mod_lt _ positive
      have free : entry newBuffer (packet.seqNum.toNat % newSize) = none := by
        rw [Option.eq_none_iff_forall_ne_some]
        intro other isOther
        exact apart other (mem_stored.mpr ⟨_, isOther⟩) packet List.mem_cons_self
          (placed _ other isOther).symm
      have moved := stored_set_perm inside (some packet)
      rw [free, Option.toList_none, List.nil_append, Option.toList_some] at moved
      have next := @ih (newBuffer.set (packet.seqNum.toNat % newSize) (some packet))
        (by rw [List.length_set, isSize]) (fun index other isEntry => ?_) spreadRest
        (fun one isOne two isTwo => ?_)
      · refine ⟨next.1, next.2.1, next.2.2.trans ?_⟩
        exact (moved.append_right _).trans List.perm_middle.symm
      · rw [entry_set inside] at isEntry
        split_ifs at isEntry with same
        · cases isEntry
          exact same
        · exact placed index other isEntry
      · rcases List.mem_append.mp (moved.mem_iff.mp isOne) with isPacket | wasOne
        · rw [List.mem_singleton.mp isPacket]
          exact fromPacket two isTwo
        · exact apart one wasOne two (List.mem_cons_of_mem _ isTwo)

theorem Separated.rehash (separated : Separated buffer) {newSize : Nat} (positive : 0 < newSize)
    (divides : buffer.length ∣ newSize) :
    Separated (PacketBuffer.rehash newSize buffer) ∧ (PacketBuffer.rehash newSize buffer).length = newSize ∧
      (stored (PacketBuffer.rehash newSize buffer)).Perm (stored buffer) := by
  have spread : Spread newSize buffer.reduceOption := by
    refine separated.spread.imp fun {one two} differ same => differ ?_
    rw [← Nat.mod_mod_of_dvd _ divides, same, Nat.mod_mod_of_dvd _ divides]
  have empty : stored (List.replicate newSize none) = [] := by
    simp [stored]
  obtain ⟨isSize, placed, moved⟩ := @rehash_loop newSize positive buffer
    (List.replicate newSize none) (by simp) (fun index packet isEntry => by
      have member := mem_stored.mpr ⟨index, isEntry⟩
      rw [empty] at member
      cases member) spread (by simp [empty])
  rw [empty, List.nil_append] at moved
  change (PacketBuffer.rehash newSize buffer).length = newSize at isSize
  refine ⟨⟨isSize.symm ▸ positive, fun index packet isEntry => ?_, ?_, ?_⟩, isSize, moved⟩
  · rw [slot, isSize]
    exact placed index packet isEntry
  · intro earlier isEarlier later isLater differ before
    refine separated.neighbours earlier (moved.mem_iff.mp isEarlier) later
      (moved.mem_iff.mp isLater) differ (before.of_dvd ?_)
    exact isSize.symm ▸ divides
  · intro earlier isEarlier later isLater differ before
    refine separated.chained earlier (moved.mem_iff.mp isEarlier) later
      (moved.mem_iff.mp isLater) differ (before.of_dvd ?_)
    exact isSize.symm ▸ divides

end

end PacketBuffer

end MaeRtc.VideoCoding
