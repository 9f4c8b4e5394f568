import MaeRtc.RemoteBitrate.PacketArrivalMap

/-!
# What the arrival map holds

A map represents a function that gives the last arrival time of each sequence number: the
cell of a number in the range holds this time, or minus infinity if there is none.  The
capacity is a power of two that the range fits into, so that each number of the range has
a cell of its own.
-/

namespace MaeRtc.RemoteBitrate

open Base

theorem indexIn_eq {exponent : Nat} (small : exponent < 64) (seqNum : Int) :
    (indexIn (2 ^ exponent) seqNum : Int) = seqNum % 2 ^ exponent := by
  have below : 2 ^ exponent - 1 < 2 ^ 64 := by
    have := Nat.pow_lt_pow_right (show 1 < 2 by decide) small
    omega
  have unsigned : ((seqNum % 2 ^ 64).toNat : Int) = seqNum % 2 ^ 64 :=
    Int.toNat_of_nonneg (Int.emod_nonneg _ (by decide))
  have divides : (2 ^ exponent : Int) ∣ 2 ^ 64 := pow_dvd_pow 2 small.le
  rw [indexIn, BitVec.toNat_and, BitVec.toNat_ofNat, Nat.mod_eq_of_lt below,
    Nat.and_two_pow_sub_one_eq_mod, BitVec.toNat_ofInt, Int.natCast_mod, Nat.cast_pow]
  exact (congrArg (· % (2 ^ exponent : Int)) unsigned).trans (Int.emod_emod_of_dvd _ divides)

/-- Writing to places that differ leaves each value in its place. -/
theorem getElem?_foldl_set {α : Type*} (place : Nat → Nat) (value : Nat → α) {count : Nat}
    {cells : List α} (inside : ∀ i < count, place i < cells.length)
    (apart : ∀ i < count, ∀ j < count, place i = place j → i = j) :
    let written := (List.range count).foldl (fun cells i => cells.set (place i) (value i)) cells
    written.length = cells.length ∧ ∀ i < count, written[place i]? = some (value i) := by
  induction count with
  | zero => exact ⟨rfl, fun i below => absurd below (Nat.not_lt_zero i)⟩
  | succ count ih =>
    obtain ⟨length, earlier⟩ := ih (fun i below => inside i (by omega))
      fun i below j below' => apart i (by omega) j (by omega)
    rw [List.range_succ, List.foldl_append]
    refine ⟨by simpa using length, ?_⟩
    intro i below
    rw [List.foldl_cons, List.foldl_nil, List.getElem?_set]
    split_ifs with same room
    · rw [apart i below count (by omega) same.symm]
    · exact absurd (length ▸ inside count (by omega)) room
    · have other : i ≠ count := by
        rintro rfl
        exact same rfl
      exact earlier i (by omega)

namespace PacketArrivalTimeMap

/-- The capacity of a buffer that was allocated. -/
def Allocated (capacity : Nat) : Prop :=
  ∃ exponent, 7 ≤ exponent ∧ exponent ≤ 15 ∧ capacity = 2 ^ exponent

variable {capacity : Nat}

section

variable (allocated : Allocated capacity)
include allocated

theorem Allocated.bounds : 128 ≤ capacity ∧ capacity ≤ 2 ^ 15 := by
  obtain ⟨exponent, least, most, rfl⟩ := allocated
  exact ⟨Nat.pow_le_pow_right (show 2 > 0 by decide) least,
    Nat.pow_le_pow_right (show 2 > 0 by decide) most⟩

theorem Allocated.index (seqNum : Int) :
    (indexIn capacity seqNum : Int) = seqNum % capacity := by
  obtain ⟨exponent, _, most, rfl⟩ := allocated
  rw [indexIn_eq (by omega)]
  rfl

theorem Allocated.index_lt (seqNum : Int) : indexIn capacity seqNum < capacity := by
  have remainder := allocated.index seqNum
  have := Int.emod_lt_of_pos seqNum (show (0 : Int) < capacity by
    have := allocated.bounds
    omega)
  omega

/-- Numbers of a window that fits into the buffer have cells of their own. -/
theorem Allocated.index_inj {one two : Int} (below : one - two < capacity)
    (above : two - one < capacity) (same : indexIn capacity one = indexIn capacity two) :
    one = two := by
  refine @eq_of_emod_eq capacity _ _ ?_ below above ?_
  · omega
  · rw [← allocated.index, ← allocated.index, same]

end

variable {map : PacketArrivalTimeMap}

theorem cell_set (allocated : Allocated map.capacity) (seqNum number : Int)
    (value : Option Timestamp) :
    cell { map with arrivalTimes := map.arrivalTimes.set (map.index seqNum) value }
      number = if map.index seqNum = map.index number then value else map.cell number := by
  have room : map.index seqNum < map.arrivalTimes.length :=
    allocated.index_lt seqNum
  have placed : index { map with
      arrivalTimes := map.arrivalTimes.set (map.index seqNum) value } number =
      map.index number := by
    simp only [index, capacity, List.length_set]
  rw [cell, placed, List.getElem?_set]
  by_cases same : map.index seqNum = map.index number
  · rw [if_pos same, if_pos same, if_pos room, Option.join_some]
  · rw [if_neg same, if_neg same]
    rfl

/-- The numbers from the first to the last become missing, the others of the window keep
their values. -/
theorem cell_setNotReceived (allocated : Allocated map.capacity) {first last number : Int}
    (ordered : first ≤ last) (short : last - first < map.capacity)
    (below : last - number ≤ map.capacity) (above : number - first < map.capacity) :
    (map.setNotReceived first last).cell number =
      if first ≤ number ∧ number < last then some .minusInfinity else map.cell number := by
  have cells : (map.setNotReceived first last).arrivalTimes =
      if map.index first ≤ map.index last then
        fill map.arrivalTimes (map.index first) (map.index last) (some .minusInfinity)
      else fill (fill map.arrivalTimes (map.index first) map.arrivalTimes.length
        (some .minusInfinity)) 0 (map.index last) (some .minusInfinity) := by
    unfold setNotReceived
    dsimp only
    split_ifs <;> rfl
  have size : (map.setNotReceived first last).arrivalTimes.length = map.arrivalTimes.length := by
    rw [cells]
    split_ifs <;> simp
  have filled := getElem?_fill_blocks (some .minusInfinity) ordered short below above
    (allocated.index number) (.inl (allocated.index first)) (allocated.index last)
  rw [cell, index, capacity, size, cells]
  refine (congrArg Option.join filled).trans ?_
  split_ifs <;> rfl

/-- The map holds the last arrival times of its range. -/
structure Represents (map : PacketArrivalTimeMap) (latest : Int → Option Timestamp) : Prop where
  allocated : Allocated map.capacity
  ordered : map.beginSequenceNumber ≤ map.endSequenceNumber
  fits : map.endSequenceNumber - map.beginSequenceNumber ≤ map.capacity
  cells : ∀ number, map.beginSequenceNumber ≤ number → number < map.endSequenceNumber →
    map.cell number = some ((latest number).getD .minusInfinity)

/-- The range is the same. -/
def SameRange (one two : PacketArrivalTimeMap) : Prop :=
  one.beginSequenceNumber = two.beginSequenceNumber ∧
    one.endSequenceNumber = two.endSequenceNumber

section

variable {latest : Int → Option Timestamp}

theorem Represents.reallocate (represents : map.Represents latest) {newCapacity : Nat}
    (allocated : Allocated newCapacity)
    (room : map.endSequenceNumber - map.beginSequenceNumber ≤ newCapacity) :
    Ensures (map.reallocate newCapacity) fun result =>
      result.Represents latest ∧ result.SameRange map ∧ result.capacity = newCapacity := by
  have power : (newCapacity &&& (newCapacity - 1) == 0) = true := by
    obtain ⟨exponent, _, _, rfl⟩ := allocated
    rw [Nat.and_two_pow_sub_one_eq_mod, Nat.mod_self]
    rfl
  obtain ⟨length, copies⟩ := @getElem?_foldl_set _
    (fun offset => indexIn newCapacity (map.beginSequenceNumber + offset))
    (fun offset => map.cell (map.beginSequenceNumber + offset))
    (map.endSequenceNumber - map.beginSequenceNumber).toNat
    (List.replicate newCapacity none)
    (fun offset _ => by
      rw [List.length_replicate]
      exact allocated.index_lt _)
    (fun one oneLt two twoLt same => by
      have := allocated.index_inj (by omega) (by omega) same
      omega)
  rw [List.length_replicate] at length
  refine .bind (.check power) fun _ _ => .ok ⟨⟨?_, represents.ordered, ?_, ?_⟩, ⟨rfl, rfl⟩, length⟩
  · exact (congrArg Allocated length).mpr allocated
  · exact room.trans_eq (congrArg Nat.cast length.symm)
  · intro number atLeast below
    dsimp only at atLeast below
    obtain ⟨offset, isOffset⟩ := Int.eq_ofNat_of_zero_le (sub_nonneg.mpr atLeast)
    have split : map.beginSequenceNumber + offset = number := by omega
    have isCopied := copies offset (by omega)
    rw [split] at isCopied
    have placed : index { map with arrivalTimes := map.copied newCapacity } number =
        indexIn newCapacity number :=
      congrArg (indexIn · number) length
    calc
      cell { map with arrivalTimes := map.copied newCapacity } number =
          ((map.copied newCapacity)[indexIn newCapacity number]?).join := by
        rw [cell, placed]
      _ = map.cell number := by
        rw [copied, isCopied, Option.join_some]
      _ = some ((latest number).getD .minusInfinity) := represents.cells number atLeast below

variable {seqNum : Int} {time : Timestamp} {newSize : Int}

/-- Doubling ends at a power of two that has room. -/
theorem allocated_grown (limited : newSize ≤ 2 ^ 15) {capacity : Nat}
    (allocated : Allocated capacity) {fuel : Nat} (enough : newSize ≤ fuel + capacity) :
    Allocated (grownCapacity newSize fuel capacity) ∧
      newSize ≤ grownCapacity newSize fuel capacity := by
  induction fuel generalizing capacity with
  | zero => exact ⟨allocated, by simpa [grownCapacity] using enough⟩
  | succ fuel ih =>
    rw [grownCapacity]
    by_cases tooSmall : capacity < newSize
    · rw [if_pos tooSmall]
      have atLeast := allocated.bounds.1
      obtain ⟨exponent, least, most, rfl⟩ := allocated
      have notLargest : exponent ≠ 15 := by
        rintro rfl
        exact absurd tooSmall (not_lt.mpr (by simpa using limited))
      refine ih ⟨exponent + 1, by omega, by omega, (pow_succ 2 exponent).symm⟩ ?_
      generalize 2 ^ exponent = capacity at enough atLeast ⊢
      omega
    · rw [if_neg tooSmall]
      exact ⟨allocated, not_lt.mp tooSmall⟩

/-- Halving keeps a power of two that has room. -/
theorem allocated_shrunk {capacity : Nat} (allocated : Allocated capacity)
    (room : newSize ≤ capacity) (fuel : Nat) :
    Allocated (shrunkCapacity newSize fuel capacity) ∧
      newSize ≤ shrunkCapacity newSize fuel capacity := by
  induction fuel generalizing capacity with
  | zero => exact ⟨allocated, room⟩
  | succ fuel ih =>
    rw [shrunkCapacity]
    by_cases tooLarge : (capacity : Int) > 2 * max newSize kMinCapacity
    · rw [if_pos tooLarge]
      obtain ⟨exponent, least, most, rfl⟩ := allocated
      have notLeast : exponent ≠ 7 := by
        rintro rfl
        have minimum : (kMinCapacity : Int) = 128 := rfl
        omega
      have half : 2 ^ exponent / 2 = 2 ^ (exponent - 1) := by
        rw [← Nat.sub_add_cancel (show 1 ≤ exponent by omega), pow_succ]
        simp
      rw [half]
      refine ih ⟨exponent - 1, by omega, by omega, rfl⟩ ?_
      omega
    · rw [if_neg tooLarge]
      exact ⟨allocated, room⟩

section

variable (represents : map.Represents latest)
include represents

theorem Represents.adjustToSize (limited : newSize ≤ 2 ^ 15)
    (large : map.endSequenceNumber - map.beginSequenceNumber ≤ newSize) :
    Ensures (map.adjustToSize newSize) fun result =>
      result.Represents latest ∧ result.SameRange map ∧ newSize ≤ result.capacity := by
  have grown : Ensures (map.grow newSize) fun result =>
      result.Represents latest ∧ result.SameRange map ∧ newSize ≤ result.capacity := by
    unfold grow
    refine .ite (fun tooSmall => ?_) fun tooSmall => ?_
    · obtain ⟨allocated, room⟩ := allocated_grown limited represents.allocated
        (show newSize ≤ newSize.toNat + map.capacity by omega)
      refine (represents.reallocate allocated (large.trans room)).weaken ?_
      rintro result ⟨isRepresented, sameRange, isCapacity⟩
      exact ⟨isRepresented, sameRange, isCapacity ▸ room⟩
    · exact .ok ⟨represents, ⟨rfl, rfl⟩, not_lt.mp tooSmall⟩
  refine .bind grown fun larger ⟨isRepresented, ⟨sameBegin, sameEnd⟩, room⟩ => ?_
  have shrunk : Ensures (larger.shrink newSize) fun result =>
      result.Represents latest ∧ result.SameRange map ∧ newSize ≤ result.capacity := by
    unfold shrink
    refine .ite (fun tooLarge => ?_) fun tooLarge => ?_
    · obtain ⟨allocated, stillRoom⟩ := allocated_shrunk isRepresented.allocated room larger.capacity
      refine (isRepresented.reallocate allocated ?_).weaken ?_
      · rw [sameBegin, sameEnd]
        exact large.trans stillRoom
      · rintro result ⟨again, ⟨beginAgain, endAgain⟩, isCapacity⟩
        exact ⟨again, ⟨beginAgain.trans sameBegin, endAgain.trans sameEnd⟩, isCapacity ▸ stillRoom⟩
    · exact .ok ⟨isRepresented, ⟨sameBegin, sameEnd⟩, room⟩
  refine .bind shrunk fun result holds => ?_
  exact .bind (.check (decide_eq_true holds.2.2)) fun _ _ => .ok holds

theorem Represents.congr {other : Int → Option Timestamp}
    (agree : ∀ number, map.beginSequenceNumber ≤ number → number < map.endSequenceNumber →
      latest number = other number) :
    map.Represents other where
  allocated := represents.allocated
  ordered := represents.ordered
  fits := represents.fits
  cells number atLeast below := by
    rw [← agree number atLeast below]
    exact represents.cells number atLeast below

/-- Numbers leave the range at its beginning. -/
theorem Represents.dropTo (atLeast : map.beginSequenceNumber ≤ seqNum)
    (atMost : seqNum ≤ map.endSequenceNumber) :
    Represents { map with beginSequenceNumber := seqNum } latest where
  allocated := represents.allocated
  ordered := atMost
  fits := (sub_le_sub_left atLeast _).trans represents.fits
  cells number after below := represents.cells number (atLeast.trans after) below

theorem Represents.limited : map.endSequenceNumber - map.beginSequenceNumber ≤ 2 ^ 15 := by
  have fits := represents.fits
  have bounds := represents.allocated.bounds
  omega

end

theorem write_ensures (allocated : Allocated map.capacity) (seqNum : Int)
    (time : Timestamp) :
    Ensures (map.write seqNum time) fun result =>
      result.SameRange map ∧ result.capacity = map.capacity ∧
      ∀ number, result.cell number =
        if map.index seqNum = map.index number then some time else map.cell number := by
  refine .bind (.check (decide_eq_true (allocated.index_lt seqNum))) fun _ _ => .ok ?_
  exact ⟨⟨rfl, rfl⟩, List.length_set, fun number => cell_set allocated seqNum number _⟩

theorem setNotReceived_range (first last : Int) :
    (map.setNotReceived first last).SameRange map ∧
      (map.setNotReceived first last).capacity = map.capacity := by
  unfold setNotReceived
  dsimp only
  split_ifs with oneBlock
  · exact ⟨⟨rfl, rfl⟩, length_fill _ _ _ _⟩
  · exact ⟨⟨rfl, rfl⟩, (length_fill _ _ _ _).trans (length_fill _ _ _ _)⟩

/-- The last arrival times once a packet has been added. -/
def added (map : PacketArrivalTimeMap) (latest : Int → Option Timestamp) (seqNum : Int)
    (time : Timestamp) (number : Int) : Option Timestamp :=
  if number = seqNum then some time
  else if map.beginSequenceNumber ≤ number ∧ number < map.endSequenceNumber then latest number
  else none

/-- The packet is in the range, which ends where it did or after the packet. -/
structure Admitted (map : PacketArrivalTimeMap) (seqNum : Int)
    (result : PacketArrivalTimeMap) : Prop where
  atLeast : result.beginSequenceNumber ≤ seqNum
  below : seqNum < result.endSequenceNumber
  isEnd : result.endSequenceNumber = max map.endSequenceNumber (seqNum + 1)

/-- Writing the last packet that a range lacks. -/
theorem write_represents (allocated : Allocated map.capacity)
    (atLeast : map.beginSequenceNumber ≤ seqNum)
    (below : seqNum < map.endSequenceNumber)
    (fits : map.endSequenceNumber - map.beginSequenceNumber ≤ map.capacity)
    (others : ∀ number, map.beginSequenceNumber ≤ number → number < map.endSequenceNumber →
      number ≠ seqNum → map.cell number = some ((latest number).getD .minusInfinity))
    (isLatest : latest seqNum = some time) :
    Ensures (map.write seqNum time) fun result =>
      result.Represents latest ∧ result.SameRange map := by
  refine (write_ensures allocated seqNum time).weaken ?_
  rintro result ⟨⟨sameBegin, sameEnd⟩, sameCapacity, cells⟩
  refine ⟨⟨sameCapacity ▸ allocated, ?_, ?_, ?_⟩, sameBegin, sameEnd⟩
  · omega
  · rw [sameBegin, sameEnd, sameCapacity]
    exact fits
  · intro number after before
    rw [sameBegin] at after
    rw [sameEnd] at before
    rw [cells number]
    by_cases same : number = seqNum
    · rw [same, if_pos rfl, isLatest]
      rfl
    · rw [if_neg, others number after before same]
      intro sameIndex
      exact same (allocated.index_inj (by omega) (by omega) sameIndex).symm

section

variable (represents : map.Represents latest)
include represents

theorem Represents.addBefore (before : seqNum < map.beginSequenceNumber) (time : Timestamp)
    (room : map.endSequenceNumber - seqNum ≤ kMaxNumberOfPackets) :
    Ensures (map.addBefore seqNum time) fun result =>
      result.Represents (map.added latest seqNum time) ∧
      map.Admitted seqNum result := by
  have ordered := represents.ordered
  unfold PacketArrivalTimeMap.addBefore
  rw [if_neg (not_lt.mpr room)]
  refine .bind (represents.adjustToSize room (by omega))
    fun larger ⟨isRepresented, ⟨sameBegin, sameEnd⟩, hasRoom⟩ => ?_
  have allocated := isRepresented.allocated
  refine .bind (write_ensures allocated seqNum time)
    fun written ⟨⟨writtenBegin, writtenEnd⟩, writtenCapacity, cells⟩ => .ok ?_
  obtain ⟨⟨clearedBegin, clearedEnd⟩, clearedCapacity⟩ :=
    @setNotReceived_range written (seqNum + 1) written.beginSequenceNumber
  rw [writtenCapacity] at clearedCapacity
  refine ⟨⟨?_, ?_, ?_, ?_⟩, ?_, ?_, ?_⟩
  · exact clearedCapacity ▸ allocated
  · dsimp only
    omega
  · rw [clearedEnd, writtenEnd, sameEnd]
    exact hasRoom.trans_eq (congrArg Nat.cast clearedCapacity.symm)
  · intro number after below
    dsimp only at after below
    have cleared := @cell_setNotReceived written (writtenCapacity ▸ allocated)
      (seqNum + 1) written.beginSequenceNumber number (by omega) (by omega) (by omega)
      (by omega)
    refine cleared.trans ?_
    unfold added
    by_cases same : number = seqNum
    · rw [if_neg (by omega), cells number, same, if_pos rfl, if_pos rfl]
      rfl
    by_cases missing : number < map.beginSequenceNumber
    · rw [if_pos (by omega), if_neg same, if_neg (by omega)]
      rfl
    · have other : larger.index seqNum ≠ larger.index number := fun sameIndex =>
        same (allocated.index_inj (by omega) (by omega) sameIndex).symm
      rw [if_neg (by omega), cells number, if_neg other, if_neg same, if_pos (by omega)]
      exact isRepresented.cells number (by omega) (by omega)
  · exact le_rfl
  · dsimp only
    omega
  · dsimp only
    omega

theorem Represents.removeOldest {newEnd : Int}
    (near : newEnd < map.endSequenceNumber + kMaxNumberOfPackets) :
    Ensures (map.removeOldest newEnd) fun result =>
      result.Represents latest ∧ result.endSequenceNumber = map.endSequenceNumber ∧
      map.beginSequenceNumber ≤ result.beginSequenceNumber ∧
      newEnd - result.beginSequenceNumber ≤ kMaxNumberOfPackets := by
  unfold PacketArrivalTimeMap.removeOldest
  refine .ite (fun tooOld => ?_) fun tooOld => ?_
  · have behind : map.endSequenceNumber > newEnd - kMaxNumberOfPackets := by omega
    refine .bind (.check (decide_eq_true behind)) fun _ _ => .ok ?_
    exact ⟨represents.dropTo tooOld.le behind.le, rfl, tooOld.le, (sub_sub_cancel _ _).le⟩
  · exact .ok ⟨represents, rfl, le_rfl, by omega⟩

theorem Represents.addAfter (after : map.endSequenceNumber ≤ seqNum) (time : Timestamp) :
    Ensures (map.addAfter seqNum time) fun result =>
      result.Represents (map.added latest seqNum time) ∧
      map.Admitted seqNum result := by
  have isAdded : map.added latest seqNum time seqNum = some time := if_pos rfl
  refine .bind (.check (decide_eq_true after)) fun _ _ => ?_
  refine .ite (fun far => ?_) fun far => ?_
  · refine (@write_represents _ (map.added latest seqNum time) _ _ ?_ ?_ ?_ ?_ ?_
      isAdded).weaken ?_
    · exact represents.allocated
    · exact le_rfl
    · exact Int.lt_succ _
    · have := represents.allocated.bounds
      dsimp only [capacity] at this ⊢
      omega
    · intro number atLeast below other
      dsimp only at atLeast below
      omega
    · rintro result ⟨isRepresented, sameBegin, sameEnd⟩
      have later : map.endSequenceNumber ≤ seqNum + 1 := by omega
      exact ⟨isRepresented, sameBegin.le, sameEnd ▸ Int.lt_succ _,
        sameEnd.trans (max_eq_right later).symm⟩
  · refine .bind (represents.removeOldest (not_le.mp far))
      fun shorter ⟨isShorter, shorterEnd, shorterBegin, limited⟩ => ?_
    refine .bind (isShorter.adjustToSize limited (by omega))
      fun larger ⟨isLarger, ⟨sameBegin, sameEnd⟩, room⟩ => ?_
    obtain ⟨⟨clearedBegin, clearedEnd⟩, clearedCapacity⟩ :=
      @setNotReceived_range larger larger.endSequenceNumber seqNum
    have ordered := isShorter.ordered
    refine (@write_represents _ (map.added latest seqNum time) _ _ ?_ ?_ ?_ ?_ ?_
      isAdded).weaken ?_
    · exact clearedCapacity ▸ isLarger.allocated
    · dsimp only
      omega
    · exact Int.lt_succ _
    · rw [clearedBegin, sameBegin]
      exact room.trans_eq (congrArg Nat.cast clearedCapacity.symm)
    · intro number atLeast below other
      dsimp only at atLeast below
      rw [clearedBegin] at atLeast
      have cleared := @cell_setNotReceived larger isLarger.allocated
        larger.endSequenceNumber seqNum number (by omega) (by omega) (by omega) (by omega)
      refine cleared.trans ?_
      unfold added
      rw [if_neg other]
      by_cases missing : map.endSequenceNumber ≤ number
      · rw [if_pos (by omega), if_neg (by omega)]
        rfl
      · rw [if_neg (by omega), if_pos (by omega)]
        exact isLarger.cells number atLeast (by omega)
    · rintro result ⟨isRepresented, isBegin, isEnd⟩
      dsimp only at isBegin isEnd
      exact ⟨isRepresented, by omega, by omega, isEnd.trans (max_eq_right (by omega)).symm⟩

theorem Represents.hasSeenPacket : map.hasSeenPacket = true := by
  have bounds := represents.allocated.bounds
  cases isTimes : map.arrivalTimes with
  | nil =>
    rw [capacity, isTimes] at bounds
    exact absurd bounds.1 (by decide)
  | cons first others =>
    rw [PacketArrivalTimeMap.hasSeenPacket, isTimes]
    rfl

/-- A packet is added, or it is so old that the range would become too large. -/
theorem Represents.addPacket (seqNum : Int) (isTime : UnitBase.zero.le time = true) :
    Ensures (map.addPacket seqNum time) fun result =>
      result.Represents (map.added latest seqNum time) ∧
      (map.Admitted seqNum result ∨
        result = map ∧ seqNum < map.beginSequenceNumber ∧
        map.endSequenceNumber - seqNum > kMaxNumberOfPackets) := by
  refine .bind (.check isTime) fun _ _ => ?_
  rw [represents.hasSeenPacket, if_neg (by decide)]
  refine .ite (fun within => ?_) fun within => ?_
  · refine (@write_represents _ (map.added latest seqNum time) _ _ represents.allocated
      within.1 within.2 represents.fits ?_ (if_pos rfl)).weaken ?_
    · intro number atLeast below other
      rw [added, if_neg other, if_pos ⟨atLeast, below⟩]
      exact represents.cells number atLeast below
    · rintro result ⟨isRepresented, sameBegin, sameEnd⟩
      refine ⟨isRepresented, .inl ⟨sameBegin.le.trans within.1, within.2.trans_eq sameEnd.symm, ?_⟩⟩
      exact sameEnd.trans (max_eq_left within.2).symm
  · refine .ite (fun before => ?_) fun before => ?_
    · by_cases tooOld : map.endSequenceNumber - seqNum > kMaxNumberOfPackets
      · rw [PacketArrivalTimeMap.addBefore, if_pos tooOld]
        refine .ok ⟨represents.congr ?_, .inr ⟨rfl, before, tooOld⟩⟩
        intro number atLeast below
        rw [added, if_neg (by omega), if_pos ⟨atLeast, below⟩]
      · refine (represents.addBefore before time (not_lt.mp tooOld)).weaken ?_
        exact fun result ⟨isRepresented, admitted⟩ => ⟨isRepresented, .inl admitted⟩
    · refine (represents.addAfter (by omega) time).weaken ?_
      exact fun result ⟨isRepresented, admitted⟩ => ⟨isRepresented, .inl admitted⟩

end

/-- The first packet of a map. -/
theorem addPacket_first (seqNum : Int) (isTime : UnitBase.zero.le time = true)
    {latest : Int → Option Timestamp} (isLatest : latest seqNum = some time) :
    Ensures (addPacket {} seqNum time) fun result =>
      result.Represents latest ∧ result.beginSequenceNumber = seqNum ∧
      result.endSequenceNumber = seqNum + 1 := by
  refine .bind (.check isTime) fun _ _ => ?_
  have fresh : reallocate {} kMinCapacity =
      .ok { arrivalTimes := List.replicate kMinCapacity none } := rfl
  have isCapacity : (List.replicate kMinCapacity (none : Option Timestamp)).length = 2 ^ 7 :=
    List.length_replicate
  rw [fresh, ok_bind]
  refine (@write_represents _ latest _ _ ?_ ?_ ?_ ?_ ?_ isLatest).weaken ?_
  · exact ⟨7, le_rfl, by decide, isCapacity⟩
  · exact le_rfl
  · exact Int.lt_succ _
  · dsimp only [capacity]
    omega
  · intro number atLeast below other
    dsimp only at atLeast below
    omega
  · rintro result ⟨isRepresented, sameBegin, sameEnd⟩
    exact ⟨isRepresented, sameBegin, sameEnd⟩

section

variable (represents : map.Represents latest)
include represents

theorem Represents.read (atLeast : map.beginSequenceNumber ≤ seqNum)
    (below : seqNum < map.endSequenceNumber) :
    map.read seqNum = .ok ((latest seqNum).getD .minusInfinity) := by
  rw [PacketArrivalTimeMap.read, represents.cells seqNum atLeast below]

/-- Packets are removed from the beginning of the range only, and none that is not before
the given number. -/
theorem Represents.firstKept {checkTo : Int} (inside : checkTo ≤ map.endSequenceNumber)
    (limit : Timestamp) (fuel : Nat) {number : Int} (atLeast : map.beginSequenceNumber ≤ number) :
    Ensures (map.firstKept checkTo limit fuel number) fun kept =>
      number ≤ kept ∧ kept ≤ max number checkTo := by
  induction fuel generalizing number with
  | zero => exact .ok ⟨le_rfl, le_max_left _ _⟩
  | succ fuel ih =>
    rw [PacketArrivalTimeMap.firstKept]
    refine .ite (fun before => ?_) fun before => ?_
    · rw [represents.read atLeast (before.trans_le inside), ok_bind]
      refine .ite (fun old => ?_) fun old => ?_
      · refine (ih (by omega)).weaken ?_
        rintro kept ⟨after, atMost⟩
        exact ⟨by omega, atMost.trans (max_le ((Int.add_one_le_of_lt before).trans
          (le_max_right _ _)) (le_max_right _ _))⟩
      · exact .ok ⟨le_rfl, le_max_left _ _⟩
    · exact .ok ⟨le_rfl, le_max_left _ _⟩

theorem Represents.removeOldPackets (seqNum : Int) (limit : Timestamp) :
    Ensures (map.removeOldPackets seqNum limit) fun result =>
      result.Represents latest ∧ result.endSequenceNumber = map.endSequenceNumber ∧
      map.beginSequenceNumber ≤ result.beginSequenceNumber ∧
      result.beginSequenceNumber ≤ max map.beginSequenceNumber seqNum := by
  refine .bind (represents.firstKept (min_le_right _ _) limit _ le_rfl)
    fun kept ⟨after, atMost⟩ => ?_
  have inside : kept ≤ map.endSequenceNumber :=
    atMost.trans (max_le represents.ordered (min_le_right _ _))
  have shorter := represents.dropTo after inside
  refine (shorter.adjustToSize shorter.limited le_rfl).weaken ?_
  rintro result ⟨isRepresented, ⟨sameBegin, sameEnd⟩, _⟩
  exact ⟨isRepresented, sameEnd, after.trans_eq sameBegin.symm,
    sameBegin.trans_le (atMost.trans (max_le_max le_rfl (min_le_left _ _)))⟩

theorem Represents.eraseTo (seqNum : Int) :
    Ensures (map.eraseTo seqNum) fun result =>
      result.Represents latest ∧ result.endSequenceNumber = map.endSequenceNumber ∧
      map.beginSequenceNumber ≤ result.beginSequenceNumber := by
  unfold PacketArrivalTimeMap.eraseTo
  refine .ite (fun before => ?_) fun before => ?_
  · exact .ok ⟨represents, rfl, le_rfl⟩
  refine .ite (fun all => ?_) fun all => ?_
  · exact .ok ⟨represents.dropTo represents.ordered le_rfl, rfl, represents.ordered⟩
  · have shorter := represents.dropTo (not_lt.mp before) (not_le.mp all).le
    refine (shorter.adjustToSize shorter.limited le_rfl).weaken ?_
    rintro result ⟨isRepresented, ⟨sameBegin, sameEnd⟩, _⟩
    exact ⟨isRepresented, sameEnd, (not_lt.mp before).trans_eq sameBegin.symm⟩

end

/-- The times of the packets are proper ones, and the last packet of the range has one. -/
structure Received (map : PacketArrivalTimeMap) (latest : Int → Option Timestamp) : Prop where
  times : ∀ number, ∀ time ∈ latest number, UnitBase.zero.le time = true
  last : map.beginSequenceNumber < map.endSequenceNumber →
    (latest (map.endSequenceNumber - 1)).isSome

/--
The last packet stays received when one is added, unless a range that was emptied is taken
up again before its last number.
-/
theorem Received.added (received : map.Received latest) (represents : map.Represents latest)
    (isTime : UnitBase.zero.le time = true) {result : PacketArrivalTimeMap}
    (isRepresented : result.Represents (map.added latest seqNum time))
    (outcome : map.Admitted seqNum result ∨
      result = map ∧ seqNum < map.beginSequenceNumber ∧
      map.endSequenceNumber - seqNum > kMaxNumberOfPackets)
    (regular : map.beginSequenceNumber = map.endSequenceNumber →
      map.endSequenceNumber - 1 ≤ seqNum ∨
      map.endSequenceNumber - seqNum > kMaxNumberOfPackets) :
    result.Received (map.added latest seqNum time) := by
  refine ⟨?_, fun nonempty => ?_⟩
  · intro number other isLatest
    unfold PacketArrivalTimeMap.added at isLatest
    split_ifs at isLatest with same inside
    · cases isLatest
      exact isTime
    · exact received.times number other isLatest
    · cases isLatest
  rcases outcome with admitted | ⟨rfl, before, tooOld⟩
  · have isEnd := admitted.isEnd
    by_cases isLast : seqNum = result.endSequenceNumber - 1
    · rw [PacketArrivalTimeMap.added, if_pos isLast.symm]
      rfl
    have ordered := represents.ordered
    have sameEnd : result.endSequenceNumber = map.endSequenceNumber := by omega
    have notEmpty : map.beginSequenceNumber < map.endSequenceNumber := by
      rcases eq_or_lt_of_le ordered with empty | less
      · rcases regular empty with atLast | tooOld
        · omega
        · have := isRepresented.limited
          have := admitted.atLeast
          have limit : kMaxNumberOfPackets = 2 ^ 15 := rfl
          omega
      · exact less
    rw [PacketArrivalTimeMap.added, if_neg (Ne.symm isLast), if_pos (by omega), sameEnd]
    exact received.last notEmpty
  · rw [PacketArrivalTimeMap.added, if_neg (by omega), if_pos (by omega)]
    exact received.last nonempty

theorem Received.isTime (received : map.Received latest) (number : Int) :
    UnitBase.zero.le ((latest number).getD .minusInfinity) = (latest number).isSome := by
  cases isLatest : latest number with
  | none => rfl
  | some time => exact received.times number time isLatest

theorem Represents.hasReceived (represents : map.Represents latest)
    (received : map.Received latest) (seqNum : Int) :
    map.hasReceived seqNum = .ok (decide (map.beginSequenceNumber ≤ seqNum ∧
      seqNum < map.endSequenceNumber) && (latest seqNum).isSome) := by
  unfold PacketArrivalTimeMap.hasReceived
  by_cases inside : map.beginSequenceNumber ≤ seqNum ∧
      seqNum < map.endSequenceNumber
  · rw [if_pos inside, represents.read inside.1 inside.2, ok_bind, received.isTime,
      decide_eq_true inside, Bool.true_and]
  · rw [if_neg inside, decide_eq_false inside, Bool.false_and]

theorem Represents.get (represents : map.Represents latest)
    (atLeast : map.beginSequenceNumber ≤ seqNum)
    (below : seqNum < map.endSequenceNumber) :
    map.get seqNum = .ok ((latest seqNum).getD .minusInfinity) := by
  have checked : map.get seqNum = map.read seqNum := by
    rw [PacketArrivalTimeMap.get, check, check, decide_eq_true atLeast, decide_eq_true below]
    rfl
  rw [checked, represents.read atLeast below]

/-- The packet that a search comes to: the first received one from the number on. -/
structure Finds (map : PacketArrivalTimeMap) (latest : Int → Option Timestamp) (first : Int)
    (found : PacketArrivalTime) : Prop where
  atLeast : first ≤ found.sequenceNumber
  below : found.sequenceNumber < map.endSequenceNumber
  isTime : latest found.sequenceNumber = some found.arrivalTime
  isFirst : ∀ number, first ≤ number → number < found.sequenceNumber → latest number = none

theorem Represents.findFrom (represents : map.Represents latest)
    (received : map.Received latest) {fuel : Nat} {number : Int}
    (atLeast : map.beginSequenceNumber ≤ number) (below : number < map.endSequenceNumber)
    (isFuel : fuel = (map.endSequenceNumber - number).toNat) :
    Ensures (map.findFrom fuel number) (map.Finds latest number) := by
  induction fuel generalizing number with
  | zero => omega
  | succ fuel ih =>
    rw [PacketArrivalTimeMap.findFrom, represents.read atLeast below, ok_bind, received.isTime]
    cases isLatest : latest number with
    | some time =>
      exact .ok ⟨le_rfl, below, isLatest, fun other after before => by
        dsimp only at before
        omega⟩
    | none =>
      -- the last packet is received, so it is not this one
      have notLast : number ≠ map.endSequenceNumber - 1 := by
        rintro rfl
        have isLast := received.last (by omega)
        rw [isLatest] at isLast
        cases isLast
      refine (ih (by omega) (by omega) (by omega)).weaken ?_
      intro found finds
      refine ⟨(Int.le_add_one le_rfl).trans finds.atLeast, finds.below, finds.isTime, ?_⟩
      intro other after before
      rcases eq_or_lt_of_le after with rfl | later
      · exact isLatest
      · exact finds.isFirst other later before

theorem Represents.findNextAtOrAfter (represents : map.Represents latest)
    (received : map.Received latest) (atLeast : map.beginSequenceNumber ≤ seqNum)
    (below : seqNum < map.endSequenceNumber) :
    Ensures (map.findNextAtOrAfter seqNum) (map.Finds latest seqNum) := by
  refine .bind (.check (decide_eq_true atLeast)) fun _ _ => ?_
  refine .bind (.check (decide_eq_true below)) fun _ _ => ?_
  exact represents.findFrom received atLeast below rfl

end

end PacketArrivalTimeMap

end MaeRtc.RemoteBitrate
