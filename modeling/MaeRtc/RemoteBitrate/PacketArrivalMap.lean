import MaeRtc.Base.Checked
import MaeRtc.Base.CyclicIndex
import MaeRtc.Base.UnitBase

/-!
# Arrival times by sequence number

`PacketArrivalTimeMap` of `packet_arrival_map.cc`: the arrival times of a range of sequence
numbers in a circular buffer whose capacity is a power of two.  New memory is not
initialised; a cell that was not written is `none`, and reading it is a fault.  Sequence
numbers and their differences are integers, so this describes the code where the
arithmetic on 64 bits does not overflow.
-/

namespace MaeRtc.RemoteBitrate

open Base

/-- What the calls must not come to: accesses to memory that is not there or not
initialised, a search that runs past the last packet, and the assertions. -/
inductive ArrivalFault where
  | uninitialized
  | outsideBuffer
  | outsideRange
  | leftRange
  | negativeTime
  | notPowerOfTwo
  | capacityTooSmall
  | notAfter
  | emptied
  deriving DecidableEq, Repr

def kMaxNumberOfPackets : Int := 2 ^ 15
def kMinCapacity : Nat := 128

structure PacketArrivalTime where
  arrivalTime : Timestamp
  sequenceNumber : Int
  deriving DecidableEq, Repr

/-- The null pointer of a map that has not seen a packet is the empty list. -/
structure PacketArrivalTimeMap where
  arrivalTimes : List (Option Timestamp) := []
  beginSequenceNumber : Int := 0
  endSequenceNumber : Int := 0
  deriving DecidableEq, Repr

/-- `sequence_number & (capacity - 1)` -/
def indexIn (capacity : Nat) (sequenceNumber : Int) : Nat :=
  (BitVec.ofInt 64 sequenceNumber &&& BitVec.ofNat 64 (capacity - 1)).toNat

namespace PacketArrivalTimeMap

def capacity (map : PacketArrivalTimeMap) : Nat :=
  map.arrivalTimes.length

def hasSeenPacket (map : PacketArrivalTimeMap) : Bool :=
  !map.arrivalTimes.isEmpty

def index (map : PacketArrivalTimeMap) (sequenceNumber : Int) : Nat :=
  indexIn map.capacity sequenceNumber

/-- The cell of a sequence number, if it was written. -/
def cell (map : PacketArrivalTimeMap) (sequenceNumber : Int) : Option Timestamp :=
  (map.arrivalTimes[map.index sequenceNumber]?).join

def read (map : PacketArrivalTimeMap) (sequenceNumber : Int) : Except ArrivalFault Timestamp :=
  match map.cell sequenceNumber with
  | none => .error .uninitialized
  | some time => .ok time

def write (map : PacketArrivalTimeMap) (sequenceNumber : Int) (time : Timestamp) :
    Except ArrivalFault PacketArrivalTimeMap := do
  check (map.index sequenceNumber < map.capacity) .outsideBuffer
  .ok { map with arrivalTimes := map.arrivalTimes.set (map.index sequenceNumber) (some time) }

def setNotReceived (map : PacketArrivalTimeMap) (beginInclusive endExclusive : Int) :
    PacketArrivalTimeMap :=
  let beginIndex := map.index beginInclusive
  let endIndex := map.index endExclusive
  if beginIndex ≤ endIndex then
    { map with arrivalTimes := fill map.arrivalTimes beginIndex endIndex (some .minusInfinity) }
  else
    let upper := fill map.arrivalTimes beginIndex map.capacity (some .minusInfinity)
    { map with arrivalTimes := fill upper 0 endIndex (some .minusInfinity) }

/-- The loop of `Reallocate`: the valid entries at their places in the new buffer. -/
def copied (map : PacketArrivalTimeMap) (newCapacity : Nat) : List (Option Timestamp) :=
  (List.range (map.endSequenceNumber - map.beginSequenceNumber).toNat).foldl
    (fun cells (offset : Nat) =>
      cells.set (indexIn newCapacity (map.beginSequenceNumber + offset))
        (map.cell (map.beginSequenceNumber + offset)))
    (List.replicate newCapacity none)

def reallocate (map : PacketArrivalTimeMap) (newCapacity : Nat) :
    Except ArrivalFault PacketArrivalTimeMap := do
  check (newCapacity &&& (newCapacity - 1) == 0) .notPowerOfTwo
  .ok { map with arrivalTimes := map.copied newCapacity }

/-- `while (new_capacity < new_size) new_capacity *= 2;` -/
def grownCapacity (newSize : Int) : Nat → Nat → Nat
  | 0, newCapacity => newCapacity
  | fuel + 1, newCapacity =>
    if newCapacity < newSize then grownCapacity newSize fuel (newCapacity * 2) else newCapacity

/-- `while (new_capacity > 2 * std::max(new_size, kMinCapacity)) new_capacity /= 2;` -/
def shrunkCapacity (newSize : Int) : Nat → Nat → Nat
  | 0, newCapacity => newCapacity
  | fuel + 1, newCapacity =>
    if newCapacity > 2 * max newSize kMinCapacity then
      shrunkCapacity newSize fuel (newCapacity / 2)
    else newCapacity

def grow (map : PacketArrivalTimeMap) (newSize : Int) :
    Except ArrivalFault PacketArrivalTimeMap :=
  if newSize > map.capacity then
    map.reallocate (grownCapacity newSize newSize.toNat map.capacity)
  else .ok map

def shrink (map : PacketArrivalTimeMap) (newSize : Int) :
    Except ArrivalFault PacketArrivalTimeMap :=
  if map.capacity > max (kMinCapacity : Int) (4 * newSize) then
    map.reallocate (shrunkCapacity newSize map.capacity map.capacity)
  else .ok map

def adjustToSize (map : PacketArrivalTimeMap) (newSize : Int) :
    Except ArrivalFault PacketArrivalTimeMap := do
  let map ← map.grow newSize
  let map ← map.shrink newSize
  check (newSize ≤ map.capacity) .capacityTooSmall
  .ok map

/-- The part of `AddPacket` for a packet before the range. -/
def addBefore (map : PacketArrivalTimeMap) (sequenceNumber : Int) (arrivalTime : Timestamp) :
    Except ArrivalFault PacketArrivalTimeMap := do
  let newSize := map.endSequenceNumber - sequenceNumber
  if newSize > kMaxNumberOfPackets then .ok map
  else
    let map ← map.adjustToSize newSize
    let map ← map.write sequenceNumber arrivalTime
    let map := map.setNotReceived (sequenceNumber + 1) map.beginSequenceNumber
    .ok { map with beginSequenceNumber := sequenceNumber }

/-- The oldest entries make room for a range that ends at the given number. -/
def removeOldest (map : PacketArrivalTimeMap) (newEndSequenceNumber : Int) :
    Except ArrivalFault PacketArrivalTimeMap :=
  if map.beginSequenceNumber < newEndSequenceNumber - kMaxNumberOfPackets then do
    check (map.endSequenceNumber > newEndSequenceNumber - kMaxNumberOfPackets) .emptied
    .ok { map with beginSequenceNumber := newEndSequenceNumber - kMaxNumberOfPackets }
  else .ok map

/-- The part of `AddPacket` for a packet after the range. -/
def addAfter (map : PacketArrivalTimeMap) (sequenceNumber : Int) (arrivalTime : Timestamp) :
    Except ArrivalFault PacketArrivalTimeMap := do
  check (sequenceNumber ≥ map.endSequenceNumber) .notAfter
  let newEndSequenceNumber := sequenceNumber + 1
  if newEndSequenceNumber ≥ map.endSequenceNumber + kMaxNumberOfPackets then
    write { map with
      beginSequenceNumber := sequenceNumber
      endSequenceNumber := newEndSequenceNumber } sequenceNumber arrivalTime
  else
    let map ← map.removeOldest newEndSequenceNumber
    let map ← map.adjustToSize (newEndSequenceNumber - map.beginSequenceNumber)
    let map := map.setNotReceived map.endSequenceNumber sequenceNumber
    write { map with endSequenceNumber := newEndSequenceNumber } sequenceNumber arrivalTime

def addPacket (map : PacketArrivalTimeMap) (sequenceNumber : Int) (arrivalTime : Timestamp) :
    Except ArrivalFault PacketArrivalTimeMap := do
  check (UnitBase.zero.le arrivalTime) .negativeTime
  if !map.hasSeenPacket then
    let map ← map.reallocate kMinCapacity
    write { map with
      beginSequenceNumber := sequenceNumber
      endSequenceNumber := sequenceNumber + 1 } sequenceNumber arrivalTime
  else if sequenceNumber ≥ map.beginSequenceNumber ∧ sequenceNumber < map.endSequenceNumber then
    map.write sequenceNumber arrivalTime
  else if sequenceNumber < map.beginSequenceNumber then
    map.addBefore sequenceNumber arrivalTime
  else
    map.addAfter sequenceNumber arrivalTime

/-- The loop of `RemoveOldPackets`: the first number that is kept. -/
def firstKept (map : PacketArrivalTimeMap) (checkTo : Int) (arrivalTimeLimit : Timestamp) :
    Nat → Int → Except ArrivalFault Int
  | 0, sequenceNumber => .ok sequenceNumber
  | fuel + 1, sequenceNumber =>
    if sequenceNumber < checkTo then do
      let time ← map.read sequenceNumber
      if time.le arrivalTimeLimit then
        map.firstKept checkTo arrivalTimeLimit fuel (sequenceNumber + 1)
      else .ok sequenceNumber
    else .ok sequenceNumber

def removeOldPackets (map : PacketArrivalTimeMap) (sequenceNumber : Int)
    (arrivalTimeLimit : Timestamp) : Except ArrivalFault PacketArrivalTimeMap := do
  let checkTo := min sequenceNumber map.endSequenceNumber
  let kept ← map.firstKept checkTo arrivalTimeLimit (checkTo - map.beginSequenceNumber).toNat
    map.beginSequenceNumber
  let map := { map with beginSequenceNumber := kept }
  map.adjustToSize (map.endSequenceNumber - map.beginSequenceNumber)

def eraseTo (map : PacketArrivalTimeMap) (sequenceNumber : Int) :
    Except ArrivalFault PacketArrivalTimeMap :=
  if sequenceNumber < map.beginSequenceNumber then .ok map
  else if sequenceNumber ≥ map.endSequenceNumber then
    .ok { map with beginSequenceNumber := map.endSequenceNumber }
  else
    let map := { map with beginSequenceNumber := sequenceNumber }
    map.adjustToSize (map.endSequenceNumber - map.beginSequenceNumber)

def hasReceived (map : PacketArrivalTimeMap) (sequenceNumber : Int) : Except ArrivalFault Bool :=
  if sequenceNumber ≥ map.beginSequenceNumber ∧ sequenceNumber < map.endSequenceNumber then do
    let time ← map.read sequenceNumber
    .ok (UnitBase.zero.le time)
  else .ok false

def get (map : PacketArrivalTimeMap) (sequenceNumber : Int) : Except ArrivalFault Timestamp := do
  check (sequenceNumber ≥ map.beginSequenceNumber) .outsideRange
  check (sequenceNumber < map.endSequenceNumber) .outsideRange
  map.read sequenceNumber

/-- The loop of `FindNextAtOrAfter`, which has no test for the end of the range.  It must
not come to it. -/
def findFrom (map : PacketArrivalTimeMap) : Nat → Int → Except ArrivalFault PacketArrivalTime
  | 0, _ => .error .leftRange
  | fuel + 1, sequenceNumber => do
    let time ← map.read sequenceNumber
    if UnitBase.zero.le time then .ok ⟨time, sequenceNumber⟩
    else map.findFrom fuel (sequenceNumber + 1)

def findNextAtOrAfter (map : PacketArrivalTimeMap) (sequenceNumber : Int) :
    Except ArrivalFault PacketArrivalTime := do
  check (sequenceNumber ≥ map.beginSequenceNumber) .outsideRange
  check (sequenceNumber < map.endSequenceNumber) .outsideRange
  map.findFrom (map.endSequenceNumber - sequenceNumber).toNat sequenceNumber

end PacketArrivalTimeMap

end MaeRtc.RemoteBitrate
