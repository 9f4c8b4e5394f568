import MaeRtc.Base.Machine
import MaeRtc.RemoteBitrate.ArrivalMapContents

/-!
# Runs of the arrival map

Beside the map, the last arrival time of each number since it entered the range is kept.
The map holds these times after every call.  That the last packet of the range is received
needs a condition: a packet before the end of a range that was emptied is only added if it
is the last number of that range.
-/

namespace MaeRtc.RemoteBitrate

open Base PacketArrivalTimeMap

inductive ArrivalCall where
  | addPacket (seqNum : Int) (arrivalTime : Timestamp)
  | removeOldPackets (seqNum : Int) (arrivalTimeLimit : Timestamp)
  | eraseTo (seqNum : Int)
  deriving DecidableEq, Repr

namespace ArrivalCall

def apply (map : PacketArrivalTimeMap) : ArrivalCall → Except ArrivalFault PacketArrivalTimeMap
  | addPacket seqNum arrivalTime => map.addPacket seqNum arrivalTime
  | removeOldPackets seqNum limit => map.removeOldPackets seqNum limit
  | eraseTo seqNum => map.eraseTo seqNum

/-- The arrival time that the call reports for a number. -/
def reported : ArrivalCall → Int → Option Timestamp
  | addPacket seqNum arrivalTime, number =>
    if number = seqNum then some arrivalTime else none
  | _, _ => none

/-- The arrival time is not negative. -/
def Timed : ArrivalCall → Prop
  | addPacket _ arrivalTime => UnitBase.zero.le arrivalTime = true
  | _ => True

instance : ∀ call : ArrivalCall, Decidable call.Timed
  | addPacket _ _ => inferInstanceAs (Decidable (_ = true))
  | removeOldPackets _ _ => isTrue trivial
  | eraseTo _ => isTrue trivial

theorem Timed.reported {call : ArrivalCall} (timed : call.Timed) :
    ∀ number, ∀ time ∈ call.reported number, UnitBase.zero.le time = true := by
  intro number time isReported
  cases call with
  | addPacket seqNum arrivalTime =>
    dsimp only [ArrivalCall.reported] at isReported
    split_ifs at isReported with same
    · cases isReported
      exact timed
    · cases isReported
  | removeOldPackets seqNum limit => exact absurd isReported (by simp [ArrivalCall.reported])
  | eraseTo seqNum => exact absurd isReported (by simp [ArrivalCall.reported])

end ArrivalCall

structure WatchedArrivals where
  map : PacketArrivalTimeMap := {}
  /-- The last arrival time reported for a number since it entered the range. -/
  latest : Int → Option Timestamp := fun _ => none
  fault : Option ArrivalFault := none

/-- The times of the numbers that are in the range after the call. -/
def latestAfter (call : ArrivalCall) (map : PacketArrivalTimeMap)
    (latest : Int → Option Timestamp) (number : Int) : Option Timestamp :=
  if map.beginSequenceNumber ≤ number ∧ number < map.endSequenceNumber then
    (call.reported number).or (latest number)
  else none

/-- The callers give arrival times that are not negative, as `AddPacket` asserts. -/
def watchArrivals : Machine WatchedArrivals ArrivalCall where
  pre _ call := call.Timed
  next state call :=
    match call.apply state.map with
    | .error fault => { state with fault := some fault }
    | .ok map => { state with map := map, latest := latestAfter call map state.latest }

namespace WatchedArrivals

/--
A packet whose number and range have differences of 64 bits.  If all packets have been
removed, it is not before the last number of the range, or too old to be added.
-/
def Regular (state : WatchedArrivals) : ArrivalCall → Prop
  | .addPacket seqNum _ =>
    -2 ^ 62 ≤ seqNum ∧ seqNum < 2 ^ 62 ∧
    (state.map.hasSeenPacket = true → state.map.beginSequenceNumber = state.map.endSequenceNumber →
      state.map.endSequenceNumber - 1 ≤ seqNum ∨
      state.map.endSequenceNumber - seqNum > kMaxNumberOfPackets)
  | _ => True

/-- Nothing is known of numbers outside of the range. -/
def Outside (state : WatchedArrivals) : Prop :=
  ∀ number, ¬(state.map.beginSequenceNumber ≤ number ∧ number < state.map.endSequenceNumber) →
    state.latest number = none

/-- The map is new, or it holds the last arrival times. -/
structure InStep (state : WatchedArrivals) : Prop where
  holds : state.map = {} ∨ state.map.Represents state.latest
  received : state.map.Received state.latest
  outside : state.Outside
  noFault : state.fault = none

theorem inStep_start : InStep {} where
  holds := .inl rfl
  received := ⟨fun _ _ isNone => absurd isNone (by simp), nofun⟩
  outside _ _ := rfl
  noFault := rfl

theorem removeOldPackets_new (seqNum : Int) (limit : Timestamp) :
    removeOldPackets {} seqNum limit = .ok {} := by
  have nothing : (min seqNum 0 - 0).toNat = 0 := by omega
  unfold removeOldPackets
  dsimp only
  rw [nothing]
  rfl

theorem eraseTo_new (seqNum : Int) : eraseTo {} seqNum = .ok {} := by
  unfold eraseTo
  by_cases negative : seqNum < 0
  · rw [if_pos negative]
  · rw [if_neg negative, if_pos (not_lt.mp negative)]

section

variable {state : WatchedArrivals} {call : ArrivalCall} {map : PacketArrivalTimeMap}

theorem next_of_ok (returned : call.apply state.map = .ok map) :
    watchArrivals.next state call =
      { state with map := map, latest := latestAfter call map state.latest } := by
  simp only [watchArrivals, returned]

theorem latestAfter_outside (latest : Int → Option Timestamp) {number : Int}
    (isOutside : ¬(map.beginSequenceNumber ≤ number ∧ number < map.endSequenceNumber)) :
    latestAfter call map latest number = none :=
  if_neg isOutside

theorem latestAfter_times {latest : Int → Option Timestamp}
    (times : ∀ number, ∀ time ∈ latest number, UnitBase.zero.le time = true)
    (reported : ∀ number, ∀ time ∈ call.reported number, UnitBase.zero.le time = true) :
    ∀ number, ∀ time ∈ latestAfter call map latest number, UnitBase.zero.le time = true := by
  intro number time isLatest
  unfold latestAfter at isLatest
  split_ifs at isLatest with inside
  · rcases Option.or_eq_some_iff.mp isLatest with isReported | ⟨_, isOld⟩
    · exact reported number time isReported
    · exact times number time isOld
  · cases isLatest

variable (inStep : state.InStep)
include inStep

/-- What is left to show for a call: the range holds the new times, and its last packet is
received. -/
theorem InStep.of_ok (timed : call.Timed) (returned : call.apply state.map = .ok map)
    (holds : map = {} ∨ map.Represents (latestAfter call map state.latest))
    (last : map.beginSequenceNumber < map.endSequenceNumber →
      (latestAfter call map state.latest (map.endSequenceNumber - 1)).isSome) :
    (watchArrivals.next state call).InStep := by
  rw [next_of_ok returned]
  exact ⟨holds, ⟨latestAfter_times inStep.received.times timed.reported, last⟩,
    fun number => latestAfter_outside state.latest, inStep.noFault⟩

/-- A call that only takes numbers from the beginning of the range. -/
theorem InStep.of_removal (silent : ∀ number, call.reported number = none) (timed : call.Timed)
    (returned : call.apply state.map = .ok map) (represents : map.Represents state.latest)
    (sameEnd : map.endSequenceNumber = state.map.endSequenceNumber)
    (later : state.map.beginSequenceNumber ≤ map.beginSequenceNumber) :
    (watchArrivals.next state call).InStep := by
  have kept : ∀ number, map.beginSequenceNumber ≤ number → number < map.endSequenceNumber →
      latestAfter call map state.latest number = state.latest number := by
    intro number atLeast below
    rw [latestAfter, if_pos ⟨atLeast, below⟩, silent number, Option.none_or]
  refine inStep.of_ok timed returned
    (.inr (represents.congr fun number atLeast below => (kept number atLeast below).symm)) ?_
  intro nonempty
  rw [kept _ (by omega) (by omega), sameEnd]
  exact inStep.received.last (by omega)

theorem InStep.addPacket {seqNum : Int} {time : Timestamp}
    (isTime : UnitBase.zero.le time = true)
    (regular : state.Regular (.addPacket seqNum time)) :
    (watchArrivals.next state (.addPacket seqNum time)).InStep := by
  have isReported : (ArrivalCall.addPacket seqNum time).reported seqNum =
      some time := if_pos rfl
  rcases inStep.holds with isNew | represents
  · have enters : ∀ map : PacketArrivalTimeMap, map.beginSequenceNumber = seqNum →
        map.endSequenceNumber = seqNum + 1 →
        latestAfter (.addPacket seqNum time) map state.latest seqNum =
          some time := by
      intro map isBegin isEnd
      rw [latestAfter, if_pos (by omega), isReported, Option.some_or]
    obtain ⟨map, returned, represents, isBegin, isEnd⟩ :=
      @addPacket_first time seqNum isTime (fun _ => some time) rfl
    rw [← isNew] at returned
    refine inStep.of_ok isTime returned (.inr (represents.congr ?_)) ?_
    · intro number atLeast below
      obtain rfl : number = seqNum := by omega
      exact (enters map isBegin isEnd).symm
    · intro _
      rw [isEnd, add_sub_cancel_right, enters map isBegin isEnd]
      rfl
  · obtain ⟨map, returned, isRepresented, outcome⟩ := represents.addPacket seqNum isTime
    have agree : ∀ number, map.beginSequenceNumber ≤ number → number < map.endSequenceNumber →
        state.map.added state.latest seqNum time number =
          latestAfter (.addPacket seqNum time) map state.latest number := by
      intro number atLeast below
      rw [latestAfter, if_pos ⟨atLeast, below⟩, added]
      by_cases same : number = seqNum
      · rw [if_pos same, same, isReported, Option.some_or]
      have silent : (ArrivalCall.addPacket seqNum time).reported number = none :=
        if_neg same
      rw [if_neg same, silent, Option.none_or]
      split_ifs with inside
      · rfl
      · exact (inStep.outside number inside).symm
    refine inStep.of_ok isTime returned (.inr (isRepresented.congr agree)) ?_
    intro nonempty
    rw [← agree _ (by omega) (by omega)]
    exact (inStep.received.added represents isTime isRepresented outcome
      (regular.2.2 represents.hasSeenPacket)).last nonempty

/-- A map that has not seen a packet stays so unless one is added. -/
theorem InStep.of_new (timed : call.Timed) (returned : call.apply state.map = .ok {}) :
    (watchArrivals.next state call).InStep :=
  inStep.of_ok timed returned (.inl rfl) nofun

theorem InStep.next (admissible : watchArrivals.pre state call) (regular : state.Regular call) :
    (watchArrivals.next state call).InStep := by
  cases call with
  | addPacket seqNum time =>
    exact inStep.addPacket admissible regular
  | removeOldPackets seqNum limit =>
    rcases inStep.holds with isNew | represents
    · refine inStep.of_new admissible ?_
      rw [isNew]
      exact removeOldPackets_new seqNum limit
    · obtain ⟨map, returned, isRepresented, sameEnd, later, _⟩ :=
        represents.removeOldPackets seqNum limit
      exact inStep.of_removal (fun _ => rfl) admissible returned isRepresented sameEnd later
  | eraseTo seqNum =>
    rcases inStep.holds with isNew | represents
    · refine inStep.of_new admissible ?_
      rw [isNew]
      exact eraseTo_new seqNum
    · obtain ⟨map, returned, isRepresented, sameEnd, later⟩ := represents.eraseTo seqNum
      exact inStep.of_removal (fun _ => rfl) admissible returned isRepresented sameEnd later

end

theorem inStep_of_run {calls : List ArrivalCall} {last : WatchedArrivals}
    (run : (watchArrivals.restrict Regular).Run {} calls last) : last.InStep :=
  run.invariant (fun _ state => state.InStep) inStep_start
    fun _ _ _ _ holds admissible => holds.next admissible.1 admissible.2

instance decidableRegularArrival (state : WatchedArrivals) : ∀ call, Decidable (state.Regular call)
  | .addPacket _ _ => inferInstanceAs (Decidable (_ ∧ _ ∧ _))
  | .removeOldPackets _ _ => isTrue trivial
  | .eraseTo _ => isTrue trivial

end WatchedArrivals

/--
In every run with regular packets no assertion fails and nothing is read that was not
written.  The range is not larger than its limit, each number of it has its last arrival
time or none, and the last one is received; a search from a number of the range ends in the
range, at the first received number.
-/
theorem arrivals_of_run (calls : List ArrivalCall) (last : WatchedArrivals)
    (run : (watchArrivals.restrict WatchedArrivals.Regular).Run {} calls last) :
    last.fault = none ∧
    last.map.beginSequenceNumber ≤ last.map.endSequenceNumber ∧
    last.map.endSequenceNumber - last.map.beginSequenceNumber ≤ 2 ^ 15 ∧
    (last.map.beginSequenceNumber < last.map.endSequenceNumber →
      last.map.hasReceived (last.map.endSequenceNumber - 1) = .ok true) ∧
    (∀ number, last.map.hasReceived number = .ok (last.latest number).isSome) ∧
    ∀ number, last.map.beginSequenceNumber ≤ number → number < last.map.endSequenceNumber →
      last.map.get number = .ok ((last.latest number).getD .minusInfinity) ∧
      Ensures (last.map.findNextAtOrAfter number) fun found =>
        number ≤ found.sequenceNumber ∧ found.sequenceNumber < last.map.endSequenceNumber ∧
        last.latest found.sequenceNumber = some found.arrivalTime ∧
        ∀ other, number ≤ other → other < found.sequenceNumber → last.latest other = none := by
  obtain ⟨holds, received, outside, noFault⟩ := WatchedArrivals.inStep_of_run run
  have known : ∀ number, last.map.hasReceived number = .ok (last.latest number).isSome := by
    intro number
    rcases holds with isNew | represents
    · have isOutside : ¬(last.map.beginSequenceNumber ≤ number ∧
          number < last.map.endSequenceNumber) := by
        rw [isNew]
        dsimp only
        omega
      rw [hasReceived, if_neg isOutside, outside number isOutside]
      rfl
    · rw [represents.hasReceived received]
      by_cases inside : last.map.beginSequenceNumber ≤ number ∧
          number < last.map.endSequenceNumber
      · rw [decide_eq_true inside, Bool.true_and]
      · rw [outside number inside, Option.isSome_none, Bool.and_false]
  refine ⟨noFault, ?_, ?_, ?_, known, ?_⟩
  · rcases holds with isNew | represents
    · rw [isNew]
    · exact represents.ordered
  · rcases holds with isNew | represents
    · rw [isNew]
      decide
    · exact represents.limited
  · intro nonempty
    rw [known, received.last nonempty]
  · intro number atLeast below
    rcases holds with isNew | represents
    · rw [isNew] at atLeast below
      dsimp only at atLeast below
      omega
    · refine ⟨represents.get atLeast below, ?_⟩
      refine (represents.findNextAtOrAfter received atLeast below).weaken ?_
      exact fun found finds => ⟨finds.atLeast, finds.below, finds.isTime, finds.isFirst⟩

instance decidableArrivalStep (state : WatchedArrivals) (call : ArrivalCall) :
    Decidable ((watchArrivals.restrict WatchedArrivals.Regular).pre state call) :=
  inferInstanceAs (Decidable (call.Timed ∧ state.Regular call))

/-- Packets before and after the range, removals from it, and one more packet after it was
emptied. -/
def reorderedArrivals : List ArrivalCall :=
  [.eraseTo 3, .addPacket 10 (.finite 1000), .addPacket 12 (.finite 3000),
    .addPacket (-4) (.finite 3500), .removeOldPackets 11 (.finite 2000), .eraseTo 20,
    .addPacket 12 (.finite 4000)]

theorem arrivals_reordered :
    ∃ last, (watchArrivals.restrict WatchedArrivals.Regular).Run {} reorderedArrivals last ∧
      last.map.hasReceived (last.map.endSequenceNumber - 1) = .ok true := by
  have admitted : (watchArrivals.restrict WatchedArrivals.Regular).Admits {} reorderedArrivals := by
    decide +kernel
  obtain ⟨_, _, _, last, _, _⟩ := arrivals_of_run _ _ admitted.run
  exact ⟨_, admitted.run, last (by decide +kernel)⟩

/-- All packets are removed, then an older one arrives. -/
def olderAfterErasing : List ArrivalCall :=
  [.addPacket 10 (.finite 1000), .eraseTo 11, .addPacket 5 (.finite 2000)]

/--
The range then ends after a packet that is not received, and the search for the next packet
runs out of the range.
-/
theorem lastPacket_missing :
    watchArrivals.Run {} olderAfterErasing (watchArrivals.outcome {} olderAfterErasing) ∧
    (watchArrivals.outcome {} olderAfterErasing).map.beginSequenceNumber = 5 ∧
    (watchArrivals.outcome {} olderAfterErasing).map.endSequenceNumber = 11 ∧
    (watchArrivals.outcome {} olderAfterErasing).map.hasReceived 10 = .ok false ∧
    (watchArrivals.outcome {} olderAfterErasing).map.findNextAtOrAfter 6 = .error .leftRange := by
  have timed : ∀ call ∈ olderAfterErasing, call.Timed := by decide
  have admitted : watchArrivals.Admits {} olderAfterErasing :=
    Machine.admits_of_forall (fun call member _ => timed call member) _
  refine ⟨admitted.run, ?_⟩
  decide +kernel

end MaeRtc.RemoteBitrate
