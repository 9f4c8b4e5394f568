import MaeRtc.Rtp.H264Packetizer

/-!
# Plans of packets

The units that the packetizer queues are those of a list of plans: a NAL unit alone in a
packet, several in one packet, or one in several packets.  A plan knows the packets that
taking its units gives, and taking the units of sound plans fails no check.
-/

namespace MaeRtc.Rtp.RtpPacketizerH264

open Base

/-! ## Sizes -/

/-- What the sender makes sure of: headers are at least those of a packet in the middle,
and none takes the room of a whole packet.  The limits are `int`s, and the sizes are those
of objects in memory. -/
structure Promised (limits : PayloadSizeLimits) (size : Nat) : Prop where
  first : 0 ≤ limits.firstPacketReductionLen ∧
    limits.firstPacketReductionLen < limits.maxPayloadLen
  last : 0 ≤ limits.lastPacketReductionLen ∧
    limits.lastPacketReductionLen < limits.maxPayloadLen
  single : 0 ≤ limits.singlePacketReductionLen ∧
    limits.singlePacketReductionLen < limits.maxPayloadLen
  isInt : limits.maxPayloadLen < 2 ^ 31
  isSize : size < 2 ^ 63

/-- Limits that dividing a payload is made for: no packet has more room than one in the
middle.  Headers may take the room of a whole packet. -/
structure Supported (limits : PayloadSizeLimits) (size : Nat) : Prop where
  positive : 0 < limits.maxPayloadLen
  first : 0 ≤ limits.firstPacketReductionLen ∧ limits.firstPacketReductionLen < 2 ^ 31
  last : 0 ≤ limits.lastPacketReductionLen ∧ limits.lastPacketReductionLen < 2 ^ 31
  single : 0 ≤ limits.singlePacketReductionLen ∧ limits.singlePacketReductionLen < 2 ^ 31
  isInt : limits.maxPayloadLen < 2 ^ 31
  isSize : size < 2 ^ 63

theorem Promised.supported {limits : PayloadSizeLimits} {size : Nat}
    (promised : Promised limits size) : Supported limits size := by
  obtain ⟨first, last, single, isInt, isSize⟩ := promised
  constructor <;> omega

/-- How much less fits into a packet. -/
def reduction (limits : PayloadSizeLimits) (hasFirst hasLast : Bool) : Int :=
  if hasFirst && hasLast then limits.singlePacketReductionLen
  else if hasFirst then limits.firstPacketReductionLen
  else if hasLast then limits.lastPacketReductionLen
  else 0

section

variable {limits : PayloadSizeLimits} {size : Nat} (supported : Supported limits size)

include supported

theorem Supported.reduction_bounds (hasFirst hasLast : Bool) :
    0 ≤ reduction limits hasFirst hasLast ∧ reduction limits hasFirst hasLast < 2 ^ 31 := by
  obtain ⟨_, first, last, single, _, _⟩ := supported
  cases hasFirst <;> cases hasLast <;>
    simp only [reduction, Bool.and_self, Bool.false_eq_true, if_true, if_false] <;> omega

theorem Supported.payloadSizeNeeded_eq (hasFirst hasLast : Bool) {needed : Nat}
    (small : needed < 2 ^ 63 + 5) :
    (payloadSizeNeeded limits hasFirst hasLast needed : Int) =
      needed + reduction limits hasFirst hasLast := by
  obtain ⟨_, first, last, single, _, _⟩ := supported
  cases hasFirst <;> cases hasLast <;>
    simp only [payloadSizeNeeded, reduction, Bool.and_self, Bool.false_eq_true, if_false, add_zero]
  all_goals exact Words.uint64_of_nonneg (by omega) (by omega)

theorem Supported.uint64_max : (uint64 limits.maxPayloadLen : Int) = limits.maxPayloadLen := by
  obtain ⟨positive, _, _, _, isInt, _⟩ := supported
  exact Words.uint64_of_nonneg (by omega) (by omega)

end

theorem reductionAt_eq (limits : PayloadSizeLimits) {count i : Nat} (within : i < count) :
    reductionAt limits count i = reduction limits (i = 0) (i + 1 = count) := by
  unfold reductionAt reduction
  by_cases isFirst : i = 0 <;> by_cases isLast : i + 1 = count
  · simp [isFirst, show count = 1 by omega]
  · simp [isFirst, show ¬ count = 1 by omega, show ¬ 1 = count by omega]
  · simp [isFirst, show ¬ count = 1 by omega]
  · simp [isFirst, show ¬ count = 1 by omega]

/-! ## Plans -/

/-- The header byte of a NAL unit. -/
def headerOf (nalu : List Octet) : Octet :=
  nalu.headD 0

inductive Plan where
  | single (nalu : List Octet) (aggregated : Bool)
  | stapA (nalus : List (List Octet))
  | fuA (header : Octet) (pieces : List (List Octet))
  deriving DecidableEq

def stapUnits : Bool → List (List Octet) → List PacketUnit
  | _, [] => []
  | first, nalu :: rest =>
    ⟨nalu, first, rest.isEmpty, true, headerOf nalu⟩ :: stapUnits false rest

def fuUnits (header : Octet) : Bool → List (List Octet) → List PacketUnit
  | _, [] => []
  | first, piece :: rest => ⟨piece, first, rest.isEmpty, false, header⟩ :: fuUnits header false rest

/-- The segment of a NAL unit in an aggregate. -/
def segment (nalu : List Octet) : List Octet :=
  writeBigEndian 2 nalu.length ++ nalu

namespace Plan

def units : Plan → List PacketUnit
  | .single nalu aggregated => [⟨nalu, true, true, aggregated, headerOf nalu⟩]
  | .stapA nalus => stapUnits true nalus
  | .fuA header pieces => fuUnits header true pieces

/-- The NAL units that the plan sends. -/
def nalus : Plan → List (List Octet)
  | .single nalu _ => [nalu]
  | .stapA nalus => nalus
  | .fuA header pieces => [header :: pieces.flatten]

/-- The payloads of its packets. -/
def payloads : Plan → List (List Octet)
  | .single nalu _ => [nalu]
  | .stapA nalus => [withType (headerOf (nalus.headD [])) H264.kStapA :: nalus.flatMap segment]
  | .fuA header pieces => (fuUnits header true pieces).map fragmentPayload

/-- What a plan must be like for its units to be taken, if packets have room for
`maxPayloadLen` bytes. -/
inductive Sound (maxPayloadLen : Int) : Plan → Prop
  | single {nalu : List Octet} {aggregated : Bool} (notEmpty : nalu ≠ []) :
      Sound maxPayloadLen (.single nalu aggregated)
  | stapA {nalus : List (List Octet)} (several : 2 ≤ nalus.length)
      (notEmpty : ∀ nalu ∈ nalus, nalu ≠ [])
      (fits : 1 + ((nalus.flatMap segment).length : Int) ≤ maxPayloadLen) :
      Sound maxPayloadLen (.stapA nalus)
  | fuA {header : Octet} {pieces : List (List Octet)} (several : 2 ≤ pieces.length)
      (notEmpty : ∀ piece ∈ pieces, piece ≠ []) : Sound maxPayloadLen (.fuA header pieces)

variable {maxPayloadLen : Int} {plan : Plan} (sound : plan.Sound maxPayloadLen)
include sound

theorem Sound.nalus_ne_nil : plan.nalus ≠ [] := by
  cases sound with
  | single notEmpty => exact List.cons_ne_nil _ _
  | stapA several notEmpty fits =>
    rintro rfl
    simp at several
  | fuA several notEmpty => exact List.cons_ne_nil _ _

theorem Sound.payloads_ne_nil : plan.payloads ≠ [] := by
  cases sound with
  | single notEmpty => exact List.cons_ne_nil _ _
  | stapA several notEmpty fits => exact List.cons_ne_nil _ _
  | @fuA header pieces several notEmpty =>
    obtain ⟨piece, rest, rfl⟩ := List.exists_cons_of_ne_nil
      (List.ne_nil_of_length_pos (by omega : 0 < pieces.length))
    exact List.cons_ne_nil _ _

end Plan

/-! ## Taking the packets of plans -/

/-- The last packet has the marker. -/
def marked : List (List Octet) → List (List Octet × Bool)
  | [] => []
  | payload :: rest => (payload, rest.isEmpty) :: marked rest

theorem length_segment (nalu : List Octet) : (segment nalu).length = nalu.length + 2 := by
  simp [segment, Nat.add_comm]

/-- The loop over the units of an aggregate writes their segments. -/
theorem aggregate_stapUnits {payloadCapacity : Nat} (nalus : List (List Octet)) (first : Bool)
    (later : List PacketUnit) (index : Nat) (some : nalus ≠ [])
    (fits : index + (nalus.flatMap segment).length ≤ payloadCapacity) :
    aggregate payloadCapacity (stapUnits first nalus ++ later) index =
      .ok (nalus.flatMap segment, later) := by
  induction nalus generalizing first index with
  | nil => exact absurd rfl some
  | cons nalu rest ih =>
    rw [List.flatMap_cons, List.length_append, length_segment] at fits
    have room : index + kLengthFieldSize + nalu.length ≤ payloadCapacity := by
      unfold kLengthFieldSize
      omega
    rw [stapUnits, List.cons_append, aggregate, if_pos rfl]
    dsimp only
    rw [check, if_pos (decide_eq_true room)]
    cases rest with
    | nil =>
      simp only [List.flatMap_cons, List.flatMap_nil, List.append_nil]
      rfl
    | cons next others =>
      have recursive := ih false (index + kLengthFieldSize + nalu.length)
        (List.cons_ne_nil _ _) (by unfold kLengthFieldSize; omega)
      rw [recursive]
      rfl

/-- Taking all units gives these payloads, whatever else the packetizer counts. -/
structure Drains (freeCapacity : Nat → Nat) (units : List PacketUnit)
    (payloads : List (List Octet)) : Prop where
  same : units.isEmpty = payloads.isEmpty
  run : ∀ fuel n left input, units.length < fuel →
    drain freeCapacity fuel n ⟨left, input, units⟩ = .ok (marked payloads)

variable {freeCapacity : Nat → Nat}

theorem drains_nil : Drains freeCapacity [] [] := by
  refine ⟨rfl, fun fuel n left input enough => ?_⟩
  cases fuel with
  | zero => exact absurd enough (Nat.not_lt_zero _)
  | succ fuel => rfl

variable {payloads : List (List Octet)} {later : List PacketUnit}

theorem Drains.cons {units : List PacketUnit} {payload : List Octet}
    (drains : Drains freeCapacity later payloads) (shorter : later.length < units.length)
    (taken : ∀ n left input, ∃ left' input', nextPacket (freeCapacity n) ⟨left, input, units⟩ =
        .ok (some (payload, later.isEmpty), ⟨left', input', later⟩)) :
    Drains freeCapacity units (payload :: payloads) := by
  refine ⟨?_, fun fuel n left input enough => ?_⟩
  · cases units with
    | nil => exact absurd shorter (Nat.not_lt_zero _)
    | cons _ _ => rfl
  obtain ⟨left', input', isTaken⟩ := taken n left input
  cases fuel with
  | zero => exact absurd enough (Nat.not_lt_zero _)
  | succ fuel =>
    rw [drain, isTaken]
    change (drain freeCapacity fuel (n + 1) ⟨left', input', later⟩ >>= _) = _
    rw [drains.run fuel (n + 1) left' input' (by omega), drains.same]
    rfl

theorem Drains.fuUnits (header : Octet) {pieces : List (List Octet)} {first : Bool}
    (several : first = true → pieces.length ≠ 1) (drains : Drains freeCapacity later payloads) :
    Drains freeCapacity (fuUnits header first pieces ++ later)
      ((fuUnits header first pieces).map fragmentPayload ++ payloads) := by
  induction pieces generalizing first with
  | nil => exact drains
  | cons piece rest ih =>
    have recursive := @ih false (by simp)
    refine recursive.cons (by simp [RtpPacketizerH264.fuUnits]) fun n left input =>
      ⟨left - 1, if rest.isEmpty then input.tail else input, ?_⟩
    have notWhole : (first && rest.isEmpty) = false := by
      cases first with
      | false => rfl
      | true =>
        have more : (piece :: rest).length ≠ 1 := several rfl
        cases rest with
        | nil => exact absurd rfl more
        | cons _ _ => rfl
    simp only [RtpPacketizerH264.fuUnits, List.cons_append, nextPacket, notWhole,
      Bool.false_eq_true, if_false]

theorem Plan.Sound.drains {maxPayloadLen : Int} {plan : Plan} (sound : plan.Sound maxPayloadLen)
    (room : ∀ n, maxPayloadLen ≤ freeCapacity n) (drains : Drains freeCapacity later payloads) :
    Drains freeCapacity (plan.units ++ later) (plan.payloads ++ payloads) := by
  cases sound with
  | single notEmpty =>
    exact drains.cons (by simp [units]) fun n left input => ⟨left - 1, input.tail, rfl⟩
  | @stapA nalus several notEmpty fits =>
    obtain ⟨one, two, rest, rfl⟩ : ∃ one two rest, nalus = one :: two :: rest := by
      match nalus, several with
      | one :: two :: rest, _ => exact ⟨one, two, rest, rfl⟩
    refine drains.cons (by simp [units, stapUnits]; omega) fun n left input =>
      ⟨left - 1, input.drop ((units (.stapA (one :: two :: rest)) ++ later).length -
        later.length), ?_⟩
    have capacity := room n
    have written : aggregate (freeCapacity n) (stapUnits true (one :: two :: rest) ++ later)
        kNalHeaderSize = .ok ((one :: two :: rest).flatMap segment, later) :=
      aggregate_stapUnits _ _ _ _ (List.cons_ne_nil _ _) (by unfold kNalHeaderSize; omega)
    have header : kNalHeaderSize ≤ freeCapacity n := by
      unfold kNalHeaderSize
      omega
    rw [stapUnits, List.cons_append] at written
    have next : nextAggregatePacket (freeCapacity n)
        ⟨one, true, (two :: rest).isEmpty, true, headerOf one⟩
        (stapUnits false (two :: rest) ++ later) =
        .ok (withType (headerOf one) H264.kStapA :: (one :: two :: rest).flatMap segment,
          later) := by
      rw [nextAggregatePacket, check, if_pos (decide_eq_true header), written]
      rfl
    simp only [units, stapUnits, List.cons_append, nextPacket] at next ⊢
    rw [next]
    rfl
  | fuA several notEmpty => exact drains.fuUnits _ fun _ => by omega

theorem drains_of_sound {maxPayloadLen : Int} (room : ∀ n, maxPayloadLen ≤ freeCapacity n)
    {plans : List Plan} (sound : ∀ plan ∈ plans, plan.Sound maxPayloadLen) :
    Drains freeCapacity (plans.flatMap Plan.units) (plans.flatMap Plan.payloads) := by
  induction plans with
  | nil => exact drains_nil
  | cons plan rest ih =>
    obtain ⟨planSound, restSound⟩ := List.forall_mem_cons.mp sound
    exact planSound.drains room (ih restSound)

end MaeRtc.Rtp.RtpPacketizerH264
