import MaeRtc.Rtp.PacketPlans

/-!
# What the packetizer generates

If no fragment is empty, and none that may have to be divided is too large for an `int`, the
loop over the fragments fails no check.  It gives up, or it has a plan for every fragment,
and the packets of the plans respect the limits.  Only a single byte that no packet has room
for may make it divide by zero.
-/

namespace MaeRtc.Rtp.RtpPacketizerH264

open Base

variable {limits : PayloadSizeLimits} {size : Nat}

/-! ## Limits of the packets of a plan -/

/-- The packets of a plan respect the limits, if the plan sends the first, or the last,
fragments of the frame. -/
def Plan.Within (limits : PayloadSizeLimits) (hasFirst hasLast : Bool) : Plan → Prop
  | .single nalu _ => nalu.length ≤ limits.maxPayloadLen - reduction limits hasFirst hasLast
  | .stapA nalus => 1 + ((nalus.flatMap segment).length : Int) ≤
      limits.maxPayloadLen - reduction limits hasFirst hasLast
  | .fuA _ pieces => (∀ piece ∈ pieces, (piece.length + 2 : Int) ≤ limits.maxPayloadLen) ∧
      (∀ piece ∈ pieces.head?, (piece.length + 2 : Int) ≤
        limits.maxPayloadLen - if hasFirst then limits.firstPacketReductionLen else 0) ∧
      ∀ piece ∈ pieces.getLast?, (piece.length + 2 : Int) ≤
        limits.maxPayloadLen - if hasLast then limits.lastPacketReductionLen else 0

/-- All plans do, from some fragment on. -/
def AllWithin (limits : PayloadSizeLimits) : Bool → List Plan → Prop
  | _, [] => True
  | hasFirst, plan :: rest => plan.Within limits hasFirst rest.isEmpty ∧ AllWithin limits false rest

/-! ## Aggregates -/

/-- The later fragments of an aggregate: the loop takes as many as fit. -/
theorem stapAUnits_later (supported : Supported limits size) (hasFirst : Bool)
    (fragments : List (List Octet))
    (sizes : ∀ fragment ∈ fragments, fragment ≠ [] ∧ fragment.length ≤ size)
    {left aggregated headers : Nat} (isLeft : (left : Int) ≤ limits.maxPayloadLen)
    (isLater : aggregated ≠ 0) (atLeast : 2 ≤ headers) (atMost : headers ≤ 5) :
    ∃ taken rest, fragments = taken ++ rest ∧
      stapAUnits limits hasFirst fragments left aggregated headers =
        .ok (taken.map fun nalu => ⟨nalu, false, false, true, headerOf nalu⟩) ∧
      (taken ≠ [] → (taken.flatMap segment).length + headers - 2 +
        reduction limits hasFirst rest.isEmpty ≤ left) := by
  induction fragments generalizing left aggregated headers with
  | nil => exact ⟨[], [], rfl, rfl, fun some => absurd rfl some⟩
  | cons fragment rest ih =>
    obtain ⟨⟨notEmpty, small⟩, restSizes⟩ := List.forall_mem_cons.mp sizes
    have bounds := supported.reduction_bounds hasFirst rest.isEmpty
    have isInt := supported.isInt
    have isSize := supported.isSize
    have needed := supported.payloadSizeNeeded_eq hasFirst rest.isEmpty
      (by omega : fragment.length + headers < 2 ^ 63 + 5)
    obtain ⟨header, body, rfl⟩ := List.exists_cons_of_ne_nil notEmpty
    by_cases fits : payloadSizeNeeded limits hasFirst rest.isEmpty
        ((header :: body).length + headers) ≤ left
    · have remaining : (uint64 (left - (header :: body).length - headers) : Int) =
          left - (header :: body).length - headers := by
        exact Words.uint64_of_nonneg (by omega) (by omega)
      have step : stapAUnits limits hasFirst ((header :: body) :: rest) left aggregated
          headers = (do
            let units ← stapAUnits limits hasFirst rest
              (uint64 (left - (header :: body).length - headers)) (aggregated + 1) 2
            .ok (⟨header :: body, false, false, true, header⟩ :: units)) := by
        rw [stapAUnits, if_pos fits]
        simp only [isLater, if_false, kLengthFieldSize, decide_false]
      obtain ⟨taken, others, split, returned, room⟩ := ih restSizes
        (by omega : (uint64 (left - (header :: body).length - headers) : Int) ≤ _)
        (Nat.succ_ne_zero aggregated) le_rfl (by omega)
      refine ⟨(header :: body) :: taken, others, by rw [split]; rfl, ?_, fun _ => ?_⟩
      · rw [step, returned]
        rfl
      · rw [List.flatMap_cons, List.length_append, length_segment]
        by_cases more : taken = []
        · subst more
          rw [List.nil_append] at split
          rw [← split]
          simp only [List.flatMap_nil, List.length_nil]
          omega
        · have others' := room more
          omega
    · refine ⟨[], (header :: body) :: rest, rfl, ?_, fun some => absurd rfl some⟩
      rw [stapAUnits, if_neg fits]
      rfl

theorem markLast_cons_cons (first second : PacketUnit) (rest : List PacketUnit) :
    markLast (first :: second :: rest) = first :: markLast (second :: rest) := by
  rfl

/-- The units of several fragments, the last of them marked. -/
theorem markLast_later (nalus : List (List Octet)) (some : nalus ≠ []) :
    markLast (nalus.map fun nalu => ⟨nalu, false, false, true, headerOf nalu⟩) =
      stapUnits false nalus := by
  induction nalus with
  | nil => exact absurd rfl some
  | cons nalu rest ih =>
    cases rest with
    | nil => rfl
    | cons next others =>
      rw [stapUnits, ← ih (List.cons_ne_nil _ _), List.map_cons, List.map_cons, markLast_cons_cons]
      rfl

theorem length_stapUnits (first : Bool) (nalus : List (List Octet)) :
    (stapUnits first nalus).length = nalus.length := by
  induction nalus generalizing first with
  | nil => rfl
  | cons nalu rest ih => rw [stapUnits, List.length_cons, List.length_cons, ih]

variable {rest : List (List Octet)}

/-- The units of one packet, the first of which fits alone. -/
theorem packetizeStapA_plan (supported : Supported limits size) {i : Nat} {fragment : List Octet}
    (sizes : ∀ other ∈ fragment :: rest, other ≠ [] ∧ other.length ≤ size)
    (fits : fragment.length + reduction limits (i = 0) rest.isEmpty ≤ limits.maxPayloadLen) :
    ∃ (plan : Plan) (others : List (List Octet)), fragment :: rest = plan.nalus ++ others ∧
      packetizeStapA limits i (fragment :: rest) = .ok plan.units ∧
      plan.units.length = plan.nalus.length ∧ plan.Sound limits.maxPayloadLen ∧
      plan.Within limits (i = 0) others.isEmpty := by
  obtain ⟨⟨notEmpty, small⟩, restSizes⟩ := List.forall_mem_cons.mp sizes
  have bounds := supported.reduction_bounds (i = 0) rest.isEmpty
  have isMax := supported.uint64_max
  have isInt := supported.isInt
  have needed := supported.payloadSizeNeeded_eq (i = 0) rest.isEmpty
    (by omega : fragment.length + 0 < 2 ^ 63 + 5)
  obtain ⟨header, body, rfl⟩ := List.exists_cons_of_ne_nil notEmpty
  have remaining : (uint64 (uint64 limits.maxPayloadLen - (header :: body).length - (0 : Nat)) :
      Int) = limits.maxPayloadLen - (header :: body).length := by
    rw [Words.uint64_of_nonneg (by omega) (by omega)]
    omega
  have step : packetizeStapA limits i ((header :: body) :: rest) = (do
      let units ← stapAUnits limits (i = 0) rest
        (uint64 (uint64 limits.maxPayloadLen - (header :: body).length - (0 : Nat))) 1 5
      .ok (markLast (⟨header :: body, true, false, true, header⟩ :: units))) := by
    have enough : payloadSizeNeeded limits (i = 0) rest.isEmpty ((header :: body).length + 0) ≤
        uint64 limits.maxPayloadLen := by omega
    have first : (((header :: body) :: rest).headD []).length ≤ uint64 limits.maxPayloadLen := by
      rw [List.headD_cons]
      omega
    have headers : (if 0 = 0 then kLengthFieldSize + (kNalHeaderSize + kLengthFieldSize)
      else kLengthFieldSize) = 5 := rfl
    rw [packetizeStapA, check, if_pos (decide_eq_true first), stapAUnits, if_pos enough, headers]
    cases stapAUnits limits (i = 0) rest
      (uint64 (uint64 limits.maxPayloadLen - (header :: body).length - (0 : Nat))) 1 5 with
    | error fault => rfl
    | ok units => rfl
  obtain ⟨taken, others, split, returned, room⟩ := stapAUnits_later supported (i = 0) rest restSizes
    (by omega : (uint64 (uint64 limits.maxPayloadLen - (header :: body).length - (0 : Nat)) : Int) ≤
      limits.maxPayloadLen) one_ne_zero (by omega : 2 ≤ 5) le_rfl
  by_cases alone : taken = []
  · subst alone
    refine ⟨.single (header :: body) true, rest, rfl, ?_, rfl, .single notEmpty, ?_⟩
    · rw [step, returned]
      rfl
    · exact le_sub_iff_add_le.mpr fits
  · have used := room alone
    have others' := supported.reduction_bounds (i = 0) others.isEmpty
    have within : 1 + ((((header :: body) :: taken).flatMap segment).length : Int) ≤
        limits.maxPayloadLen - reduction limits (i = 0) others.isEmpty := by
      rw [List.flatMap_cons, List.length_append, length_segment]
      omega
    obtain ⟨second, later, rfl⟩ := List.exists_cons_of_ne_nil alone
    refine ⟨.stapA ((header :: body) :: second :: later), others, ?_, ?_, ?_, .stapA ?_ ?_ ?_,
      within⟩
    · rw [split]
      rfl
    · rw [step, returned]
      change Except.ok (markLast (_ :: List.map _ (second :: later))) = Except.ok (stapUnits _ _)
      rw [stapUnits, ← markLast_later (second :: later) alone, List.map_cons, markLast_cons_cons]
      rfl
    · exact length_stapUnits true _
    · simp
    · rw [split] at restSizes
      exact List.forall_mem_cons.mpr ⟨notEmpty, fun nalu member =>
        (restSizes nalu (List.mem_append_left _ member)).1⟩
    · omega

/-! ## Fragments -/

/-- The pieces of these sizes. -/
def piecesOf : List Octet → List Int → List (List Octet)
  | _, [] => []
  | bytes, length :: rest => bytes.take length.toNat :: piecesOf (bytes.drop length.toNat) rest

theorem length_piecesOf (bytes : List Octet) (sizes : List Int) :
    (piecesOf bytes sizes).length = sizes.length := by
  induction sizes generalizing bytes with
  | nil => rfl
  | cons length rest ih => rw [piecesOf, List.length_cons, List.length_cons, ih]

theorem fuAUnits_eq (fragment : List Octet) (header : Octet) (sizes : List Int)
    (positive : ∀ length ∈ sizes, 0 < length) (first : Bool) (offset : Nat) (left : Int) :
    fuAUnits fragment header sizes first offset left =
      .ok (fuUnits header first (piecesOf (fragment.drop offset) sizes), left - sizes.sum) := by
  induction sizes generalizing first offset left with
  | nil => simp [fuAUnits, piecesOf, fuUnits]
  | cons length rest ih =>
    obtain ⟨lengthPositive, restPositive⟩ := List.forall_mem_cons.mp positive
    rw [fuAUnits, check, if_pos (decide_eq_true lengthPositive), ih restPositive]
    have sameEnd : (piecesOf (fragment.drop (offset + length.toNat)) rest).isEmpty =
        rest.isEmpty := by
      cases rest with
      | nil => rfl
      | cons _ _ => rfl
    rw [piecesOf, fuUnits, List.drop_drop, sameEnd, List.sum_cons]
    change Except.ok (_, _) = _
    rw [sub_sub]

/-- The pieces are within the limits of their sizes, and are the whole together. -/
theorem piecesOf_spec (bytes : List Octet) (sizes : List Int)
    (positive : ∀ length ∈ sizes, 0 < length) (whole : sizes.sum = bytes.length) :
    (piecesOf bytes sizes).flatten = bytes ∧
      (piecesOf bytes sizes).map (fun piece => (piece.length : Int)) = sizes := by
  induction sizes generalizing bytes with
  | nil =>
    have empty : bytes = [] := List.eq_nil_of_length_eq_zero (by simp at whole; omega)
    rw [empty]
    exact ⟨rfl, rfl⟩
  | cons length rest ih =>
    obtain ⟨lengthPositive, restPositive⟩ := List.forall_mem_cons.mp positive
    rw [List.sum_cons] at whole
    have restNonneg : 0 ≤ rest.sum := List.sum_nonneg fun part member =>
      (restPositive part member).le
    have within : length.toNat ≤ bytes.length := by omega
    obtain ⟨joined, lengths⟩ := ih (bytes.drop length.toNat) restPositive (by
      rw [List.length_drop]
      omega)
    constructor
    · rw [piecesOf, List.flatten_cons, joined, List.take_append_drop]
    · rw [piecesOf, List.map_cons, lengths, List.length_take, min_eq_left within,
        Int.toNat_of_nonneg lengthPositive.le]

theorem fuALimits_single (limits : PayloadSizeLimits) {count i : Nat} (within : i < count) :
    (fuALimits limits count i).singlePacketReductionLen = reductionAt limits count i := by
  unfold fuALimits reductionAt
  by_cases alone : count = 1
  · simp [alone]
  · by_cases isFirst : i = 0 <;> by_cases isLast : i + 1 = count
    all_goals simp [alone, isFirst]
    all_goals omega

theorem fuALimits_first (limits : PayloadSizeLimits) (count i : Nat) :
    (fuALimits limits count i).firstPacketReductionLen =
      if decide (i = 0) then limits.firstPacketReductionLen else 0 := by
  by_cases isFirst : i = 0 <;> simp [fuALimits]

theorem fuALimits_last {limits : PayloadSizeLimits} {count i : Nat} {fragment : List Octet}
    (isCount : count = i + (fragment :: rest).length) :
    (fuALimits limits count i).lastPacketReductionLen =
      if rest.isEmpty then limits.lastPacketReductionLen else 0 := by
  cases rest with
  | nil => simp [fuALimits, isCount]
  | cons _ _ => simp [fuALimits, isCount]

/-- If there are no bytes, and a single packet has no room, the number of packets may be
zero, by which the source divides. -/
theorem splitAboutEqually_nothing (notSingle : ¬ limits.maxPayloadLen ≥
      limits.singlePacketReductionLen + 0) (positive : 0 < limits.maxPayloadLen)
    (nonneg : 0 ≤ limits.firstPacketReductionLen + limits.lastPacketReductionLen) :
    splitAboutEqually 0 limits = .ok [] ∨ splitAboutEqually 0 limits = .error .divisionByZero := by
  have quotient : 0 ≤ (limits.firstPacketReductionLen + limits.lastPacketReductionLen +
      limits.maxPayloadLen - 1).tdiv limits.maxPayloadLen := Int.tdiv_nonneg (by omega) (by omega)
  unfold splitAboutEqually numPackets
  dsimp only
  rw [if_neg notSingle, zero_add]
  split_ifs <;> simp <;> omega

/-- The bytes of an oversized fragment behind its header are divided into several pieces, or
cannot be divided. -/
theorem split_oversized (supported : Supported limits size) {count i : Nat} (within : i < count)
    {length : Nat} (oversized : limits.maxPayloadLen - reductionAt limits count i < length + 1) :
    splitAboutEqually length (fuALimits limits count i) = .ok [] ∨
    (splitAboutEqually length (fuALimits limits count i) = .error .divisionByZero ∧
      limits.maxPayloadLen ≤ limits.singlePacketReductionLen) ∨
    ∃ parts, splitAboutEqually length (fuALimits limits count i) = .ok parts ∧
      2 ≤ parts.length ∧ parts.sum = length ∧ (fuALimits limits count i).Respects parts := by
  obtain ⟨someRoom, ⟨first, _⟩, ⟨last, _⟩, _⟩ := supported
  have isMax : (fuALimits limits count i).maxPayloadLen = limits.maxPayloadLen - 2 := rfl
  have notSingle : ¬ (fuALimits limits count i).maxPayloadLen ≥
      (fuALimits limits count i).singlePacketReductionLen + length := by
    rw [isMax, fuALimits_single limits within]
    omega
  by_cases room : (fuALimits limits count i).maxPayloadLen -
        (fuALimits limits count i).firstPacketReductionLen < 1 ∨
      (fuALimits limits count i).maxPayloadLen -
        (fuALimits limits count i).lastPacketReductionLen < 1
  · left
    unfold splitAboutEqually
    rw [if_neg notSingle, if_pos room]
  have isFirst := fuALimits_first limits count i
  have isLast : (fuALimits limits count i).lastPacketReductionLen =
    if i ≠ count - 1 then 0 else limits.lastPacketReductionLen := rfl
  have nonnegFirst : 0 ≤ (fuALimits limits count i).firstPacketReductionLen := by
    rw [isFirst]
    split_ifs <;> omega
  have nonnegLast : 0 ≤ (fuALimits limits count i).lastPacketReductionLen := by
    rw [isLast]
    split_ifs <;> omega
  have positive : 0 < (fuALimits limits count i).maxPayloadLen := by omega
  cases length with
  | zero =>
    refine (splitAboutEqually_nothing notSingle positive (by omega)).imp_right fun divided =>
      .inl ⟨divided, ?_⟩
    -- Unless the fragment is alone, the packet without room is the first, or the last, one.
    unfold reductionAt at oversized
    rw [isMax, isFirst, isLast] at room
    simp only [decide_eq_true_eq] at room
    split_ifs at oversized room <;> omega
  | succ length =>
    rcases splitAboutEqually_cases (by omega : (0 : Int) < (length + 1 : Nat)) positive nonnegFirst
      nonnegLast with ⟨fits, _⟩ | ⟨_, returned, _⟩ | ⟨_, parts, returned, several, whole, respects, _⟩
    · exact absurd fits notSingle
    · exact .inl returned
    · exact .inr (.inr ⟨parts, returned, several, whole, respects⟩)

theorem packetizeFuA_cases (supported : Supported limits size) {count i : Nat} (within : i < count)
    {header : Octet} {body : List Octet} (small : (header :: body).length < 2 ^ 31)
    (oversized : int32 (header :: body).length > limits.maxPayloadLen - reductionAt limits count i) :
    packetizeFuA limits count i (header :: body) = .ok none ∨
    (packetizeFuA limits count i (header :: body) = .error (.split .divisionByZero) ∧
      limits.maxPayloadLen ≤ limits.singlePacketReductionLen) ∨
    ∃ pieces : List (List Octet), body = pieces.flatten ∧
      packetizeFuA limits count i (header :: body) = .ok (some (fuUnits header true pieces)) ∧
      2 ≤ pieces.length ∧
      (fuALimits limits count i).Respects (pieces.map fun piece => (piece.length : Int)) := by
  rw [List.length_cons] at small oversized
  rw [Words.int32_of_small (by omega) (by omega), Nat.cast_succ] at oversized
  have left : uint64 ((header :: body).length - kNalHeaderSize) = body.length := by
    have same : ((header :: body).length - kNalHeaderSize : Int) = body.length := by
      simp [kNalHeaderSize]
    have kept := Words.uint64_of_nonneg (Int.natCast_nonneg body.length) (by omega)
    rw [same]
    omega
  have narrowed : int32 body.length = body.length := Words.int32_of_small (by omega) (by omega)
  unfold packetizeFuA
  dsimp only
  rw [left, narrowed]
  rcases split_oversized supported within oversized with
    returned | ⟨returned, noRoom⟩ | ⟨parts, returned, several, whole, respects⟩
  · exact .inl (by rw [returned])
  · exact .inr (.inl ⟨by rw [returned], noRoom⟩)
  · obtain ⟨joined, lengths⟩ := piecesOf_spec body parts respects.positive whole
    refine .inr (.inr ⟨piecesOf body parts, joined.symm, ?_, ?_, ?_⟩)
    · obtain ⟨one, rest, rfl⟩ := List.exists_cons_of_ne_nil
        (List.ne_nil_of_length_pos (by omega : 0 < parts.length))
      simp only [returned, fuAUnits_eq (header :: body) header _ respects.positive, whole, sub_self]
      rfl
    · rw [length_piecesOf]
      exact several
    · rw [lengths]
      exact respects

/-! ## The loop over the fragments -/

/-- The ways in which the loop may end. -/
inductive Outcome (mode : H264PacketizationMode) (limits : PayloadSizeLimits) (i : Nat)
    (fragments : List (List Octet)) : Except PacketizerFault (Option (List PacketUnit × Nat)) → Prop
  | gaveUp : Outcome mode limits i fragments (.ok none)
  | divided (noRoom : limits.maxPayloadLen ≤ limits.singlePacketReductionLen) :
      Outcome mode limits i fragments (.error (.split .divisionByZero))
  | done (plans : List Plan) {packets : Nat} (split : plans.flatMap Plan.nalus = fragments)
      (sound : ∀ plan ∈ plans, plan.Sound limits.maxPayloadLen)
      (within : mode = .nonInterleaved → AllWithin limits (i = 0) plans) :
      Outcome mode limits i fragments (.ok (some (plans.flatMap Plan.units, packets)))

variable {mode : H264PacketizationMode} {count : Nat}

/-- A plan for the first fragments, and what the loop does for the others. -/
theorem Outcome.cons {i : Nat} {plan : Plan} {others : List (List Octet)}
    {result : Except PacketizerFault (Option (List PacketUnit × Nat))} (packets : Nat)
    (later : Outcome mode limits (i + plan.nalus.length) others result)
    (sound : plan.Sound limits.maxPayloadLen)
    (within : mode = .nonInterleaved → plan.Within limits (i = 0) others.isEmpty) :
    Outcome mode limits i (plan.nalus ++ others) (do
      let more ← result
      .ok (more.map fun later => (plan.units ++ later.1, later.2 + packets))) := by
  cases later with
  | gaveUp => exact .gaveUp
  | divided noRoom => exact .divided noRoom
  | @done plans laterPackets split laterSound laterWithin =>
    have same : others.isEmpty = plans.isEmpty := by
      cases plans with
      | nil =>
        rw [← split]
        rfl
      | cons next _ =>
        have notNil := (laterSound next List.mem_cons_self).nalus_ne_nil
        rw [← split, List.isEmpty_cons, List.isEmpty_eq_false_iff, List.flatMap_cons]
        exact List.append_ne_nil_of_left_ne_nil notNil _
    have notFirst : decide (i + plan.nalus.length = 0) = false := by
      have some := List.length_pos_of_ne_nil sound.nalus_ne_nil
      exact decide_eq_false (by omega)
    refine .done (plan :: plans) (by rw [List.flatMap_cons, split])
      (List.forall_mem_cons.mpr ⟨sound, laterSound⟩) fun isMode => ⟨?_, ?_⟩
    · rw [← same]
      exact within isMode
    · rw [notFirst] at laterWithin
      exact laterWithin isMode

section

variable {i fuel : Nat} {fragment : List Octet} {rest : List (List Octet)}

theorem outcome_singleNalu (notEmpty : fragment ≠ [])
    (later : Outcome .singleNalUnit limits (i + 1) rest
      (generateFrom .singleNalUnit limits count fuel (i + 1) rest)) :
    Outcome .singleNalUnit limits i (fragment :: rest)
      (generateFrom .singleNalUnit limits count (fuel + 1) i (fragment :: rest)) := by
  obtain ⟨header, body, rfl⟩ := List.exists_cons_of_ne_nil notEmpty
  rw [generateFrom]
  unfold packetizeSingleNalu
  by_cases large : uint64 (limits.maxPayloadLen - reductionAt limits count i) <
      (header :: body).length
  · rw [if_pos large]
    exact .gaveUp
  · rw [if_neg large]
    exact @Outcome.cons _ .singleNalUnit _ (.single (header :: body) false) _ _ 1 later
      (.single notEmpty) (by rintro ⟨⟩)

variable (supported : Supported limits size) (isCount : count = i + (fragment :: rest).length)

include supported isCount

theorem outcome_fuA (notEmpty : fragment ≠ []) (small : fragment.length < 2 ^ 31)
    (oversized : int32 fragment.length > limits.maxPayloadLen - reductionAt limits count i)
    (later : Outcome .nonInterleaved limits (i + 1) rest
      (generateFrom .nonInterleaved limits count fuel (i + 1) rest)) :
    Outcome .nonInterleaved limits i (fragment :: rest)
      (generateFrom .nonInterleaved limits count (fuel + 1) i (fragment :: rest)) := by
  obtain ⟨header, body, rfl⟩ := List.exists_cons_of_ne_nil notEmpty
  have within : i < count := by
    rw [List.length_cons] at isCount
    omega
  rw [generateFrom, if_pos oversized]
  rcases packetizeFuA_cases supported within small oversized with
    returned | ⟨returned, noRoom⟩ | ⟨pieces, whole, returned, several, respects⟩
  · rw [returned]
    exact .gaveUp
  · rw [returned]
    exact .divided noRoom
  · rw [returned]
    subst whole
    have isMax : (fuALimits limits count i).maxPayloadLen = limits.maxPayloadLen - 2 := rfl
    refine @Outcome.cons _ .nonInterleaved _ (.fuA header pieces) _ _ _ later
      (.fuA several fun piece member empty => ?_) fun _ => ⟨fun piece member => ?_,
        fun piece isFirst => ?_, fun piece isLast => ?_⟩
    · have positive := respects.positive _ (List.mem_map_of_mem member)
      rw [empty] at positive
      cases positive
    · have bound := respects.middle _ (List.mem_map_of_mem member)
      omega
    · have bound := respects.first piece.length (by
        rw [List.head?_map, Option.mem_def, Option.mem_def.mp isFirst]
        rfl)
      rw [isMax, fuALimits_first] at bound
      omega
    · have bound := respects.last piece.length (by
        rw [List.getLast?_map, Option.mem_def, Option.mem_def.mp isLast]
        rfl)
      rw [isMax, fuALimits_last isCount] at bound
      omega

/-- A fragment that fits into a packet, with as many others as fit too. -/
theorem outcome_stapA (sizes : ∀ other ∈ fragment :: rest, other ≠ [] ∧ other.length ≤ size)
    (small : fragment.length < 2 ^ 31)
    (notOversized : ¬ int32 fragment.length > limits.maxPayloadLen - reductionAt limits count i)
    (later : ∀ j, 0 < j → Outcome .nonInterleaved limits (i + j) ((fragment :: rest).drop j)
      (generateFrom .nonInterleaved limits count fuel (i + j) ((fragment :: rest).drop j))) :
    Outcome .nonInterleaved limits i (fragment :: rest)
      (generateFrom .nonInterleaved limits count (fuel + 1) i (fragment :: rest)) := by
  rw [List.length_cons] at isCount
  have isLast : decide (i + 1 = count) = rest.isEmpty := by
    cases rest with
    | nil => exact decide_eq_true (by simp only [List.length_nil] at isCount; omega)
    | cons _ _ => exact decide_eq_false (by simp only [List.length_cons] at isCount; omega)
  have fits : fragment.length + reduction limits (i = 0) rest.isEmpty ≤ limits.maxPayloadLen := by
    rw [Words.int32_of_small (by omega) (by omega), reductionAt_eq limits (by omega), isLast]
      at notOversized
    omega
  obtain ⟨plan, others, split, returned, length, sound, within⟩ :=
    packetizeStapA_plan supported sizes fits
  rw [generateFrom, if_neg notOversized, returned]
  change Outcome _ _ _ _ (generateFrom _ _ _ _ (i + plan.units.length) (List.drop _ _) >>= _)
  have others' := later plan.nalus.length (List.length_pos_of_ne_nil sound.nalus_ne_nil)
  rw [length]
  rw [split, List.drop_left] at others' ⊢
  exact others'.cons 1 sound fun _ => within

end

theorem generateFrom_outcome (fuel i : Nat) (fragments : List (List Octet))
    (enough : fragments.length ≤ fuel) (isCount : count = i + fragments.length)
    (notEmpty : ∀ fragment ∈ fragments, fragment ≠ [])
    (supported : mode = .nonInterleaved → Supported limits size ∧
      ∀ fragment ∈ fragments, fragment.length ≤ size ∧ fragment.length < 2 ^ 31) :
    Outcome mode limits i fragments (generateFrom mode limits count fuel i fragments) := by
  induction fuel generalizing i fragments with
  | zero =>
    obtain rfl := List.eq_nil_of_length_eq_zero (Nat.le_zero.mp enough)
    exact .done [] rfl (by simp) fun _ => trivial
  | succ fuel ih =>
    cases fragments with
    | nil => exact .done [] rfl (by simp) fun _ => trivial
    | cons fragment rest =>
      have later : ∀ j, 0 < j →
          Outcome mode limits (i + j) ((fragment :: rest).drop j)
            (generateFrom mode limits count fuel (i + j) ((fragment :: rest).drop j)) := by
        intro j positive
        by_cases inside : j ≤ (fragment :: rest).length
        · refine ih (i + j) _ ?_ ?_
            (fun other member => notEmpty other (List.mem_of_mem_drop member))
            fun isMode => ⟨(supported isMode).1, fun other member =>
              (supported isMode).2 other (List.mem_of_mem_drop member)⟩
          · rw [List.length_drop]
            omega
          · rw [List.length_drop]
            omega
        · rw [List.drop_eq_nil_of_le (by omega)]
          cases fuel with
          | zero => exact .done [] rfl (by simp) fun _ => trivial
          | succ fuel => exact .done [] rfl (by simp) fun _ => trivial
      cases mode with
      | singleNalUnit =>
        exact outcome_singleNalu (notEmpty fragment List.mem_cons_self) (later 1 one_pos)
      | nonInterleaved =>
        obtain ⟨limitsSupported, sizes⟩ := supported rfl
        have small := (sizes fragment List.mem_cons_self).2
        by_cases oversized : int32 fragment.length >
            limits.maxPayloadLen - reductionAt limits count i
        · exact outcome_fuA limitsSupported isCount (notEmpty fragment List.mem_cons_self) small
            oversized (later 1 one_pos)
        · exact outcome_stapA limitsSupported isCount (fun other member =>
            ⟨notEmpty other member, (sizes other member).1⟩) small oversized later

/-! ## All packets of a frame -/

theorem length_nalus_le (payload : List Octet) :
    ∀ fragment ∈ H264.nalus payload, fragment.length ≤ payload.length := by
  intro fragment member
  obtain ⟨index, _, rfl⟩ := List.mem_map.mp member
  rw [List.length_take, List.length_drop]
  omega

/-- What packetizing a frame gives, for each way in which the loop may end. -/
theorem packetize_of_outcome {payload : List Octet} {freeCapacity : Nat → Nat}
    (room : ∀ n, limits.maxPayloadLen ≤ freeCapacity n)
    {result : Except PacketizerFault (Option (List PacketUnit × Nat))}
    (isResult : generateFrom mode limits (H264.nalus payload).length (H264.nalus payload).length 0
      (H264.nalus payload) = result) :
    (∀ fault, result = .error fault → packetize mode limits freeCapacity payload = .error fault) ∧
    (result = .ok none → packetize mode limits freeCapacity payload = .ok []) ∧
    ∀ (plans : List Plan) packets, result = .ok (some (plans.flatMap Plan.units, packets)) →
      (∀ plan ∈ plans, plan.Sound limits.maxPayloadLen) →
      packetize mode limits freeCapacity payload = .ok (marked (plans.flatMap Plan.payloads)) := by
  refine ⟨?_, ?_, ?_⟩
  · rintro fault rfl
    rw [packetize, new, isResult]
    rfl
  · rintro rfl
    rw [packetize, new, isResult]
    rfl
  · rintro plans packets rfl sound
    rw [packetize, new, isResult]
    exact (drains_of_sound room sound).run _ _ _ _ (Nat.lt_succ_self _)

end MaeRtc.Rtp.RtpPacketizerH264
