import MaeRtc.Rtp.H264Depacketizer
import MaeRtc.Rtp.PacketGeneration
import MaeRtc.Rtp.StartCodes

/-!
# Packetization and depacketization

The depacketizer accepts the packets of every sound plan, and from them the NAL units of
the plan are reassembled, as long as the length fields of aggregates can hold their sizes.
-/

namespace MaeRtc.Rtp

open Base VideoRtpDepacketizerH264 RtpPacketizerH264

/-! ## NAL units that are sent as they are -/

/-- A NAL unit of a type that is neither an SPS nor used for packets. -/
def Ordinary (nalu : List Octet) : Prop :=
  nalu ≠ [] ∧ 1 ≤ headerOf nalu &&& kH264TypeMask ∧ headerOf nalu &&& kH264TypeMask ≤ 23 ∧
    headerOf nalu &&& kH264TypeMask ≠ H264.kSps

variable {nalus pieces : List (List Octet)} {nalu : List Octet} {header : Octet}
  {payload : List Octet} {p : Nat}

theorem Ordinary.types (ordinary : Ordinary nalu) :
    headerOf nalu &&& kH264TypeMask ≠ H264.kSps ∧
      headerOf nalu &&& kH264TypeMask ≠ H264.kStapA ∧
      headerOf nalu &&& kH264TypeMask ≠ H264.kFuA := by
  obtain ⟨_, _, below, notSps⟩ := ordinary
  refine ⟨notSps, ?_, ?_⟩
  all_goals
    intro same
    rw [same] at below
    exact absurd below (by decide)

variable (parsers : Parsers)

theorem processNalu_ordinary (payload : List Octet) (parsed : ParsedRtpPayload)
    (startOffset endOffset : Nat) (ordinary : Ordinary nalu)
    (isHeader : payload.getD startOffset 0 = headerOf nalu) :
    ∃ after, processNalu parsers payload parsed startOffset endOffset = some after ∧
      after.videoPayload = parsed.videoPayload ∧
      after.packetizationType = parsed.packetizationType := by
  obtain ⟨notSps, notStapA, notFuA⟩ := ordinary.types
  unfold processNalu
  rw [isHeader]
  rw [if_neg notSps]
  split_ifs with isPps isIdr isSlice isPacket
  · exact ⟨_, rfl, by simp, by simp⟩
  · exact ⟨_, rfl, by simp, by simp⟩
  · exact ⟨_, rfl, by simp, by simp⟩
  · rcases isPacket with isStapA | isFuA
    · exact absurd isStapA notStapA
    · exact absurd isFuA notFuA
  · exact ⟨_, rfl, by simp, by simp⟩

theorem parse_single (ordinary : Ordinary nalu) :
    ∃ parsed, parse parsers nalu = some parsed ∧ parsed.videoPayload = nalu ∧
      parsed.packetizationType = .singleNalu := by
  obtain ⟨_, notStapA, notFuA⟩ := ordinary.types
  obtain ⟨header, body, rfl⟩ := List.exists_cons_of_ne_nil ordinary.1
  have enough : ¬ (header :: body).length + kLengthFieldSize - kLengthFieldSize - 0 <
      H264.kNaluTypeSize := by
    simp [H264.kNaluTypeSize]
  obtain ⟨after, returned, samePayload, sameType⟩ := processNalu_ordinary parsers (header :: body)
    { videoPayload := header :: body, packetizationType := .singleNalu
      naluType := header &&& kH264TypeMask }
    0 ((header :: body).length + kLengthFieldSize - kLengthFieldSize) ordinary rfl
  refine ⟨after, ?_, samePayload, sameType⟩
  have isType : header &&& kH264TypeMask ≠ H264.kFuA := notFuA
  have isType' : (header :: body).getD 0 0 &&& kH264TypeMask ≠ H264.kStapA := notStapA
  rw [parse, if_neg isType, processStapAOrSingleNalu, if_neg isType', processNalus, if_neg enough]
  rw [show (header :: body).getD 0 0 &&& kH264TypeMask = header &&& kH264TypeMask from rfl, returned]
  rfl

/-! ## Aggregates -/

theorem flatMap_segment_cons {nalu : List Octet} (small : nalu.length < 2 ^ 16) :
    ∃ high low, (nalu :: nalus).flatMap segment = high :: low :: (nalu ++ nalus.flatMap segment) ∧
      readBigEndian [high, low] = nalu.length :=
  ⟨_, _, rfl, @readBigEndian_write_of_lt 2 nalu.length small⟩

/-- Where the NAL units of an aggregate start. -/
def startOffsets : Nat → List (List Octet) → List Nat
  | _, [] => []
  | offset, nalu :: rest => (offset + 3) :: startOffsets (offset + (2 + nalu.length)) rest

theorem parseStapAStartOffsets_segments (small : ∀ nalu ∈ nalus, nalu.length < 2 ^ 16)
    (fuel offset : Nat) (enough : nalus.length ≤ fuel) :
    parseStapAStartOffsets fuel (nalus.flatMap segment) offset =
      some (startOffsets offset nalus) := by
  induction nalus generalizing fuel offset with
  | nil =>
    cases fuel with
    | zero => rfl
    | succ fuel => rfl
  | cons nalu rest ih =>
    obtain ⟨naluSmall, restSmall⟩ := List.forall_mem_cons.mp small
    obtain ⟨fuel, rfl⟩ := Nat.exists_eq_add_one.mpr (Nat.zero_lt_of_lt enough)
    obtain ⟨high, low, written, read⟩ := flatMap_segment_cons naluSmall
    have recursive := ih restSmall fuel (offset + (2 + nalu.length))
      (Nat.le_of_succ_le_succ enough)
    rw [written, parseStapAStartOffsets, read, if_neg (by rw [List.length_append]; omega),
      List.drop_left, kLengthFieldSize, recursive]
    rfl

theorem copySegments_segments (small : ∀ nalu ∈ nalus, nalu.length < 2 ^ 16) (fuel : Nat)
    (enough : nalus.length ≤ fuel) : copySegments fuel (nalus.flatMap segment) = some nalus := by
  induction nalus generalizing fuel with
  | nil =>
    cases fuel with
    | zero => rfl
    | succ fuel => rfl
  | cons nalu rest ih =>
    obtain ⟨naluSmall, restSmall⟩ := List.forall_mem_cons.mp small
    obtain ⟨fuel, rfl⟩ := Nat.exists_eq_add_one.mpr (Nat.zero_lt_of_lt enough)
    obtain ⟨high, low, written, read⟩ := flatMap_segment_cons naluSmall
    rw [written, copySegments, read, if_neg (by rw [List.length_append]; omega), List.drop_left,
      List.take_left, ih restSmall fuel (Nat.le_of_succ_le_succ enough)]
    rfl

/-- The loop over the NAL units of an aggregate, of which `front` is already done. -/
theorem processNalus_segments (ordinary : ∀ nalu ∈ nalus, Ordinary nalu) (front : List Octet)
    (offset : Nat) (isOffset : front.length = offset + 1) (parsed : ParsedRtpPayload) :
    ∃ after, processNalus parsers (front ++ nalus.flatMap segment)
        (startOffsets offset nalus ++ [(front ++ nalus.flatMap segment).length + 2]) parsed =
        some after ∧
      after.videoPayload = parsed.videoPayload ∧
      after.packetizationType = parsed.packetizationType := by
  induction nalus generalizing front offset parsed with
  | nil => exact ⟨parsed, rfl, rfl, rfl⟩
  | cons nalu rest ih =>
    obtain ⟨naluOrdinary, restOrdinary⟩ := List.forall_mem_cons.mp ordinary
    have some := List.length_pos_of_ne_nil naluOrdinary.1
    have sameBytes : front ++ (nalu :: rest).flatMap segment =
        (front ++ segment nalu) ++ rest.flatMap segment := by
      rw [List.flatMap_cons, List.append_assoc]
    have isHeader : (front ++ (nalu :: rest).flatMap segment).getD (offset + 3) 0 =
        headerOf nalu := by
      obtain ⟨header, body, rfl⟩ := List.exists_cons_of_ne_nil naluOrdinary.1
      have isStart : (front ++ writeBigEndian 2 (header :: body).length).length = offset + 3 := by
        rw [List.length_append, isOffset]
        rfl
      rw [List.flatMap_cons, RtpPacketizerH264.segment, List.append_assoc, ← List.append_assoc,
        ← isStart, List.getD_eq_getElem?_getD, List.getElem?_append_right le_rfl, Nat.sub_self]
      rfl
    -- The next offset is where the next NAL unit starts, or the end.
    obtain ⟨later, isNext⟩ : ∃ later, startOffsets (offset + (2 + nalu.length)) rest ++
        [(front ++ (nalu :: rest).flatMap segment).length + 2] =
          (offset + (2 + nalu.length) + 3) :: later := by
      cases rest with
      | nil =>
        refine ⟨[], ?_⟩
        simp only [startOffsets, List.nil_append, List.flatMap_cons, List.flatMap_nil,
          List.append_nil, List.length_append, length_segment]
        congr 1
        omega
      | cons next others => exact ⟨_, rfl⟩
    obtain ⟨after, returned, samePayload, sameType⟩ := processNalu_ordinary parsers
      (front ++ (nalu :: rest).flatMap segment) parsed (offset + 3)
      (offset + (2 + nalu.length) + 3 - kLengthFieldSize) naluOrdinary isHeader
    obtain ⟨final, done, finalPayload, finalType⟩ := ih restOrdinary (front ++ segment nalu)
      (offset + (2 + nalu.length)) (by
        rw [List.length_append, length_segment]
        omega) after
    refine ⟨final, ?_, finalPayload.trans samePayload, finalType.trans sameType⟩
    have enough : ¬ offset + (2 + nalu.length) + 3 - kLengthFieldSize - (offset + 3) <
        H264.kNaluTypeSize := by
      unfold kLengthFieldSize H264.kNaluTypeSize
      omega
    rw [← sameBytes, isNext] at done
    rw [startOffsets, List.cons_append, isNext, processNalus, if_neg enough, returned]
    exact done

theorem length_le_flatMap_segment (nalus : List (List Octet)) :
    nalus.length * 2 ≤ (nalus.flatMap segment).length := by
  simp [length_segment]

/-- In an aggregate there is room for another NAL unit and for the headers. -/
theorem length_flatMap_segment (several : 2 ≤ nalus.length) (member : nalu ∈ nalus)
    (notEmpty : ∀ other ∈ nalus, other ≠ []) :
    nalu.length + 5 ≤ (nalus.flatMap segment).length := by
  obtain ⟨front, rest, rfl⟩ := List.append_of_mem member
  obtain ⟨other, isOther⟩ : ∃ other, other ∈ front ++ rest := by
    refine List.exists_mem_of_length_pos ?_
    simp only [List.length_append, List.length_cons] at several ⊢
    omega
  have otherLength : 1 ≤ other.length := List.length_pos_of_ne_nil
    (notEmpty other (by
      simp only [List.mem_append] at isOther ⊢
      tauto))
  have atLeast : (segment other).length ≤ ((front ++ rest).flatMap segment).length := by
    rw [List.length_flatMap]
    exact List.single_le_sum (fun _ _ => Nat.zero_le _) _ (List.mem_map_of_mem isOther)
  rw [List.flatMap_append, List.length_append, length_segment] at atLeast
  rw [List.flatMap_append, List.flatMap_cons, List.length_append, List.length_append,
    length_segment]
  omega

theorem withType_kStapA : ∀ header : Octet,
    withType header H264.kStapA &&& kH264TypeMask = H264.kStapA := by
  decide

theorem parse_stapA (several : 2 ≤ nalus.length) (ordinary : ∀ nalu ∈ nalus, Ordinary nalu)
    (small : ∀ nalu ∈ nalus, nalu.length < 2 ^ 16) (header : Octet) :
    ∃ parsed, parse parsers (withType header H264.kStapA :: nalus.flatMap segment) = some parsed ∧
      parsed.videoPayload = withType header H264.kStapA :: nalus.flatMap segment ∧
      parsed.packetizationType = .stapA := by
  have isStapA := withType_kStapA header
  have notFuA : withType header H264.kStapA &&& kH264TypeMask ≠ H264.kFuA := by
    rw [isStapA]
    decide
  have count := length_le_flatMap_segment nalus
  have long : ¬ (withType header H264.kStapA :: nalus.flatMap segment).length ≤
      kStapAHeaderSize := by
    unfold kStapAHeaderSize kNalHeaderSize kLengthFieldSize
    rw [List.length_cons]
    omega
  have offsets := parseStapAStartOffsets_segments small
    (withType header H264.kStapA :: nalus.flatMap segment).length 0 (by
      rw [List.length_cons]
      omega)
  obtain ⟨after, returned, samePayload, sameType⟩ := processNalus_segments parsers ordinary
    [withType header H264.kStapA] 0 rfl
    { videoPayload := withType header H264.kStapA :: nalus.flatMap segment
      packetizationType := .stapA
      naluType := (withType header H264.kStapA :: nalus.flatMap segment).getD
        kStapAHeaderSize 0 &&& kH264TypeMask }
  refine ⟨after, ?_, samePayload, sameType⟩
  rw [parse, if_neg notFuA, processStapAOrSingleNalu, List.getD_cons_zero, if_pos isStapA, if_neg long, kNalHeaderSize, List.drop_one,
    List.tail_cons, offsets]
  exact returned

/-! ## Fragments -/

def fuHeader (header : Octet) (first last : Bool) : Octet :=
  (if first then kH264SBit else 0) ||| (if last then kH264EBit else 0) |||
    (header &&& kH264TypeMask)

theorem withType_kFuA : ∀ header : Octet,
    withType header H264.kFuA &&& kH264TypeMask = H264.kFuA := by
  decide

theorem fuHeader_spec : ∀ (header : Octet) (first last : Bool),
    decide (fuHeader header first last &&& kH264SBit > 0) = first ∧
    decide (fuHeader header first last &&& kH264EBit > 0) = last ∧
    (withType header H264.kFuA &&& (kH264FBit ||| kH264NriMask)) |||
      (fuHeader header first last &&& kH264TypeMask) = header := by
  decide

theorem mem_fuUnits {first : Bool} {unit : PacketUnit}
    (member : unit ∈ fuUnits header first pieces) :
    ∃ piece isFirst isLast, unit = ⟨piece, isFirst, isLast, false, header⟩ := by
  induction pieces generalizing first with
  | nil => cases member
  | cons piece rest ih =>
    rcases List.mem_cons.mp member with rfl | later
    · exact ⟨_, _, _, rfl⟩
    · exact ih later

/-- A fragment: the first one starts with the header of the NAL unit. -/
theorem parse_fragment (piece : List Octet) (header : Octet) (first last : Bool) :
    ∃ parsed, parse parsers (fragmentPayload ⟨piece, first, last, false, header⟩) = some parsed ∧
      parsed.videoPayload = (if first then header :: piece else piece) ∧
      parsed.packetizationType = .fuA ∧ parsed.isFirstPacketInFrame = first := by
  obtain ⟨isFirst, _, isHeader⟩ := fuHeader_spec header first last
  change ∃ parsed, parse parsers (withType header H264.kFuA :: fuHeader header first last ::
    piece) = some parsed ∧ _
  rw [parse, if_pos (withType_kFuA header), parseFuaNalu, isFirst, isHeader]
  cases first with
  | true => exact ⟨_, rfl, rfl, rfl, rfl⟩
  | false => exact ⟨_, rfl, rfl, rfl, rfl⟩

/-! ## Reassembly -/

theorem reassemble_single (ordinary : Ordinary nalu) (later : List (List Octet)) :
    reassemble parsers none (nalu :: later) =
      (reassemble parsers none later).map fun nalus => nalu :: nalus := by
  obtain ⟨parsed, returned, samePayload, sameType⟩ := parse_single parsers ordinary
  rw [reassemble, returned]
  simp only [Option.bind_eq_bind, Option.bind_some, sameType, samePayload]
  cases reassemble parsers none later <;> rfl

theorem reassemble_stapA (several : 2 ≤ nalus.length) (ordinary : ∀ nalu ∈ nalus, Ordinary nalu)
    (small : ∀ nalu ∈ nalus, nalu.length < 2 ^ 16) (header : Octet) (later : List (List Octet)) :
    reassemble parsers none ((withType header H264.kStapA :: nalus.flatMap segment) :: later) =
      (reassemble parsers none later).map fun more => nalus ++ more := by
  obtain ⟨parsed, returned, samePayload, sameType⟩ := parse_stapA parsers several ordinary small
    header
  have segments := copySegments_segments small
    (withType header H264.kStapA :: nalus.flatMap segment).length (by
      have count := length_le_flatMap_segment nalus
      rw [List.length_cons]
      omega)
  rw [reassemble, returned]
  simp only [Option.bind_eq_bind, Option.bind_some, sameType, samePayload, kNalHeaderSize,
    List.drop_one, List.tail_cons, segments]
  cases reassemble parsers none later <;> rfl

theorem reassemble_pending (header : Octet) (some : pieces ≠ []) (nalu : List Octet)
    (later : List (List Octet)) :
    reassemble parsers (.some nalu)
        ((fuUnits header false pieces).map fragmentPayload ++ later) =
      (reassemble parsers none later).map fun nalus => (nalu ++ pieces.flatten) :: nalus := by
  induction pieces generalizing nalu with
  | nil => exact absurd rfl some
  | cons piece rest ih =>
    obtain ⟨parsed, returned, isPayload, isType, isFirst⟩ :=
      parse_fragment parsers piece header false rest.isEmpty
    have isLast := (fuHeader_spec header false rest.isEmpty).2.1
    rw [fuUnits, List.map_cons, List.cons_append, reassemble, returned]
    simp only [Option.bind_eq_bind, Option.bind_some, isType, isFirst, isPayload]
    change (if fuHeader header false rest.isEmpty &&& kH264EBit > 0 then _ else _) = _
    cases rest with
    | nil =>
      rw [if_pos (of_decide_eq_true isLast), List.flatten_singleton]
      change ((reassemble parsers none later).bind _) = _
      cases reassemble parsers none later <;> rfl
    | cons next others =>
      rw [if_neg (of_decide_eq_false isLast)]
      rw [ih (List.cons_ne_nil _ _), List.append_assoc]
      rfl

theorem reassemble_fuA (header : Octet) (several : 2 ≤ pieces.length) (later : List (List Octet)) :
    reassemble parsers none ((fuUnits header true pieces).map fragmentPayload ++ later) =
      (reassemble parsers none later).map fun nalus => (header :: pieces.flatten) :: nalus := by
  match pieces, several with
  | piece :: next :: others, _ =>
    obtain ⟨parsed, returned, isPayload, isType, isFirst⟩ :=
      parse_fragment parsers piece header true false
    have isLast := (fuHeader_spec header true false).2.1
    rw [fuUnits, List.map_cons, List.cons_append, List.isEmpty_cons, reassemble, returned]
    simp only [Option.bind_eq_bind, Option.bind_some, isType, isFirst, isPayload]
    change (if fuHeader header true false &&& kH264EBit > 0 then _ else _) = _
    rw [if_neg (of_decide_eq_false isLast)]
    change reassemble parsers (.some (header :: piece)) _ = _
    rw [reassemble_pending parsers header (List.cons_ne_nil next others), List.cons_append]
    rfl

/-- The packets of a plan are accepted, and its NAL units are reassembled from them. -/
theorem reassemble_plan {maxPayloadLen : Int} {plan : Plan} (sound : plan.Sound maxPayloadLen)
    (ordinary : ∀ nalu ∈ plan.nalus, Ordinary nalu)
    (small : ∀ nalu ∈ plan.nalus, nalu.length < 2 ^ 16 ∨ maxPayloadLen < nalu.length + 6) :
    (∀ payload ∈ plan.payloads, (parse parsers payload).isSome) ∧
    ∀ later, reassemble parsers none (plan.payloads ++ later) =
      (reassemble parsers none later).map fun nalus => plan.nalus ++ nalus := by
  cases sound with
  | @single nalu aggregated notEmpty =>
    have naluOrdinary := List.forall_mem_singleton.mp ordinary
    refine ⟨?_, reassemble_single parsers naluOrdinary⟩
    obtain ⟨parsed, returned, _⟩ := parse_single parsers naluOrdinary
    exact List.forall_mem_singleton.mpr (by rw [returned]; rfl)
  | @stapA nalus several notEmpty fits =>
    have naluSmall : ∀ nalu ∈ nalus, nalu.length < 2 ^ 16 := by
      intro nalu member
      refine (small nalu member).resolve_right fun large => ?_
      have room := length_flatMap_segment several member fun other isOther =>
        notEmpty other isOther
      omega
    refine ⟨?_, reassemble_stapA parsers several ordinary naluSmall _⟩
    obtain ⟨parsed, returned, _⟩ := parse_stapA parsers several ordinary naluSmall
      (headerOf (nalus.headD []))
    exact List.forall_mem_singleton.mpr (by rw [returned]; rfl)
  | @fuA header pieces several notEmpty =>
    refine ⟨fun payload member => ?_, reassemble_fuA parsers header several⟩
    obtain ⟨unit, isUnit, rfl⟩ := List.mem_map.mp member
    obtain ⟨piece, first, last, rfl⟩ := mem_fuUnits isUnit
    obtain ⟨parsed, returned, _⟩ := parse_fragment parsers piece header first last
    rw [returned]
    rfl

/-! ## Limits of packets -/

theorem length_fuUnits (header : Octet) (first : Bool) (pieces : List (List Octet)) :
    (fuUnits header first pieces).length = pieces.length := by
  induction pieces generalizing first with
  | nil => rfl
  | cons piece rest ih => rw [fuUnits, List.length_cons, List.length_cons, ih]

theorem fuUnits_getElem? {first : Bool}
    (found : ((fuUnits header first pieces).map fragmentPayload)[p]? = some payload) :
    ∃ piece, pieces[p]? = some piece ∧ payload.length = piece.length + 2 := by
  induction pieces generalizing first p with
  | nil => simp [fuUnits] at found
  | cons piece rest ih =>
    cases p with
    | zero =>
      cases found
      exact ⟨piece, rfl, rfl⟩
    | succ p => exact ih found

variable {limits : PayloadSizeLimits}

theorem within_of_plan {plan : Plan} (sound : plan.Sound limits.maxPayloadLen)
    {hasFirst hasLast : Bool} (within : plan.Within limits hasFirst hasLast)
    (found : plan.payloads[p]? = some payload) :
    (payload.length : Int) ≤ limits.maxPayloadLen - reduction limits
      (hasFirst && decide (p = 0)) (hasLast && decide (p + 1 = plan.payloads.length)) := by
  cases sound with
  | @single nalu aggregated notEmpty =>
    obtain ⟨rfl, rfl⟩ : p = 0 ∧ nalu = payload := by
      simpa [Plan.payloads, List.getElem?_singleton] using found
    simpa [Plan.payloads, Plan.Within] using within
  | @stapA nalus several notEmpty fits =>
    obtain ⟨rfl, rfl⟩ : p = 0 ∧ _ = payload := by
      simpa [Plan.payloads, List.getElem?_singleton] using found
    have bound : 1 + ((nalus.flatMap segment).length : Int) ≤
      limits.maxPayloadLen - reduction limits hasFirst hasLast := within
    simp only [Plan.payloads, List.length_cons, List.length_nil, decide_true, Bool.and_true]
    omega
  | @fuA header pieces several notEmpty =>
    obtain ⟨middle, first, last⟩ := within
    obtain ⟨piece, isPiece, length⟩ := fuUnits_getElem? found
    have count : (Plan.payloads (.fuA header pieces)).length = pieces.length := by
      rw [Plan.payloads, List.length_map, length_fuUnits]
    have bound := middle piece (List.mem_of_getElem? isPiece)
    by_cases isFirst : p = 0
    · have notLast : ¬ p + 1 = pieces.length := by omega
      subst isFirst
      have firstBound := first piece (by rwa [← List.head?_eq_getElem?] at isPiece)
      cases hasFirst <;> simp [reduction] at firstBound ⊢ <;> omega
    · by_cases isLast : p + 1 = pieces.length
      · have lastBound := last piece (by
          rwa [List.getLast?_eq_getElem?, ← isLast, Nat.add_sub_cancel])
        cases hasLast <;> simp [reduction] at lastBound ⊢ <;> omega
      · simp [reduction]
        omega

theorem within_of_plans {plans : List Plan}
    (sound : ∀ plan ∈ plans, plan.Sound limits.maxPayloadLen) {hasFirst : Bool}
    (within : AllWithin limits hasFirst plans)
    (found : (plans.flatMap Plan.payloads)[p]? = some payload) :
    (payload.length : Int) ≤ limits.maxPayloadLen - reduction limits
      (hasFirst && decide (p = 0))
      (decide (p + 1 = (plans.flatMap Plan.payloads).length)) := by
  induction plans generalizing hasFirst p with
  | nil => simp at found
  | cons plan rest ih =>
    obtain ⟨planSound, restSound⟩ := List.forall_mem_cons.mp sound
    obtain ⟨planWithin, restWithin⟩ := within
    have some := List.length_pos_of_ne_nil planSound.payloads_ne_nil
    rw [List.flatMap_cons] at found ⊢
    rw [List.length_append]
    by_cases inside : p < plan.payloads.length
    · rw [List.getElem?_append_left inside] at found
      have bound := within_of_plan planSound planWithin found
      have sameLast : (rest.isEmpty && decide (p + 1 = plan.payloads.length)) =
          decide (p + 1 = plan.payloads.length + (rest.flatMap Plan.payloads).length) := by
        cases rest with
        | nil => simp
        | cons next others =>
          have more := List.length_pos_of_ne_nil
            (restSound next List.mem_cons_self).payloads_ne_nil
          rw [List.flatMap_cons, List.length_append, List.isEmpty_cons, Bool.false_and]
          exact (decide_eq_false (by omega)).symm
      rwa [← sameLast]
    · rw [List.getElem?_append_right (by omega)] at found
      have bound := ih restSound restWithin found
      have notFirst : decide (p = 0) = false := decide_eq_false (by omega)
      have sameLast : decide (p - plan.payloads.length + 1 = (rest.flatMap Plan.payloads).length) =
          decide (p + 1 = plan.payloads.length + (rest.flatMap Plan.payloads).length) := by
        rw [decide_eq_decide]
        omega
      rwa [Bool.false_and, sameLast, ← Bool.and_false hasFirst, ← notFirst] at bound

/-! ## The round trip -/

theorem marked_getElem? {payloads : List (List Octet)} {packet : List Octet × Bool}
    (found : (marked payloads)[p]? = some packet) :
    payloads[p]? = some packet.1 ∧ (packet.2 = true ↔ p + 1 = payloads.length) := by
  induction payloads generalizing p with
  | nil => simp [marked] at found
  | cons payload rest ih =>
    cases p with
    | zero =>
      cases found
      refine ⟨rfl, ?_⟩
      cases rest <;> simp
    | succ p =>
      obtain ⟨isPayload, isLast⟩ := ih found
      refine ⟨isPayload, isLast.trans ?_⟩
      rw [List.length_cons]
      omega

theorem map_fst_marked (payloads : List (List Octet)) :
    (marked payloads).map Prod.fst = payloads := by
  induction payloads with
  | nil => rfl
  | cons payload rest ih => rw [marked, List.map_cons, ih]

theorem reassemble_plans {maxPayloadLen : Int} {plans : List Plan}
    (sound : ∀ plan ∈ plans, plan.Sound maxPayloadLen)
    (ordinary : ∀ nalu ∈ plans.flatMap Plan.nalus, Ordinary nalu)
    (small : ∀ nalu ∈ plans.flatMap Plan.nalus,
      nalu.length < 2 ^ 16 ∨ maxPayloadLen < nalu.length + 6) :
    (∀ payload ∈ plans.flatMap Plan.payloads, (parse parsers payload).isSome) ∧
      reassemble parsers none (plans.flatMap Plan.payloads) = some (plans.flatMap Plan.nalus) := by
  induction plans with
  | nil => exact ⟨by simp, rfl⟩
  | cons plan rest ih =>
    simp only [List.flatMap_cons, List.forall_mem_append, List.forall_mem_cons] at *
    obtain ⟨accepted, joined⟩ := reassemble_plan parsers sound.1 ordinary.1 small.1
    obtain ⟨restAccepted, restJoined⟩ := ih sound.2 ordinary.2 small.2
    refine ⟨⟨accepted, restAccepted⟩, ?_⟩
    rw [joined, restJoined]
    rfl

/-- No check fails, and either there are no packets, or all packets respect their limits,
the last one has the marker, all are accepted, and the NAL units are reassembled. -/
theorem packetize_roundTrip (limits : PayloadSizeLimits) (freeCapacity : Nat → Nat)
    (payload : List Octet) (promised : Promised limits payload.length)
    (room : ∀ n, limits.maxPayloadLen ≤ freeCapacity n)
    (ordinary : ∀ nalu ∈ H264.nalus payload, Ordinary nalu)
    (isInt : ∀ nalu ∈ H264.nalus payload, nalu.length < 2 ^ 31)
    (small : ∀ nalu ∈ H264.nalus payload,
      nalu.length < 2 ^ 16 ∨ limits.maxPayloadLen < nalu.length + 6) :
    ∃ packets, packetize .nonInterleaved limits freeCapacity payload = .ok packets ∧
      (packets = [] ∨ (∀ (p : Nat) (packet : List Octet × Bool), packets[p]? = some packet →
          (packet.1.length : Int) ≤ limits.maxPayloadLen - reductionAt limits packets.length p ∧
          (packet.2 = true ↔ p + 1 = packets.length) ∧ (parse parsers packet.1).isSome) ∧
        reassemble parsers none (packets.map Prod.fst) = some (H264.nalus payload)) := by
  have outcome := @generateFrom_outcome limits payload.length .nonInterleaved _ _ 0
    (H264.nalus payload) le_rfl (Nat.zero_add _).symm (fun nalu member => (ordinary nalu member).1)
    fun _ => ⟨promised.supported, fun nalu member =>
      ⟨length_nalus_le payload nalu member, isInt nalu member⟩⟩
  obtain ⟨result, isResult⟩ : ∃ result, generateFrom .nonInterleaved limits
    (H264.nalus payload).length (H264.nalus payload).length 0 (H264.nalus payload) = result :=
    ⟨_, rfl⟩
  obtain ⟨_, ofGaveUp, ofDone⟩ := packetize_of_outcome room isResult
  rw [isResult] at outcome
  cases outcome with
  | gaveUp => exact ⟨[], ofGaveUp rfl, .inl rfl⟩
  | divided noRoom => exact absurd noRoom (not_le.mpr promised.single.2)
  | done plans split sound within =>
    rw [← split] at ordinary small
    obtain ⟨accepted, joined⟩ := reassemble_plans parsers sound ordinary small
    have count : (marked (plans.flatMap Plan.payloads)).length =
        (plans.flatMap Plan.payloads).length := by
      rw [← List.length_map Prod.fst, map_fst_marked]
    refine ⟨_, ofDone plans _ rfl sound, .inr ⟨fun p packet found => ?_, ?_⟩⟩
    · obtain ⟨isPayload, isLast⟩ := marked_getElem? found
      have inside := (List.getElem?_eq_some_iff.mp isPayload).1
      refine ⟨?_, ?_, accepted _ (List.mem_of_getElem? isPayload)⟩
      · rw [count, reductionAt_eq limits inside]
        exact within_of_plans sound (within rfl) isPayload
      · rw [count]
        exact isLast
    · rw [map_fst_marked, joined, split]

/-- A unit that takes more than one packet, and two that share one. -/
def mixedUnits : List Octet :=
  [0, 0, 1, 0x65, 2, 3, 4, 5, 6, 7, 8, 9, 10, 11, 12, 13, 0, 0, 1, 0x41, 2, 0, 0, 1, 0x41, 3]

def mixedLimits : PayloadSizeLimits where
  maxPayloadLen := 11
  firstPacketReductionLen := 2
  lastPacketReductionLen := 1
  singlePacketReductionLen := 3

def noParsers : Parsers :=
  ⟨fun _ => (none, none), fun _ => none, fun _ => none⟩

instance (nalu : List Octet) : Decidable (Ordinary nalu) :=
  inferInstanceAs (Decidable (_ ∧ _))

theorem packetize_roundTrip_mixed :
    H264.nalus mixedUnits = [[0x65, 2, 3, 4, 5, 6, 7, 8, 9, 10, 11, 12, 13], [0x41, 2], [0x41, 3]] ∧
    ∃ packets, packetize .nonInterleaved mixedLimits (fun _ => 11) mixedUnits = .ok packets ∧
      packets ≠ [] ∧
      reassemble noParsers none (packets.map Prod.fst) = some (H264.nalus mixedUnits) := by
  refine ⟨by decide, ?_⟩
  obtain ⟨packets, returned, none | ⟨_, joined⟩⟩ := packetize_roundTrip noParsers mixedLimits
    (fun _ => 11) mixedUnits ⟨by decide, by decide, by decide, by decide, by decide⟩
    (fun _ => le_rfl) (by decide) (by decide) (by decide)
  · subst none
    exact absurd returned (by decide)
  · refine ⟨packets, returned, ?_, joined⟩
    rintro rfl
    exact absurd returned (by decide)

/-! ## Sizes that a length field, or an `int`, cannot hold -/

/-- The offsets in an aggregate whose first length field is zero. -/
theorem parseStapAStartOffsets_zeroLength (fuel : Nat) (high low : Octet) (rest : List Octet) :
    parseStapAStartOffsets (fuel + 2) (0 :: 0 :: high :: low :: rest) 0 = none ∨
      ∃ later, parseStapAStartOffsets (fuel + 2) (0 :: 0 :: high :: low :: rest) 0 =
        some (3 :: 5 :: later) := by
  have zero : readBigEndian [0, 0] = 0 := rfl
  rw [parseStapAStartOffsets, zero, if_neg (Nat.not_lt_zero _), List.drop_zero,
    parseStapAStartOffsets]
  split_ifs with tooLong
  · exact .inl rfl
  · cases parseStapAStartOffsets fuel (rest.drop (readBigEndian [high, low]))
      (0 + (kLengthFieldSize + 0) + (kLengthFieldSize + readBigEndian [high, low])) with
    | none => exact .inl rfl
    | some later => exact .inr ⟨later, rfl⟩

theorem processNalus_empty (payload : List Octet) (later : List Nat) (parsed : ParsedRtpPayload) :
    processNalus parsers payload (3 :: 5 :: later) parsed = none := by
  rw [processNalus]
  exact if_pos (by decide)

theorem parse_zeroLength (header high low : Octet) (rest : List Octet) :
    parse parsers (withType header H264.kStapA :: 0 :: 0 :: high :: low :: rest) = none := by
  have isStapA := withType_kStapA header
  have notFuA : withType header H264.kStapA &&& kH264TypeMask ≠ H264.kFuA := by
    rw [isStapA]
    decide
  have long : ¬ (withType header H264.kStapA :: 0 :: 0 :: high :: low :: rest).length ≤
      kStapAHeaderSize := by
    simp [kStapAHeaderSize, kNalHeaderSize, kLengthFieldSize]
  have fuel : (withType header H264.kStapA :: 0 :: 0 :: high :: low :: rest).length =
      rest.length + 3 + 2 := rfl
  rw [parse, if_neg notFuA, processStapAOrSingleNalu, List.getD_cons_zero, if_pos isStapA,
    if_neg long, kNalHeaderSize, List.drop_one, List.tail_cons, fuel]
  rcases parseStapAStartOffsets_zeroLength (rest.length + 3) high low rest with
    failed | ⟨later, returned⟩
  · rw [failed]
    rfl
  · rw [returned, Option.bind_eq_bind, Option.bind_some, List.cons_append, List.cons_append,
      processNalus_empty]

/-- A unit of `size` bytes. -/
def uniform (size : Nat) : List Octet :=
  0x41 :: List.replicate (size - 1) 0x41

theorem length_uniform {size : Nat} (some : 0 < size) : (uniform size).length = size := by
  rw [uniform, List.length_cons, List.length_replicate]
  omega

theorem clear_uniform (size : Nat) : H264.Clear (uniform size) := by
  refine ⟨List.cons_ne_nil _ _, fun byte member => ?_⟩
  rcases List.mem_cons.mp member with rfl | later
  · decide
  · rw [List.eq_of_mem_replicate later]
    decide

theorem ordinary_uniform (size : Nat) : Ordinary (uniform size) := by
  have isHeader : headerOf (uniform size) = 0x41 := rfl
  refine ⟨List.cons_ne_nil _ _, ?_⟩
  rw [isHeader]
  decide

/-- The smallest limit with room for a unit of 65536 bytes and another. -/
def longLimits : PayloadSizeLimits where
  maxPayloadLen := 65542

theorem packetizeStapA_long {body : List Octet} (length : (header :: body).length = 65536) :
    packetizeStapA longLimits 0 [header :: body, [0x41]] =
      .ok (Plan.units (.stapA [header :: body, [0x41]])) := by
  have isMax : uint64 longLimits.maxPayloadLen = 65542 := by decide
  have first : payloadSizeNeeded longLimits (decide (0 = 0)) [[(0x41 : Octet)]].isEmpty
      ((header :: body).length + 0) ≤ 65542 := by
    rw [length]
    decide
  have left : uint64 ((65542 : Nat) - ((header :: body).length : Nat) - (0 : Nat)) = 6 := by
    rw [length]
    decide
  have fits : ((([header :: body, [0x41]] : List (List Octet)).headD []).length ≤ 65542) := by
    rw [List.headD_cons, length]
    decide
  rw [packetizeStapA, isMax, check, if_pos (decide_eq_true fits), stapAUnits, if_pos first, left]
  rfl

theorem generateFrom_long {body : List Octet} (length : (header :: body).length = 65536) :
    generateFrom .nonInterleaved longLimits 2 2 0 [header :: body, [0x41]] =
      .ok (some ([Plan.stapA [header :: body, [0x41]]].flatMap Plan.units, 1)) := by
  have fits : ¬ int32 (header :: body).length >
      longLimits.maxPayloadLen - reductionAt longLimits 2 0 := by
    rw [length]
    decide
  rw [generateFrom, if_neg fits, packetizeStapA_long length]
  rfl

/-- A frame of one unit that is too large for an `int`. -/
theorem generateFrom_huge {unit : List Octet} (huge : unit.length = 2 ^ 31) :
    generateFrom .nonInterleaved {} 1 1 0 [unit] = .error (.check .payloadSizeLeft) := by
  have narrowed : ¬ int32 unit.length >
      ({} : PayloadSizeLimits).maxPayloadLen - reductionAt {} 1 0 := by
    rw [huge]
    decide
  have large : ¬ ([unit].headD []).length ≤ uint64 ({} : PayloadSizeLimits).maxPayloadLen := by
    rw [List.headD_cons, huge]
    decide
  rw [generateFrom, if_neg narrowed, packetizeStapA, check, if_neg]
  · rfl
  · rw [decide_eq_true_eq]
    exact large

theorem packetize_huge :
    H264.nalus (H264.annexB [uniform (2 ^ 31)]) = [uniform (2 ^ 31)] ∧
      packetize .nonInterleaved {} (fun _ => 1200) (H264.annexB [uniform (2 ^ 31)]) =
        .error (.check .payloadSizeLeft) := by
  have found : H264.nalus (H264.annexB [uniform (2 ^ 31)]) = [uniform (2 ^ 31)] :=
    H264.nalus_annexB (List.forall_mem_singleton.mpr (clear_uniform (2 ^ 31)))
  have failed := generateFrom_huge (length_uniform (by decide : 0 < 2 ^ 31))
  have isResult : generateFrom .nonInterleaved {}
      (H264.nalus (H264.annexB [uniform (2 ^ 31)])).length
      (H264.nalus (H264.annexB [uniform (2 ^ 31)])).length 0
      (H264.nalus (H264.annexB [uniform (2 ^ 31)])) = .error (.check .payloadSizeLeft) := by
    rw [found]
    exact failed
  exact ⟨found, (packetize_of_outcome (fun _ => le_rfl) isResult).1 _ rfl⟩

/-- A length field holds sixteen bits, and the size of a fragment is narrowed to an `int`. -/
theorem packetize_roundTrip_fails :
    (∃ packet, H264.nalus (H264.annexB [uniform 65536, [0x41]]) = [uniform 65536, [0x41]] ∧
      Ordinary (uniform 65536) ∧ Ordinary [0x41] ∧
      packetize .nonInterleaved longLimits (fun _ => 65542)
        (H264.annexB [uniform 65536, [0x41]]) = .ok [(packet, true)] ∧
      ∀ parsers, parse parsers packet = none) ∧
    (H264.nalus (H264.annexB [uniform (2 ^ 31)]) = [uniform (2 ^ 31)] ∧
      Ordinary (uniform (2 ^ 31)) ∧
      packetize .nonInterleaved {} (fun _ => 1200) (H264.annexB [uniform (2 ^ 31)]) =
        .error (.check .payloadSizeLeft)) := by
  constructor
  · have length : (uniform 65536).length = 65536 := length_uniform (by decide)
    have found : H264.nalus (H264.annexB [uniform 65536, [0x41]]) = [uniform 65536, [0x41]] :=
      H264.nalus_annexB (List.forall_mem_cons.mpr ⟨clear_uniform 65536,
        List.forall_mem_singleton.mpr ⟨by decide, by decide⟩⟩)
    obtain ⟨one, two, rest, isUnit⟩ : ∃ one two rest, uniform 65536 = one :: two :: rest :=
      ⟨0x41, 0x41, List.replicate 65534 0x41, rfl⟩
    have ordinary := ordinary_uniform 65536
    rw [found]
    rw [isUnit] at length found ordinary ⊢
    have isResult : generateFrom .nonInterleaved longLimits
        (H264.nalus (H264.annexB [one :: two :: rest, [0x41]])).length
        (H264.nalus (H264.annexB [one :: two :: rest, [0x41]])).length 0
        (H264.nalus (H264.annexB [one :: two :: rest, [0x41]])) =
        .ok (some ([Plan.stapA [one :: two :: rest, [0x41]]].flatMap Plan.units, 1)) := by
      rw [found]
      exact generateFrom_long length
    have sound : ∀ plan ∈ [Plan.stapA [one :: two :: rest, [0x41]]],
        plan.Sound longLimits.maxPayloadLen := by
      refine List.forall_mem_singleton.mpr (.stapA le_rfl (by simp) ?_)
      simp only [List.flatMap_cons, List.length_append, length_segment, length]
      decide
    have written : segment (one :: two :: rest) = 0 :: 0 :: one :: two :: rest := by
      rw [RtpPacketizerH264.segment, length]
      rfl
    refine ⟨_, rfl, ordinary, by decide,
      (packetize_of_outcome (fun _ => le_rfl) isResult).2.2 _ _ rfl sound, fun parsers => ?_⟩
    rw [List.flatMap_cons, written]
    exact parse_zeroLength parsers _ _ _ _
  · exact ⟨packetize_huge.1, ordinary_uniform _, packetize_huge.2⟩

end MaeRtc.Rtp
