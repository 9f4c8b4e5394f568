import MaeRtc.Base.Machine
import MaeRtc.VideoCoding.FrameEntries

/-!
# Frames are released in a decodable order

Beside the buffer, the frames that were extracted since it was last cleared are kept.  The
history agrees with them, the entries are newer, and the unit that may be extracted next is
what a new search would find.
-/

namespace MaeRtc.VideoCoding

open Base

namespace FrameBuffer

/-- Each frame comes after all the frames it refers to. -/
def Released (extracted : List EncodedFrame) : Prop :=
  ∀ before frame after, extracted = before ++ frame :: after →
    ∀ reference ∈ frame.references, ∃ earlier ∈ before, earlier.id = reference

theorem Released.snoc {extracted : List EncodedFrame} (released : Released extracted)
    {frame : EncodedFrame}
    (follows : ∀ reference ∈ frame.references, ∃ earlier ∈ extracted, earlier.id = reference) :
    Released (extracted ++ [frame]) := by
  intro before other after split reference isReference
  rcases List.eq_nil_or_concat after with rfl | ⟨front, last, rfl⟩
  · obtain ⟨rfl, rfl⟩ := List.append_singleton_inj.mp split
    exact follows reference isReference
  · rw [List.concat_eq_append, ← List.cons_append, ← List.append_assoc] at split
    exact released before other front (List.append_singleton_inj.mp split).1 reference isReference

structure Sound (buffer : FrameBuffer) (extracted : List EncodedFrame) : Prop where
  entries : Entries buffer.decodedFrameHistory.buffer.length extracted buffer.frames
  propagated : Propagated buffer.decodedFrameHistory buffer.lastContinuousTemporalUnitFrameId
    buffer.frames []
  remembers : buffer.decodedFrameHistory.Remembers (extracted.map EncodedFrame.id).reverse
  fits : buffer.frames.length ≤ buffer.maxSize
  released : Released extracted
  fresh : buffer.findNextAndLastDecodableTemporalUnit = buffer

theorem find_eq (buffer : FrameBuffer) : ∃ next info,
    buffer.findNextAndLastDecodableTemporalUnit =
      { buffer with nextDecodableTemporalUnit := next, decodableTemporalUnitsInfo := info } := by
  unfold findNextAndLastDecodableTemporalUnit
  cases buffer.lastContinuousTemporalUnitFrameId with
  | none => exact ⟨none, none, rfl⟩
  | some last => exact ⟨_, _, rfl⟩

theorem find_find (buffer : FrameBuffer) :
    buffer.findNextAndLastDecodableTemporalUnit.findNextAndLastDecodableTemporalUnit =
      buffer.findNextAndLastDecodableTemporalUnit := by
  cases isLast : buffer.lastContinuousTemporalUnitFrameId with
  | none => simp [findNextAndLastDecodableTemporalUnit, isLast]
  | some last => simp [findNextAndLastDecodableTemporalUnit, isLast]

section

variable {buffer : FrameBuffer} {extracted : List EncodedFrame}

theorem Sound.of_find
    (entries : Entries buffer.decodedFrameHistory.buffer.length extracted buffer.frames)
    (propagated : Propagated buffer.decodedFrameHistory buffer.lastContinuousTemporalUnitFrameId
      buffer.frames [])
    (remembers : buffer.decodedFrameHistory.Remembers (extracted.map EncodedFrame.id).reverse)
    (fits : buffer.frames.length ≤ buffer.maxSize) (released : Released extracted) :
    buffer.findNextAndLastDecodableTemporalUnit.Sound extracted ∧
      buffer.findNextAndLastDecodableTemporalUnit.maxSize = buffer.maxSize := by
  have fresh := find_find buffer
  obtain ⟨next, info, isFound⟩ := find_eq buffer
  rw [isFound] at fresh ⊢
  exact ⟨⟨entries, propagated, remembers, fits, released, fresh⟩, rfl⟩

theorem sound_new (legacy : Bool) (maxSize maxDecodeHistory : Nat) :
    (new legacy maxSize maxDecodeHistory).Sound [] :=
  ⟨⟨.nil, by simp [new]⟩, ⟨by simp [new], by simp [new]⟩, DecodedFramesHistory.remembers_new _,
    Nat.zero_le _, fun before _ _ split => by simp at split, rfl⟩

theorem sound_clear (buffer : FrameBuffer) : buffer.clear.Sound [] :=
  ⟨⟨.nil, by simp [clear]⟩, ⟨by simp [clear], by simp [clear]⟩,
    DecodedFramesHistory.remembers_clear _, Nat.zero_le _,
    fun before _ _ split => by simp at split, rfl⟩

/-! ## Insertion -/

/-- What an insertion does: nothing, or the frame is inserted, possibly into a buffer that
was cleared for it. -/
inductive Insertion (buffer : FrameBuffer) (frame : EncodedFrame) : Inserted → Prop where
  | rejected : Insertion buffer frame ⟨buffer, false, false⟩
  | accepted (base : FrameBuffer) (cleared : Bool) (before rest : List FrameInfo)
      (isBase : (base = buffer ∧ cleared = false) ∨ (base = buffer.clear ∧ cleared = true))
      (valid : validReferences frame = true)
      (newer : ∀ last ∈ base.decodedFrameHistory.lastDecodedFrame, last < frame.id)
      (space : base.frames.length < base.maxSize)
      (split : base.frames = before ++ rest)
      (below : ∀ it ∈ before, it.frameId < frame.id)
      (above : ∀ it ∈ rest, frame.id < it.frameId) :
      Insertion buffer frame
        ⟨(base.propagateContinuity before
          ({ encodedFrame := frame } :: rest)).findNextAndLastDecodableTemporalUnit, true, cleared⟩

variable {frame : EncodedFrame} {base : FrameBuffer}

section

variable {cleared : Bool} (valid : validReferences frame = true)
  (isBase : (base = buffer ∧ cleared = false) ∨ (base = buffer.clear ∧ cleared = true))
  (newer : ∀ last ∈ base.decodedFrameHistory.lastDecodedFrame, last < frame.id)
include valid isBase newer

theorem emplaceFrame_cases
    (sorted : base.frames.Pairwise fun one two => one.frameId < two.frameId)
    (space : base.frames.length < base.maxSize) :
    Insertion buffer frame (base.emplaceFrame frame cleared) := by
  have below : ∀ it ∈ base.frames.takeWhile fun it => it.frameId < frame.id,
      it.frameId < frame.id := fun it member => by simpa using List.mem_takeWhile_imp member
  have split := (@List.takeWhile_append_dropWhile _
    (fun it : FrameInfo => decide (it.frameId < frame.id)) base.frames).symm
  unfold emplaceFrame
  dsimp only
  split_ifs with isThere
  · rcases isBase with ⟨rfl, rfl⟩ | ⟨rfl, rfl⟩
    · exact .rejected
    · simp [clear] at isThere
  refine .accepted base cleared _ _ isBase valid newer space split below ?_
  cases isRest : base.frames.dropWhile fun it => it.frameId < frame.id with
  | nil => simp
  | cons head tail =>
    have notBelow : ¬ head.frameId < frame.id := by
      have := List.head?_dropWhile_not (fun it : FrameInfo => it.frameId < frame.id) base.frames
      rw [isRest] at this
      simpa using this
    rw [isRest] at isThere
    have notSame : head.frameId ≠ frame.id := by simpa using isThere
    rw [split, isRest, List.pairwise_append, List.pairwise_cons] at sorted
    refine List.forall_mem_cons.mpr ⟨by omega, fun it member => ?_⟩
    have := sorted.2.1.1 it member
    omega

theorem insertIntoSpace_cases (sound : ∃ extracted, base.Sound extracted)
    (notEmpty : 0 < base.maxSize) :
    Insertion buffer frame (base.insertIntoSpace frame cleared) := by
  obtain ⟨extracted, sound⟩ := sound
  unfold insertIntoSpace
  by_cases isFull : base.frames.length = base.maxSize
  · -- a buffer that was just cleared is not full
    obtain ⟨rfl, rfl⟩ : base = buffer ∧ cleared = false := by
      refine isBase.resolve_right fun ⟨isCleared, _⟩ => ?_
      rw [isCleared] at isFull notEmpty
      exact notEmpty.ne isFull
    split_ifs
    · exact emplaceFrame_cases valid (.inr ⟨rfl, rfl⟩)
        (by simp [clear, DecodedFramesHistory.clear]) .nil notEmpty
    · exact .rejected
  · rw [if_neg isFull]
    exact emplaceFrame_cases valid isBase newer sound.entries.sorted
      (lt_of_le_of_ne sound.fits isFull)

end

theorem Sound.insertion (sound : buffer.Sound extracted) (notEmpty : 0 < buffer.maxSize)
    (frame : EncodedFrame) : Insertion buffer frame (buffer.insertFrame frame) := by
  unfold insertFrame
  split_ifs with invalid isOld jumps
  · exact .rejected
  · exact insertIntoSpace_cases (by simpa using invalid) (.inr ⟨rfl, rfl⟩)
      (by simp [clear, DecodedFramesHistory.clear]) ⟨[], sound_clear buffer⟩ notEmpty
  · exact .rejected
  · refine insertIntoSpace_cases (by simpa using invalid) (.inl ⟨rfl, rfl⟩) (fun last isLast => ?_)
      ⟨_, sound⟩ notEmpty
    rw [isLast] at isOld
    simpa using isOld

variable {before : List FrameInfo}

theorem Sound.accepted (sound : base.Sound extracted)
    (regular : RegularFrame base.decodedFrameHistory.buffer.length frame)
    (valid : validReferences frame = true)
    (newer : ∀ last ∈ base.decodedFrameHistory.lastDecodedFrame, last < frame.id)
    (space : base.frames.length < base.maxSize) {rest : List FrameInfo}
    (split : base.frames = before ++ rest) (below : ∀ it ∈ before, it.frameId < frame.id)
    (above : ∀ it ∈ rest, frame.id < it.frameId) :
    let after := (base.propagateContinuity before
      ({ encodedFrame := frame } :: rest)).findNextAndLastDecodableTemporalUnit
    after.Sound extracted ∧ after.maxSize = base.maxSize := by
  have entry : Entry base.decodedFrameHistory.buffer.length extracted
      { encodedFrame := frame } := by
    refine ⟨rfl, regular, backward_of_validReferencesOf valid, fun old isOld => ?_⟩
    have isDecoded : old.id ∈ (extracted.map EncodedFrame.id).reverse := by
      simpa using ⟨old, isOld, rfl⟩
    obtain ⟨last, isLast⟩ : ∃ last, (extracted.map EncodedFrame.id).reverse.head? = some last :=
      ⟨_, List.head?_eq_some_head (List.ne_nil_of_mem isDecoded)⟩
    exact (sound.remembers.lt_of_mem isLast isDecoded).trans_lt
      (newer last (sound.remembers.lastDecoded.trans isLast))
  have entries : Entries base.decodedFrameHistory.buffer.length extracted
      (before ++ { encodedFrame := frame } :: rest) := by
    obtain ⟨sorted, each⟩ := sound.entries
    rw [split, List.pairwise_append] at sorted
    rw [split, List.forall_mem_append] at each
    refine ⟨List.pairwise_append.mpr ⟨sorted.1, List.pairwise_cons.mpr ⟨above, sorted.2.1⟩, ?_⟩,
      List.forall_mem_append.mpr ⟨each.1, List.forall_mem_cons.mpr ⟨entry, each.2⟩⟩⟩
    exact fun one isOne => List.forall_mem_cons.mpr ⟨below one isOne, sorted.2.2 one isOne⟩
  have propagated : Propagated base.decodedFrameHistory base.lastContinuousTemporalUnitFrameId
      before ({ encodedFrame := frame } :: rest) := by
    obtain ⟨settled, reached⟩ := sound.propagated
    rw [List.append_nil, split, List.forall_mem_append] at reached
    refine ⟨fun it member follows => ?_, ?_⟩
    · rw [split] at settled
      refine settled it (List.mem_append_left _ member) fun reference isReference => ?_
      exact (follows reference isReference).imp id fun ⟨other, isOther, is⟩ =>
        ⟨other, List.mem_append_left _ isOther, is⟩
    · exact List.forall_mem_append.mpr ⟨reached.1, List.forall_mem_cons.mpr
        ⟨nofun, reached.2⟩⟩
  obtain ⟨afterEntries, afterPropagated, sameHistory, sameSize⟩ :=
    propagateContinuity_spec entries propagated
  have sameLength := congrArg List.length (encodedFrames_propagateContinuity base before
    ({ encodedFrame := frame } :: rest))
  rw [List.length_map, List.length_map] at sameLength
  obtain ⟨isSound, isSize⟩ := Sound.of_find (by rw [sameHistory]; exact afterEntries)
    afterPropagated (by rw [sameHistory]; exact sound.remembers)
    (by
      rw [sameLength, sameSize]
      rw [split] at space
      simp only [List.length_append, List.length_cons] at space ⊢
      omega) sound.released
  exact ⟨isSound, isSize.trans sameSize⟩

/-- An insertion keeps the buffer sound; nothing was extracted since it was cleared. -/
theorem Sound.insertFrame (sound : buffer.Sound extracted) (notEmpty : 0 < buffer.maxSize)
    (regular : RegularFrame buffer.decodedFrameHistory.buffer.length frame) :
    (buffer.insertFrame frame).buffer.Sound
        (if (buffer.insertFrame frame).cleared then [] else extracted) ∧
      (buffer.insertFrame frame).buffer.maxSize = buffer.maxSize := by
  have insertion := sound.insertion notEmpty frame
  generalize buffer.insertFrame frame = inserted at insertion ⊢
  cases insertion with
  | rejected => exact ⟨sound, rfl⟩
  | accepted base cleared before rest isBase valid newer space split below above =>
    rcases isBase with ⟨rfl, rfl⟩ | ⟨rfl, rfl⟩
    · exact sound.accepted regular valid newer space split below above
    · refine (sound_clear buffer).accepted ?_ valid newer space split below above
      rw [clear, DecodedFramesHistory.clear, length_fill]
      exact regular

/-! ## Extraction -/

section

variable {next : TemporalUnit} (sound : buffer.Sound extracted)
  (isNext : buffer.nextDecodableTemporalUnit = some next)
include sound isNext

/-- The unit that may be extracted next is the first that is decodable. -/
theorem Sound.next_first :
    ∃ between it after, buffer.frames = between ++ it :: after ∧
      DecodableAt buffer.decodedFrameHistory between it ∧
      next = ⟨((unitOf (between ++ [it])).headD it).frameId, it.frameId⟩ ∧
      ∀ earlier other later, between = earlier ++ other :: later →
        ¬ DecodableAt buffer.decodedFrameHistory earlier other := by
  have fresh := congrArg nextDecodableTemporalUnit sound.fresh
  rw [isNext] at fresh
  unfold findNextAndLastDecodableTemporalUnit at fresh
  cases isLast : buffer.lastContinuousTemporalUnitFrameId with
  | none =>
    rw [isLast] at fresh
    cases fresh
  | some last =>
    rw [isLast] at fresh
    exact findDecodable_first fresh

/-- The frames of the unit, and those before and after it. -/
theorem Sound.next_unit :
    ∃ before unit after first it, buffer.frames = before ++ unit ++ after ∧
      unit.head? = some first ∧ unit.getLast? = some it ∧
      temporalUnitDecodable buffer.decodedFrameHistory unit = true ∧
      next = ⟨first.frameId, it.frameId⟩ := by
  obtain ⟨between, it, after, split, ⟨_, decodable⟩, isUnit, _⟩ := sound.next_first isNext
  obtain ⟨before, ends⟩ := unitOf_spec between it
  obtain ⟨first, rest, isFirst, _⟩ := ends.head
  refine ⟨before, _, after, first, it, ?_, by rw [isFirst]; rfl, ends.last, decodable, ?_⟩
  · rw [← ends.split, split, List.append_assoc]
    rfl
  · rw [isUnit, isFirst]
    rfl

end

/-- The frames before a unit, in it and after it, by their ids. -/
structure Cut (before unit after : List FrameInfo) (next : TemporalUnit) : Prop where
  below : ∀ other ∈ before, other.frameId < next.firstFrame
  inside : ∀ other ∈ unit, next.firstFrame ≤ other.frameId ∧ other.frameId ≤ next.lastFrame
  above : ∀ other ∈ after, next.lastFrame < other.frameId
  first : ∃ other ∈ unit, other.frameId = next.firstFrame
  last : ∃ other ∈ unit, other.frameId = next.lastFrame

variable {unit after : List FrameInfo} {it : FrameInfo}

theorem cut_of_sorted {first : FrameInfo}
    (sorted : (before ++ unit ++ after).Pairwise fun one two => one.frameId < two.frameId)
    (isFirst : unit.head? = some first) (isLast : unit.getLast? = some it) :
    Cut before unit after ⟨first.frameId, it.frameId⟩ := by
  rw [List.pairwise_append, List.pairwise_append] at sorted
  obtain ⟨⟨_, sortedUnit, toUnit⟩, _, toAfter⟩ := sorted
  have firstMember : first ∈ unit := List.mem_of_head? isFirst
  have lastMember : it ∈ unit := List.mem_of_getLast? isLast
  refine ⟨fun other member => toUnit other member first firstMember, fun other member => ⟨?_, ?_⟩,
    fun other member => toAfter it (List.mem_append_right _ lastMember) other member,
    ⟨first, firstMember, rfl⟩, ⟨it, lastMember, rfl⟩⟩
  · obtain ⟨rest, rfl⟩ := List.head?_eq_some_iff.mp isFirst
    rcases List.mem_cons.mp member with rfl | later
    · exact le_refl _
    · exact (List.rel_of_pairwise_cons sortedUnit later).le
  · obtain ⟨front, rfl⟩ := List.getLast?_eq_some_iff.mp isLast
    rw [List.pairwise_append] at sortedUnit
    rcases List.mem_append.mp member with earlier | isIt
    · exact (sortedUnit.2.2 other earlier it (by simp)).le
    · rw [List.mem_singleton.mp isIt]

variable {history : DecodedFramesHistory}

namespace Cut

variable {before unit after : List FrameInfo} {next : TemporalUnit}

section

variable (cut : Cut before unit after next)
include cut

theorem pointsInto (isFrames : buffer.frames = before ++ unit ++ after) :
    buffer.pointsInto next = true := by
  obtain ⟨first, isFirst, firstId⟩ := cut.first
  obtain ⟨last, isLast, lastId⟩ := cut.last
  have inFrames : ∀ other ∈ unit, other ∈ buffer.frames := by
    intro other member
    rw [isFrames]
    simp [member]
  unfold FrameBuffer.pointsInto
  rw [Bool.and_eq_true, Bool.and_eq_true]
  refine ⟨⟨List.any_eq_true.mpr ⟨first, inFrames first isFirst, decide_eq_true firstId⟩,
    List.any_eq_true.mpr ⟨last, inFrames last isLast, decide_eq_true lastId⟩⟩, ?_⟩
  exact decide_eq_true ((cut.inside first isFirst).1.trans (cut.inside first isFirst).2)

theorem filter_after :
    (before ++ unit ++ after).filter (fun it => next.lastFrame < it.frameId) = after := by
  obtain ⟨other, isOther, _⟩ := cut.first
  have order := cut.inside other isOther
  rw [List.filter_append, List.filter_eq_nil_iff.mpr, List.filter_eq_self.mpr, List.nil_append]
  · exact fun it member => decide_eq_true (cut.above it member)
  · refine List.forall_mem_append.mpr ⟨fun it member => ?_, fun it member => ?_⟩
    · have := cut.below it member
      simp only [decide_eq_true_eq]
      omega
    · have := cut.inside it member
      simp only [decide_eq_true_eq]
      omega

theorem filter_unit :
    (before ++ unit ++ after).filter (fun it =>
      next.firstFrame ≤ it.frameId && it.frameId ≤ next.lastFrame) = unit := by
  rw [List.filter_append, List.filter_append, List.filter_eq_nil_iff.mpr, List.filter_eq_self.mpr,
    List.filter_eq_nil_iff.mpr, List.nil_append, List.append_nil]
  · intro it member
    have := cut.above it member
    simp only [Bool.and_eq_true, decide_eq_true_eq]
    omega
  · intro it member
    simpa using cut.inside it member
  · intro it member
    have := cut.below it member
    simp only [Bool.and_eq_true, decide_eq_true_eq]
    omega

/-- The frames of the unit are moved out of their entries. -/
theorem map_moved :
    ((before ++ unit ++ after).map fun it =>
      if next.firstFrame ≤ it.frameId && it.frameId ≤ next.lastFrame then
        { it with moved := true } else it) =
      before ++ unit.map (fun it => { it with moved := true }) ++ after := by
  have outside : ∀ others : List FrameInfo,
      (∀ it ∈ others, it.frameId < next.firstFrame ∨ next.lastFrame < it.frameId) →
      (others.map fun it => if next.firstFrame ≤ it.frameId && it.frameId ≤ next.lastFrame then
        { it with moved := true } else it) = others := by
    intro others isOutside
    refine (List.map_congr_left fun it member => ?_).trans (List.map_id others)
    have := isOutside it member
    refine if_neg ?_
    simp only [Bool.and_eq_true, decide_eq_true_eq]
    omega
  rw [List.map_append, List.map_append, outside before fun it member => .inl (cut.below it member),
    outside after fun it member => .inr (cut.above it member)]
  congr 2
  refine List.map_congr_left fun it member => if_pos ?_
  simpa using cut.inside it member

theorem moved : Cut before (unit.map fun it => { it with moved := true }) after next := by
  obtain ⟨below, inside, above, ⟨first, isFirst, firstId⟩, ⟨last, isLast, lastId⟩⟩ := cut
  refine ⟨below, ?_, above, ⟨_, List.mem_map_of_mem isFirst, firstId⟩,
    ⟨_, List.mem_map_of_mem isLast, lastId⟩⟩
  intro other member
  obtain ⟨it, isIt, rfl⟩ := List.mem_map.mp member
  exact inside it isIt

end

variable (cut : Cut before unit after next) (isNext : buffer.nextDecodableTemporalUnit = some next)
  (isFrames : buffer.frames = before ++ unit ++ after)
include cut isNext isFrames

theorem dropNext :
    ∃ dropped, buffer.dropNextDecodableTemporalUnit =
      .ok { buffer with
        numDroppedFrames := dropped
        frames := after }.findNextAndLastDecodableTemporalUnit := by
  unfold dropNextDecodableTemporalUnit
  rw [isNext]
  dsimp only
  rw [check, if_pos (cut.pointsInto isFrames), isFrames, cut.filter_after]
  exact ⟨_, rfl⟩

/-- Extracting the unit leaves the frames after it, and its frames are decoded. -/
theorem extractNext (isDecoded : decodeFrames buffer.decodedFrameHistory unit = .ok history) :
    ∃ dropped, buffer.extractNextDecodableTemporalUnit =
      .ok (unit.map FrameInfo.encodedFrame, { buffer with
        decodedFrameHistory := history
        numDroppedFrames := dropped
        frames := after }.findNextAndLastDecodableTemporalUnit) := by
  obtain ⟨dropped, isDropped⟩ := @Cut.dropNext { buffer with
    decodedFrameHistory := history
    frames := before ++ unit.map (fun it => { it with moved := true }) ++ after } _ _ _ _
    cut.moved isNext rfl
  refine ⟨dropped, ?_⟩
  unfold extractNextDecodableTemporalUnit
  rw [isNext]
  dsimp only
  rw [check, if_pos (cut.pointsInto isFrames), isFrames, cut.filter_unit, isDecoded, cut.map_moved]
  dsimp only [bind, Except.bind]
  rw [isNext] at isDropped
  rw [isDropped]

end Cut

variable {before unit after : List FrameInfo} {reference : Int}

section

variable (sound : buffer.Sound extracted)
include sound

/-- A reference of a decodable unit was decoded, or is earlier in the unit. -/
theorem Sound.unit_reference {front back : List FrameInfo}
    (isFrames : buffer.frames = before ++ (front ++ it :: back) ++ after)
    (decodable : temporalUnitDecodable buffer.decodedFrameHistory (front ++ it :: back) = true)
    (isReference : reference ∈ it.encodedFrame.references) :
    buffer.decodedFrameHistory.wasDecoded reference = true ∨
      ∃ other ∈ front, other.frameId = reference := by
  have inUnit : (front ++ it :: back).Sublist buffer.frames := by
    rw [isFrames, List.append_assoc]
    exact (List.sublist_append_left _ _).trans (List.sublist_append_right _ _)
  have here := List.all_eq_true.mp decodable it (by simp)
  rw [FrameInfo.references_eq, List.all_eq_true] at here
  rcases (Bool.or_eq_true _ _).mp (here reference isReference) with decoded | isInside
  · exact .inl decoded
  · obtain ⟨other, isOther, rfl⟩ := List.mem_map.mp (of_decide_eq_true isInside)
    exact .inr ⟨other, (sound.entries.sublist inUnit).mem_before isOther isReference, rfl⟩

/-- Along a decodable unit everything is continuous. -/
theorem Sound.unit_continuous (isFrames : buffer.frames = before ++ unit ++ after)
    (decodable : temporalUnitDecodable buffer.decodedFrameHistory unit = true) :
    ∀ it ∈ unit, it.continuous = true := by
  -- in the order of the ids, since a frame's references in the unit are before it
  have upTo : ∀ front back, unit = front ++ back → ∀ it ∈ front, it.continuous = true := by
    intro front
    induction front using List.reverseRecOn with
    | nil => simp
    | append_singleton front it ih =>
      intro back split
      rw [List.append_assoc] at split
      have earlier := ih ([it] ++ back) split
      subst split
      have inFrames : ∀ other ∈ front ++ [it], other ∈ buffer.frames := by
        intro other member
        rw [isFrames]
        simp only [List.mem_append] at member ⊢
        tauto
      refine List.forall_mem_append.mpr ⟨earlier, List.forall_mem_singleton.mpr ?_⟩
      refine sound.propagated.settled it (inFrames it (by simp)) fun reference isReference => ?_
      refine (sound.unit_reference isFrames decodable isReference).imp id ?_
      rintro ⟨other, isOther, isThis⟩
      exact ⟨other, inFrames other (List.mem_append_left _ isOther), isThis, earlier other isOther⟩
  exact upTo unit [] (by simp)

theorem Sound.mem_of_wasDecoded
    (addressable : Addressable buffer.decodedFrameHistory.buffer.length reference)
    (decoded : buffer.decodedFrameHistory.wasDecoded reference = true) :
    ∃ frame ∈ extracted, frame.id = reference := by
  have member := ((sound.remembers.wasDecoded_iff addressable).mp decoded).1
  simpa using member

/-- A decodable unit may be released after what was extracted. -/
theorem Sound.unit_released (isFrames : buffer.frames = before ++ unit ++ after)
    (decodable : temporalUnitDecodable buffer.decodedFrameHistory unit = true) :
    Released (extracted ++ unit.map FrameInfo.encodedFrame) := by
  have upTo : ∀ front back, unit = front ++ back →
      Released (extracted ++ front.map FrameInfo.encodedFrame) := by
    intro front
    induction front using List.reverseRecOn with
    | nil =>
      simpa using sound.released
    | append_singleton front it ih =>
      intro back split
      rw [List.append_assoc] at split
      have earlier := ih ([it] ++ back) split
      subst split
      have entry := sound.entries.each it (by rw [isFrames]; simp)
      rw [List.map_append, ← List.append_assoc]
      refine earlier.snoc fun reference isReference => ?_
      rcases sound.unit_reference isFrames decodable isReference with decoded | inFront
      · obtain ⟨frame, isFrame, isThis⟩ :=
          sound.mem_of_wasDecoded (entry.regular.references reference isReference) decoded
        exact ⟨frame, List.mem_append_left _ isFrame, isThis⟩
      · obtain ⟨other, isOther, isThis⟩ := inFront
        exact ⟨other.encodedFrame, List.mem_append_right _ (List.mem_map_of_mem isOther), isThis⟩
  exact upTo unit [] (by simp)

end

theorem decodeFrames_remembers {decoded : List Int} (remembers : history.Remembers decoded)
    (entries : Entries history.buffer.length extracted unit)
    (newer : ∀ it ∈ unit, ∀ last ∈ decoded.head?, last < it.frameId) :
    Ensures (decodeFrames history unit) fun after =>
      after.Remembers ((unit.map FrameInfo.frameId).reverse ++ decoded) ∧
        after.buffer.length = history.buffer.length := by
  induction unit generalizing history decoded with
  | nil => exact .ok ⟨by simpa using remembers, rfl⟩
  | cons it rest ih =>
    obtain ⟨sorted, each⟩ := entries
    obtain ⟨newerHere, newerLater⟩ := List.forall_mem_cons.mp newer
    obtain ⟨entry, eachLater⟩ := List.forall_mem_cons.mp each
    rw [List.pairwise_cons] at sorted
    refine (Ensures.check (by rw [entry.unmoved]; rfl)).bind fun _ _ => ?_
    refine (remembers.insertDecoded entry.regular.range entry.regular.addressable newerHere
      it.timestamp).bind fun middle ⟨remembered, sameLength⟩ => ?_
    refine (ih remembered ⟨sorted.2, sameLength.symm ▸ eachLater⟩ ?_).weaken
      fun after ⟨isRemembered, isLength⟩ => ⟨?_, isLength.trans sameLength⟩
    · rintro other member _ ⟨⟩
      exact sorted.1 other member
    · rw [List.map_cons, List.reverse_cons, List.append_assoc]
      exact isRemembered

/-- What stays settled when frames are dropped, or decoded while they are continuous. -/
theorem Propagated.fewer {later : DecodedFramesHistory} {lastContinuous : Option Int}
    {frames : List FrameInfo} (propagated : Propagated history lastContinuous frames [])
    (fewer : after.Sublist frames)
    (follows : ∀ it ∈ after, ∀ reference ∈ it.encodedFrame.references,
      later.wasDecoded reference = true → Follows history frames reference) :
    Propagated later lastContinuous after [] := by
  have reached := propagated.reached
  rw [List.append_nil] at reached
  refine ⟨fun it member isFollowed => ?_, ?_⟩
  · refine propagated.settled it (fewer.subset member) fun reference isReference => ?_
    rcases isFollowed reference isReference with decoded | ⟨other, isOther, is⟩
    · exact follows it member reference isReference decoded
    · exact .inr ⟨other, fewer.subset isOther, is⟩
  · rw [List.append_nil]
    exact fun it member => reached it (fewer.subset member)

theorem sublist_after (isFrames : buffer.frames = before ++ unit ++ after) :
    after.Sublist buffer.frames := by
  rw [isFrames]
  exact List.sublist_append_right _ _

variable (sound : buffer.Sound extracted)
include sound

theorem Sound.drop :
    Ensures buffer.dropNextDecodableTemporalUnit fun after =>
      after.Sound extracted ∧ after.maxSize = buffer.maxSize ∧
        after.frames.Sublist buffer.frames := by
  cases isNext : buffer.nextDecodableTemporalUnit with
  | none =>
    unfold dropNextDecodableTemporalUnit
    rw [isNext]
    exact .ok ⟨sound, rfl, List.Sublist.refl _⟩
  | some next =>
    obtain ⟨before, unit, after, first, it, isFrames, isFirst, isLast, decodable, rfl⟩ :=
      sound.next_unit isNext
    have sorted := sound.entries.sorted
    rw [isFrames] at sorted
    obtain ⟨dropped, isDropped⟩ := (cut_of_sorted sorted isFirst isLast).dropNext isNext isFrames
    have fewer := sublist_after isFrames
    rw [isDropped]
    obtain ⟨isSound, isSize⟩ := @Sound.of_find
      { buffer with numDroppedFrames := dropped, frames := after } extracted
      (sound.entries.sublist fewer)
      (sound.propagated.fewer fewer fun _ _ _ _ decoded => .inl decoded) sound.remembers
      (fewer.length_le.trans sound.fits) sound.released
    refine .ok ⟨isSound, isSize, ?_⟩
    obtain ⟨_, _, isFound⟩ := find_eq { buffer with numDroppedFrames := dropped, frames := after }
    rw [isFound]
    exact fewer

/-- What was decoded before or after a unit of continuous frames. -/
theorem Sound.follows_of_decoded (inFrames : ∀ it ∈ unit, it ∈ buffer.frames)
    (continuous : ∀ it ∈ unit, it.continuous = true) {later : DecodedFramesHistory}
    (sameLength : later.buffer.length = buffer.decodedFrameHistory.buffer.length)
    (remembers : later.Remembers ((extracted ++ unit.map FrameInfo.encodedFrame).map
      EncodedFrame.id).reverse)
    (addressable : Addressable buffer.decodedFrameHistory.buffer.length reference)
    (decoded : later.wasDecoded reference = true) :
    Follows buffer.decodedFrameHistory buffer.frames reference := by
  rw [remembers.wasDecoded_iff (sameLength.symm ▸ addressable), sameLength] at decoded
  obtain ⟨member, isRecent⟩ := decoded
  rw [List.mem_reverse, List.map_append, List.mem_append] at member
  rcases member with before | inUnit
  · left
    rw [sound.remembers.wasDecoded_iff addressable]
    refine ⟨List.mem_reverse.mpr before, fun last isLast => ?_⟩
    -- the last frame is not after the last one of the unit
    have stays : last ∈ ((extracted ++ unit.map FrameInfo.encodedFrame).map
        EncodedFrame.id).reverse := by
      rw [List.mem_reverse, List.map_append, List.mem_append]
      exact .inl (List.mem_reverse.mp (List.mem_of_head? isLast))
    obtain ⟨newest, isNewest⟩ : ∃ newest, ((extracted ++ unit.map FrameInfo.encodedFrame).map
        EncodedFrame.id).reverse.head? = some newest :=
      ⟨_, List.head?_eq_some_head (List.ne_nil_of_mem stays)⟩
    have := remembers.lt_of_mem isNewest stays
    have := isRecent newest isNewest
    omega
  · obtain ⟨frame, isFrame, rfl⟩ := List.mem_map.mp inUnit
    obtain ⟨it, isIt, rfl⟩ := List.mem_map.mp isFrame
    exact .inr ⟨it, inFrames it isIt, rfl, continuous it isIt⟩

/-- What extraction does to a buffer with a next unit. -/
theorem Sound.extract_unit {first : FrameInfo} (isFrames : buffer.frames = before ++ unit ++ after)
    (isFirst : unit.head? = some first) (isLast : unit.getLast? = some it)
    (decodable : temporalUnitDecodable buffer.decodedFrameHistory unit = true)
    (isNext : buffer.nextDecodableTemporalUnit = some ⟨first.frameId, it.frameId⟩) :
    ∃ left, buffer.extractNextDecodableTemporalUnit =
        .ok (unit.map FrameInfo.encodedFrame, left) ∧
      left.Sound (extracted ++ unit.map FrameInfo.encodedFrame) ∧
      left.maxSize = buffer.maxSize ∧ left.frames.Sublist buffer.frames := by
  have sorted := sound.entries.sorted
  rw [isFrames] at sorted
  have cut := cut_of_sorted sorted isFirst isLast
  have inUnit : unit.Sublist buffer.frames := by
    rw [isFrames, List.append_assoc]
    exact (List.sublist_append_left _ _).trans (List.sublist_append_right _ _)
  have newer : ∀ other ∈ unit, ∀ last ∈ (extracted.map EncodedFrame.id).reverse.head?,
      last < other.frameId := by
    intro other member last isLast
    obtain ⟨frame, isFrame, rfl⟩ : ∃ frame ∈ extracted, frame.id = last := by
      simpa using List.mem_of_head? isLast
    exact (sound.entries.each other (inUnit.subset member)).newer frame isFrame
  obtain ⟨history, isDecoded, remembers, sameLength⟩ :=
    decodeFrames_remembers sound.remembers (sound.entries.sublist inUnit) newer
  obtain ⟨dropped, isExtracted⟩ := cut.extractNext isNext isFrames isDecoded
  have fewer := sublist_after isFrames
  have decodedIds : (unit.map FrameInfo.frameId).reverse ++
      (extracted.map EncodedFrame.id).reverse =
        ((extracted ++ unit.map FrameInfo.encodedFrame).map EncodedFrame.id).reverse := by
    rw [List.map_append, List.reverse_append, List.map_map]
    rfl
  rw [decodedIds] at remembers
  have entries : Entries history.buffer.length (extracted ++ unit.map FrameInfo.encodedFrame)
      after := by
    refine ⟨sound.entries.sorted.sublist fewer, fun other member => ?_⟩
    obtain ⟨unmoved, regular, backward, newer⟩ := sound.entries.each other (fewer.subset member)
    refine ⟨unmoved, sameLength.symm ▸ regular, backward,
      List.forall_mem_append.mpr ⟨newer, fun frame isFrame => ?_⟩⟩
    obtain ⟨inside, isInside, rfl⟩ := List.mem_map.mp isFrame
    exact (cut.inside inside isInside).2.trans_lt (cut.above other member)
  have propagated := sound.propagated.fewer fewer fun other member reference isReference =>
    sound.follows_of_decoded inUnit.subset (sound.unit_continuous isFrames decodable) sameLength
      remembers ((sound.entries.each other (fewer.subset member)).regular.references reference
        isReference)
  obtain ⟨isSound, isSize⟩ := @Sound.of_find
    { buffer with decodedFrameHistory := history, numDroppedFrames := dropped, frames := after } _
    entries propagated remembers (fewer.length_le.trans sound.fits)
    (sound.unit_released isFrames decodable)
  refine ⟨_, isExtracted, isSound, isSize, ?_⟩
  obtain ⟨_, _, isFound⟩ := find_eq
    { buffer with decodedFrameHistory := history, numDroppedFrames := dropped, frames := after }
  rw [isFound]
  exact fewer

/-- Extraction returns frames that may be released, and keeps the buffer sound. -/
theorem Sound.extract :
    Ensures buffer.extractNextDecodableTemporalUnit fun result =>
      result.2.Sound (extracted ++ result.1) ∧ result.2.maxSize = buffer.maxSize ∧
        result.2.frames.Sublist buffer.frames := by
  cases isNext : buffer.nextDecodableTemporalUnit with
  | none =>
    unfold extractNextDecodableTemporalUnit
    rw [isNext]
    exact .ok ⟨by rw [List.append_nil]; exact sound, rfl, List.Sublist.refl _⟩
  | some next =>
    obtain ⟨before, unit, after, first, it, isFrames, isFirst, isLast, decodable, rfl⟩ :=
      sound.next_unit isNext
    obtain ⟨left, returned, holds⟩ := sound.extract_unit isFrames isFirst isLast decodable isNext
    exact ⟨_, returned, holds⟩

end

end FrameBuffer

/-! ## Runs -/

inductive FrameCall where
  | insertFrame (frame : EncodedFrame)
  | extractNextDecodableTemporalUnit
  | dropNextDecodableTemporalUnit
  deriving DecidableEq, Repr

/-- The buffer, the frames extracted since it was last cleared, and an assertion that
failed. -/
structure WatchedFrames where
  buffer : FrameBuffer
  extracted : List EncodedFrame := []
  fault : Option FrameViolation := none
  deriving DecidableEq, Repr

namespace WatchedFrames

def start (legacyFrameIdJumpBehavior : Bool) (maxSize maxDecodeHistory : Nat) : WatchedFrames where
  buffer := .new legacyFrameIdJumpBehavior maxSize maxDecodeHistory

end WatchedFrames

/-- The calls in any order. -/
def watchFrames : Machine WatchedFrames FrameCall where
  pre _ _ := True
  next state
    | .insertFrame frame =>
      let inserted := state.buffer.insertFrame frame
      { state with
        buffer := inserted.buffer
        extracted := if inserted.cleared then [] else state.extracted }
    | .extractNextDecodableTemporalUnit =>
      match state.buffer.extractNextDecodableTemporalUnit with
      | .error violation => { state with fault := some violation }
      | .ok (unit, buffer) =>
        { state with buffer := buffer, extracted := state.extracted ++ unit }
    | .dropNextDecodableTemporalUnit =>
      match state.buffer.dropNextDecodableTemporalUnit with
      | .error violation => { state with fault := some violation }
      | .ok buffer => { state with buffer := buffer }

namespace WatchedFrames

/-- The buffer has room for a frame, and a frame that is inserted is regular for the
window of its history. -/
def Regular (state : WatchedFrames) : FrameCall → Prop
  | .insertFrame frame => 0 < state.buffer.maxSize ∧
      RegularFrame state.buffer.decodedFrameHistory.buffer.length frame
  | _ => True

structure InStep (maxSize : Nat) (state : WatchedFrames) : Prop where
  sound : state.buffer.Sound state.extracted
  sameSize : state.buffer.maxSize = maxSize
  noFault : state.fault = none

theorem InStep.next {maxSize : Nat} {state : WatchedFrames} (inStep : state.InStep maxSize)
    {call : FrameCall} (regular : state.Regular call) :
    (watchFrames.next state call).InStep maxSize := by
  obtain ⟨sound, sameSize, noFault⟩ := inStep
  cases call with
  | insertFrame frame =>
    obtain ⟨isSound, isSize⟩ := sound.insertFrame regular.1 regular.2
    exact ⟨isSound, isSize.trans sameSize, noFault⟩
  | extractNextDecodableTemporalUnit =>
    obtain ⟨⟨unit, buffer⟩, returned, isSound, isSize, _⟩ := sound.extract
    simp only [watchFrames, returned]
    exact ⟨isSound, isSize.trans sameSize, noFault⟩
  | dropNextDecodableTemporalUnit =>
    obtain ⟨buffer, returned, isSound, isSize, _⟩ := sound.drop
    simp only [watchFrames, returned]
    exact ⟨isSound, isSize.trans sameSize, noFault⟩

theorem inStep_of_run {legacy : Bool} {maxSize maxDecodeHistory : Nat} {calls : List FrameCall}
    {last : WatchedFrames}
    (run : (watchFrames.restrict Regular).Run (.start legacy maxSize maxDecodeHistory) calls last) :
    last.InStep maxSize :=
  run.invariant (fun _ state => state.InStep maxSize)
    ⟨FrameBuffer.sound_new legacy maxSize maxDecodeHistory, rfl, rfl⟩
    fun _ _ _ _ holds admissible => holds.next admissible.2

end WatchedFrames

/--
In every run with regular frames: no assertion fails, each extracted frame comes after all
the frames it refers to, ids increase, the next unit's iterators point into the map, and
the map does not outgrow its limit.
-/
theorem releases_decodable (legacy : Bool) (maxSize maxDecodeHistory : Nat)
    (calls : List FrameCall) (last : WatchedFrames)
    (run : (watchFrames.restrict WatchedFrames.Regular).Run
      (.start legacy maxSize maxDecodeHistory) calls last) :
    last.fault = none ∧
    (∀ before frame after, last.extracted = before ++ frame :: after →
      ∀ reference ∈ frame.references, ∃ earlier ∈ before, earlier.id = reference) ∧
    (last.extracted.map EncodedFrame.id).Pairwise (· < ·) ∧
    (∀ unit ∈ last.buffer.nextDecodableTemporalUnit,
      (∃ first ∈ last.buffer.frames, first.frameId = unit.firstFrame) ∧
      ∃ it ∈ last.buffer.frames, it.frameId = unit.lastFrame) ∧
    last.buffer.frames.length ≤ maxSize := by
  obtain ⟨sound, sameSize, noFault⟩ := WatchedFrames.inStep_of_run run
  refine ⟨noFault, sound.released, ?_, ?_, sameSize ▸ sound.fits⟩
  · exact List.pairwise_reverse.mp sound.remembers.ordered
  · intro unit isNext
    obtain ⟨before, frames, after, first, it, isFrames, isFirst, isLast, _, rfl⟩ :=
      sound.next_unit isNext
    have inFrames : ∀ other ∈ frames, other ∈ last.buffer.frames := by
      intro other member
      rw [isFrames]
      simp [member]
    exact ⟨⟨first, inFrames first (List.mem_of_head? isFirst), rfl⟩,
      ⟨it, inFrames it (List.mem_of_getLast? isLast), rfl⟩⟩

instance (window : Nat) (id : Int) : Decidable (InRange window id) :=
  decidable_of_iff (0 < window ∧ window < 2 ^ 31 ∧ -2 ^ 62 ≤ id ∧ id < 2 ^ 62)
    ⟨fun ⟨positive, window_lt, lower, upper⟩ => ⟨positive, window_lt, lower, upper⟩,
      fun range => ⟨range.positive, range.window_lt, range.lower, range.upper⟩⟩

instance (window : Nat) (frame : EncodedFrame) : Decidable (RegularFrame window frame) :=
  decidable_of_iff (InRange window frame.id ∧ Addressable window frame.id ∧
      ∀ reference ∈ frame.references, Addressable window reference)
    ⟨fun ⟨range, addressable, references⟩ => ⟨range, addressable, references⟩,
      fun regular => ⟨regular.range, regular.addressable, regular.references⟩⟩

instance decidableRegularCall (state : WatchedFrames) : ∀ call, Decidable (state.Regular call)
  | .insertFrame _ => inferInstanceAs (Decidable (_ ∧ _))
  | .extractNextDecodableTemporalUnit => isTrue trivial
  | .dropNextDecodableTemporalUnit => isTrue trivial

instance (state : WatchedFrames) (call : FrameCall) :
    Decidable ((watchFrames.restrict WatchedFrames.Regular).pre state call) :=
  inferInstanceAs (Decidable (True ∧ state.Regular call))

/-- Two layers of one unit arrive before the key frame they depend on. -/
def layersBeforeKeyframe : List FrameCall :=
  [.insertFrame { id := 1, rtpTimestamp := 20, references := [0] },
   .insertFrame { id := 0, rtpTimestamp := 20, references := [-1], isLastSpatialLayer := false },
   .extractNextDecodableTemporalUnit,
   .insertFrame { id := -1, rtpTimestamp := 10 },
   .extractNextDecodableTemporalUnit,
   .extractNextDecodableTemporalUnit]

theorem releases_layersBeforeKeyframe :
    (watchFrames.outcome (.start true 3 8) layersBeforeKeyframe).extracted.map EncodedFrame.id =
        [-1, 0, 1] ∧
      (watchFrames.outcome (.start true 3 8) layersBeforeKeyframe).fault = none := by
  have admitted : (watchFrames.restrict WatchedFrames.Regular).Admits (.start true 3 8)
      layersBeforeKeyframe := by decide +kernel
  have holds := releases_decodable true 3 8 layersBeforeKeyframe _ admitted.run
  exact ⟨by decide +kernel, holds.1⟩

/-- With a window of three frames the index of -1 is that of 0: a frame is extracted
although the frame it refers to was not. -/
theorem releases_undecodable :
    ∃ calls last, watchFrames.Run (.start true 10 3) calls last ∧
      ∃ frame ∈ last.extracted, ∃ reference ∈ frame.references,
        ∀ earlier ∈ last.extracted, earlier.id ≠ reference := by
  have admitted : watchFrames.Admits (.start true 10 3)
      [.insertFrame { id := 0, rtpTimestamp := 10 }, .extractNextDecodableTemporalUnit,
       .insertFrame { id := 1, rtpTimestamp := 20, references := [-1] },
       .extractNextDecodableTemporalUnit] :=
    Machine.admits_of_forall (fun _ _ _ => trivial) _
  exact ⟨_, _, admitted.run, by decide +kernel⟩

end MaeRtc.VideoCoding
