import MaeRtc.VideoCoding.FrameRelease

/-!
# A decodable unit is found

The search stops at the last continuous frame that is the last of its layers.  Continuity
is settled and every frame of a decodable unit is continuous, so that the search does not
stop before a decodable unit.  It takes a frame that is the last of its layers for the end
of its unit; that is the end of a maximal run of frames with one timestamp if no frame with
that timestamp comes after it.
-/

namespace MaeRtc.VideoCoding

open Base

namespace FrameBuffer

/-- A maximal run of frames with one timestamp, whose last frame is the last of its
layers. -/
structure CompleteUnit (frames before unit after : List FrameInfo) (it : FrameInfo) : Prop where
  split : frames = before ++ unit ++ after
  last : unit.getLast? = some it
  complete : it.isLastFrameInTemporalUnit = true
  same : ∀ other ∈ unit, other.timestamp = it.timestamp
  first : ∀ earlier ∈ before.getLast?, earlier.timestamp ≠ it.timestamp
  maximal : ∀ later ∈ after.head?, later.timestamp ≠ it.timestamp

/-- Every reference was decoded or is in the unit. -/
def DecodableUnit (history : DecodedFramesHistory) (unit : List FrameInfo) : Prop :=
  ∀ it ∈ unit, ∀ reference ∈ it.encodedFrame.references,
    history.wasDecoded reference = true ∨ ∃ other ∈ unit, other.frameId = reference

theorem decodableUnit_iff {history : DecodedFramesHistory} {unit : List FrameInfo} :
    DecodableUnit history unit ↔ temporalUnitDecodable history unit = true := by
  simp only [DecodableUnit, temporalUnitDecodable, List.all_eq_true, FrameInfo.references_eq,
    Bool.or_eq_true, decide_eq_true_eq, List.mem_map]

/-- A frame that is the last of its layers is the last with its timestamp. -/
def Layered (frames : List EncodedFrame) : Prop :=
  frames.Pairwise fun one two =>
    one.rtpTimestamp = two.rtpTimestamp → one.isLastSpatialLayer = false

section

variable {buffer : FrameBuffer} {extracted : List EncodedFrame} {it : FrameInfo}

section

variable {frames before unit after : List FrameInfo}
  (complete : CompleteUnit frames before unit after it)
include complete

theorem CompleteUnit.endsWithUnit : EndsWithUnit (before ++ unit) before unit it :=
  ⟨rfl, complete.last, complete.same, complete.first⟩

/-- The search knows a complete unit at its last frame. -/
theorem CompleteUnit.decodableAt {history : DecodedFramesHistory}
    (decodable : DecodableUnit history unit) :
    ∃ front, unit = front ++ [it] ∧ DecodableAt history (before ++ front) it := by
  obtain ⟨front, rfl⟩ := List.getLast?_eq_some_iff.mp complete.last
  refine ⟨front, rfl, complete.complete, ?_⟩
  rw [List.append_assoc, unitOf_eq complete.endsWithUnit]
  exact decodableUnit_iff.mp decodable

end

/-- The search does not stop before a decodable unit. -/
theorem Sound.next_isSome (sound : buffer.Sound extracted) {before unit after : List FrameInfo}
    (complete : CompleteUnit buffer.frames before unit after it)
    (decodable : DecodableUnit buffer.decodedFrameHistory unit) :
    buffer.nextDecodableTemporalUnit ≠ none := by
  have continuous := sound.unit_continuous complete.split (decodableUnit_iff.mp decodable) it
    (List.mem_of_getLast? complete.last)
  have member : it ∈ buffer.frames := by
    rw [complete.split]
    simp [List.mem_of_getLast? complete.last]
  obtain ⟨last, isLast, reached⟩ := sound.propagated.reached it (by simpa using member) continuous
    complete.complete
  obtain ⟨front, rfl, decodableAt⟩ := complete.decodableAt decodable
  have split : buffer.frames = (before ++ front) ++ it :: after := by
    rw [complete.split]
    simp
  have sorted := sound.entries.sorted
  rw [split, List.pairwise_append] at sorted
  have allReached : ∀ other ∈ before ++ front ++ [it], other.frameId ≤ last := by
    refine List.forall_mem_append.mpr ⟨fun other isBefore => ?_,
      List.forall_mem_singleton.mpr reached⟩
    exact (sorted.2.2 other isBefore it List.mem_cons_self).le.trans reached
  rw [← sound.fresh]
  unfold findNextAndLastDecodableTemporalUnit
  rw [Option.mem_def.mp isLast]
  exact findDecodable_complete [] split allReached decodableAt

section

variable {between after : List FrameInfo} {before : List FrameInfo}
  (split : buffer.frames = between ++ it :: after)
  (layered : Layered (buffer.frames.map FrameInfo.encodedFrame))
  (isLast : it.isLastFrameInTemporalUnit = true)
  (ends : EndsWithUnit (between ++ [it]) before (unitOf (between ++ [it])) it)
include split layered isLast ends

/-- The unit that is found is a complete one. -/
theorem complete_of_layered :
    CompleteUnit buffer.frames before (unitOf (between ++ [it])) after it := by
  refine ⟨?_, ends.last, isLast, ends.same, ends.maximal, fun later isLater same => ?_⟩
  · rw [← ends.split, split, List.append_assoc]
    rfl
  · rw [Layered, List.pairwise_map, split, List.pairwise_append, List.pairwise_cons] at layered
    have notLast := layered.2.1.1 later (List.mem_of_head? isLater) same.symm
    exact Bool.false_ne_true (notLast.symm.trans isLast)

/-- The unit that is found begins before any other that is complete and decodable. -/
theorem first_of_layered
    (first : ∀ earlier other later, between = earlier ++ other :: later →
      ¬ DecodableAt buffer.decodedFrameHistory earlier other)
    {otherBefore otherUnit otherAfter : List FrameInfo} {other : FrameInfo}
    (complete : CompleteUnit buffer.frames otherBefore otherUnit otherAfter other)
    (decodable : DecodableUnit buffer.decodedFrameHistory otherUnit) :
    before.length ≤ otherBefore.length := by
  have beforeLe : before.length ≤ (between ++ [it]).length := by
    rw [ends.split]
    simp
  obtain ⟨front, isFront, decodableAt⟩ := complete.decodableAt decodable
  have same : otherBefore ++ (otherUnit ++ otherAfter) = (between ++ [it]) ++ after := by
    rw [← List.append_assoc, ← complete.split, split]
    simp
  -- where the other unit ends: before this frame, with it, or after it
  have together : between ++ [it] = otherBefore ++ otherUnit → before.length ≤ otherBefore.length := by
    intro isSame
    have sameUnit := unitOf_eq complete.endsWithUnit
    have isSplit := ends.split
    rw [isSame, sameUnit] at isSplit
    rw [List.append_cancel_right isSplit]
  rcases List.append_eq_append_iff.mp same with ⟨rest, isBetween, isRest⟩ | ⟨rest, isBefore, _⟩
  · rcases List.append_eq_append_iff.mp isRest with ⟨more, rfl, _⟩ | ⟨more, isUnit, isAfter⟩
    · rcases List.eq_nil_or_concat more with rfl | ⟨later, final, rfl⟩
      · rw [List.append_nil] at isBetween
        exact together isBetween
      · rw [List.concat_eq_append, ← List.append_assoc, ← List.append_assoc] at isBetween
        have isEarlier := (List.append_singleton_inj.mp isBetween).1
        rw [isFront] at isEarlier
        exact absurd decodableAt (first (otherBefore ++ front) other later (by simp [isEarlier]))
    · rcases List.eq_nil_or_concat rest with rfl | ⟨earlier, final, rfl⟩
      · rw [← isBetween.trans (List.append_nil _)]
        exact beforeLe
      rw [List.concat_eq_append, ← List.append_assoc] at isBetween
      obtain rfl := (List.append_singleton_inj.mp isBetween).2
      rcases List.eq_nil_or_concat more with rfl | ⟨later, last, rfl⟩
      · refine together ?_
        rw [isUnit, isBetween]
        simp
      have isOther : last = other := by
        have isLastOf := complete.last
        rw [isUnit, later.concat_eq_append, ← List.append_assoc, List.getLast?_concat] at isLastOf
        exact Option.some.inj isLastOf
      have sameTimestamp := complete.same it (by rw [isUnit]; simp)
      rw [Layered, List.pairwise_map, split, List.pairwise_append, List.pairwise_cons] at layered
      have notLast := layered.2.1.1 other (by rw [isAfter, ← isOther]; simp) sameTimestamp
      exact absurd (notLast.symm.trans isLast) Bool.false_ne_true
  · rw [isBefore, List.length_append]
    omega

end

/-- If a complete unit is decodable, the first such unit is what is extracted. -/
theorem Sound.extract_first (sound : buffer.Sound extracted)
    (layered : Layered (buffer.frames.map FrameInfo.encodedFrame))
    {before unit after : List FrameInfo}
    (complete : CompleteUnit buffer.frames before unit after it)
    (decodable : DecodableUnit buffer.decodedFrameHistory unit) :
    ∃ before unit after first it left, CompleteUnit buffer.frames before unit after it ∧
      DecodableUnit buffer.decodedFrameHistory unit ∧
      (∀ otherBefore otherUnit otherAfter other,
        CompleteUnit buffer.frames otherBefore otherUnit otherAfter other →
        DecodableUnit buffer.decodedFrameHistory otherUnit → before.length ≤ otherBefore.length) ∧
      unit.head? = some first ∧
      buffer.nextDecodableTemporalUnit = some ⟨first.frameId, it.frameId⟩ ∧
      buffer.extractNextDecodableTemporalUnit = .ok (unit.map FrameInfo.encodedFrame, left) := by
  obtain ⟨next, isNext⟩ := Option.ne_none_iff_exists'.mp (sound.next_isSome complete decodable)
  obtain ⟨between, found, rest, split, ⟨isLast, isDecodable⟩, rfl, isFirst⟩ :=
    sound.next_first isNext
  obtain ⟨start, ends⟩ := unitOf_spec between found
  obtain ⟨first, others, isUnit, _⟩ := ends.head
  have isComplete := complete_of_layered split layered isLast ends
  have isHead : (unitOf (between ++ [found])).head? = some first := by
    rw [isUnit]
    rfl
  have isFound : buffer.nextDecodableTemporalUnit = some ⟨first.frameId, found.frameId⟩ := by
    rw [isNext, isUnit]
    rfl
  obtain ⟨left, returned, _⟩ :=
    sound.extract_unit isComplete.split isHead isComplete.last isDecodable isFound
  exact ⟨start, _, rest, first, found, left, isComplete, decodableUnit_iff.mpr isDecodable,
    fun _ _ _ _ => first_of_layered split layered isLast ends isFirst, isHead, isFound, returned⟩

end

end FrameBuffer

/-! ## Runs -/

namespace WatchedFrames

open FrameBuffer

/-- Among the frames with one timestamp only the last one may be the last of its layers. -/
def Ordered (state : WatchedFrames) : FrameCall → Prop
  | .insertFrame frame => ∀ it ∈ state.buffer.frames, it.timestamp = frame.rtpTimestamp →
      (it.isLastFrameInTemporalUnit = true → frame.id ≤ it.frameId) ∧
      (frame.isLastSpatialLayer = true → it.frameId ≤ frame.id)
  | _ => True

theorem layered_insert {before rest : List FrameInfo} {frame : EncodedFrame}
    (layered : Layered ((before ++ rest).map FrameInfo.encodedFrame))
    (below : ∀ it ∈ before, it.frameId < frame.id) (above : ∀ it ∈ rest, frame.id < it.frameId)
    (ordered : ∀ it ∈ before ++ rest, it.timestamp = frame.rtpTimestamp →
      (it.isLastFrameInTemporalUnit = true → frame.id ≤ it.frameId) ∧
      (frame.isLastSpatialLayer = true → it.frameId ≤ frame.id)) :
    Layered ((before ++ { encodedFrame := frame } :: rest).map FrameInfo.encodedFrame) := by
  rw [Layered, List.pairwise_map, List.pairwise_append] at layered ⊢
  rw [List.forall_mem_append] at ordered
  refine ⟨layered.1, List.pairwise_cons.mpr ⟨fun it member same => ?_, layered.2.1⟩,
    fun one isOne => List.forall_mem_cons.mpr ⟨fun same => ?_, layered.2.2 one isOne⟩⟩
  · rw [Bool.eq_false_iff]
    intro isLast
    have := (ordered.2 it member same.symm).2 isLast
    have := above it member
    omega
  · rw [Bool.eq_false_iff]
    intro isLast
    have := (ordered.1 one isOne same).1 isLast
    have := below one isOne
    omega

structure Progresses (maxSize : Nat) (state : WatchedFrames) : Prop extends state.InStep maxSize where
  layered : Layered (state.buffer.frames.map FrameInfo.encodedFrame)

theorem Progresses.next {maxSize : Nat} {state : WatchedFrames} (progresses : state.Progresses maxSize)
    {call : FrameCall} (regular : state.Regular call) (ordered : state.Ordered call) :
    (watchFrames.next state call).Progresses maxSize := by
  refine ⟨progresses.toInStep.next regular, ?_⟩
  have sound := progresses.sound
  have layered := progresses.layered
  have fewer : ∀ {buffer : FrameBuffer}, buffer.frames.Sublist state.buffer.frames →
      Layered (buffer.frames.map FrameInfo.encodedFrame) :=
    fun isFewer => layered.sublist (isFewer.map _)
  cases call with
  | insertFrame frame =>
    have insertion := sound.insertion regular.1 frame
    simp only [watchFrames]
    generalize state.buffer.insertFrame frame = inserted at insertion ⊢
    cases insertion with
    | rejected => exact layered
    | accepted base cleared before rest isBase valid newer space split below above =>
      have inBase : base.frames.Sublist state.buffer.frames := by
        rcases isBase with ⟨rfl, _⟩ | ⟨rfl, _⟩
        · exact List.Sublist.refl _
        · exact List.nil_sublist _
      obtain ⟨_, _, isFound⟩ := find_eq (base.propagateContinuity before
        ({ encodedFrame := frame } :: rest))
      rw [isFound]
      rw [encodedFrames_propagateContinuity]
      have isLayered := fewer inBase
      rw [split] at isLayered inBase
      exact layered_insert isLayered below above fun it member =>
        ordered it (inBase.subset member)
  | extractNextDecodableTemporalUnit =>
    obtain ⟨⟨unit, buffer⟩, returned, _, _, isFewer⟩ := sound.extract
    simp only [watchFrames, returned]
    exact fewer isFewer
  | dropNextDecodableTemporalUnit =>
    obtain ⟨buffer, returned, _, _, isFewer⟩ := sound.drop
    simp only [watchFrames, returned]
    exact fewer isFewer

theorem progresses_of_run {legacy : Bool} {maxSize maxDecodeHistory : Nat} {calls : List FrameCall}
    {last : WatchedFrames}
    (run : (watchFrames.restrict fun state call => state.Regular call ∧ state.Ordered call).Run
      (.start legacy maxSize maxDecodeHistory) calls last) : last.Progresses maxSize :=
  run.invariant (fun _ state => state.Progresses maxSize)
    ⟨⟨sound_new legacy maxSize maxDecodeHistory, rfl, rfl⟩, .nil⟩
    fun _ _ _ _ holds admissible => holds.next admissible.2.1 admissible.2.2

end WatchedFrames

/--
In every run with regular frames whose layers are ordered: if the buffer holds a complete
unit that is decodable, the next unit is set, and extraction returns the first such unit.
-/
theorem extracts_first_decodable (legacy : Bool) (maxSize maxDecodeHistory : Nat)
    (calls : List FrameCall) (last : WatchedFrames)
    (run : (watchFrames.restrict fun state call => state.Regular call ∧ state.Ordered call).Run
      (.start legacy maxSize maxDecodeHistory) calls last)
    (before unit after : List FrameInfo) (it : FrameInfo)
    (complete : FrameBuffer.CompleteUnit last.buffer.frames before unit after it)
    (decodable : FrameBuffer.DecodableUnit last.buffer.decodedFrameHistory unit) :
    ∃ before unit after first it left,
      FrameBuffer.CompleteUnit last.buffer.frames before unit after it ∧
      FrameBuffer.DecodableUnit last.buffer.decodedFrameHistory unit ∧
      (∀ otherBefore otherUnit otherAfter other,
        FrameBuffer.CompleteUnit last.buffer.frames otherBefore otherUnit otherAfter other →
        FrameBuffer.DecodableUnit last.buffer.decodedFrameHistory otherUnit →
          before.length ≤ otherBefore.length) ∧
      unit.head? = some first ∧
      last.buffer.nextDecodableTemporalUnit = some ⟨first.frameId, it.frameId⟩ ∧
      last.buffer.extractNextDecodableTemporalUnit =
        .ok (unit.map FrameInfo.encodedFrame, left) := by
  have progresses := WatchedFrames.progresses_of_run run
  exact progresses.sound.extract_first progresses.layered complete decodable

instance (state : WatchedFrames) : ∀ call, Decidable (state.Ordered call)
  | .insertFrame _ => inferInstanceAs (Decidable (∀ it ∈ state.buffer.frames, _ → _))
  | .extractNextDecodableTemporalUnit => isTrue trivial
  | .dropNextDecodableTemporalUnit => isTrue trivial

instance (state : WatchedFrames) (call : FrameCall) :
    Decidable ((watchFrames.restrict fun state call =>
      state.Regular call ∧ state.Ordered call).pre state call) :=
  inferInstanceAs (Decidable (True ∧ state.Regular call ∧ state.Ordered call))

/-- Two layers of a unit, and a frame of a later unit that misses its reference. -/
def layersAndGap : List FrameCall :=
  [.insertFrame { id := 5, rtpTimestamp := 30, references := [4] }, .insertFrame
     { id := 1, rtpTimestamp := 10, references := [0]
       numReferences_le := EncodedFrame.zeroReference_le },
   .insertFrame
     { id := 0, rtpTimestamp := 10, isLastSpatialLayer := false
       numReferences_le := EncodedFrame.noReferences_le }]

def lowerLayer : FrameInfo where
  encodedFrame :=
    { id := 0, rtpTimestamp := 10, isLastSpatialLayer := false
      numReferences_le := EncodedFrame.noReferences_le }
  continuous := true

def upperLayer : FrameInfo where
  encodedFrame :=
    { id := 1, rtpTimestamp := 10, references := [0]
      numReferences_le := EncodedFrame.zeroReference_le }
  continuous := true

def afterGap : FrameInfo where
  encodedFrame := { id := 5, rtpTimestamp := 30, references := [4] }

theorem extracts_first_layersAndGap :
    ∃ before unit after first it left,
      FrameBuffer.CompleteUnit [lowerLayer, upperLayer, afterGap] before unit after it ∧
      unit.head? = some first ∧
      (watchFrames.outcome (.start true 5 3) layersAndGap).buffer.nextDecodableTemporalUnit =
        some ⟨first.frameId, it.frameId⟩ ∧
      (watchFrames.outcome (.start true 5 3) layersAndGap).buffer.extractNextDecodableTemporalUnit =
        .ok (unit.map FrameInfo.encodedFrame, left) := by
  have admitted : (watchFrames.restrict fun state call =>
      state.Regular call ∧ state.Ordered call).Admits (.start true 5 3) layersAndGap := by
    decide +kernel
  have isFrames : (watchFrames.outcome (.start true 5 3) layersAndGap).buffer.frames =
      [lowerLayer, upperLayer, afterGap] := by decide +kernel
  have complete : FrameBuffer.CompleteUnit
      (watchFrames.outcome (.start true 5 3) layersAndGap).buffer.frames []
      [lowerLayer, upperLayer] [afterGap] upperLayer :=
    ⟨isFrames, rfl, rfl, by decide, by simp, by decide⟩
  obtain ⟨before, unit, after, first, it, left, isComplete, _, _, isHead, isNext, returned⟩ :=
    extracts_first_decodable true 5 3 layersAndGap _ admitted.run _ _ _ _ complete
      (by unfold FrameBuffer.DecodableUnit; decide +kernel)
  exact ⟨before, unit, after, first, it, left, isComplete, isHead, isNext, returned⟩

/--
With a window of three frames, extracting 0 makes the history say that -1 was decoded, but
the frame that refers to -1 is not continuous and is not found.  And of two frames with one
timestamp that are both the last of their layers only the first one is extracted.
-/
theorem misses_decodable :
    (∃ calls last before unit after it, watchFrames.Run (.start true 10 3) calls last ∧
      FrameBuffer.CompleteUnit last.buffer.frames before unit after it ∧
      FrameBuffer.DecodableUnit last.buffer.decodedFrameHistory unit ∧
      last.buffer.nextDecodableTemporalUnit = none) ∧
    ∃ calls last unit it extracted left, watchFrames.Run (.start true 10 8) calls last ∧
      FrameBuffer.CompleteUnit last.buffer.frames [] unit [] it ∧
      FrameBuffer.DecodableUnit last.buffer.decodedFrameHistory unit ∧
      last.buffer.extractNextDecodableTemporalUnit = .ok (extracted, left) ∧
      extracted ≠ unit.map FrameInfo.encodedFrame := by
  constructor
  · have admitted : watchFrames.Admits (.start true 10 3)
        [.insertFrame { id := 1, rtpTimestamp := 20, references := [-1] },
         .insertFrame { id := 0, rtpTimestamp := 10 },
         .extractNextDecodableTemporalUnit] :=
      Machine.admits_of_forall (fun _ _ _ => trivial) _
    refine ⟨_, _, [], [{ encodedFrame := { id := 1, rtpTimestamp := 20, references := [-1] } }], [],
      { encodedFrame := { id := 1, rtpTimestamp := 20, references := [-1] } }, admitted.run,
      ⟨by decide +kernel, rfl, rfl, by simp, by simp, by simp⟩, ?_, by decide +kernel⟩
    unfold FrameBuffer.DecodableUnit
    decide +kernel
  · have admitted : watchFrames.Admits (.start true 10 8)
        [.insertFrame { id := 0, rtpTimestamp := 10 },
         .insertFrame { id := 1, rtpTimestamp := 10 }] :=
      Machine.admits_of_forall (fun _ _ _ => trivial) _
    refine ⟨_, _, [⟨{ id := 0, rtpTimestamp := 10 }, false, true⟩,
      ⟨{ id := 1, rtpTimestamp := 10 }, false, true⟩], ⟨{ id := 1, rtpTimestamp := 10 }, false, true⟩,
      _, _, admitted.run, ⟨by decide +kernel, rfl, rfl, by decide, by simp, by simp⟩, ?_, rfl,
      by decide +kernel⟩
    unfold FrameBuffer.DecodableUnit
    decide +kernel

end MaeRtc.VideoCoding
