import MaeRtc.VideoCoding.TemporalUnits

/-!
# The entries of the frame buffer

What is true of every entry, how the continuity of frames is propagated through them, and
what erasing and extracting a unit leaves.  The continuity of frames is settled: a frame
all of whose references were decoded or are continuous is marked as continuous.
-/

namespace MaeRtc.VideoCoding

open Base

/-- The index of the frame's id and those of its references are their remainders, and no
difference of ids overflows. -/
structure RegularFrame (window : Nat) (frame : EncodedFrame) : Prop where
  range : InRange window frame.id
  addressable : Addressable window frame.id
  references : ∀ reference ∈ frame.references, Addressable window reference

@[simp] theorem FrameInfo.references_eq (it : FrameInfo) :
    it.references = it.encodedFrame.references :=
  List.take_of_length_le it.encodedFrame.numReferences_le

theorem backward_of_validReferencesOf {id : Int} {references : List Int}
    (valid : validReferencesOf id references = true) : ∀ reference ∈ references, reference < id := by
  induction references with
  | nil => simp
  | cons reference rest ih =>
    simp only [validReferencesOf, Bool.and_eq_true, decide_eq_true_eq] at valid
    exact List.forall_mem_cons.mpr ⟨valid.1.1, ih valid.2⟩

namespace FrameBuffer

/-- An entry, if these frames were extracted since the buffer was last cleared. -/
structure Entry (window : Nat) (extracted : List EncodedFrame) (it : FrameInfo) : Prop where
  unmoved : it.moved = false
  regular : RegularFrame window it.encodedFrame
  backward : ∀ reference ∈ it.encodedFrame.references, reference < it.frameId
  newer : ∀ frame ∈ extracted, frame.id < it.frameId

structure Entries (window : Nat) (extracted : List EncodedFrame) (frames : List FrameInfo) :
    Prop where
  sorted : frames.Pairwise fun one two => one.frameId < two.frameId
  each : ∀ it ∈ frames, Entry window extracted it

section

variable {window : Nat} {extracted : List EncodedFrame}

theorem Entries.sublist {some all : List FrameInfo} (entries : Entries window extracted all)
    (fewer : some.Sublist all) : Entries window extracted some :=
  ⟨entries.sorted.sublist fewer, fun it member => entries.each it (fewer.subset member)⟩

theorem Entries.eq_of_frameId {frames : List FrameInfo} (entries : Entries window extracted frames)
    {one two : FrameInfo} (isOne : one ∈ frames) (isTwo : two ∈ frames)
    (same : one.frameId = two.frameId) : one = two := by
  have sorted := List.pairwise_iff_getElem.mp entries.sorted
  obtain ⟨i, iLt, rfl⟩ := List.mem_iff_getElem.mp isOne
  obtain ⟨j, jLt, rfl⟩ := List.mem_iff_getElem.mp isTwo
  rcases lt_trichotomy i j with before | rfl | after
  · exact absurd same (sorted i j iLt jLt before).ne
  · rfl
  · exact absurd same (sorted j i jLt iLt after).ne'

variable {before rest : List FrameInfo} {it : FrameInfo}
  (entries : Entries window extracted (before ++ it :: rest))
include entries

/-- Marking a frame as continuous changes nothing else. -/
theorem Entries.mark :
    Entries window extracted (before ++ { it with continuous := true } :: rest) := by
  obtain ⟨sorted, each⟩ := entries
  rw [List.pairwise_append, List.pairwise_cons] at sorted
  rw [List.forall_mem_append, List.forall_mem_cons] at each
  obtain ⟨sortedBefore, ⟨below, sortedRest⟩, across⟩ := sorted
  obtain ⟨eachBefore, ⟨unmoved, regular, backward, newer⟩, eachRest⟩ := each
  constructor
  · refine List.pairwise_append.mpr ⟨sortedBefore, List.pairwise_cons.mpr ⟨below, sortedRest⟩, ?_⟩
    intro one isBefore
    obtain ⟨first, later⟩ := List.forall_mem_cons.mp (across one isBefore)
    exact List.forall_mem_cons.mpr ⟨first, later⟩
  · exact List.forall_mem_append.mpr ⟨eachBefore,
      List.forall_mem_cons.mpr ⟨⟨unmoved, regular, backward, newer⟩, eachRest⟩⟩

/-- A reference of an entry is to one before it. -/
theorem Entries.mem_before {other : FrameInfo} (member : other ∈ before ++ it :: rest)
    (isReference : other.frameId ∈ it.encodedFrame.references) : other ∈ before := by
  have backward := (entries.each it (by simp)).backward _ isReference
  have sorted := entries.sorted
  rw [List.pairwise_append, List.pairwise_cons] at sorted
  rcases List.mem_append.mp member with isBefore | notBefore
  · exact isBefore
  · rcases List.mem_cons.mp notBefore with rfl | after
    · omega
    · have := sorted.2.1.1 other after
      omega

end

/-! ## Continuity -/

/-- The reference was decoded, or is continuous. -/
def Follows (history : DecodedFramesHistory) (frames : List FrameInfo) (reference : Int) : Prop :=
  history.wasDecoded reference = true ∨
    ∃ other ∈ frames, other.frameId = reference ∧ other.continuous = true

/-- While continuity is propagated: what is passed is settled, and the last continuous
frame that is the last of its layers is known. -/
structure Propagated (history : DecodedFramesHistory) (lastContinuous : Option Int)
    (before rest : List FrameInfo) : Prop where
  settled : ∀ it ∈ before,
    (∀ reference ∈ it.encodedFrame.references, Follows history before reference) →
      it.continuous = true
  reached : ∀ it ∈ before ++ rest, it.continuous = true → it.isLastFrameInTemporalUnit = true →
    ∃ last ∈ lastContinuous, it.frameId ≤ last

theorem le_raise {last : Option Int} {id lower : Int}
    (below : lower = id ∨ ∃ before ∈ last, lower ≤ before) :
    ∃ after ∈ raise last id, lower ≤ after := by
  unfold raise
  cases last with
  | none => exact ⟨id, rfl, by simpa using below.elim (fun same => same.le) (by simp)⟩
  | some before =>
    rw [Option.all_some]
    by_cases isLower : before < id
    · rw [if_pos (decide_eq_true isLower)]
      refine ⟨id, rfl, ?_⟩
      rcases below with same | ⟨_, ⟨⟩, le⟩
      · exact same.le
      · omega
    · rw [if_neg (by simpa using isLower)]
      refine ⟨before, rfl, ?_⟩
      rcases below with same | ⟨_, ⟨⟩, le⟩ <;> omega

theorem countContinuous_history (buffer : FrameBuffer) (it : FrameInfo) :
    (buffer.countContinuous it).decodedFrameHistory = buffer.decodedFrameHistory := by
  unfold countContinuous
  split_ifs <;> rfl

theorem countContinuous_maxSize (buffer : FrameBuffer) (it : FrameInfo) :
    (buffer.countContinuous it).maxSize = buffer.maxSize := by
  unfold countContinuous
  split_ifs <;> rfl

variable {buffer : FrameBuffer}

theorem countContinuous_reached {it : FrameInfo} {id : Int}
    (below : (it.isLastFrameInTemporalUnit = true ∧ id = it.frameId) ∨
      ∃ last ∈ buffer.lastContinuousTemporalUnitFrameId, id ≤ last) :
    ∃ last ∈ (buffer.countContinuous it).lastContinuousTemporalUnitFrameId, id ≤ last := by
  unfold countContinuous
  by_cases isLast : it.isLastFrameInTemporalUnit = true
  · rw [if_pos isLast]
    exact le_raise (below.imp And.right fun known => known)
  · rw [if_neg isLast]
    exact below.elim (fun this => absurd this.1 isLast) fun known => known

theorem encodedFrames_propagateContinuity (buffer : FrameBuffer) (before rest : List FrameInfo) :
    (buffer.propagateContinuity before rest).frames.map FrameInfo.encodedFrame =
      (before ++ rest).map FrameInfo.encodedFrame := by
  induction rest generalizing buffer before with
  | nil => simp [propagateContinuity]
  | cons it rest ih =>
    unfold propagateContinuity
    split_ifs
    · rw [ih]
      simp
    · rw [ih]
      simp

section

variable {window : Nat} {extracted : List EncodedFrame}
  {before rest : List FrameInfo} {history : DecodedFramesHistory} {it : FrameInfo}

theorem isContinuous_of_follows (entries : Entries window extracted (before ++ it :: rest))
    (follows : ∀ reference ∈ it.encodedFrame.references, Follows history before reference) :
    isContinuous history (before ++ it :: rest) it = true := by
  unfold isContinuous
  rw [FrameInfo.references_eq, List.all_eq_true]
  intro reference isReference
  rw [Bool.or_eq_true]
  refine (follows reference isReference).imp id fun ⟨other, member, isOther, continuous⟩ => ?_
  rw [Option.any_eq_true]
  have inAll : other ∈ before ++ it :: rest := List.mem_append_left _ member
  cases isFound : (before ++ it :: rest).find? fun other => decide (other.frameId = reference) with
  | none =>
    rw [List.find?_eq_none] at isFound
    exact absurd (decide_eq_true isOther) (isFound other inAll)
  | some found =>
    have sameId : found.frameId = other.frameId := by
      rw [isOther]
      simpa using List.find?_some isFound
    obtain rfl := entries.eq_of_frameId (List.mem_of_find?_eq_some isFound) inAll sameId
    exact ⟨found, rfl, continuous⟩

theorem Propagated.pass {lastContinuous : Option Int}
    (entries : Entries window extracted (before ++ it :: rest))
    (propagated : Propagated history lastContinuous before (it :: rest))
    (settled : (∀ reference ∈ it.encodedFrame.references, Follows history before reference) →
      it.continuous = true) :
    Propagated history lastContinuous (before ++ [it]) rest := by
  have isThis : ∀ found ∈ before ++ [it], found ∈ before ++ it :: rest := by
    intro found isFound
    simp only [List.mem_append, List.mem_cons] at isFound ⊢
    tauto
  refine ⟨List.forall_mem_append.mpr ⟨fun other member follows => ?_,
    List.forall_mem_singleton.mpr fun follows => settled fun reference isReference => ?_⟩, ?_⟩
  · refine propagated.settled other member fun reference isReference => ?_
    obtain ⟨front, back, rfl⟩ := List.append_of_mem member
    refine (follows reference isReference).imp id fun ⟨found, isFound, isOther, continuous⟩ => ?_
    have inAll := isThis found isFound
    rw [List.append_assoc, List.cons_append] at entries inAll
    have inFront := entries.mem_before inAll (isOther ▸ isReference)
    exact ⟨found, List.mem_append_left _ inFront, isOther, continuous⟩
  · refine (follows reference isReference).imp id fun ⟨found, isFound, isOther, continuous⟩ => ?_
    exact ⟨found, entries.mem_before (isThis found isFound) (isOther ▸ isReference), isOther,
      continuous⟩
  · rw [List.append_assoc]
    exact propagated.reached

/-- Marking a frame raises the last continuous one. -/
theorem Propagated.mark
    (propagated : Propagated history buffer.lastContinuousTemporalUnitFrameId before (it :: rest)) :
    Propagated history (buffer.countContinuous it).lastContinuousTemporalUnitFrameId before
      ({ it with continuous := true } :: rest) := by
  have reached := propagated.reached
  rw [List.forall_mem_append, List.forall_mem_cons] at reached
  obtain ⟨reachedBefore, _, reachedRest⟩ := reached
  refine ⟨propagated.settled, List.forall_mem_append.mpr ⟨?_, List.forall_mem_cons.mpr ⟨?_, ?_⟩⟩⟩
  · exact fun other member continuous isLast =>
      countContinuous_reached (.inr (reachedBefore other member continuous isLast))
  · exact fun _ isLast => countContinuous_reached (.inl ⟨isLast, rfl⟩)
  · exact fun other member continuous isLast =>
      countContinuous_reached (.inr (reachedRest other member continuous isLast))

theorem propagateContinuity_spec (entries : Entries window extracted (before ++ rest))
    (propagated : Propagated buffer.decodedFrameHistory buffer.lastContinuousTemporalUnitFrameId
      before rest) :
    let after := buffer.propagateContinuity before rest
    Entries window extracted after.frames ∧
      Propagated after.decodedFrameHistory after.lastContinuousTemporalUnitFrameId
        after.frames [] ∧
      after.decodedFrameHistory = buffer.decodedFrameHistory ∧ after.maxSize = buffer.maxSize := by
  induction rest generalizing buffer before with
  | nil =>
    rw [List.append_nil] at entries
    exact ⟨entries, propagated, rfl, rfl⟩
  | cons it rest ih =>
    unfold propagateContinuity
    split_ifs with becomes
    · have marked := entries.mark
      have passed := propagated.mark.pass marked fun _ => rfl
      rw [← List.singleton_append, ← List.append_assoc] at marked
      rw [← countContinuous_history buffer it] at passed
      obtain ⟨after, settled, sameHistory, sameSize⟩ := ih marked passed
      exact ⟨after, settled, sameHistory.trans (countContinuous_history buffer it),
        sameSize.trans (countContinuous_maxSize buffer it)⟩
    · have passed := propagated.pass entries fun follows => by
          by_contra notContinuous
          rw [Bool.not_eq_true] at notContinuous
          rw [notContinuous, isContinuous_of_follows entries follows] at becomes
          exact becomes rfl
      rw [← List.singleton_append, ← List.append_assoc] at entries
      exact ih entries passed

end

end FrameBuffer

end MaeRtc.VideoCoding
