import MaeRtc.Base.Machine
import MaeRtc.DcSctp.ReassemblyQueue

/-!
# Delivered TSNs

The reassembly queue recognises the chunks of delivered messages by their TSNs.  A message
that is handed over marks its TSNs, and moving the watermark marks no others.
-/

namespace MaeRtc.DcSctp

open MaeRtc.Base ReassemblyStreams

namespace ReassemblyQueue

variable {queue : ReassemblyQueue}

theorem isDelivered_iff (queue : ReassemblyQueue) (tsn : Int) : queue.isDelivered tsn = true ↔
    tsn ≤ queue.lastAssembledTsnWatermark ∨ tsn ∈ queue.deliveredTsns := by
  simp [isDelivered]

/-- What stays as it is when TSNs are marked as delivered. -/
structure SameApartFromTsns (queue after : ReassemblyQueue) : Prop where
  tsnUnwrapper : after.tsnUnwrapper = queue.tsnUnwrapper
  deferredResetStreams : after.deferredResetStreams = queue.deferredResetStreams
  queuedBytes : after.queuedBytes = queue.queuedBytes
  streams : after.streams = queue.streams

namespace SameApartFromTsns

theorem refl (queue : ReassemblyQueue) : SameApartFromTsns queue queue :=
  ⟨rfl, rfl, rfl, rfl⟩

theorem trans {first second third : ReassemblyQueue} (one : SameApartFromTsns first second)
    (two : SameApartFromTsns second third) : SameApartFromTsns first third :=
  ⟨two.tsnUnwrapper.trans one.tsnUnwrapper, two.deferredResetStreams.trans one.deferredResetStreams,
    two.queuedBytes.trans one.queuedBytes, two.streams.trans one.streams⟩

end SameApartFromTsns

/-- Moving the watermark does not change which TSNs count as delivered. -/
theorem moveWatermark_delivered (fuel : Nat) (watermark : Int) (delivered : Std.ExtTreeSet Int)
    (tsn : Int) :
    (tsn ≤ (moveWatermark fuel watermark delivered).1 ∨
        tsn ∈ (moveWatermark fuel watermark delivered).2) ↔
      tsn ≤ watermark ∨ tsn ∈ delivered := by
  induction fuel generalizing watermark delivered with
  | zero => rfl
  | succ fuel ih =>
    unfold moveWatermark
    split
    next first =>
      rw [ih, Std.ExtTreeSet.mem_erase]
      have member : watermark + 1 ∈ delivered :=
        Std.ExtTreeSet.mem_toList.mp (List.mem_of_mem_head? first)
      by_cases same : watermark + 1 = tsn
      · subst same
        simp [member]
      · have differs : compare (watermark + 1) tsn ≠ .eq := by simpa using same
        have below : tsn ≤ watermark + 1 ↔ tsn ≤ watermark := by omega
        simp only [differs, ne_eq, not_false_eq_true, true_and, below]
    · rfl

theorem maybeMoveLastAssembledWatermarkFurther_isDelivered (queue : ReassemblyQueue) (tsn : Int) :
    queue.maybeMoveLastAssembledWatermarkFurther.isDelivered tsn = queue.isDelivered tsn := by
  rw [Bool.eq_iff_iff, isDelivered_iff, isDelivered_iff]
  exact moveWatermark_delivered _ _ _ tsn

theorem markDelivered_spec (tsns : List Int) (queue : ReassemblyQueue) (distinct : tsns.Nodup)
    (new : ∀ tsn ∈ tsns, queue.isDelivered tsn = false) :
    ∃ after, queue.markDelivered tsns = (true, after) ∧ SameApartFromTsns queue after ∧
      after.reassembledMessages = queue.reassembledMessages ∧
      ∀ tsn, after.isDelivered tsn = true ↔ queue.isDelivered tsn = true ∨ tsn ∈ tsns := by
  induction tsns generalizing queue with
  | nil => exact ⟨queue, rfl, .refl queue, rfl, fun tsn => by simp⟩
  | cons first rest ih =>
    obtain ⟨firstNew, restNew⟩ := List.forall_mem_cons.mp new
    obtain ⟨notLater, restDistinct⟩ := List.nodup_cons.mp distinct
    have above := mt (isDelivered_iff queue first).mpr (by simp [firstNew])
    -- both ways to mark the first TSN
    have marked : ∃ middle, queue.markDelivered (first :: rest) = middle.markDelivered rest ∧
        SameApartFromTsns queue middle ∧
        middle.reassembledMessages = queue.reassembledMessages ∧
        ∀ tsn, middle.isDelivered tsn = true ↔ queue.isDelivered tsn = true ∨ tsn = first := by
      by_cases adjacent : first = queue.lastAssembledTsnWatermark + 1
      · refine ⟨{ queue with
            lastAssembledTsnWatermark := queue.lastAssembledTsnWatermark + 1 }, ?_,
          ⟨rfl, rfl, rfl, rfl⟩, rfl, fun tsn => ?_⟩
        · rw [markDelivered, if_neg (by omega), if_pos adjacent]
        · rw [isDelivered_iff, isDelivered_iff]
          have extends_iff : tsn ≤ queue.lastAssembledTsnWatermark + 1 ↔
              tsn ≤ queue.lastAssembledTsnWatermark ∨ tsn = first := by omega
          rw [extends_iff, or_right_comm]
      · refine ⟨{ queue with deliveredTsns := queue.deliveredTsns.insert first }, ?_,
          ⟨rfl, rfl, rfl, rfl⟩, rfl, fun tsn => ?_⟩
        · rw [markDelivered, if_neg (by omega), if_neg adjacent]
        · rw [isDelivered_iff, isDelivered_iff, Std.ExtTreeSet.mem_insert]
          simp only [Std.compare_eq_iff_eq]
          tauto
    obtain ⟨middle, step, same, messages, delivered⟩ := marked
    obtain ⟨after, loop, afterSame, afterMessages, afterDelivered⟩ :=
      ih middle restDistinct fun tsn member => by
        rw [← Bool.not_eq_true, delivered]
        rintro (earlier | rfl)
        · rw [restNew tsn member] at earlier
          cases earlier
        · exact notLater member
    refine ⟨after, step.trans loop, same.trans afterSame, afterMessages.trans messages,
      fun tsn => ?_⟩
    rw [afterDelivered, delivered, List.mem_cons, or_assoc]

theorem addReassembledMessage_spec (assembled : AssembledMessage) (distinct : assembled.tsns.Nodup)
    (new : ∀ tsn ∈ assembled.tsns, queue.isDelivered tsn = false) :
    SameApartFromTsns queue (queue.addReassembledMessage assembled) ∧
      (queue.addReassembledMessage assembled).reassembledMessages =
        queue.reassembledMessages ++ [assembled.message] ∧
      ∀ tsn, (queue.addReassembledMessage assembled).isDelivered tsn = true ↔
        queue.isDelivered tsn = true ∨ tsn ∈ assembled.tsns := by
  obtain ⟨marked, step, same, messages, delivered⟩ :=
    markDelivered_spec assembled.tsns queue distinct new
  have unfolded : queue.addReassembledMessage assembled =
      { marked.maybeMoveLastAssembledWatermarkFurther with
        reassembledMessages := marked.reassembledMessages ++ [assembled.message] } := by
    rw [addReassembledMessage, step]
    rfl
  refine ⟨?_, ?_, fun tsn => ?_⟩
  · rw [unfolded]
    exact ⟨same.tsnUnwrapper, same.deferredResetStreams, same.queuedBytes, same.streams⟩
  · rw [unfolded, messages]
  · rw [← delivered, ← maybeMoveLastAssembledWatermarkFurther_isDelivered marked, unfolded]
    rfl

end ReassemblyQueue

end MaeRtc.DcSctp
