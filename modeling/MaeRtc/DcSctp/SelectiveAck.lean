import MaeRtc.DcSctp.ChunkValidators
import MaeRtc.DcSctp.ReceivedTsnSet

/-!
# What a SACK acknowledges

A SACK names a cumulative TSN and gap-ack blocks.  The blocks are 16-bit
offsets from the cumulative TSN, while `isTSNValid` admits TSNs up to 100000
ahead of it.  As long as every observed TSN lies within the reach of such an
offset, no SACK acknowledges a TSN that was not seen; beyond it the narrowing
to 16 bits makes a SACK acknowledge TSNs that never arrived.
-/

namespace MaeRtc.DcSctp.DataTracker

open MaeRtc.Base ChunkValidators

/-- The largest offset a gap-ack block can carry. -/
def maxGapOffset : Int := 65535

/-- An observed TSN lies within the reach of a gap-ack block. -/
def WithinGapReach (state : Audited) : Input → Prop
  | .observe tsn _ =>
    state.tracker.peekTsn tsn ≤ state.tracker.lastCumulativeAckedTsn + maxGapOffset
  | _ => True

/-- All TSNs of the blocks lie within the reach of a gap-ack block. -/
def BlocksInReach (tracker : DataTracker) : Prop :=
  ∀ tsn ∈ tracker.received, tsn ≤ tracker.lastCumulativeAckedTsn + maxGapOffset

/-- The cumulative TSN is the last one up to which nothing is missing. -/
theorem WellFormed.le_cumulative_iff {tracker : DataTracker} (formed : tracker.WellFormed)
    (tsn : Int) : tsn ≤ tracker.lastCumulativeAckedTsn ↔ Set.Iic tsn ⊆ tracker.received := by
  constructor
  · intro below other otherBelow
    exact .inl (le_trans otherBelow below)
  intro complete
  by_contra above
  have next : tracker.lastCumulativeAckedTsn + 1 ∈ tracker.received :=
    complete (Set.mem_Iic.mpr (by omega))
  rcases next with old | covered
  · omega
  · have := formed.above.lt_of_covers covered
    omega

theorem cumulative_mono {one two : DataTracker} (oneFormed : one.WellFormed)
    (twoFormed : two.WellFormed) (grows : one.received ⊆ two.received) :
    one.lastCumulativeAckedTsn ≤ two.lastCumulativeAckedTsn :=
  (twoFormed.le_cumulative_iff _).mpr
    (((oneFormed.le_cumulative_iff _).mp le_rfl).trans grows)

/-- One step: inputs within reach keep all blocks within reach. -/
theorem BlocksInReach.next {state : Audited} {input : Input} (formed : state.tracker.WellFormed)
    (inReach : BlocksInReach state.tracker)
    (within : WithinGapReach state input) : BlocksInReach (state.tracker.apply input) := by
  obtain ⟨nextFormed, nextReceived⟩ := apply_spec formed input
  have grows : state.tracker.received ⊆ (state.tracker.apply input).received := by
    rw [nextReceived]
    exact Set.subset_union_left
  have advances := cumulative_mono formed nextFormed grows
  intro tsn received
  rw [nextReceived] at received
  rcases received with old | new
  · have := inReach tsn old
    omega
  cases input with
  | observe observed immediateAck =>
    have : tsn = state.tracker.peekTsn observed := new
    have : state.tracker.peekTsn observed ≤
      state.tracker.lastCumulativeAckedTsn + maxGapOffset := within
    omega
  | handleForwardTsn newCumulativeAck =>
    -- everything up to the new TSN is complete, hence below the cumulative one
    have complete : Set.Iic tsn ⊆
        (state.tracker.apply (.handleForwardTsn newCumulativeAck)).received := by
      rw [nextReceived]
      exact (Set.Iic_subset_Iic.mpr new).trans Set.subset_union_right
    have := (nextFormed.le_cumulative_iff tsn).mpr complete
    unfold maxGapOffset
    omega
  | _ => exact absurd new (Set.notMem_empty tsn)

end MaeRtc.DcSctp.DataTracker
