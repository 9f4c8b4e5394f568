import MaeRtc.DcSctp.DataTracker

/-!
# The set of TSNs a data tracker stands for

A tracker stands for all TSNs up to its cumulative one together with those in
its blocks.  Every operation changes that set exactly as the chunk it handles
demands, and keeps the blocks separated from each other and from the
cumulative TSN.
-/

namespace MaeRtc.DcSctp

open MaeRtc.Base

namespace DataTracker

/-- The unwrapped TSNs a tracker counts as received. -/
def received (tracker : DataTracker) : Set Int :=
  {tsn | tsn ≤ tracker.lastCumulativeAckedTsn ∨
    Covers tracker.additionalTsnBlocks tsn}

/-- The blocks are canonical and do not touch the cumulative TSN. -/
structure WellFormed (tracker : DataTracker) : Prop where
  separated : Separated tracker.additionalTsnBlocks
  above : AllAbove (tracker.lastCumulativeAckedTsn + 1) tracker.additionalTsnBlocks

theorem mem_received {tracker : DataTracker} {tsn : Int} :
    tsn ∈ tracker.received ↔ tsn ≤ tracker.lastCumulativeAckedTsn ∨
      Covers tracker.additionalTsnBlocks tsn :=
  Iff.rfl

/-- Two trackers that agree on the cumulative TSN and on the blocks. -/
def SameTsns (one two : DataTracker) : Prop :=
  one.lastCumulativeAckedTsn = two.lastCumulativeAckedTsn ∧
    one.additionalTsnBlocks = two.additionalTsnBlocks

namespace SameTsns

theorem refl (tracker : DataTracker) : SameTsns tracker tracker :=
  ⟨rfl, rfl⟩

variable {one two : DataTracker}

theorem trans {three : DataTracker} (first : SameTsns one two)
    (second : SameTsns two three) : SameTsns one three :=
  ⟨first.1.trans second.1, first.2.trans second.2⟩

theorem received_eq (same : SameTsns one two) : one.received = two.received := by
  unfold received
  rw [same.1, same.2]

theorem wellFormed (same : SameTsns one two)
    (formed : two.WellFormed) : one.WellFormed := by
  constructor
  · rw [same.2]
    exact formed.separated
  · rw [same.1, same.2]
    exact formed.above

end SameTsns

/-! ## Acknowledgement scheduling leaves the received TSNs alone -/

section

variable (tracker : DataTracker)

theorem updateAckState_same (newState : AckState) :
    SameTsns (tracker.updateAckState newState) tracker := by
  unfold updateAckState
  split
  · exact ⟨rfl, rfl⟩
  · exact .refl tracker

theorem recordDuplicate_same (tsn : Int) : SameTsns (tracker.recordDuplicate tsn) tracker := by
  unfold recordDuplicate
  split
  · exact ⟨rfl, rfl⟩
  · exact .refl tracker

theorem hastenAck_same : SameTsns tracker.hastenAck tracker := by
  unfold hastenAck
  split
  · exact updateAckState_same _ _
  · exact updateAckState_same _ _
  · exact .refl tracker

theorem scheduleAck_same (immediateAck : Bool) :
    SameTsns (tracker.scheduleAck immediateAck) tracker := by
  have gap : SameTsns (if tracker.additionalTsnBlocks.isEmpty then tracker
      else tracker.updateAckState .immediate) tracker := by
    split
    · exact .refl tracker
    · exact updateAckState_same _ _
  have flagged : ∀ current : DataTracker,
      SameTsns (if immediateAck then current.updateAckState .immediate else current)
        current := by
    intro current
    split
    · exact updateAckState_same _ _
    · exact .refl current
  have first : ∀ current : DataTracker,
      SameTsns (if current.seenPacket then current
        else { current with seenPacket := true }.updateAckState .immediate)
        current := by
    intro current
    split
    · exact .refl current
    · exact (updateAckState_same _ _).trans ⟨rfl, rfl⟩
  exact (hastenAck_same _).trans ((first _).trans ((flagged _).trans gap))

end

/-! ## Entering TSNs -/

/--
Moving over the front block keeps the received set.  The front block may
follow the cumulative TSN directly, and only then may it be empty.
-/
theorem moveOverFront_spec (tracker : DataTracker)
    (shape : Separated tracker.additionalTsnBlocks ∧
        AllAbove tracker.lastCumulativeAckedTsn tracker.additionalTsnBlocks ∨
      ∃ last rest, tracker.additionalTsnBlocks =
          ⟨tracker.lastCumulativeAckedTsn + 1, last⟩ :: rest ∧
        tracker.lastCumulativeAckedTsn ≤ last ∧
        AllAbove (last + 1) rest ∧ Separated rest) :
    tracker.moveOverFront.WellFormed ∧ tracker.moveOverFront.received = tracker.received := by
  -- a block that starts right after the cumulative TSN is absorbed
  have absorb : ∀ last rest, tracker.additionalTsnBlocks =
        ⟨tracker.lastCumulativeAckedTsn + 1, last⟩ :: rest →
      tracker.lastCumulativeAckedTsn ≤ last → AllAbove (last + 1) rest →
      Separated rest → tracker.moveOverFront.WellFormed ∧
        tracker.moveOverFront.received = tracker.received := by
    intro last rest blocksEq reaches restAbove restSeparated
    have moved : tracker.moveOverFront =
        { tracker with
          lastCumulativeAckedTsn := last
          additionalTsnBlocks := rest } := by
      simp [moveOverFront, blocksEq, AdditionalTsnBlocks.popFront]
    rw [moved]
    refine ⟨⟨restSeparated, restAbove⟩, ?_⟩
    ext tsn
    simp only [mem_received, blocksEq, covers_cons]
    grind
  rcases shape with ⟨separated, above⟩ | ⟨last, rest, blocksEq, reaches, restAbove, restSeparated⟩
  · cases blocksEq : tracker.additionalTsnBlocks with
    | nil =>
      have moved : tracker.moveOverFront = tracker := by
        simp [moveOverFront, blocksEq]
      rw [moved]
      exact ⟨⟨separated, by simp [blocksEq]⟩, rfl⟩
    | cons front rest =>
      rw [blocksEq] at separated above
      obtain ⟨nonempty, restAbove, restSeparated⟩ := Separated.cons_iff.mp separated
      have frontAbove := (allAbove_cons.mp above).1
      by_cases follows : front.first = tracker.lastCumulativeAckedTsn + 1
      · exact absorb front.last rest (by rw [blocksEq, ← follows]) (by omega)
          restAbove restSeparated
      have moved : tracker.moveOverFront = tracker := by
        simp [moveOverFront, blocksEq, follows]
      rw [moved]
      refine ⟨⟨by rw [blocksEq]; exact separated, ?_⟩, rfl⟩
      rw [blocksEq]
      exact allAbove_cons.mpr ⟨by omega, restAbove.mono (by omega)⟩
  · exact absorb last rest blocksEq reaches restAbove restSeparated

variable {tracker : DataTracker}

/-- Entering a TSN adds exactly that TSN and flags it if it was there. -/
theorem enter_spec (formed : tracker.WellFormed) (tsn : Int) :
    (tracker.enter tsn).2.WellFormed ∧
      (tracker.enter tsn).2.received = insert tsn tracker.received ∧
      ((tracker.enter tsn).1 = true ↔ tsn ∈ tracker.received) := by
  unfold enter
  split_ifs with old next
  · have same : SameTsns ((tracker.recordDuplicate tsn).updateAckState .immediate) tracker :=
      (updateAckState_same _ _).trans (recordDuplicate_same _ _)
    have present : tsn ∈ tracker.received := .inl old
    refine ⟨same.wellFormed formed, ?_, by simp [present]⟩
    rw [same.received_eq, Set.insert_eq_of_mem present]
  · have absent : tsn ∉ tracker.received := by
      rintro (old' | covered)
      · exact old old'
      · have := formed.above.lt_of_covers covered
        omega
    have shape : Separated tracker.additionalTsnBlocks ∧
        AllAbove tsn tracker.additionalTsnBlocks :=
      ⟨formed.separated, formed.above.mono (by omega)⟩
    obtain ⟨moved, movedReceived⟩ := moveOverFront_spec
      { tracker with lastCumulativeAckedTsn := tsn } (.inl shape)
    refine ⟨moved, ?_, by simp [absent]⟩
    rw [movedReceived]
    ext other
    simp only [mem_received, Set.mem_insert_iff]
    grind
  · obtain ⟨separated, covers_iff, inserted_iff⟩ :=
      AdditionalTsnBlocks.add_spec formed.separated tsn
    have beyond : tracker.lastCumulativeAckedTsn + 1 < tsn := by omega
    dsimp only
    split_ifs with inserted
    · have absent : tsn ∉ tracker.received := by
        rintro (old' | covered)
        · exact old old'
        · exact inserted_iff.mp inserted covered
      refine ⟨⟨separated, ?_⟩, ?_, by simp [absent]⟩
      · apply separated.allAbove_of_covers
        intro value covered
        rcases (covers_iff value).mp covered with earlier | rfl
        · exact formed.above.lt_of_covers earlier
        · exact beyond
      · ext other
        simp only [mem_received, Set.mem_insert_iff, covers_iff]
        tauto
    · have present : tsn ∈ tracker.received := by
        refine .inr ?_
        by_contra absent
        exact inserted (inserted_iff.mpr absent)
      have same := recordDuplicate_same tracker tsn
      refine ⟨same.wellFormed formed, ?_, by simp [present]⟩
      rw [same.received_eq, Set.insert_eq_of_mem present]

/-- A new TSN is received now, and `observe` says whether it was new. -/
theorem observe_spec (formed : tracker.WellFormed) (tsn : Tsn) (immediateAck : Bool) :
    (tracker.observe tsn immediateAck).2.WellFormed ∧
      (tracker.observe tsn immediateAck).2.received =
        insert (tracker.peekTsn tsn) tracker.received ∧
      ((tracker.observe tsn immediateAck).1 = true ↔ tracker.peekTsn tsn ∉ tracker.received) := by
  have unchanged : SameTsns
      { tracker with tsnUnwrapper := (SeqNumUnwrapper.unwrap 0 tracker.tsnUnwrapper tsn).2 }
      tracker := ⟨rfl, rfl⟩
  obtain ⟨entered, enteredReceived, duplicate⟩ :=
    enter_spec (unchanged.wellFormed formed) (tracker.peekTsn tsn)
  rw [unchanged.received_eq] at enteredReceived duplicate
  have scheduled := scheduleAck_same
    (enter { tracker with
      tsnUnwrapper := (SeqNumUnwrapper.unwrap 0 tracker.tsnUnwrapper tsn).2 }
      (tracker.peekTsn tsn)).2 immediateAck
  refine ⟨scheduled.wellFormed entered, scheduled.received_eq.trans enteredReceived, ?_⟩
  rw [← duplicate]
  exact Iff.of_eq ((Bool.not_eq_true' _).trans (Bool.not_eq_true _).symm)

/-- A FORWARD-TSN adds everything up to the TSN it names. -/
theorem handleForwardTsn_spec (formed : tracker.WellFormed) (newCumulativeAck : Tsn) :
    (tracker.handleForwardTsn newCumulativeAck).WellFormed ∧
      (tracker.handleForwardTsn newCumulativeAck).received =
        tracker.received ∪ Set.Iic (tracker.peekTsn newCumulativeAck) := by
  have peeked : (SeqNumUnwrapper.unwrap 0 tracker.tsnUnwrapper newCumulativeAck).1 =
      tracker.peekTsn newCumulativeAck := SeqNumUnwrapper.unwrap_fst ..
  unfold handleForwardTsn
  simp only [peeked]
  split_ifs with old
  · have same : SameTsns (updateAckState { tracker with
        tsnUnwrapper := (SeqNumUnwrapper.unwrap 0 tracker.tsnUnwrapper newCumulativeAck).2 }
        .immediate) tracker := (updateAckState_same _ _).trans ⟨rfl, rfl⟩
    refine ⟨same.wellFormed formed, ?_⟩
    rw [same.received_eq]
    ext tsn
    simp only [mem_received, Set.mem_union]
    grind
  · obtain ⟨covers_iff, shape⟩ :=
      AdditionalTsnBlocks.eraseTo_spec formed.separated (tracker.peekTsn newCumulativeAck)
    obtain ⟨moved, movedReceived⟩ := moveOverFront_spec
      { tracker with
        tsnUnwrapper := (SeqNumUnwrapper.unwrap 0 tracker.tsnUnwrapper newCumulativeAck).2
        lastCumulativeAckedTsn := tracker.peekTsn newCumulativeAck
        additionalTsnBlocks := AdditionalTsnBlocks.eraseTo tracker.additionalTsnBlocks
          (tracker.peekTsn newCumulativeAck) } shape
    refine ⟨(hastenAck_same _).wellFormed moved, ?_⟩
    rw [(hastenAck_same _).received_eq, movedReceived]
    ext tsn
    simp only [mem_received, Set.mem_union]
    grind

/-! ## Runs -/

/-- Everything the socket may ask of its data tracker. -/
inductive Input where
  | observe (tsn : Tsn) (immediateAck : Bool)
  | handleForwardTsn (newCumulativeAck : Tsn)
  | observePacketEnd
  | shouldSendAck (alsoIfDelayed : Bool)
  | createSelectiveAck (aRwnd : Nat)
  | handleDelayedAckTimerExpiry
  | forceImmediateSack

/-- The tracker after an input; results returned to the caller are dropped. -/
def apply (tracker : DataTracker) : Input → DataTracker
  | .observe tsn immediateAck => (tracker.observe tsn immediateAck).2
  | .handleForwardTsn newCumulativeAck => tracker.handleForwardTsn newCumulativeAck
  | .observePacketEnd => tracker.observePacketEnd
  | .shouldSendAck alsoIfDelayed => (tracker.shouldSendAck alsoIfDelayed).2
  | .createSelectiveAck aRwnd => (tracker.createSelectiveAck aRwnd).2
  | .handleDelayedAckTimerExpiry => tracker.handleDelayedAckTimerExpiry
  | .forceImmediateSack => tracker.forceImmediateSack

/-- The TSNs an input reports as received or skipped. -/
def reported (tracker : DataTracker) : Input → Set Int
  | .observe tsn _ => {tracker.peekTsn tsn}
  | .handleForwardTsn newCumulativeAck => Set.Iic (tracker.peekTsn newCumulativeAck)
  | _ => ∅

/-- A tracker together with the TSNs observed or skipped so far. -/
structure Audited where
  tracker : DataTracker
  seen : Set Int

/-- At the start everything before the peer's first TSN counts as seen. -/
def start (peerInitialTsn : Tsn) : Audited :=
  { tracker := create peerInitialTsn
    seen := Set.Iic (create peerInitialTsn).lastCumulativeAckedTsn }

/-- The audited tracker.  Chunks are observed only if their TSN is valid. -/
def machine : Machine Audited Input where
  pre state input :=
    match input with
    | .observe tsn _ => state.tracker.isTSNValid tsn
    | _ => True
  next state input :=
    { tracker := state.tracker.apply input
      seen := state.seen ∪ state.tracker.reported input }

/-- What every audited tracker satisfies. -/
structure Faithful (state : Audited) : Prop where
  formed : state.tracker.WellFormed
  received_eq : state.tracker.received = state.seen

theorem shouldSendAck_same (tracker : DataTracker) (alsoIfDelayed : Bool) :
    SameTsns (tracker.shouldSendAck alsoIfDelayed).2 tracker := by
  unfold shouldSendAck
  split
  · exact updateAckState_same _ _
  · exact .refl tracker

theorem observePacketEnd_same (tracker : DataTracker) :
    SameTsns tracker.observePacketEnd tracker := by
  unfold observePacketEnd
  split
  · exact updateAckState_same _ _
  · exact .refl tracker

/-- One input: the tracker receives what the input reports and nothing else. -/
theorem apply_spec (formed : tracker.WellFormed) (input : Input) :
    (tracker.apply input).WellFormed ∧
      (tracker.apply input).received = tracker.received ∪ tracker.reported input := by
  have quiet : ∀ next : DataTracker, SameTsns next tracker →
      next.WellFormed ∧ next.received = tracker.received ∪ ∅ := by
    intro next same
    exact ⟨same.wellFormed formed, by rw [same.received_eq, Set.union_empty]⟩
  cases input with
  | observe tsn immediateAck =>
    obtain ⟨observed, received_eq, _⟩ := observe_spec formed tsn immediateAck
    refine ⟨observed, received_eq.trans ?_⟩
    rw [reported, Set.union_singleton]
  | handleForwardTsn newCumulativeAck => exact handleForwardTsn_spec formed newCumulativeAck
  | observePacketEnd => exact quiet _ (observePacketEnd_same tracker)
  | shouldSendAck alsoIfDelayed => exact quiet _ (shouldSendAck_same tracker alsoIfDelayed)
  | createSelectiveAck aRwnd => exact quiet _ ⟨rfl, rfl⟩
  | handleDelayedAckTimerExpiry => exact quiet _ (updateAckState_same tracker _)
  | forceImmediateSack => exact quiet _ ⟨rfl, rfl⟩

theorem start_faithful (peerInitialTsn : Tsn) : Faithful (start peerInitialTsn) := by
  refine ⟨⟨.nil, allAbove_nil _⟩, ?_⟩
  ext tsn
  simp [received, start, create]

theorem Faithful.next {state : Audited} (faithful : Faithful state) (input : Input) :
    Faithful (machine.next state input) := by
  obtain ⟨formed, received_eq⟩ := apply_spec faithful.formed input
  refine ⟨formed, ?_⟩
  change (state.tracker.apply input).received = state.seen ∪ state.tracker.reported input
  rw [received_eq, faithful.received_eq]

theorem faithful_of_run {peerInitialTsn : Tsn} {inputs : List Input} {last : Audited}
    (run : machine.Run (start peerInitialTsn) inputs last) : Faithful last :=
  run.invariant (fun _ state => Faithful state) (start_faithful peerInitialTsn)
    fun _ _ input _ faithful _ => faithful.next input

/--
In every state a run reaches, the blocks are canonical and lie above the
cumulative TSN, they and the cumulative TSN stand for exactly the TSNs seen so
far, and `observe` tells a new TSN from one already seen.
-/
theorem represents_seen_of_run (peerInitialTsn : Tsn) (inputs : List Input)
    (last : Audited) (run : machine.Run (start peerInitialTsn) inputs last) :
    Separated last.tracker.additionalTsnBlocks ∧
      AllAbove (last.tracker.lastCumulativeAckedTsn + 1)
        last.tracker.additionalTsnBlocks ∧
      (∀ tsn, tsn ∈ last.seen ↔ tsn ≤ last.tracker.lastCumulativeAckedTsn ∨
        Covers last.tracker.additionalTsnBlocks tsn) ∧
      ∀ tsn immediateAck, last.tracker.isTSNValid tsn →
        ((last.tracker.observe tsn immediateAck).1 = true ↔
          last.tracker.peekTsn tsn ∉ last.seen) := by
  obtain ⟨formed, received_eq⟩ := faithful_of_run run
  rw [← received_eq]
  refine ⟨formed.separated, formed.above, fun _ => mem_received, ?_⟩
  intro tsn immediateAck _
  exact (observe_spec formed tsn immediateAck).2.2

/-- TSN 3 observed before TSN 1: one block is left, and TSN 3 is a duplicate. -/
theorem represents_seen_of_reordered_chunks :
    ∃ last, machine.Run (start 1) [.observe 3 false, .observe 1 false] last ∧
      last.tracker.additionalTsnBlocks = [⟨3, 3⟩] ∧
      last.tracker.lastCumulativeAckedTsn = 1 ∧ (3 : Int) ∈ last.seen ∧
      ((last.tracker.observe 3 false).1 = true ↔ last.tracker.peekTsn 3 ∉ last.seen) := by
  have run : machine.Run (start 1) [.observe 3 false, .observe 1 false]
      (machine.outcome (start 1) [.observe 3 false, .observe 1 false]) :=
    Machine.Admits.run ⟨rfl, rfl, trivial⟩
  obtain ⟨_, _, mem_seen, observed⟩ := represents_seen_of_run 1 _ _ run
  refine ⟨_, run, by decide, by decide, (mem_seen 3).mpr (Or.inr ?_), observed 3 false (by decide)⟩
  exact ⟨⟨3, 3⟩, by decide, by decide, by decide⟩

end DataTracker

end MaeRtc.DcSctp
