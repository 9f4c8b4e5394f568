import MaeRtc.DcSctp.OutstandingItems

/-!
# Bookkeeping of outstanding data

Every operation on the outstanding data is a loop over items, and a loop may
append items to the map it runs over.  Since the TSNs of the items are
consecutive, an iterator behind a TSN stands at the next one.  In every run the
operations meet no violation and leave the bookkeeping right.
-/

namespace MaeRtc.DcSctp.OutstandingData

open MaeRtc.Base OrderedMap
open Std (ExtTreeMap)

variable {Q : Type}

/-! ## Iterators -/

variable {self : OutstandingData Q} {cumulativeTsnAck : Int} {blocks : List GapAckBlock}

/-- Behind a TSN the iterator stands at the next one, or at the end of the map. -/
theorem Valid.upperBound_eq (valid : Valid self) {reached : Int}
    (above : self.lastCumulativeTsnAck ≤ reached) :
    upperBound self.outstandingData reached =
      if reached + 1 < self.nextTsn then some (reached + 1) else none := by
  split_ifs with inside
  · refine upperBound_eq_some_iff.mpr ⟨(valid.keys _).mpr ⟨by omega, inside⟩, by omega, ?_⟩
    intro other _ larger
    omega
  · refine upperBound_eq_none_iff.mpr fun other member => ?_
    have bounds := (valid.keys other).mp member
    omega

theorem Valid.upperBound_max (valid : Valid self) (reached : Int) :
    upperBound self.outstandingData reached =
      upperBound self.outstandingData (max reached self.lastCumulativeTsnAck) := by
  refine List.find?_congr fun tsn member => decide_eq_decide.mpr ?_
  have bounds := (valid.keys tsn).mp (by simpa using member)
  omega

theorem Valid.begin_eq (valid : Valid self) :
    self.begin = upperBound self.outstandingData self.lastCumulativeTsnAck :=
  head?_keys_eq_upperBound fun tsn member => ((valid.keys tsn).mp member).1

/-- The end of a range: the end of the map, or behind a TSN. -/
def stopAt (limit : Option Int) (self : OutstandingData Q) : Option Int :=
  limit.elim none (upperBound self.outstandingData)

/--
Rule for the loops.  A loop over the items behind `start`, up to a limit, takes
one item after the other.  It ends because the items it appends are abandoned,
and an abandoned item appends nothing.
-/
theorem sweep_ensures {σ : Type} (queue : σ → OutstandingData Q) {stop : σ → Option Int}
    {body : Int → Item → σ → Except Violation (Bool × σ)} (limit : Option Int)
    (Holds : Int → σ → Prop) (Post : σ → Prop) {start : Int} (state : σ)
    (valid : Valid (queue state)) (startGe : (queue state).lastCumulativeTsnAck ≤ start)
    (startLe : ∀ last ∈ limit, start ≤ last) (initial : Holds start state)
    (stopEq : ∀ reached state, Valid (queue state) → Holds reached state →
      stop state = stopAt limit (queue state))
    (atEnd : ∀ reached state, Valid (queue state) → Holds reached state →
      (∀ last ∈ limit, reached = last ∨ (queue state).nextTsn ≤ reached + 1) → Post state)
    (step : ∀ reached state item, Valid (queue state) → Holds reached state →
      (queue state).outstandingData[reached + 1]? = some item →
      Ensures (body (reached + 1) item state) fun result =>
        Valid (queue result.2) ∧ Advances (queue state) (queue result.2) ∧
        (item.isAbandoned = true → (queue result.2).nextTsn = (queue state).nextTsn) ∧
        (result.1 = true → Holds (reached + 1) result.2) ∧ (result.1 = false → Post result.2)) :
    Ensures (iterate (fun state => (queue state).outstandingData) stop body .invalidIterator
      (queue state).fuel (upperBound (queue state).outstandingData start) state) Post := by
  set first := (queue state).nextTsn with firstEq
  set lastAck := (queue state).lastCumulativeTsnAck with lastAckEq
  have ordered : lastAck < first := valid.ordered
  refine iterate_ensures
    (fun reached state => Valid (queue state) ∧ Holds reached state ∧
      (queue state).lastCumulativeTsnAck = lastAck ∧ lastAck ≤ reached ∧
      (∀ last ∈ limit, reached ≤ last) ∧ first ≤ (queue state).nextTsn ∧
      ∀ (tsn : Int) (item : Item), first ≤ tsn →
        (queue state).outstandingData[tsn]? = some item → item.isAbandoned = true)
    Post
    (fun reached state =>
      ((queue state).nextTsn - 1 - reached).toNat + (first - 1 - reached).toNat)
    ?_ ?_ ?_ _ start state ?_ ?_
  · rintro reached state ⟨valid, holds, lastTsn, above, within, -, -⟩ ended
    refine atEnd reached state valid holds fun last isLast => ?_
    have le := within last isLast
    rw [stopEq reached state valid holds, isLast, stopAt, Option.elim_some,
      valid.upperBound_eq (by omega), valid.upperBound_eq (by omega)] at ended
    split_ifs at ended
    · left
      simpa using ended
    · omega
  · rintro reached state ⟨valid, holds, lastTsn, above, within, -, -⟩ going
    rw [stopEq reached state valid holds] at going
    rw [valid.upperBound_eq (by omega)] at going ⊢
    split_ifs at going ⊢ with inside
    · simp
    cases limit with
    | none => exact absurd rfl going
    | some last =>
      have le := within last rfl
      rw [stopAt, Option.elim_some, valid.upperBound_eq (by omega), if_neg (by omega)] at going
      exact absurd rfl going
  · rintro reached state key item ⟨valid, holds, lastTsn, above, within, grown, abandoned⟩
      position going found
    rw [stopEq reached state valid holds] at going
    rw [valid.upperBound_eq (by omega)] at position going
    split_ifs at position going with inside
    cases position
    refine (step reached state item valid holds found).weaken ?_
    rintro ⟨proceeds, next⟩ ⟨nextValid, advances, quiet, proceeding, leaving⟩
    refine ⟨fun isTrue => ⟨⟨nextValid, proceeding isTrue, ?_, ?_, ?_, ?_, ?_⟩, ?_⟩, leaving⟩
    · exact advances.lastTsn.trans lastTsn
    · omega
    · intro last isLast
      have le := within last isLast
      have differs : reached ≠ last := by
        rintro rfl
        refine going ?_
        rw [isLast, stopAt, Option.elim_some, valid.upperBound_eq (by omega), if_pos inside]
      omega
    · exact grown.trans advances.nextTsn_ge
    · intro tsn other beyond otherFound
      refine advances.abandoned tsn other otherFound ?_
      rcases lt_or_ge tsn (queue state).nextTsn with known | new
      · obtain ⟨old, oldFound⟩ := mem_iff_exists.mp
          ((valid.keys tsn).mpr ⟨by omega, known⟩)
        exact .inr ⟨old, oldFound, abandoned tsn old beyond oldFound⟩
      · exact .inl new
    · -- an item from before the loop may append one, a later one does not
      have le := advances.nextTsn_le
      dsimp only at le ⊢
      rcases lt_or_ge (reached + 1) first with early | late
      · omega
      · have same := quiet (abandoned _ item late found)
        dsimp only at same
        omega
  · refine ⟨valid, initial, rfl, startGe, startLe, le_rfl, fun tsn item beyond found => ?_⟩
    have bounds := (valid.keys tsn).mp (mem_iff_exists.mpr ⟨item, found⟩)
    omega
  · unfold OutstandingData.fuel
    omega

/-! ## Acknowledgements -/

theorem Valid.drop (valid : Valid self) (above : self.lastCumulativeTsnAck ≤ cumulativeTsnAck)
    (below : cumulativeTsnAck < self.nextTsn)
    (acked : ∀ (tsn : Int) (item : Item), tsn ≤ cumulativeTsnAck →
      self.outstandingData[tsn]? = some item → item.isAcked = true) (breakpoints : Finset Int) :
    Valid { self with
      outstandingData := self.outstandingData.filter fun tsn _ => cumulativeTsnAck < tsn
      lastCumulativeTsnAck := cumulativeTsnAck
      streamResetBreakpointTsns := breakpoints } := by
  have lookup : ∀ tsn : Int,
      (self.outstandingData.filter fun tsn _ => cumulativeTsnAck < tsn)[tsn]? =
        if cumulativeTsnAck < tsn then self.outstandingData[tsn]? else none := by
    intro tsn
    rw [ExtTreeMap.getElem?_filter']
    split_ifs with kept <;> cases self.outstandingData[tsn]? <;> simp [kept]
  have weights : ∀ weight : Item → Nat, (∀ item : Item, item.isAcked = true → weight item = 0) →
      total weight (self.outstandingData.filter fun tsn _ => cumulativeTsnAck < tsn) =
        total weight self.outstandingData := by
    intro weight weightless
    refine total_congr fun tsn => ?_
    unfold weightAt
    rw [lookup]
    split_ifs with kept
    · rfl
    · cases found : self.outstandingData[tsn]? with
      | none => rfl
      | some item => exact (weightless item (acked tsn item (by omega) found)).symm
  have weightless : ∀ item : Item, item.isAcked = true →
      self.bytesInFlight item = 0 ∧ itemsInFlight item = 0 := by
    intro item isAcked
    have ackState : item.ackState = .acked := by simpa [Item.isAcked] using isAcked
    simp [bytesInFlight, itemsInFlight, Item.isOutstanding, ackState]
  constructor
  · intro tsn
    have known := valid.keys tsn
    rw [mem_iff_exists] at known ⊢
    dsimp only
    rw [lookup]
    split_ifs with kept
    · rw [known]
      omega
    · simp [kept]
  · exact below
  · exact valid.bytes.trans (weights self.bytesInFlight fun item isAcked =>
      (weightless item isAcked).1).symm
  · exact valid.items.trans (weights itemsInFlight fun item isAcked =>
      (weightless item isAcked).2).symm
  · intro tsn
    rw [valid.marked, lookup]
    split_ifs with kept
    · exact Iff.rfl
    refine iff_of_false ?_ (by simp)
    rintro ⟨item, found, marked⟩
    have isNacked := valid.nacked tsn item found marked
    have isAcked := acked tsn item (by omega) found
    simp only [Item.isNacked, Item.isAcked, beq_iff_eq] at isNacked isAcked
    rw [isAcked] at isNacked
    cases isNacked
  · exact valid.apart
  · intro tsn item found
    rw [lookup] at found
    split_ifs at found
    exact valid.nacked tsn item found

theorem removeAcked_ensures (valid : Valid self) (noFast : self.toBeFastRetransmitted = ∅)
    (above : self.lastCumulativeTsnAck ≤ cumulativeTsnAck) (below : cumulativeTsnAck < self.nextTsn)
    (ackInfo : AckInfo) :
    Ensures (removeAcked cumulativeTsnAck ackInfo self) fun result =>
      Valid result.2 ∧ result.2.toBeFastRetransmitted = ∅ ∧
      result.2.lastCumulativeTsnAck = cumulativeTsnAck := by
  unfold removeAcked
  rw [valid.begin_eq]
  refine (sweep_ensures (fun state : AckInfo × OutstandingData Q => state.2) (some cumulativeTsnAck)
    (fun reached state => state.2.toBeFastRetransmitted = ∅ ∧ state.2.nextTsn = self.nextTsn ∧
      state.2.lastCumulativeTsnAck = self.lastCumulativeTsnAck ∧
      ∀ (tsn : Int) (item : Item), tsn ≤ reached → state.2.outstandingData[tsn]? = some item →
        item.isAcked = true)
    (fun state => Valid state.2 ∧ state.2.toBeFastRetransmitted = ∅ ∧
      state.2.nextTsn = self.nextTsn ∧
      state.2.lastCumulativeTsnAck = self.lastCumulativeTsnAck ∧
      ∀ (tsn : Int) (item : Item), tsn ≤ cumulativeTsnAck →
        state.2.outstandingData[tsn]? = some item → item.isAcked = true)
    (ackInfo, self) valid le_rfl (by simpa using above) ?_ ?_ ?_ ?_).bind ?_
  · refine ⟨noFast, rfl, rfl, fun tsn item before found => ?_⟩
    dsimp only at before found
    have bounds := (valid.keys tsn).mp (mem_iff_exists.mpr ⟨item, found⟩)
    omega
  · rintro reached state stateValid ⟨-, nextTsn, lastTsn, -⟩
    rw [stopAt, Option.elim_some, valid.upperBound_eq above,
      stateValid.upperBound_eq (by omega), nextTsn]
  · rintro reached state stateValid ⟨stillNoFast, nextTsn, lastTsn, acked⟩ ended
    refine ⟨stateValid, stillNoFast, nextTsn, lastTsn, fun tsn item before found => ?_⟩
    rcases ended cumulativeTsnAck rfl with rfl | all
    · exact acked tsn item before found
    · exact acked tsn item (by omega) found
  · rintro reached state item stateValid ⟨stillNoFast, nextTsn, lastTsn, acked⟩ found
    refine (ackChunk_ensures stateValid stillNoFast found state.1).bind ?_
    rintro ⟨info, next⟩ ⟨nextValid, advances, sameNext, nextNoFast, others, itemAcked⟩
    refine .ok ⟨nextValid, advances, fun _ => sameNext, fun _ => ⟨nextNoFast,
      sameNext.trans nextTsn, advances.lastTsn.trans lastTsn, ?_⟩, nofun⟩
    intro tsn other before otherFound
    by_cases same : tsn = reached + 1
    · obtain ⟨acked, ackedFound, isAcked⟩ := itemAcked
      subst same
      cases otherFound.symm.trans ackedFound
      exact isAcked
    · exact acked tsn other (by omega) ((others tsn same).symm.trans otherFound)
  · rintro ⟨info, next⟩ ⟨nextValid, nextNoFast, nextTsn, lastTsn, acked⟩
    refine .ok ⟨nextValid.drop ?_ ?_ acked _, nextNoFast, rfl⟩
    · exact lastTsn.le.trans above
    · exact below.trans_eq nextTsn.symm

theorem ackGapBlocks_ensures (nonempty : ∀ block ∈ blocks, block.start.toNat ≤ block.stop.toNat)
    (valid : Valid self) (noFast : self.toBeFastRetransmitted = ∅)
    (lastTsn : self.lastCumulativeTsnAck = cumulativeTsnAck) (ackInfo : AckInfo) :
    Ensures (ackGapBlocks cumulativeTsnAck blocks ackInfo self) fun result =>
      Valid result.2 ∧ result.2.lastCumulativeTsnAck = cumulativeTsnAck := by
  induction blocks generalizing self ackInfo with
  | nil => exact .ok ⟨valid, lastTsn⟩
  | cons block rest ih =>
    have ordered := nonempty block List.mem_cons_self
    unfold ackGapBlocks
    rw [lowerBound_int, valid.upperBound_max (_ - 1), lastTsn]
    refine (sweep_ensures (fun state : AckInfo × OutstandingData Q => state.2)
      (some (cumulativeTsnAck + block.stop.toNat))
      (fun _ state => state.2.toBeFastRetransmitted = ∅ ∧ state.2.nextTsn = self.nextTsn ∧
        state.2.lastCumulativeTsnAck = cumulativeTsnAck)
      (fun state => Valid state.2 ∧ state.2.toBeFastRetransmitted = ∅ ∧
        state.2.lastCumulativeTsnAck = cumulativeTsnAck)
      (ackInfo, self) valid ?_ ?_ ⟨noFast, rfl, lastTsn⟩ ?_ ?_ ?_).bind ?_
    · dsimp only
      omega
    · rintro last ⟨⟩
      omega
    · rintro reached state stateValid ⟨-, nextTsn, stateLast⟩
      rw [stopAt, Option.elim_some, valid.upperBound_eq (by omega),
        stateValid.upperBound_eq (by omega), nextTsn]
    · rintro reached state stateValid ⟨stillNoFast, -, stateLast⟩ -
      exact ⟨stateValid, stillNoFast, stateLast⟩
    · rintro reached state item stateValid ⟨stillNoFast, nextTsn, stateLast⟩ found
      refine (ackChunk_ensures stateValid stillNoFast found state.1).bind ?_
      rintro ⟨info, next⟩ ⟨nextValid, advances, sameNext, nextNoFast, -⟩
      exact .ok ⟨nextValid, advances, fun _ => sameNext, fun _ => ⟨nextNoFast,
        sameNext.trans nextTsn, advances.lastTsn.trans stateLast⟩,
        nofun⟩
    · rintro ⟨info, next⟩ ⟨nextValid, nextNoFast, nextLast⟩
      exact ih (fun other member => nonempty other (List.mem_cons_of_mem block member))
        nextValid nextNoFast nextLast info

/-! ## Losses -/

theorem nackGaps_ensures (maxTsnToNack : Int) (isInFastRecovery : Bool)
    (spaced : ChunkValidators.Spaced blocks) {prevBlockLastAcked : Int}
    (above : cumulativeTsnAck ≤ prevBlockLastAcked) (before : ∀ block ∈ blocks.head?,
      prevBlockLastAcked ≤ max (cumulativeTsnAck + block.start.toNat - 1) cumulativeTsnAck)
    (valid : Valid self) (lastTsn : self.lastCumulativeTsnAck = cumulativeTsnAck)
    (ackInfo : AckInfo) :
    Ensures (nackGaps cumulativeTsnAck maxTsnToNack isInFastRecovery blocks prevBlockLastAcked
      ackInfo self) fun result => Valid result.2 := by
  induction blocks generalizing self ackInfo prevBlockLastAcked with
  | nil => exact .ok valid
  | cons block rest ih =>
    obtain ⟨apart, restApart⟩ := List.isChain_cons.mp spaced.apart
    refine (sweep_ensures (fun state : AckInfo × OutstandingData Q => state.2)
      (some (max (cumulativeTsnAck + block.start.toNat - 1) cumulativeTsnAck))
      (fun _ state => state.2.lastCumulativeTsnAck = cumulativeTsnAck)
      (fun state => Valid state.2 ∧ state.2.lastCumulativeTsnAck = cumulativeTsnAck)
      (ackInfo, self) valid (lastTsn.le.trans above) ?_ lastTsn ?_ ?_ ?_).bind ?_
    · rintro last ⟨⟩
      exact before block rfl
    · intro reached state stateValid stateLast
      rw [lowerBound_int, stateValid.upperBound_max (_ - 1), stateLast]
      rfl
    · exact fun reached state stateValid stateLast _ => ⟨stateValid, stateLast⟩
    · intro reached state item stateValid stateLast found
      split_ifs
      · refine (nackItem_ensures stateValid found false (!isInFastRecovery)).bind ?_
        rintro ⟨loss, next⟩ ⟨nextValid, advances, quiet, -⟩
        exact .ok ⟨nextValid, advances, quiet, fun _ => advances.lastTsn.trans stateLast, nofun⟩
      · exact .ok ⟨stateValid, Advances.refl stateValid, fun _ => rfl, fun _ => stateLast, nofun⟩
    · rintro ⟨info, next⟩ ⟨nextValid, nextLast⟩
      refine ih ⟨restApart, ?_⟩ ?_ ?_ nextValid nextLast info
      · exact fun other member => spaced.nonempty other (List.mem_cons_of_mem block member)
      · omega
      · intro following isFollowing
        have gap := apart following isFollowing
        omega

/-- A walk over all items whose steps add nothing to the fast retransmissions. -/
theorem sweepAll_ensures
    {body : Int → Item → OutstandingData Q → Except Violation (Bool × OutstandingData Q)}
    (valid : Valid self)
    (step : ∀ tsn state item, Valid state → state.outstandingData[tsn]? = some item →
      Ensures (body tsn item state) fun result =>
        Valid result.2 ∧ Advances state result.2 ∧
        (item.isAbandoned = true → result.2.nextTsn = state.nextTsn) ∧
        result.2.toBeFastRetransmitted ⊆ state.toBeFastRetransmitted) :
    Ensures (iterate (fun state : OutstandingData Q => state.outstandingData) (fun _ => none)
      body .invalidIterator self.fuel self.begin self) fun next =>
      Valid next ∧ next.toBeFastRetransmitted ⊆ self.toBeFastRetransmitted := by
  rw [valid.begin_eq]
  refine sweep_ensures (fun state => state) none
    (fun _ state => state.toBeFastRetransmitted ⊆ self.toBeFastRetransmitted) _
    self valid le_rfl (by simp) (Finset.Subset.refl _) (fun _ _ _ _ => rfl) ?_ ?_
  · exact fun reached state stateValid fewer _ => ⟨stateValid, fewer⟩
  · intro reached state item stateValid fewer found
    refine (step _ state item stateValid found).weaken ?_
    rintro result ⟨nextValid, advances, quiet, subset⟩
    exact ⟨nextValid, advances, quiet, fun _ => subset.trans fewer,
      fun _ => ⟨nextValid, subset.trans fewer⟩⟩

theorem nackAll_ensures (valid : Valid self) :
    Ensures self.nackAll fun next =>
      Valid next ∧ next.toBeFastRetransmitted ⊆ self.toBeFastRetransmitted := by
  refine sweepAll_ensures valid fun tsn state item stateValid found => ?_
  split_ifs
  · exact .ok ⟨stateValid, Advances.refl stateValid, fun _ => rfl, Finset.Subset.refl _⟩
  · refine (nackItem_ensures stateValid found true false).bind ?_
    rintro ⟨loss, next⟩ ⟨nextValid, advances, quiet, subset⟩
    exact .ok ⟨nextValid, advances, quiet, subset rfl⟩

/-- The messages of expired items at the front are abandoned. -/
theorem expireOutstandingChunks_ensures (valid : Valid self) (now : TimeMs) :
    Ensures (self.expireOutstandingChunks now) fun next =>
      Valid next ∧ next.toBeFastRetransmitted ⊆ self.toBeFastRetransmitted := by
  refine sweepAll_ensures valid fun tsn state item stateValid found => ?_
  split_ifs with isAbandoned expired
  · exact .ok ⟨stateValid, Advances.refl stateValid, fun _ => rfl, Finset.Subset.refl _⟩
  · obtain ⟨nextValid, advances, subset⟩ := abandonAllFor_spec stateValid item
    exact .ok ⟨nextValid, advances, fun abandoned => absurd abandoned isAbandoned, subset⟩
  · exact .ok ⟨stateValid, Advances.refl stateValid, fun _ => rfl, Finset.Subset.refl _⟩

theorem handleSack_ensures (valid : Valid self) (noFast : self.toBeFastRetransmitted = ∅)
    (above : self.lastCumulativeTsnAck ≤ cumulativeTsnAck) (below : cumulativeTsnAck < self.nextTsn)
    (spaced : ChunkValidators.Spaced blocks) (isInFastRecovery : Bool) :
    Ensures (handleSack cumulativeTsnAck blocks isInFastRecovery self) fun result =>
      Valid result.2 := by
  refine (removeAcked_ensures valid noFast above below _).bind ?_
  rintro ⟨removedInfo, removed⟩ ⟨removedValid, removedNoFast, removedLast⟩
  refine (ackGapBlocks_ensures spaced.nonempty removedValid removedNoFast removedLast _).bind ?_
  rintro ⟨ackedInfo, acked⟩ ⟨ackedValid, ackedLast⟩
  exact nackGaps_ensures _ isInFastRecovery spaced le_rfl (fun _ _ => le_max_right _ _)
    ackedValid ackedLast ackedInfo

/-! ## Sending -/

/-- Every chunk of a set passes the assertions, and may go back in flight. -/
theorem extractChunks_ensures (kind : Retransmission) {tsns : List Int} (nodup : tsns.Nodup)
    (valid : Valid self) (members : ∀ tsn ∈ tsns, tsn ∈ self.chunks kind) (maxSize : Nat) :
    Ensures (extractChunks kind tsns maxSize self) fun result =>
      Valid result.2 ∧
      (kind = .normal → result.2.toBeFastRetransmitted = self.toBeFastRetransmitted) := by
  induction tsns generalizing self maxSize with
  | nil => exact .ok ⟨valid, fun _ => rfl⟩
  | cons tsn rest ih =>
    obtain ⟨fresh, restNodup⟩ := List.nodup_cons.mp nodup
    have member := members tsn List.mem_cons_self
    have restMembers := fun other inside => members other (List.mem_cons_of_mem tsn inside)
    obtain ⟨item, found, marked, nacked⟩ := valid.marked_of_mem member
    unfold extractChunks
    rw [found]
    refine (Ensures.check (by simp [Item.shouldBeRetransmitted, marked])).bind fun _ _ => ?_
    refine (Ensures.check (by simp [Item.isOutstanding, nacked])).bind fun _ _ => ?_
    refine (Ensures.check (by simp [Item.isAbandoned, marked])).bind fun _ _ => ?_
    refine (Ensures.check (by simp [Item.isAcked, nacked])).bind fun _ _ => ?_
    dsimp only
    by_cases fits : self.getSerializedChunkSize item.data ≤ maxSize
    · have nextValid := retransmit_valid valid member found
      have sameFast : kind = .normal → (self.retransmit kind tsn item).toBeFastRetransmitted =
          self.toBeFastRetransmitted := by
        rintro rfl
        rfl
      have nextMembers : ∀ other ∈ rest, other ∈ (self.retransmit kind tsn item).chunks kind := by
        intro other inside
        have differs : other ≠ tsn := fun same => fresh (same ▸ inside)
        have known := restMembers other inside
        cases kind
        · exact Finset.mem_erase.mpr ⟨differs, known⟩
        · exact Finset.mem_erase.mpr ⟨differs, known⟩
      split_ifs
      · exact .ok ⟨nextValid, sameFast⟩
      · refine (ih restNodup nextValid nextMembers _).bind ?_
        rintro ⟨more, last⟩ ⟨lastValid, lastFast⟩
        exact .ok ⟨lastValid, fun isNormal => (lastFast isNormal).trans (sameFast isNormal)⟩
    · split_ifs
      · exact .ok ⟨valid, fun _ => rfl⟩
      · refine (ih restNodup valid restMembers _).bind ?_
        rintro ⟨more, last⟩ ⟨lastValid, lastFast⟩
        exact .ok ⟨lastValid, lastFast⟩

theorem extractChunksThatCanFit_ensures (kind : Retransmission) (valid : Valid self)
    (maxSize : Nat) :
    Ensures (self.extractChunksThatCanFit kind maxSize) fun result =>
      Valid result.2 ∧
      (kind = .normal → result.2.toBeFastRetransmitted = self.toBeFastRetransmitted) :=
  extractChunks_ensures kind (Finset.sort_nodup _ _) valid
    (fun _ member => (Finset.mem_sort _).mp member) maxSize

/-- Fast retransmissions are sent now, or with the others later. -/
theorem getChunksToBeFastRetransmitted_ensures (valid : Valid self) (maxSize : Nat) :
    Ensures (self.getChunksToBeFastRetransmitted maxSize) fun result =>
      Valid result.2 ∧ result.2.toBeFastRetransmitted = ∅ := by
  refine (extractChunksThatCanFit_ensures .fast valid maxSize).bind ?_
  rintro ⟨sent, next⟩ ⟨nextValid, -⟩
  refine .ok ⟨⟨nextValid.keys, nextValid.ordered, nextValid.bytes, nextValid.items, ?_, ?_,
    nextValid.nacked⟩, rfl⟩
  · intro tsn
    simp only [Finset.notMem_empty, false_or, Finset.mem_union]
    exact or_comm.trans (nextValid.marked tsn)
  · simp

theorem getChunksToBeRetransmitted_ensures (valid : Valid self)
    (noFast : self.toBeFastRetransmitted = ∅) (maxSize : Nat) :
    Ensures (self.getChunksToBeRetransmitted maxSize) fun result =>
      Valid result.2 ∧ result.2.toBeFastRetransmitted = ∅ := by
  refine (Ensures.check (by simpa using noFast)).bind fun _ _ => ?_
  refine (extractChunksThatCanFit_ensures .normal valid maxSize).weaken ?_
  rintro ⟨sent, next⟩ ⟨nextValid, sameFast⟩
  exact ⟨nextValid, (sameFast rfl).trans noFast⟩

/-- A new item is in flight, and abandoned at once if it has expired. -/
theorem insert_spec (valid : Valid self) (data : Data) (timeSent : TimeMs)
    (maxRetransmissions : MaxRetransmits) (expiresAt : TimeMs) (lifecycleId : LifecycleId) :
    Valid (self.insert data timeSent maxRetransmissions expiresAt lifecycleId).2 ∧
      (self.insert data timeSent maxRetransmissions expiresAt lifecycleId).2.toBeFastRetransmitted ⊆
        self.toBeFastRetransmitted := by
  unfold OutstandingData.insert
  dsimp only
  set item : Item :=
    { timeSent := timeSent
      maxRetransmissions := maxRetransmissions
      expiresAt := expiresAt
      lifecycleId := lifecycleId
      data := data }
  set next : OutstandingData Q := { self with
    nextTsn := self.nextTsn + 1
    outstandingBytes := self.outstandingBytes + self.getSerializedChunkSize data
    outstandingItems := self.outstandingItems + 1
    outstandingData := self.outstandingData.insertIfNew self.nextTsn item }
  have nextValid : Valid next := valid.append rfl rfl rfl rfl rfl rfl rfl rfl rfl
  split_ifs
  · obtain ⟨lastValid, -, fewer⟩ := abandonAllFor_spec nextValid item
    exact ⟨lastValid, fewer⟩
  · exact ⟨nextValid, Finset.Subset.refl _⟩

/-! ## Runs -/

inductive Input where
  | insert (data : Data) (timeSent : TimeMs) (maxRetransmissions : MaxRetransmits)
      (expiresAt : TimeMs) (lifecycleId : LifecycleId)
  | handleSack (cumulativeTsnAck : Int) (sack : SackChunk) (isInFastRecovery : Bool)
  | nackAll
  | expireOutstandingChunks (now : TimeMs)
  | beginResetStreams
  | getChunksToBeRetransmitted (maxSize : Nat)
  | getChunksToBeFastRetransmitted (maxSize : Nat)

def Input.isSack : Input → Bool
  | .handleSack _ _ _ => true
  | _ => false

/-- The operations; acknowledgements are cleaned before they are handled. -/
def apply (self : OutstandingData Q) : Input → Except Violation (OutstandingData Q)
  | .insert data timeSent maxRetransmissions expiresAt lifecycleId =>
    .ok (self.insert data timeSent maxRetransmissions expiresAt lifecycleId).2
  | .handleSack cumulativeTsnAck sack isInFastRecovery =>
    (self.handleSack cumulativeTsnAck (ChunkValidators.clean sack).gapAckBlocks
      isInFastRecovery).map Prod.snd
  | .nackAll => self.nackAll
  | .expireOutstandingChunks now => self.expireOutstandingChunks now
  | .beginResetStreams => .ok self.beginResetStreams
  | .getChunksToBeRetransmitted maxSize => (self.getChunksToBeRetransmitted maxSize).map Prod.snd
  | .getChunksToBeFastRetransmitted maxSize =>
    (self.getChunksToBeFastRetransmitted maxSize).map Prod.snd

/--
Outstanding data in use: whether an acknowledgement was handled since the last
fast retransmission, and the violation that ended the run.
-/
structure Audited (Q : Type) where
  self : OutstandingData Q
  sackHandled : Bool
  violation : Option Violation

/--
The socket asks for fast retransmissions right after an acknowledgement, and
drops acknowledgements outside of the outstanding range.
-/
def machine : Machine (Audited Q) Input where
  pre state input :=
    (state.sackHandled = true → ∃ maxSize, input = .getChunksToBeFastRetransmitted maxSize) ∧
    match input with
    | .handleSack cumulativeTsnAck _ _ =>
      state.self.lastCumulativeTsnAck ≤ cumulativeTsnAck ∧
        cumulativeTsnAck ≤ state.self.highestOutstandingTsn
    | _ => True
  next state input :=
    match state.violation, state.self.apply input with
    | none, .ok next =>
      { self := next
        sackHandled := input.isSack
        violation := none }
    | none, .error violation => { state with violation := some violation }
    | some _, _ => state

/-- The bookkeeping is right, and fast retransmissions wait only for the next call. -/
structure Sound (state : Audited Q) : Prop where
  noViolation : state.violation = none
  valid : Valid state.self
  noFast : state.sackHandled = false → state.self.toBeFastRetransmitted = ∅

theorem Valid.highestOutstandingTsn_lt (valid : Valid self) :
    self.highestOutstandingTsn < self.nextTsn := by
  unfold OutstandingData.highestOutstandingTsn
  cases highest : self.outstandingData.keys.getLast? with
  | none => exact valid.ordered
  | some tsn => exact ((valid.keys tsn).mp (ExtTreeMap.mem_keys.mp (List.mem_of_getLast? highest))).2

theorem create_sound (dataChunkHeaderSize : Nat) (lastCumulativeTsnAck : Int)
    (discardFromSendQueue : Bool → StreamId → Mid → Q → Bool × Q) (sendQueue : Q) :
    Sound ⟨create dataChunkHeaderSize (lastCumulativeTsnAck + 1) lastCumulativeTsnAck
      discardFromSendQueue sendQueue, false, none⟩ := by
  refine ⟨rfl, ⟨?_, ?_, rfl, rfl, ?_, ?_, ?_⟩, fun _ => rfl⟩
  · intro tsn
    simp [create]
  · simp [create]
  · simp [create]
  · simp [create]
  · simp [create]

section

variable {state : Audited Q} {input : Input} (sound : Sound state)
  (admissible : machine.pre state input)
include sound admissible

/-- One operation: it meets no violation, and keeps the bookkeeping right. -/
theorem Sound.apply_ensures :
    Ensures (state.self.apply input) fun next =>
      Valid next ∧ (input.isSack = false → next.toBeFastRetransmitted = ∅) := by
  obtain ⟨-, valid, noFast⟩ := sound
  obtain ⟨follows, inRange⟩ := admissible
  have quiet : (∀ maxSize, input ≠ .getChunksToBeFastRetransmitted maxSize) →
      state.self.toBeFastRetransmitted = ∅ := by
    intro other
    refine noFast (Bool.eq_false_iff.mpr fun handled => ?_)
    obtain ⟨maxSize, same⟩ := follows handled
    exact other maxSize same
  cases input with
  | insert data timeSent maxRetransmissions expiresAt lifecycleId =>
    obtain ⟨nextValid, fewer⟩ :=
      insert_spec valid data timeSent maxRetransmissions expiresAt lifecycleId
    exact .ok ⟨nextValid, fun _ => Finset.subset_empty.mp (quiet (by simp) ▸ fewer)⟩
  | handleSack cumulativeTsnAck sack isInFastRecovery =>
    have below : cumulativeTsnAck < state.self.nextTsn :=
      inRange.2.trans_lt valid.highestOutstandingTsn_lt
    refine Ensures.map ((handleSack_ensures valid (quiet (by simp)) inRange.1 below
      (ChunkValidators.clean_spaced sack) isInFastRecovery).weaken fun result nextValid => ?_)
    exact ⟨nextValid, fun notSack => absurd notSack (by simp [Input.isSack])⟩
  | nackAll =>
    refine (nackAll_ensures valid).weaken fun next => ?_
    rintro ⟨nextValid, fewer⟩
    exact ⟨nextValid, fun _ => Finset.subset_empty.mp (quiet (by simp) ▸ fewer)⟩
  | expireOutstandingChunks now =>
    refine (expireOutstandingChunks_ensures valid now).weaken fun next => ?_
    rintro ⟨nextValid, fewer⟩
    exact ⟨nextValid, fun _ => Finset.subset_empty.mp (quiet (by simp) ▸ fewer)⟩
  | beginResetStreams =>
    exact .ok ⟨⟨valid.keys, valid.ordered, valid.bytes, valid.items, valid.marked, valid.apart,
      valid.nacked⟩, fun _ => quiet (by simp)⟩
  | getChunksToBeRetransmitted maxSize =>
    refine Ensures.map ((getChunksToBeRetransmitted_ensures valid (quiet (by simp))
      maxSize).weaken fun result => ?_)
    exact fun ⟨nextValid, nextNoFast⟩ => ⟨nextValid, fun _ => nextNoFast⟩
  | getChunksToBeFastRetransmitted maxSize =>
    refine Ensures.map ((getChunksToBeFastRetransmitted_ensures valid maxSize).weaken
      fun result => ?_)
    exact fun ⟨nextValid, nextNoFast⟩ => ⟨nextValid, fun _ => nextNoFast⟩

theorem Sound.next : Sound (machine.next state input) := by
  obtain ⟨next, applied, nextValid, nextNoFast⟩ := sound.apply_ensures admissible
  have noViolation := sound.noViolation
  simp only [machine, noViolation, applied]
  exact ⟨rfl, nextValid, nextNoFast⟩

end

theorem Sound.of_run {first last : Audited Q} (sound : Sound first) {inputs : List Input}
    (run : machine.Run first inputs last) : Sound last :=
  run.invariant (fun _ state => Sound state) sound fun _ _ _ _ sound admissible =>
    sound.next admissible

/--
After every operation of every run the check of the source holds, and no
operation has violated an assertion or let a counter drop below zero.
-/
theorem isConsistent_of_run (dataChunkHeaderSize : Nat) (lastCumulativeTsnAck : Int)
    (discardFromSendQueue : Bool → StreamId → Mid → Q → Bool × Q) (sendQueue : Q)
    (inputs : List Input) (last : Audited Q)
    (run : machine.Run ⟨create dataChunkHeaderSize (lastCumulativeTsnAck + 1)
      lastCumulativeTsnAck discardFromSendQueue sendQueue, false, none⟩ inputs last) :
    last.violation = none ∧ last.self.isConsistent = true := by
  have sound : Sound last := Sound.of_run
    (create_sound dataChunkHeaderSize lastCumulativeTsnAck discardFromSendQueue sendQueue) run
  exact ⟨sound.noViolation, sound.valid.isConsistent⟩

/-- A first fragment that is sent once, of the message with the given number. -/
def sendOnce (messageId : Mid) : Input :=
  .insert ⟨1, 0, messageId, 0, 51, [1, 2, 3], true, false, false⟩ 0 0 TimeMs.infiniteFuture 0

/-- An acknowledgement of the second up to the given fragment, and the retransmissions after it. -/
def sackUpTo (stop : BitVec 16) : List Input :=
  [.handleSack 10 ⟨10, 5000, [⟨2, stop⟩], ∅⟩ false, .getChunksToBeFastRetransmitted 1200]

/-- The first of four fragments is reported missing three times. -/
def lostFragment : List Input :=
  [sendOnce 0, sendOnce 1, sendOnce 2, sendOnce 3] ++ sackUpTo 2 ++ sackUpTo 3 ++ sackUpTo 4

/-- The lost message is abandoned, and its placeholder takes a TSN of its own. -/
theorem isConsistent_of_lost_fragment :
    (machine.outcome ⟨create 16 11 10 (fun _ _ _ queue => (true, queue)) (), false, none⟩ lostFragment).self.nextTsn =
      16 ∧
    (machine.outcome ⟨create 16 11 10 (fun _ _ _ queue => (true, queue)) (), false, none⟩
      lostFragment).violation = none ∧
    (machine.outcome ⟨create 16 11 10 (fun _ _ _ queue => (true, queue)) (), false, none⟩
      lostFragment).self.isConsistent = true := by
  have admitted : machine.Admits ⟨create 16 11 10 (fun _ _ _ queue => (true, queue)) (), false, none⟩
      lostFragment := by
    refine ⟨⟨?_, trivial⟩, ⟨?_, trivial⟩, ⟨?_, trivial⟩, ⟨?_, trivial⟩,
      ⟨?_, ?_, ?_⟩, ⟨fun _ => ⟨_, rfl⟩, trivial⟩, ⟨?_, ?_, ?_⟩, ⟨fun _ => ⟨_, rfl⟩, trivial⟩,
      ⟨?_, ?_, ?_⟩, ⟨fun _ => ⟨_, rfl⟩, trivial⟩, trivial⟩
    all_goals first | decide +kernel | exact fun handled => absurd handled (by decide +kernel)
  exact ⟨by decide +kernel, isConsistent_of_run 16 10 _ () lostFragment _ admitted.run⟩

end MaeRtc.DcSctp.OutstandingData
