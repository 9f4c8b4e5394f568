import MaeRtc.Base.Contents
import MaeRtc.DcSctp.Bookkeeping
import MaeRtc.DcSctp.ForwardTsn

/-!
# Reliable messages

A message without a limit of retransmissions and without a lifetime is not given
up, as long as its retransmissions can be counted: no limit is the largest value
of the counter.
-/

namespace MaeRtc.DcSctp.OutstandingData

open MaeRtc.Base OrderedMap
open Std (ExtTreeMap)

variable {Q : Type}

/-! ## Items -/

/-- An item that has neither a limit nor a lifetime, and is not given up. -/
structure Item.Reliable (item : Item) : Prop where
  unlimited : item.maxRetransmissions = MaxRetransmits.noLimit
  unexpiring : item.expiresAt = TimeMs.infiniteFuture
  kept : item.isAbandoned = false

/-- If the item has no limit, its next retransmission can still be counted. -/
def Item.Countable (item : Item) : Prop :=
  item.maxRetransmissions = MaxRetransmits.noLimit →
    item.numRetransmissions ≠ MaxRetransmits.noLimit

instance (item : Item) : Decidable item.Countable :=
  inferInstanceAs (Decidable (_ → _))

/-- The items of a message are reliable, and every item is countable if that is asked for. -/
structure Item.Spared (data : Data) (counted : Prop) (item : Item) : Prop where
  reliable : sameMessage item.data data = true → item.Reliable
  countable : counted → item.Countable

section Items

variable {data : Data} {counted : Prop} {item : Item}

theorem Item.Reliable.not_exhausted (reliable : item.Reliable) (countable : item.Countable) :
    item.numRetransmissions < item.maxRetransmissions := by
  have differs : item.numRetransmissions.toNat ≠ 65535 := fun full =>
    countable reliable.unlimited (BitVec.eq_of_toNat_eq full)
  have bounded := item.numRetransmissions.isLt
  rw [reliable.unlimited, BitVec.lt_def]
  exact lt_of_le_of_ne (Nat.le_of_lt_succ bounded) differs

theorem Item.Reliable.not_hasExpired (reliable : item.Reliable) {now : TimeMs}
    (finite : now < TimeMs.infiniteFuture) : item.hasExpired now = false := by
  simpa [Item.hasExpired, reliable.unexpiring] using finite

theorem Item.Spared.ack (spared : item.Spared data counted) : item.ack.Spared data counted := by
  refine ⟨fun same => ?_, spared.countable⟩
  obtain ⟨unlimited, unexpiring, kept⟩ := spared.reliable same
  exact ⟨unlimited, unexpiring, (Item.ack_isAbandoned item).trans kept⟩

/-- An item reported missing is given up only if it does not belong to the message. -/
theorem Item.Spared.nack (spared : item.Spared data True) (retransmitNow : Bool) :
    (item.nack retransmitNow).2.Spared data True ∧
      ((item.nack retransmitNow).1 = .abandon →
        sameMessage (item.nack retransmitNow).2.data data = false) := by
  have countable := spared.countable trivial
  unfold Item.nack
  dsimp only
  split_ifs with lost left
  · refine ⟨⟨fun same => ?_, fun _ => countable⟩, nofun⟩
    obtain ⟨unlimited, unexpiring, -⟩ := spared.reliable same
    exact ⟨unlimited, unexpiring, rfl⟩
  · have other : sameMessage item.data data = false := by
      rw [← Bool.not_eq_true]
      exact fun same => left ((spared.reliable same).not_exhausted countable)
    exact ⟨⟨fun same => absurd same (by simp [Item.abandon, other]), fun _ => countable⟩,
      fun _ => other⟩
  · refine ⟨⟨fun same => ?_, fun _ => countable⟩, nofun⟩
    obtain ⟨unlimited, unexpiring, kept⟩ := spared.reliable same
    exact ⟨unlimited, unexpiring, kept⟩

theorem Item.Spared.markAsRetransmitted (spared : item.Spared data False) :
    item.markAsRetransmitted.Spared data False := by
  refine ⟨fun same => ?_, False.elim⟩
  obtain ⟨unlimited, unexpiring, -⟩ := spared.reliable same
  exact ⟨unlimited, unexpiring, rfl⟩

/-- Items that belong to one message belong to the same messages. -/
theorem sameMessage_of_both {one two three : Data} (first : sameMessage one two = true)
    (second : sameMessage one three = true) : sameMessage two three = true := by
  simp only [sameMessage, Bool.and_eq_true, beq_iff_eq] at first second ⊢
  obtain ⟨⟨firstStream, firstKind⟩, firstId⟩ := first
  obtain ⟨⟨secondStream, secondKind⟩, secondId⟩ := second
  exact ⟨⟨firstStream.symm.trans secondStream, firstKind.symm.trans secondKind⟩,
    firstId.symm.trans secondId⟩

end Items

/-! ## Operations -/

/-- Every outstanding item has the property. -/
def EveryItem (P : Item → Prop) (self : OutstandingData Q) : Prop :=
  ∀ (tsn : Int) (item : Item), self.outstandingData[tsn]? = some item → P item

section Operations

variable {P : Item → Prop} {data : Data} {counted : Prop} {self next : OutstandingData Q}
  {item : Item}

theorem EveryItem.insert (every : EveryItem P self) (tsn : Int) (holds : P item)
    (entries : next.outstandingData = self.outstandingData.insert tsn item) : EveryItem P next := by
  intro other otherItem found
  rw [entries, OrderedMap.lookup_insert] at found
  split_ifs at found with same
  · cases found
    exact holds
  · exact every other otherItem found

theorem EveryItem.insertIfNew (every : EveryItem P self) {tsn : Int} (holds : P item)
    (entries : next.outstandingData = self.outstandingData.insertIfNew tsn item) :
    EveryItem P next := by
  intro other otherItem found
  rw [entries, ExtTreeMap.getElem?_insertIfNew] at found
  split_ifs at found with isNew
  · cases found
    exact holds
  · exact every other otherItem found

theorem deductInFlight_yields (item : Item) :
    Yields (self.deductInFlight item) fun next =>
      next.outstandingData = self.outstandingData := by
  unfold deductInFlight
  split_ifs
  · exact Yields.check.bind fun _ _ => Yields.check.bind fun _ _ => .ok rfl
  · exact .ok rfl

theorem EveryItem.ackChunk (every : EveryItem (Item.Spared data counted) self) {tsn : Int}
    (found : self.outstandingData[tsn]? = some item) (ackInfo : AckInfo) :
    Yields (ackChunk ackInfo tsn item self) fun result =>
      EveryItem (Item.Spared data counted) result.2 := by
  unfold OutstandingData.ackChunk
  by_cases isAcked : item.isAcked = true
  · rw [if_pos isAcked]
    exact .ok every
  · rw [if_neg isAcked]
    refine (deductInFlight_yields item).bind fun deducted same => Yields.check.bind fun _ _ => ?_
    exact .ok (every.insert tsn (every tsn item found).ack (congrArg (·.insert tsn item.ack) same))

theorem EveryItem.abandonAllFor (every : EveryItem (Item.Spared data counted) self)
    (other : sameMessage item.data data = false) :
    EveryItem (Item.Spared data counted) (self.abandonAllFor item) := by
  have placeholder : (messageEnd item).Spared data counted :=
    ⟨fun same => absurd (show sameMessage item.data data = true from same) (by simp [other]),
      fun _ _ => by simp [messageEnd, Item.ack, MaxRetransmits.noLimit]⟩
  have middle : EveryItem (Item.Spared data counted) (self.discardRest item) := by
    unfold discardRest
    dsimp only
    split_ifs
    · exact every.insertIfNew placeholder rfl
    · exact every
  intro tsn changed found
  rw [OutstandingData.abandonAllFor, abandonMessage_getElem?] at found
  obtain ⟨before, beforeFound, rfl⟩ := Option.map_eq_some_iff.mp found
  have spared := middle tsn before beforeFound
  split_ifs with abandons
  · refine ⟨fun same => ?_, spared.countable⟩
    simp only [abandonedWith, Bool.and_eq_true] at abandons
    exact absurd (sameMessage_of_both abandons.2 same) (by simp [other])
  · exact spared

theorem EveryItem.nackItem (every : EveryItem (Item.Spared data True) self) {tsn : Int}
    (found : self.outstandingData[tsn]? = some item) (retransmitNow doFastRetransmit : Bool) :
    Yields (nackItem tsn item retransmitNow doFastRetransmit self) fun result =>
      EveryItem (Item.Spared data True) result.2 := by
  obtain ⟨spared, other⟩ := (every tsn item found).nack retransmitNow
  refine (deductInFlight_yields item).bind fun deducted same => ?_
  have marked : EveryItem (Item.Spared data True)
      (deducted.setItem tsn (item.nack retransmitNow).2) :=
    every.insert tsn spared (congrArg (·.insert tsn (item.nack retransmitNow).2) same)
  dsimp only
  split
  · exact .ok marked
  · split_ifs
    · exact .ok marked
    · exact .ok marked
  next abandons => exact .ok (marked.abandonAllFor (other abandons))

theorem EveryItem.removeAcked (every : EveryItem (Item.Spared data counted) self)
    (cumulativeTsnAck : Int) (ackInfo : AckInfo) :
    Yields (removeAcked cumulativeTsnAck ackInfo self) fun result =>
      EveryItem (Item.Spared data counted) result.2 := by
  refine (iterate_yields (fun state => EveryItem (Item.Spared data counted) state.2) ?_ _ _ _
    every).bind ?_
  · rintro ⟨info, state⟩ tsn item holds found
    refine (holds.ackChunk found info).bind ?_
    exact fun _ nextHolds => .ok nextHolds
  · rintro ⟨info, state⟩ holds
    refine .ok fun tsn item found => ?_
    exact holds tsn item (found_filter_iff.mp found).1

theorem EveryItem.ackGapBlocks (cumulativeTsnAck : Int) (blocks : List GapAckBlock)
    (every : EveryItem (Item.Spared data counted) self) (ackInfo : AckInfo) :
    Yields (ackGapBlocks cumulativeTsnAck blocks ackInfo self) fun result =>
      EveryItem (Item.Spared data counted) result.2 := by
  induction blocks generalizing self ackInfo with
  | nil => exact .ok every
  | cons block rest ih =>
    refine (iterate_yields (fun state => EveryItem (Item.Spared data counted) state.2) ?_ _ _ _
      every).bind ?_
    · rintro ⟨info, state⟩ tsn item holds found
      refine (holds.ackChunk found info).bind ?_
      exact fun _ nextHolds => .ok nextHolds
    · rintro ⟨info, state⟩ holds
      exact ih holds info

theorem EveryItem.nackGaps (cumulativeTsnAck maxTsnToNack : Int) (isInFastRecovery : Bool)
    (blocks : List GapAckBlock) (prevBlockLastAcked : Int)
    (every : EveryItem (Item.Spared data True) self) (ackInfo : AckInfo) :
    Yields (nackGaps cumulativeTsnAck maxTsnToNack isInFastRecovery blocks prevBlockLastAcked
      ackInfo self) fun result => EveryItem (Item.Spared data True) result.2 := by
  induction blocks generalizing self ackInfo prevBlockLastAcked with
  | nil => exact .ok every
  | cons block rest ih =>
    refine (iterate_yields (fun state => EveryItem (Item.Spared data True) state.2) ?_ _ _ _
      every).bind ?_
    · rintro ⟨info, state⟩ tsn item holds found
      split_ifs
      · refine (holds.nackItem found false (!isInFastRecovery)).bind ?_
        exact fun _ nextHolds => .ok nextHolds
      · exact .ok holds
    · rintro ⟨info, state⟩ holds
      exact ih _ holds info

theorem EveryItem.handleSack (every : EveryItem (Item.Spared data True) self)
    (cumulativeTsnAck : Int) (blocks : List GapAckBlock) (isInFastRecovery : Bool) :
    Yields (handleSack cumulativeTsnAck blocks isInFastRecovery self) fun result =>
      EveryItem (Item.Spared data True) result.2 := by
  refine (every.removeAcked cumulativeTsnAck _).bind ?_
  rintro ⟨removedInfo, removed⟩ removedHolds
  refine (EveryItem.ackGapBlocks cumulativeTsnAck blocks removedHolds _).bind ?_
  rintro ⟨ackedInfo, acked⟩ ackedHolds
  exact EveryItem.nackGaps _ _ _ _ _ ackedHolds _

theorem EveryItem.nackAll (every : EveryItem (Item.Spared data True) self) :
    Yields self.nackAll (EveryItem (Item.Spared data True)) := by
  refine iterate_yields (EveryItem (Item.Spared data True)) ?_ _ _ _ every
  intro state tsn item holds found
  split_ifs
  · exact .ok holds
  · refine (holds.nackItem found true false).bind ?_
    exact fun _ nextHolds => .ok nextHolds

theorem EveryItem.expireOutstandingChunks (every : EveryItem (Item.Spared data counted) self)
    {now : TimeMs} (finite : now < TimeMs.infiniteFuture) :
    Yields (self.expireOutstandingChunks now) (EveryItem (Item.Spared data counted)) := by
  refine iterate_yields (EveryItem (Item.Spared data counted)) ?_ _ _ _ every
  intro state tsn item holds found
  split_ifs with isAbandoned expired
  · exact .ok holds
  · refine .ok (holds.abandonAllFor ?_)
    rw [← Bool.not_eq_true]
    intro same
    have alive := ((holds tsn item found).reliable same).not_hasExpired finite
    simp [alive] at expired
  · exact .ok holds

theorem EveryItem.extractChunks (kind : Retransmission) (tsns : List Int) (maxSize : Nat)
    (every : EveryItem (Item.Spared data False) self) :
    Yields (extractChunks kind tsns maxSize self) fun result =>
      EveryItem (Item.Spared data False) result.2 := by
  induction tsns generalizing self maxSize with
  | nil => exact .ok every
  | cons tsn rest ih =>
    have sent : ∀ item, self.outstandingData[tsn]? = some item →
        EveryItem (Item.Spared data False) (self.retransmit kind tsn item) := by
      intro item found
      refine every.insert tsn (every tsn item found).markAsRetransmitted ?_
      cases kind <;> rfl
    unfold OutstandingData.extractChunks
    split
    · exact .error
    next item found =>
      refine Yields.check.bind fun _ _ => Yields.check.bind fun _ _ =>
        Yields.check.bind fun _ _ => Yields.check.bind fun _ _ => ?_
      dsimp only
      by_cases fits : self.getSerializedChunkSize item.data ≤ maxSize
      · split_ifs
        · exact .ok (sent item found)
        · exact (ih _ (sent item found)).bind fun _ holds => .ok holds
      · split_ifs
        · exact .ok every
        · exact (ih _ every).bind fun _ holds => .ok holds

theorem EveryItem.insertItem (every : EveryItem (Item.Spared data False) self) (sent : Data)
    {timeSent : TimeMs} (finite : timeSent < TimeMs.infiniteFuture)
    (maxRetransmissions : MaxRetransmits) (expiresAt : TimeMs) (lifecycleId : LifecycleId)
    (reliable : sameMessage sent data = true →
      maxRetransmissions = MaxRetransmits.noLimit ∧ expiresAt = TimeMs.infiniteFuture) :
    EveryItem (Item.Spared data False)
      (self.insert sent timeSent maxRetransmissions expiresAt lifecycleId).2 := by
  unfold OutstandingData.insert
  dsimp only
  have spared : Item.Spared data False ⟨timeSent, maxRetransmissions, .active, .unacked, 0, 0,
      expiresAt, lifecycleId, sent⟩ :=
    ⟨fun same => ⟨(reliable same).1, (reliable same).2, rfl⟩, False.elim⟩
  split_ifs with expired
  · refine EveryItem.abandonAllFor (every.insertIfNew spared rfl) ?_
    rw [← Bool.not_eq_true]
    intro same
    have alive := (spared.reliable same).not_hasExpired finite
    exact Bool.false_ne_true (alive.symm.trans expired)
  · exact every.insertIfNew spared rfl

end Operations

/-! ## Runs -/

/-- Fragments of the message are sent without a limit and without a lifetime. -/
def Input.SendsReliably (data : Data) : Input → Prop
  | .insert sent _ maxRetransmissions expiresAt _ => sameMessage sent data = true →
      maxRetransmissions = MaxRetransmits.noLimit ∧ expiresAt = TimeMs.infiniteFuture
  | _ => True

/-- Times are finite, and losses are handled while every retransmission can be counted. -/
def WithinLimits (state : Audited Q) : Input → Prop
  | .insert _ timeSent _ _ _ => timeSent < TimeMs.infiniteFuture
  | .expireOutstandingChunks now => now < TimeMs.infiniteFuture
  | .handleSack _ _ _ | .nackAll =>
    ∀ entry ∈ state.self.outstandingData.toList, entry.2.Countable
  | _ => True

/-- The operations in any order. -/
def anyOrder : Machine (Audited Q) Input where
  pre _ _ := True
  next := machine.next

section

variable {data : Data} {state : Audited Q} {input : Input}
  (every : EveryItem (Item.Spared data False) state.self) (within : WithinLimits state input)
  (reliable : input.SendsReliably data)
include every within reliable

theorem EveryItem.apply : Yields (state.self.apply input) (EveryItem (Item.Spared data False)) := by
  have counts : (∀ entry ∈ state.self.outstandingData.toList, entry.2.Countable) →
      EveryItem (Item.Spared data True) state.self := fun countable tsn item found =>
    ⟨(every tsn item found).reliable, fun _ =>
      countable (tsn, item) (ExtTreeMap.mem_toList_iff_getElem?_eq_some.mpr found)⟩
  have forget : ∀ next : OutstandingData Q, EveryItem (Item.Spared data True) next →
      EveryItem (Item.Spared data False) next := fun next holds tsn item found =>
    ⟨(holds tsn item found).reliable, False.elim⟩
  cases input with
  | insert sent timeSent maxRetransmissions expiresAt lifecycleId =>
    exact .ok (every.insertItem sent within maxRetransmissions expiresAt lifecycleId reliable)
  | handleSack cumulativeTsnAck sack isInFastRecovery =>
    exact Yields.map (((counts within).handleSack cumulativeTsnAck _ isInFastRecovery).weaken
      fun result holds => forget result.2 holds)
  | nackAll => exact (counts within).nackAll.weaken forget
  | expireOutstandingChunks now => exact every.expireOutstandingChunks within
  | beginResetStreams => exact .ok every
  | getChunksToBeRetransmitted maxSize =>
    refine Yields.map (Yields.check.bind fun _ _ => ?_)
    exact EveryItem.extractChunks .normal _ maxSize every
  | getChunksToBeFastRetransmitted maxSize =>
    refine Yields.map ((EveryItem.extractChunks .fast _ maxSize every).bind ?_)
    exact fun _ holds => .ok holds

theorem EveryItem.next : EveryItem (Item.Spared data False) (machine.next state input).self := by
  simp only [machine]
  split
  next next _ applied => exact every.apply within reliable next applied
  · exact every
  · exact every

end

/--
A message that is sent without a limit and without a lifetime, beginning in any
state that has no fragment of it: in every run within the limits none of its
fragments is ever abandoned, and no FORWARD-TSN skips one.
-/
theorem not_abandoned_of_run (data : Data) (start : Audited Q)
    (absent : EveryItem (fun item => sameMessage item.data data = false) start.self)
    (inputs : List Input) (last : Audited Q)
    (run : (anyOrder.restrict WithinLimits).Run start inputs last)
    (reliable : ∀ input ∈ inputs, input.SendsReliably data) (tsn : Int) (item : Item)
    (found : last.self.outstandingData[tsn]? = some item)
    (same : sameMessage item.data data = true) :
    item.isAbandoned = false ∧
      ¬(last.self.lastCumulativeTsnAck < tsn ∧ tsn ≤ last.self.newCumulativeAck) := by
  have spared : (∀ input ∈ inputs, input.SendsReliably data) →
      EveryItem (Item.Spared data False) last.self := by
    refine run.invariant (fun history state => (∀ input ∈ history, input.SendsReliably data) →
      EveryItem (Item.Spared data False) state.self) ?_ ?_
    · intro _ tsn item found
      exact ⟨fun same => absurd same (by simp [absent tsn item found]), False.elim⟩
    · intro history state input _ holds admissible sends
      refine EveryItem.next (holds fun earlier member => ?_) admissible.2 ?_
      · exact sends earlier (List.mem_append_left _ member)
      · exact sends input (List.mem_append_right _ List.mem_cons_self)
  have kept := ((spared reliable tsn item found).reliable same).kept
  refine ⟨kept, fun ⟨above, upTo⟩ => ?_⟩
  have abandoned := isAbandoned_of_skipped found above upTo
  exact Bool.false_ne_true (kept.symm.trans abandoned)

instance (state : Audited Q) : ∀ input, Decidable ((anyOrder.restrict WithinLimits).pre state input)
  | .insert _ timeSent _ _ _ =>
    inferInstanceAs (Decidable (True ∧ timeSent < TimeMs.infiniteFuture))
  | .expireOutstandingChunks now => inferInstanceAs (Decidable (True ∧ now < TimeMs.infiniteFuture))
  | .handleSack _ _ _ | .nackAll => inferInstanceAs (Decidable
      (True ∧ ∀ entry ∈ state.self.outstandingData.toList, entry.2.Countable))
  | .beginResetStreams | .getChunksToBeRetransmitted _ | .getChunksToBeFastRetransmitted _ =>
    inferInstanceAs (Decidable (True ∧ True))

/-- A message of one fragment, without a limit and without a lifetime. -/
def reliableData : Data := ⟨1, 0, 0, 0, 51, [1], true, true, false⟩

def sendReliably : Input :=
  .insert reliableData 0 MaxRetransmits.noLimit TimeMs.infiniteFuture 0

/-- A retransmission timer expires, and what is missing is sent again. -/
def retry : List Input := [.nackAll, .getChunksToBeRetransmitted 1200]

/-- Nothing was sent, and the send queue has nothing left of any message. -/
def idle : Audited Unit := ⟨create 16 11 10 (fun _ _ _ queue => (false, queue)) (), false, none⟩

theorem idle_everyItem (P : Item → Prop) : EveryItem P idle.self := by
  intro tsn item found
  simp [idle, create] at found

/-- Two losses, and the expiry of other messages. -/
def lossyRun : List Input := sendReliably :: retry ++ retry ++ [.expireOutstandingChunks 5000]

/-- The message survives the losses. -/
theorem not_abandoned_after_retries :
    (anyOrder.outcome idle lossyRun).self.outstandingData.keys = [11] ∧
    ∀ item ∈ (anyOrder.outcome idle lossyRun).self.outstandingData[(11 : Int)]?,
      item.numRetransmissions = 2 ∧ item.isAbandoned = false := by
  have admitted : (anyOrder.restrict WithinLimits).Admits idle lossyRun := by
    decide +kernel
  have sent : ∀ item ∈ (anyOrder.outcome idle lossyRun).self.outstandingData[(11 : Int)]?,
      item.numRetransmissions = 2 ∧ sameMessage item.data reliableData = true := by
    decide +kernel
  refine ⟨by decide +kernel, fun item found => ⟨(sent item found).1, ?_⟩⟩
  refine (not_abandoned_of_run reliableData idle (idle_everyItem _) lossyRun _ admitted.run ?_ 11
    item found (sent item found).2).1
  simp [lossyRun, sendReliably, retry, Input.SendsReliably]

/-! ## Too many retransmissions -/

/-- The fragment after some retransmissions. -/
def retried (count : BitVec 16) : Item where
  timeSent := 0
  maxRetransmissions := MaxRetransmits.noLimit
  numRetransmissions := count
  expiresAt := TimeMs.infiniteFuture
  lifecycleId := 0
  data := reliableData

/-- The fragment is missing once more. -/
def missing (count : BitVec 16) : Item :=
  { retried count with
    lifecycle := .toBeRetransmitted
    ackState := .nacked
    nackCount := 1 }

/-- The fragment is the only one. -/
def only (item : Item) : ExtTreeMap Int Item :=
  (∅ : ExtTreeMap Int Item).insert 11 item

def afterRetries (count : BitVec 16) : OutstandingData Unit :=
  { idle.self with
    nextTsn := 12
    outstandingData := only (retried count)
    outstandingBytes := 20
    outstandingItems := 1 }

def afterLoss (count : BitVec 16) : OutstandingData Unit :=
  { idle.self with
    nextTsn := 12
    outstandingData := only (missing count)
    toBeRetransmitted := {11} }

theorem only_getElem? (item : Item) : (only item)[(11 : Int)]? = some item := by
  simp [only]

theorem only_insert (one two : Item) : (only one).insert 11 two = only two := by
  refine ExtTreeMap.ext_getElem? fun tsn => ?_
  simp only [only, OrderedMap.lookup_insert]
  split_ifs
  · rfl
  · rfl

theorem only_upperBound (item : Item) : upperBound (only item) 11 = none := by
  rw [upperBound_eq_none_iff]
  intro tsn member
  simp only [only, ExtTreeMap.mem_insert, Std.compare_eq_iff_eq, ExtTreeMap.not_mem_empty,
    or_false] at member
  omega

theorem getSerializedChunkSize_reliableData {self : OutstandingData Unit}
    (header : self.dataChunkHeaderSize = 16) : self.getSerializedChunkSize reliableData = 20 := by
  simp [getSerializedChunkSize, header, Data.size, reliableData, roundUpTo4]

section Retries

variable {count : BitVec 16}

section

variable (left : count < MaxRetransmits.noLimit)
include left

theorem nack_retried : (retried count).nack true = (.retransmit, missing count) := by
  simp [Item.nack, retried, missing, left, Item.shouldBeRetransmitted, Item.isAbandoned]

theorem nackItem_afterRetries :
    nackItem 11 (retried count) true false (afterRetries count) = .ok (true, afterLoss count) := by
  have size : (afterRetries count).getSerializedChunkSize (retried count).data = 20 :=
    getSerializedChunkSize_reliableData rfl
  have deducted : (afterRetries count).deductInFlight (retried count) =
      .ok { afterRetries count with
        outstandingBytes := 0
        outstandingItems := 0 } := by
    unfold deductInFlight
    rw [size, if_pos (show (retried count).isOutstanding = true from rfl)]
    rfl
  unfold nackItem
  rw [nack_retried left, deducted]
  simp [bind, Except.bind, setItem, afterRetries, afterLoss, only_insert, idle, create]

theorem nackAll_afterRetries : (afterRetries count).nackAll = .ok (afterLoss count) := by
  unfold nackAll begin
  rw [show (afterRetries count).fuel = 4 from rfl,
    show (afterRetries count).outstandingData.keys.head? = some 11 from rfl, iterate,
    if_neg (by simp), show (afterRetries count).outstandingData[(11 : Int)]? =
      some (retried count) from only_getElem? _]
  dsimp only
  rw [if_neg (show ¬(retried count).isAcked = true from Bool.false_ne_true), nackItem_afterRetries left]
  simp only [bind, Except.bind, if_true]
  rw [show upperBound (afterLoss count).outstandingData 11 = none from only_upperBound _, iterate,
    if_pos rfl]

end

theorem getChunksToBeRetransmitted_afterLoss (count : BitVec 16) :
    ((afterLoss count).getChunksToBeRetransmitted 1200).map Prod.snd =
      .ok (afterRetries (count + 1)) := by
  have size : (afterLoss count).getSerializedChunkSize (missing count).data = 20 :=
    getSerializedChunkSize_reliableData rfl
  have listed : inOrder ((afterLoss count).chunks .normal) = [11] := by
    simp [inOrder, chunks, afterLoss]
  have sent : (afterLoss count).retransmit .normal 11 (missing count) =
      afterRetries (count + 1) := by
    unfold retransmit
    rw [size]
    simp [setItem, eraseChunk, afterLoss, afterRetries, only_insert, idle, create, missing,
      Item.markAsRetransmitted, retried]
  unfold getChunksToBeRetransmitted extractChunksThatCanFit
  rw [listed]
  unfold extractChunks
  rw [show (afterLoss count).outstandingData[(11 : Int)]? = some (missing count) from
    only_getElem? _]
  dsimp only
  rw [size, sent]
  rfl

end Retries

/-- The timer may expire again and again, in the order in which the socket works. -/
theorem run_retries {count : Nat} (bounded : count ≤ 65535) :
    machine.Run idle (sendReliably :: (List.replicate count retry).flatten)
      ⟨afterRetries (BitVec.ofNat 16 count), false, none⟩ := by
  induction count with
  | zero =>
    have sent : machine.next idle sendReliably = ⟨afterRetries 0, false, none⟩ := by
      have entries : (∅ : ExtTreeMap Int Item).insertIfNew 11 (retried 0) = only (retried 0) := by
        refine ExtTreeMap.ext_getElem? fun tsn => ?_
        simp [only, ExtTreeMap.getElem?_insertIfNew, ExtTreeMap.getElem?_insert]
      exact congrArg (fun rows => (⟨{ afterRetries 0 with outstandingData := rows },
        false, none⟩ : Audited Unit)) entries
    exact sent ▸ (Machine.Run.nil idle).snoc sendReliably ⟨by rintro ⟨⟩, trivial⟩
  | succ count ih =>
    have left : BitVec.ofNat 16 count < MaxRetransmits.noLimit := by
      rw [BitVec.lt_def]
      simp only [MaxRetransmits.noLimit, BitVec.toNat_ofNat, BitVec.toNat_allOnes]
      omega
    have lost : machine.next ⟨afterRetries (BitVec.ofNat 16 count), false, none⟩ .nackAll =
        ⟨afterLoss (BitVec.ofNat 16 count), false, none⟩ := by
      simp [machine, OutstandingData.apply, nackAll_afterRetries left, Input.isSack]
    have sent : machine.next ⟨afterLoss (BitVec.ofNat 16 count), false, none⟩
        (.getChunksToBeRetransmitted 1200) =
        ⟨afterRetries (BitVec.ofNat 16 (count + 1)), false, none⟩ := by
      simp [machine, OutstandingData.apply, getChunksToBeRetransmitted_afterLoss, Input.isSack,
        BitVec.ofNat_add]
    have lossRun := (ih (by omega)).snoc .nackAll ⟨by rintro ⟨⟩, trivial⟩
    rw [lost] at lossRun
    have sentRun := lossRun.snoc (.getChunksToBeRetransmitted 1200) ⟨by rintro ⟨⟩, trivial⟩
    rw [sent] at sentRun
    simpa [List.replicate_succ', retry] using sentRun

/-- The last retransmission that can be counted makes the next loss final. -/
theorem abandoned_after_retries :
    ∃ inputs last item, machine.Run idle inputs last ∧
      (∀ input ∈ inputs, input.SendsReliably reliableData) ∧
      last.self.outstandingData[(11 : Int)]? = some item ∧
      sameMessage item.data reliableData = true ∧ item.isAbandoned = true ∧
      last.self.lastCumulativeTsnAck < 11 ∧ 11 ≤ last.self.newCumulativeAck := by
  have run := (run_retries (le_refl 65535)).snoc .nackAll ⟨fun handled => absurd handled Bool.false_ne_true, trivial⟩
  set last := machine.next (⟨afterRetries (BitVec.ofNat 16 65535), false, none⟩ : Audited Unit)
    .nackAll with lastEq
  have present : (last.self.outstandingData[(11 : Int)]?).isSome = true := by
    decide +kernel
  have abandoned : ∀ item ∈ last.self.outstandingData[(11 : Int)]?,
      sameMessage item.data reliableData = true ∧ item.isAbandoned = true := by
    decide +kernel
  have skipped : last.self.lastCumulativeTsnAck < 11 ∧ 11 ≤ last.self.newCumulativeAck := by
    decide +kernel
  obtain ⟨item, found⟩ := Option.isSome_iff_exists.mp present
  refine ⟨_, last, item, run, ?_, found, (abandoned item found).1, (abandoned item found).2,
    skipped⟩
  have quiet : ∀ input ∈ retry, input.SendsReliably reliableData := by
    simp [retry, Input.SendsReliably]
  intro input member
  rcases List.mem_append.mp member with earlier | final
  · rcases List.mem_cons.mp earlier with rfl | again
    · exact fun _ => ⟨rfl, rfl⟩
    · obtain ⟨_, one, inside⟩ := List.mem_flatten.mp again
      obtain rfl := List.eq_of_mem_replicate one
      exact quiet input inside
  · obtain rfl := List.mem_singleton.mp final
    trivial

end MaeRtc.DcSctp.OutstandingData
