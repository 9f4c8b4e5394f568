import MaeRtc.DcSctp.OutstandingData

/-!
# Changes of outstanding items

`Valid` says how the map of outstanding items, the two counters and the two sets
belong together.  Every operation changes one item after the other, abandons
the items of a message, or appends an item under the next TSN; each of these
changes keeps the relation.
-/

namespace MaeRtc.DcSctp.OutstandingData

open MaeRtc.Base OrderedMap
open Std (ExtTreeMap)

variable {Q : Type}

/-- The bookkeeping of the outstanding items is right. -/
structure Valid (queue : OutstandingData Q) : Prop where
  /-- The items have consecutive TSNs, from the cumulative one up to the next one. -/
  keys : ∀ tsn, tsn ∈ queue.outstandingData ↔
    queue.lastCumulativeTsnAck < tsn ∧ tsn < queue.nextTsn
  ordered : queue.lastCumulativeTsnAck < queue.nextTsn
  bytes : queue.outstandingBytes = total queue.bytesInFlight queue.outstandingData
  items : queue.outstandingItems = total itemsInFlight queue.outstandingData
  /-- The two sets contain exactly the items that are marked. -/
  marked : ∀ tsn : Int, tsn ∈ queue.toBeFastRetransmitted ∨ tsn ∈ queue.toBeRetransmitted ↔
    ∃ item : Item, queue.outstandingData[tsn]? = some item ∧ item.shouldBeRetransmitted = true
  apart : ∀ tsn ∈ queue.toBeFastRetransmitted, tsn ∉ queue.toBeRetransmitted
  nacked : ∀ (tsn : Int) (item : Item), queue.outstandingData[tsn]? = some item →
    item.shouldBeRetransmitted = true → item.isNacked = true

variable {self : OutstandingData Q} {tsn : Int} {item : Item}

theorem mem_iff_exists {entries : ExtTreeMap Int Item} :
    tsn ∈ entries ↔ ∃ item, entries[tsn]? = some item := by
  rw [ExtTreeMap.mem_iff_isSome_getElem?, Option.isSome_iff_exists]

theorem Valid.isConsistent (valid : Valid self) : self.isConsistent = true := by
  have setEq : self.markedTsns = self.toBeRetransmitted ∪ self.toBeFastRetransmitted := by
    ext tsn
    rw [Finset.mem_union, or_comm, valid.marked]
    simp only [markedTsns, List.mem_toFinset, List.mem_map, List.mem_filter, Prod.exists,
      exists_and_right, exists_eq_right, ExtTreeMap.mem_toList_iff_getElem?_eq_some]
  have next : self.outstandingData.isEmpty = true →
      self.nextTsn = self.lastCumulativeTsnAck + 1 := by
    intro empty
    by_contra differs
    have member := (valid.keys (self.lastCumulativeTsnAck + 1)).mpr
      ⟨by omega, by have := valid.ordered; omega⟩
    rw [ExtTreeMap.isEmpty_iff.mp empty] at member
    exact ExtTreeMap.not_mem_empty member
  unfold OutstandingData.isConsistent
  split_ifs with inconsistent
  · rw [Bool.and_eq_true, bne_iff_ne] at inconsistent
    exact absurd (next inconsistent.1) inconsistent.2
  · simp [valid.bytes, valid.items, setEq]

/-! ## One item -/

/-- One item is replaced, and its counters and marks with it. -/
theorem Valid.update {self next : OutstandingData Q} (valid : Valid self) (changed : Item)
    (found : self.outstandingData[tsn]? = some item)
    (header : next.dataChunkHeaderSize = self.dataChunkHeaderSize)
    (nextTsn : next.nextTsn = self.nextTsn)
    (lastTsn : next.lastCumulativeTsnAck = self.lastCumulativeTsnAck)
    (entries : next.outstandingData = self.outstandingData.insert tsn changed)
    (bytes : next.outstandingBytes + self.bytesInFlight item =
      self.outstandingBytes + self.bytesInFlight changed)
    (items : next.outstandingItems + itemsInFlight item =
      self.outstandingItems + itemsInFlight changed) (otherFast : ∀ other, other ≠ tsn →
      (other ∈ next.toBeFastRetransmitted ↔ other ∈ self.toBeFastRetransmitted))
    (otherNormal : ∀ other, other ≠ tsn →
      (other ∈ next.toBeRetransmitted ↔ other ∈ self.toBeRetransmitted))
    (marked : tsn ∈ next.toBeFastRetransmitted ∨ tsn ∈ next.toBeRetransmitted ↔
      changed.shouldBeRetransmitted = true)
    (apart : tsn ∈ next.toBeFastRetransmitted → tsn ∉ next.toBeRetransmitted)
    (nacked : changed.shouldBeRetransmitted = true → changed.isNacked = true) : Valid next := by
  have lookup : ∀ other, next.outstandingData[other]? =
      if tsn = other then some changed else self.outstandingData[other]? := by
    intro other
    rw [entries, OrderedMap.lookup_insert]
  have sameWeights : next.bytesInFlight = self.bytesInFlight := by
    funext some
    simp [bytesInFlight, getSerializedChunkSize, header]
  have weights : ∀ weight : Item → Nat, total weight next.outstandingData + weight item =
      total weight self.outstandingData + weight changed := by
    intro weight
    simpa [entries, weightAt, found] using total_insert weight self.outstandingData tsn changed
  constructor
  · intro other
    rw [mem_iff_exists, lookup, nextTsn, lastTsn, ← valid.keys, mem_iff_exists]
    split_ifs with same
    · subst same
      simp [found]
    · exact Iff.rfl
  · rw [nextTsn, lastTsn]
    exact valid.ordered
  · have balance := weights self.bytesInFlight
    rw [sameWeights]
    have := valid.bytes
    omega
  · have balance := weights itemsInFlight
    have := valid.items
    omega
  · intro other
    rw [lookup]
    by_cases same : tsn = other
    · subst same
      simpa using marked
    · rw [if_neg same, otherFast other (Ne.symm same), otherNormal other (Ne.symm same)]
      exact valid.marked other
  · intro other fast
    by_cases same : tsn = other
    · subst same
      exact apart fast
    · rw [otherFast other (Ne.symm same)] at fast
      rw [otherNormal other (Ne.symm same)]
      exact valid.apart other fast
  · intro other otherItem otherFound
    rw [lookup] at otherFound
    split_ifs at otherFound with same
    · cases otherFound
      exact nacked
    · exact valid.nacked other otherItem otherFound

/-- An item that is not marked is appended under the next TSN. -/
theorem Valid.append {self next : OutstandingData Q} (valid : Valid self)
    (header : next.dataChunkHeaderSize = self.dataChunkHeaderSize)
    (nextTsn : next.nextTsn = self.nextTsn + 1)
    (lastTsn : next.lastCumulativeTsnAck = self.lastCumulativeTsnAck)
    (entries : next.outstandingData = self.outstandingData.insertIfNew self.nextTsn item)
    (bytes : next.outstandingBytes = self.outstandingBytes + self.bytesInFlight item)
    (items : next.outstandingItems = self.outstandingItems + itemsInFlight item)
    (fast : next.toBeFastRetransmitted = self.toBeFastRetransmitted)
    (normal : next.toBeRetransmitted = self.toBeRetransmitted)
    (unmarked : item.shouldBeRetransmitted = false) : Valid next := by
  have ordered := valid.ordered
  have absent : self.nextTsn ∉ self.outstandingData := by
    rw [valid.keys]
    omega
  have missing : self.outstandingData[self.nextTsn]? = none := ExtTreeMap.getElem?_eq_none absent
  have inserted : next.outstandingData = self.outstandingData.insert self.nextTsn item := by
    rw [entries]
    refine ExtTreeMap.ext_getElem? fun other => ?_
    rw [ExtTreeMap.getElem?_insertIfNew, OrderedMap.lookup_insert]
    simp [absent]
  have lookup : ∀ other, next.outstandingData[other]? =
      if self.nextTsn = other then some item else self.outstandingData[other]? := by
    intro other
    rw [inserted, OrderedMap.lookup_insert]
  have sameWeights : next.bytesInFlight = self.bytesInFlight := by
    funext some
    simp [bytesInFlight, getSerializedChunkSize, header]
  have weights : ∀ weight : Item → Nat, total weight next.outstandingData =
      total weight self.outstandingData + weight item := by
    intro weight
    simpa [inserted, weightAt, missing] using
      total_insert weight self.outstandingData self.nextTsn item
  constructor
  · intro other
    rw [mem_iff_exists, lookup, nextTsn, lastTsn]
    have known := valid.keys other
    rw [mem_iff_exists] at known
    split_ifs with same
    · simp
      omega
    · rw [known]
      omega
  · omega
  · rw [bytes, sameWeights, weights, valid.bytes]
  · rw [items, weights, valid.items]
  · intro other
    rw [fast, normal, valid.marked, lookup]
    split_ifs with same
    · subst same
      simp [missing, unmarked]
    · exact Iff.rfl
  · rw [fast, normal]
    exact valid.apart
  · intro other otherItem otherFound
    rw [lookup] at otherFound
    split_ifs at otherFound
    · cases otherFound
      exact fun marked => absurd marked (by simp [unmarked])
    · exact valid.nacked other otherItem otherFound

/-- An item in flight is covered by the counters. -/
theorem Valid.deductInFlight_ok (valid : Valid self)
    (found : self.outstandingData[tsn]? = some item) :
    self.bytesInFlight item ≤ self.outstandingBytes ∧
      itemsInFlight item ≤ self.outstandingItems ∧
      self.deductInFlight item = .ok { self with
        outstandingBytes := self.outstandingBytes - self.bytesInFlight item
        outstandingItems := self.outstandingItems - itemsInFlight item } := by
  have bytes : self.bytesInFlight item ≤ self.outstandingBytes := by
    simpa [valid.bytes, weightAt, found] using
      weightAt_le_total self.bytesInFlight self.outstandingData tsn
  have items : itemsInFlight item ≤ self.outstandingItems := by
    simpa [valid.items, weightAt, found] using
      weightAt_le_total itemsInFlight self.outstandingData tsn
  refine ⟨bytes, items, ?_⟩
  unfold deductInFlight
  unfold bytesInFlight at bytes ⊢
  unfold itemsInFlight at items ⊢
  split_ifs with outstanding
  · rw [if_pos outstanding] at bytes items
    simp [check, bytes, items, bind, Except.bind]
  · rfl

theorem Valid.notMem_of_unmarked (valid : Valid self)
    (found : self.outstandingData[tsn]? = some item)
    (unmarked : item.shouldBeRetransmitted = false) :
    tsn ∉ self.toBeFastRetransmitted ∧ tsn ∉ self.toBeRetransmitted := by
  rw [← not_or, valid.marked]
  rintro ⟨other, otherFound, marked⟩
  cases otherFound.symm.trans found
  exact absurd marked (by simp [unmarked])

/-! ## Steps of a loop -/

/--
What any step does besides: at most one item is appended, the items that are
appended are abandoned, and an abandoned item stays abandoned.
-/
structure Advances (before after : OutstandingData Q) : Prop where
  lastTsn : after.lastCumulativeTsnAck = before.lastCumulativeTsnAck
  nextTsn_ge : before.nextTsn ≤ after.nextTsn
  nextTsn_le : after.nextTsn ≤ before.nextTsn + 1
  abandoned : ∀ (tsn : Int) (item : Item), after.outstandingData[tsn]? = some item →
    before.nextTsn ≤ tsn ∨ (∃ old, before.outstandingData[tsn]? = some old ∧
      old.isAbandoned = true) → item.isAbandoned = true

theorem Advances.refl (valid : Valid self) : Advances self self := by
  refine ⟨rfl, le_rfl, by omega, fun tsn item found reason => ?_⟩
  rcases reason with beyond | ⟨old, oldFound, abandoned⟩
  · have member := (valid.keys tsn).mp (mem_iff_exists.mpr ⟨item, found⟩)
    omega
  · cases oldFound.symm.trans found
    exact abandoned

/-- A step that appends nothing may be followed by any other one. -/
theorem Advances.trans {one two three : OutstandingData Q} (first : Advances one two)
    (second : Advances two three) (validOne : Valid one) (validTwo : Valid two)
    (nextTsn : two.nextTsn = one.nextTsn) : Advances one three := by
  refine ⟨second.lastTsn.trans first.lastTsn, nextTsn ▸ second.nextTsn_ge,
    nextTsn ▸ second.nextTsn_le, fun tsn item found reason => ?_⟩
  refine second.abandoned tsn item found ?_
  rcases reason with beyond | ⟨old, oldFound, abandoned⟩
  · exact .inl (nextTsn ▸ beyond)
  · have member := (validOne.keys tsn).mp (mem_iff_exists.mpr ⟨old, oldFound⟩)
    rw [← first.lastTsn, ← nextTsn, ← validTwo.keys, mem_iff_exists] at member
    obtain ⟨middle, middleFound⟩ := member
    exact .inr ⟨middle, middleFound,
      first.abandoned tsn middle middleFound (.inr ⟨old, oldFound, abandoned⟩)⟩

/-- A change of one item that keeps it abandoned is such a step. -/
theorem Advances.of_insert {before after : OutstandingData Q} (valid : Valid before)
    {item changed : Item} (found : before.outstandingData[tsn]? = some item)
    (nextTsn : after.nextTsn = before.nextTsn)
    (lastTsn : after.lastCumulativeTsnAck = before.lastCumulativeTsnAck)
    (entries : after.outstandingData = before.outstandingData.insert tsn changed)
    (kept : item.isAbandoned = true → changed.isAbandoned = true) : Advances before after := by
  refine ⟨lastTsn, nextTsn.ge, by omega, fun other otherItem otherFound reason => ?_⟩
  rw [entries, OrderedMap.lookup_insert] at otherFound
  split_ifs at otherFound with same
  · subst same
    cases otherFound
    rcases reason with beyond | ⟨old, oldFound, abandoned⟩
    · have member := (valid.keys tsn).mp (mem_iff_exists.mpr ⟨item, found⟩)
      omega
    · cases oldFound.symm.trans found
      exact kept abandoned
  · exact (Advances.refl valid).abandoned other otherItem otherFound reason

theorem Item.ack_isAbandoned (item : Item) : item.ack.isAbandoned = item.isAbandoned := by
  cases lifecycleEq : item.lifecycle <;> simp [Item.ack, Item.isAbandoned, lifecycleEq]

theorem Item.ack_unmarked (item : Item) : item.ack.shouldBeRetransmitted = false := by
  cases lifecycleEq : item.lifecycle <;>
    simp [Item.ack, Item.shouldBeRetransmitted, lifecycleEq]

@[simp] theorem bytesInFlight_ack (self : OutstandingData Q) (item : Item) :
    self.bytesInFlight item.ack = 0 :=
  rfl

@[simp] theorem itemsInFlight_ack (item : Item) : itemsInFlight item.ack = 0 :=
  rfl

/-- An acknowledgement meets no violation if no fast retransmission is pending. -/
theorem ackChunk_ensures (valid : Valid self) (noFast : self.toBeFastRetransmitted = ∅)
    (found : self.outstandingData[tsn]? = some item) (ackInfo : AckInfo) :
    Ensures (ackChunk ackInfo tsn item self) fun result =>
      Valid result.2 ∧ Advances self result.2 ∧ result.2.nextTsn = self.nextTsn ∧
      result.2.toBeFastRetransmitted = ∅ ∧
      (∀ other, other ≠ tsn → result.2.outstandingData[other]? = self.outstandingData[other]?) ∧
      ∃ acked, result.2.outstandingData[tsn]? = some acked ∧ acked.isAcked = true := by
  unfold ackChunk
  by_cases isAcked : item.isAcked = true
  · rw [if_pos isAcked]
    exact .ok ⟨valid, Advances.refl valid, rfl, noFast, fun _ _ => rfl, item, found, isAcked⟩
  obtain ⟨bytes, items, deducted⟩ := valid.deductInFlight_ok found
  rw [if_neg isAcked, deducted]
  refine (Ensures.check (by simp [noFast])).bind fun _ _ => .ok ?_
  refine ⟨?_, ?_, rfl, noFast, ?_, item.ack, ?_, rfl⟩
  · refine valid.update item.ack found rfl rfl rfl rfl ?_ ?_ (fun _ _ => Iff.rfl) ?_ ?_ ?_ ?_
    · simp [setItem, bytes]
    · simp [setItem, items]
    · intro other differs
      split_ifs
      · simp [differs]
      · exact Iff.rfl
    · rw [Item.ack_unmarked]
      cases marked : item.shouldBeRetransmitted with
      | true => simp [setItem, noFast]
      | false => simp [setItem, noFast, (valid.notMem_of_unmarked found marked).2]
    · simp [setItem, noFast]
    · simp [Item.ack_unmarked]
  · exact Advances.of_insert valid found rfl rfl rfl fun abandoned => by
      rw [Item.ack_isAbandoned, abandoned]
  · intro other differs
    simp [setItem, OrderedMap.lookup_insert, Ne.symm differs]
  · simp [setItem]

/-! ## Abandoned messages -/

/-- The items of a message are abandoned; the others stay as they are. -/
theorem abandonMessage_getElem? (self : OutstandingData Q) (data : Data) (tsn : Int) :
    (self.abandonMessage data).outstandingData[tsn]? =
      self.outstandingData[tsn]?.map fun other =>
        if abandonedWith data other then other.abandon else other := by
  exact ExtTreeMap.getElem?_map

@[simp] theorem Item.abandon_isAbandoned (item : Item) : item.abandon.isAbandoned = true :=
  rfl

@[simp] theorem Item.abandon_unmarked (item : Item) : item.abandon.shouldBeRetransmitted = false :=
  rfl

theorem abandonMessage_valid (valid : Valid self) (data : Data) :
    Valid (self.abandonMessage data) := by
  have lookup := abandonMessage_getElem? self data
  have weights : ∀ weight : Item → Nat, (∀ item, weight item.abandon = weight item) →
      total weight (self.abandonMessage data).outstandingData =
        total weight self.outstandingData := by
    intro weight same
    refine total_congr fun tsn => ?_
    unfold weightAt
    rw [lookup]
    cases self.outstandingData[tsn]? with
    | none => rfl
    | some other =>
      simp only [Option.map_some]
      split_ifs
      · exact same other
      · rfl
  constructor
  · intro tsn
    rw [mem_iff_exists, lookup]
    exact Iff.trans (by simp [mem_iff_exists]) (valid.keys tsn)
  · exact valid.ordered
  · exact valid.bytes.trans (weights self.bytesInFlight fun _ => rfl).symm
  · exact valid.items.trans (weights itemsInFlight fun _ => rfl).symm
  · intro tsn
    rw [lookup]
    have known := valid.marked tsn
    simp only [abandonMessage, Finset.mem_filter]
    cases found : self.outstandingData[tsn]? with
    | none => simpa [found] using known
    | some other =>
      simp only [found] at known
      cases abandons : abandonedWith data other with
      | true =>
        cases marked : other.shouldBeRetransmitted with
        | true => simp [abandons, marked]
        | false => simpa [abandons, marked] using known
      | false => simpa [abandons] using known
  · intro tsn fast normal
    exact valid.apart tsn (Finset.mem_filter.mp fast).1 (Finset.mem_filter.mp normal).1
  · intro tsn item found marked
    rw [lookup] at found
    obtain ⟨other, otherFound, rfl⟩ := Option.map_eq_some_iff.mp found
    split_ifs at marked ⊢
    · cases marked
    · exact valid.nacked tsn other otherFound marked

theorem discardRest_valid (valid : Valid self) (item : Item) : Valid (self.discardRest item) := by
  unfold discardRest
  dsimp only
  split_ifs
  · exact valid.append rfl rfl rfl rfl rfl rfl rfl rfl rfl
  · exact ⟨valid.keys, valid.ordered, valid.bytes, valid.items, valid.marked, valid.apart,
      valid.nacked⟩

/-- The rest of a message is discarded: a placeholder of the message may be appended. -/
theorem discardRest_getElem? {item other : Item}
    (found : (self.discardRest item).outstandingData[tsn]? = some other) :
    self.outstandingData[tsn]? = some other ∨ tsn = self.nextTsn ∧ other = messageEnd item := by
  unfold discardRest at found
  dsimp only at found
  split_ifs at found
  · rw [ExtTreeMap.getElem?_insertIfNew] at found
    split_ifs at found with isNew
    · rw [Std.compare_eq_iff_eq] at isNew
      exact .inr ⟨isNew.1.symm, (Option.some.inj found).symm⟩
    · exact .inl found
  · exact .inl found

theorem abandonAllFor_spec (valid : Valid self) (item : Item) :
    Valid (self.abandonAllFor item) ∧ Advances self (self.abandonAllFor item) ∧
      (self.abandonAllFor item).toBeFastRetransmitted ⊆ self.toBeFastRetransmitted := by
  have middleValid := discardRest_valid valid item
  have bounds : (self.discardRest item).lastCumulativeTsnAck = self.lastCumulativeTsnAck ∧
      self.nextTsn ≤ (self.discardRest item).nextTsn ∧
      (self.discardRest item).nextTsn ≤ self.nextTsn + 1 ∧
      (self.discardRest item).toBeFastRetransmitted = self.toBeFastRetransmitted := by
    unfold discardRest
    dsimp only
    split_ifs <;> simp
  obtain ⟨lastTsn, nextTsn_ge, nextTsn_le, fast⟩ := bounds
  refine ⟨abandonMessage_valid middleValid item.data, ⟨lastTsn, nextTsn_ge, nextTsn_le, ?_⟩, ?_⟩
  · intro tsn changed found reason
    unfold abandonAllFor at found
    rw [abandonMessage_getElem?] at found
    obtain ⟨other, otherFound, rfl⟩ := Option.map_eq_some_iff.mp found
    split_ifs with abandons
    · exact Item.abandon_isAbandoned other
    · -- an item that is left alone was abandoned before
      rcases discardRest_getElem? otherFound with old | ⟨_, rfl⟩
      · exact (Advances.refl valid).abandoned tsn other old reason
      · exact absurd abandons (by
          simp [abandonedWith, sameMessage, messageEnd, Item.ack, Item.isAbandoned])
  · rw [← fast]
    exact Finset.filter_subset _ _

/-! ## Losses -/

theorem Item.nack_cases (item : Item) (retransmitNow : Bool) :
    ∃ action changed, item.nack retransmitNow = (action, changed) ∧
      changed.ackState = .nacked ∧
      (action = .nothing ∧ changed.lifecycle = item.lifecycle ∨
        item.shouldBeRetransmitted = false ∧ item.isAbandoned = false ∧
          (action = .retransmit ∧ changed.lifecycle = .toBeRetransmitted ∨
            action = .abandon ∧ changed.lifecycle = .abandoned)) := by
  unfold Item.nack
  dsimp only
  split_ifs with lost
  · simp only [Bool.and_eq_true, Bool.not_eq_true'] at lost
    exact ⟨_, _, rfl, rfl, .inr ⟨lost.1.1, lost.1.2, .inl ⟨rfl, rfl⟩⟩⟩
  · simp only [Bool.and_eq_true, Bool.not_eq_true'] at lost
    exact ⟨_, _, rfl, rfl, .inr ⟨lost.1.1, lost.1.2, .inr ⟨rfl, rfl⟩⟩⟩
  · exact ⟨_, _, rfl, rfl, .inl ⟨rfl, rfl⟩⟩

/-- A missing item leaves the counters, and stays in the sets or enters one of them. -/
theorem nackItem_ensures (valid : Valid self) (found : self.outstandingData[tsn]? = some item)
    (retransmitNow doFastRetransmit : Bool) :
    Ensures (nackItem tsn item retransmitNow doFastRetransmit self) fun result =>
      Valid result.2 ∧ Advances self result.2 ∧
      (item.isAbandoned = true → result.2.nextTsn = self.nextTsn) ∧
      (doFastRetransmit = false → result.2.toBeFastRetransmitted ⊆ self.toBeFastRetransmitted) := by
  obtain ⟨bytes, items, deducted⟩ := valid.deductInFlight_ok found
  obtain ⟨action, changed, nackEq, nacked, cases⟩ := Item.nack_cases item retransmitNow
  have grounded : self.bytesInFlight changed = 0 ∧ itemsInFlight changed = 0 := by
    simp [bytesInFlight, itemsInFlight, Item.isOutstanding, nacked]
  have isNacked : changed.isNacked = true := by simp [Item.isNacked, nacked]
  unfold nackItem
  rw [deducted, nackEq]
  rcases cases with ⟨rfl, same⟩ | ⟨unmarked, notAbandoned, ⟨rfl, marked⟩ | ⟨rfl, abandoned⟩⟩
  · have sameMark : changed.shouldBeRetransmitted = item.shouldBeRetransmitted := by
      simp [Item.shouldBeRetransmitted, same]
    refine .ok ⟨?_, ?_, fun _ => rfl, fun _ => Finset.Subset.refl _⟩
    · refine valid.update changed found rfl rfl rfl rfl ?_ ?_ (fun _ _ => Iff.rfl)
        (fun _ _ => Iff.rfl) ?_ (valid.apart tsn) fun _ => isNacked
      · simp [setItem, grounded, bytes]
      · simp [setItem, grounded, items]
      · rw [sameMark]
        exact (valid.marked tsn).trans (by simp [found])
    · refine Advances.of_insert valid found rfl rfl rfl ?_
      simp [Item.isAbandoned, same]
  · obtain ⟨notFast, notNormal⟩ := valid.notMem_of_unmarked found unmarked
    have isMarked : changed.shouldBeRetransmitted = true := by
      simp [Item.shouldBeRetransmitted, marked]
    have advances : ∀ next : OutstandingData Q, next.nextTsn = self.nextTsn →
        next.lastCumulativeTsnAck = self.lastCumulativeTsnAck →
        next.outstandingData = self.outstandingData.insert tsn changed → Advances self next :=
      fun next nextTsn lastTsn entries => Advances.of_insert valid found nextTsn lastTsn entries
        fun abandoned => absurd abandoned (by simp [notAbandoned])
    cases doFastRetransmit with
    | true =>
      refine .ok ⟨?_, advances _ rfl rfl rfl, fun _ => rfl, nofun⟩
      refine valid.update changed found rfl rfl rfl rfl ?_ ?_ ?_ (fun _ _ => Iff.rfl) ?_ ?_
        fun _ => isNacked
      · simp [setItem, grounded, bytes]
      · simp [setItem, grounded, items]
      · exact fun other differs => by simp [setItem, differs]
      · simp [isMarked]
      · exact fun _ => notNormal
    | false =>
      refine .ok ⟨?_, advances _ rfl rfl rfl, fun _ => rfl, fun _ => Finset.Subset.refl _⟩
      refine valid.update changed found rfl rfl rfl rfl ?_ ?_ (fun _ _ => Iff.rfl) ?_ ?_ ?_
        fun _ => isNacked
      · simp [setItem, grounded, bytes]
      · simp [setItem, grounded, items]
      · exact fun other differs => by simp [setItem, differs]
      · simp [isMarked]
      · exact fun fast => absurd fast notFast
  · obtain ⟨notFast, notNormal⟩ := valid.notMem_of_unmarked found unmarked
    have notMarked : changed.shouldBeRetransmitted = false := by
      simp [Item.shouldBeRetransmitted, abandoned]
    -- the item itself is abandoned first, and the rest of its message after it
    set middle : OutstandingData Q := setItem { self with
      outstandingBytes := self.outstandingBytes - self.bytesInFlight item
      outstandingItems := self.outstandingItems - itemsInFlight item } tsn changed with middleEq
    have middleValid : Valid middle := by
      refine valid.update changed found rfl rfl rfl rfl ?_ ?_ (fun _ _ => Iff.rfl)
        (fun _ _ => Iff.rfl) ?_ (valid.apart tsn) fun _ => isNacked
      · simp [middleEq, setItem, grounded, bytes]
      · simp [middleEq, setItem, grounded, items]
      · simp [middleEq, setItem, notMarked, notFast, notNormal]
    have middleAdvances : Advances self middle :=
      Advances.of_insert valid found rfl rfl rfl fun was => absurd was (by simp [notAbandoned])
    obtain ⟨lastValid, lastAdvances, fast⟩ := abandonAllFor_spec middleValid changed
    exact .ok ⟨lastValid, middleAdvances.trans lastAdvances valid middleValid rfl,
      fun was => absurd was (by simp [notAbandoned]), fun _ => fast⟩

variable {kind : Retransmission} (valid : Valid self) (member : tsn ∈ self.chunks kind)
include valid member

/-- Each of the sets contains only items that are marked, and they are missing. -/
theorem Valid.marked_of_mem :
    ∃ item, self.outstandingData[tsn]? = some item ∧
      item.lifecycle = .toBeRetransmitted ∧ item.ackState = .nacked := by
  have either : tsn ∈ self.toBeFastRetransmitted ∨ tsn ∈ self.toBeRetransmitted := by
    cases kind
    · exact .inl member
    · exact .inr member
  obtain ⟨item, found, marked⟩ := (valid.marked tsn).mp either
  have nacked := valid.nacked tsn item found marked
  simp only [Item.shouldBeRetransmitted, Item.isNacked, beq_iff_eq] at marked nacked
  exact ⟨item, found, marked, nacked⟩

/-- A marked item of one of the sets is back in flight. -/
theorem retransmit_valid (found : self.outstandingData[tsn]? = some item) :
    Valid (self.retransmit kind tsn item) := by
  obtain ⟨other, otherFound, -, nacked⟩ := valid.marked_of_mem member
  cases found.symm.trans otherFound
  have grounded : self.bytesInFlight item = 0 ∧ itemsInFlight item = 0 := by
    simp [bytesInFlight, itemsInFlight, Item.isOutstanding, nacked]
  have other : ∀ set : Finset Int, ∀ other, other ≠ tsn → (other ∈ set.erase tsn ↔ other ∈ set) :=
    fun set other differs => by simp [differs]
  cases kind with
  | fast =>
    have notNormal := valid.apart tsn member
    refine valid.update item.markAsRetransmitted found rfl rfl rfl rfl ?_ ?_ (other _)
      (fun _ _ => Iff.rfl) ?_ ?_ fun isMarked => absurd isMarked (by
        simp [Item.markAsRetransmitted, Item.shouldBeRetransmitted])
    · rw [grounded.1]
      rfl
    · rw [grounded.2]
      rfl
    · simpa [retransmit, eraseChunk, setItem, Item.markAsRetransmitted,
        Item.shouldBeRetransmitted] using notNormal
    · exact fun _ => notNormal
  | normal =>
    have notFast : tsn ∉ self.toBeFastRetransmitted := fun fast => valid.apart tsn fast member
    refine valid.update item.markAsRetransmitted found rfl rfl rfl rfl ?_ ?_
      (fun _ _ => Iff.rfl) (other _) ?_ ?_ fun isMarked => absurd isMarked (by
        simp [Item.markAsRetransmitted, Item.shouldBeRetransmitted])
    · rw [grounded.1]
      rfl
    · rw [grounded.2]
      rfl
    · simpa [retransmit, eraseChunk, setItem, Item.markAsRetransmitted,
        Item.shouldBeRetransmitted] using notFast
    · exact fun fast => absurd fast notFast

end MaeRtc.DcSctp.OutstandingData
