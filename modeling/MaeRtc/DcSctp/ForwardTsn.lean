import MaeRtc.DcSctp.OutstandingData
import MaeRtc.DcSctp.ReassemblyQueue

/-!
# Skipping abandoned fragments

The FORWARD-TSN and I-FORWARD-TSN chunks that `OutstandingData` creates: the
peer is told to skip the abandoned fragments that follow its cumulative TSN.
-/

namespace MaeRtc.DcSctp.OutstandingData

open MaeRtc.Base
open Std (ExtTreeMap)

variable {Q : Type}

/-- The loop over the abandoned fragments, up to the first one that may not be skipped. -/
def skippedFrom (breakpoints : Finset Int) : Int → List (Int × Item) → List (Int × Item)
  | _, [] => []
  | newCumulativeAck, (tsn, item) :: rest =>
    if tsn ∈ breakpoints ∨ tsn ≠ newCumulativeAck + 1 ∨ item.isAbandoned = false then []
    else (tsn, item) :: skippedFrom breakpoints tsn rest

def skippedItems (self : OutstandingData Q) : List (Int × Item) :=
  skippedFrom self.streamResetBreakpointTsns self.lastCumulativeTsnAck self.outstandingData.toList

def newCumulativeAck (self : OutstandingData Q) : Int :=
  (self.skippedItems.getLast?.map Prod.fst).getD self.lastCumulativeTsnAck

/-- The largest SSN skipped on an ordered stream; a stream that was not seen starts at zero. -/
def skippedPerOrderedStream (self : OutstandingData Q) : ExtTreeMap StreamId Ssn :=
  self.skippedItems.foldl (fun skipped entry =>
    let data := entry.2.data
    let last := skipped[data.streamId]?.getD 0
    if data.isUnordered then skipped
    else skipped.insert data.streamId (if last < data.ssn then data.ssn else last)) ∅

def createForwardTsn (self : OutstandingData Q) : AnyForwardTsnChunk where
  newCumulativeTsn := Unwrapped.wrap 32 self.newCumulativeAck
  skippedStreams := self.skippedPerOrderedStream.toList.map fun (streamId, ssn) =>
    { streamId := streamId
      ssn := ssn }

/-- The largest message identifier skipped on a stream, ordered or not. -/
def skippedPerStream (self : OutstandingData Q) : ExtTreeMap (Lex (Bool × StreamId)) Mid :=
  self.skippedItems.foldl (fun skipped entry =>
    let data := entry.2.data
    let stream := toLex (data.isUnordered, data.streamId)
    let last := skipped[stream]?.getD 0
    skipped.insert stream (if last < data.messageId then data.messageId else last)) ∅

def createIForwardTsn (self : OutstandingData Q) : AnyForwardTsnChunk where
  newCumulativeTsn := Unwrapped.wrap 32 self.newCumulativeAck
  skippedStreams := self.skippedPerStream.toList.map fun (stream, messageId) =>
    { streamId := (ofLex stream).2
      unordered := (ofLex stream).1
      messageId := messageId }

/-! ## What is skipped -/

theorem mem_of_mem_skippedFrom {breakpoints : Finset Int} {start : Int} {rows : List (Int × Item)}
    {entry : Int × Item} (member : entry ∈ skippedFrom breakpoints start rows) :
    entry ∈ rows ∧ entry.2.isAbandoned = true := by
  induction rows generalizing start with
  | nil => cases member
  | cons row rest ih =>
    unfold skippedFrom at member
    split_ifs at member with stops
    · cases member
    · simp only [not_or, Bool.not_eq_false] at stops
      rcases List.mem_cons.mp member with rfl | later
      · exact ⟨List.mem_cons_self, stops.2.2⟩
      · obtain ⟨inside, abandoned⟩ := ih later
        exact ⟨List.mem_cons_of_mem row inside, abandoned⟩

/-- The TSNs of the skipped fragments follow each other without a gap. -/
theorem exists_mem_skippedFrom {breakpoints : Finset Int} {start tsn : Int}
    {rows : List (Int × Item)} (above : start < tsn)
    (upTo : tsn ≤ ((skippedFrom breakpoints start rows).getLast?.map Prod.fst).getD start) :
    ∃ item, (tsn, item) ∈ skippedFrom breakpoints start rows := by
  induction rows generalizing start with
  | nil =>
    simp only [skippedFrom, List.getLast?_nil, Option.map_none, Option.getD_none] at upTo
    omega
  | cons row rest ih =>
    unfold skippedFrom at upTo ⊢
    split_ifs at upTo ⊢ with stops
    · simp only [List.getLast?_nil, Option.map_none, Option.getD_none] at upTo
      omega
    by_cases reached : tsn = row.1
    · exact ⟨row.2, reached ▸ List.mem_cons_self⟩
    have later : row.1 < tsn := by omega
    rw [List.getLast?_cons] at upTo
    obtain ⟨item, member⟩ := ih later (by
      cases last : (skippedFrom breakpoints row.1 rest).getLast? with
      | none => simpa [last] using upTo
      | some entry => simpa [last] using upTo)
    exact ⟨item, List.mem_cons_of_mem row member⟩

theorem isAbandoned_of_skipped {self : OutstandingData Q} {tsn : Int} {item : Item}
    (found : self.outstandingData[tsn]? = some item) (above : self.lastCumulativeTsnAck < tsn)
    (upTo : tsn ≤ self.newCumulativeAck) : item.isAbandoned = true := by
  obtain ⟨other, member⟩ := exists_mem_skippedFrom above upTo
  obtain ⟨inside, abandoned⟩ := mem_of_mem_skippedFrom member
  have otherFound : self.outstandingData[tsn]? = some other := ExtTreeMap.mem_toList_iff_getElem?_eq_some.mp inside
  cases otherFound.symm.trans found
  exact abandoned

end MaeRtc.DcSctp.OutstandingData
