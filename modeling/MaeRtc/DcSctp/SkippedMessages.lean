import MaeRtc.DcSctp.Bookkeeping
import MaeRtc.DcSctp.ForwardTsn

/-!
# What a FORWARD-TSN skips

A FORWARD-TSN moves the peer past the abandoned fragments that follow the
cumulative TSN, and names the last message skipped on a stream by its number.
The numbers are compared as unsigned numbers, so that the name is the right one
only as long as they do not wrap around among the skipped fragments.
-/

namespace MaeRtc.DcSctp.OutstandingData

open MaeRtc.Base OrderedMap
open Std (ExtTreeMap)

variable {Q : Type} {self : OutstandingData Q}

/-- All fragments behind the cumulative TSN, up to the given one, are abandoned, and no stream
reset starts at one of them. -/
def InRun (self : OutstandingData Q) (tsn : Int) : Prop :=
  self.lastCumulativeTsnAck < tsn ∧ ∀ between, self.lastCumulativeTsnAck < between →
    between ≤ tsn → between ∉ self.streamResetBreakpointTsns ∧
      ∃ item, self.outstandingData[between]? = some item ∧ item.isAbandoned = true

/-- A fragment of the run on a stream. -/
structure Skipped (queue : OutstandingData Q) (OnStream : Data → Prop) (tsn : Int)
    (item : Item) : Prop where
  inRun : InRun queue tsn
  found : queue.outstandingData[tsn]? = some item
  onStream : OnStream item.data

/-- The last fragment of the run on a stream. -/
structure LastSkipped (queue : OutstandingData Q) (OnStream : Data → Prop) (tsn : Int)
    (item : Item) : Prop where
  skipped : Skipped queue OnStream tsn item
  last : ∀ later other, Skipped queue OnStream later other → later ≤ tsn

/-! ## The run -/

theorem mem_skippedFrom {breakpoints : Finset Int} {rows : List (Int × Item)} {start : Int}
    (ordered : rows.Pairwise fun one two => one.1 < two.1) (above : ∀ row ∈ rows, start < row.1)
    (entry : Int × Item) :
    entry ∈ skippedFrom breakpoints start rows ↔ entry ∈ rows ∧ ∀ between, start < between →
      between ≤ entry.1 → between ∉ breakpoints ∧
        ∃ item, (between, item) ∈ rows ∧ item.isAbandoned = true := by
  induction rows generalizing start with
  | nil => simp [skippedFrom]
  | cons row rest ih =>
    obtain ⟨rowLt, restOrdered⟩ := List.pairwise_cons.mp ordered
    have rowAbove := above row List.mem_cons_self
    have first : ∀ item, (start + 1, item) ∈ row :: rest → row = (start + 1, item) := by
      intro item member
      rcases List.mem_cons.mp member with same | later
      · exact same.symm
      · have := rowLt _ later
        omega
    unfold skippedFrom
    split_ifs with stops
    · refine iff_of_false (by simp) ?_
      rintro ⟨member, all⟩
      obtain ⟨free, item, found, abandoned⟩ := all (start + 1) (by omega) (above entry member)
      obtain rfl := first item found
      simp [free, abandoned] at stops
    · obtain ⟨free, isNext, abandoned⟩ : row.1 ∉ breakpoints ∧ row.1 = start + 1 ∧
          row.2.isAbandoned = true := by simpa using stops
      rw [List.mem_cons, ih restOrdered rowLt, List.mem_cons]
      constructor
      · rintro (rfl | ⟨member, all⟩)
        · refine ⟨.inl rfl, fun between low high => ?_⟩
          obtain rfl : between = row.1 := by omega
          exact ⟨free, row.2, List.mem_cons_self, abandoned⟩
        · refine ⟨.inr member, fun between low high => ?_⟩
          by_cases same : between = row.1
          · exact same ▸ ⟨free, row.2, List.mem_cons_self, abandoned⟩
          · obtain ⟨isFree, item, found, isAbandoned⟩ := all between (by omega) high
            exact ⟨isFree, item, List.mem_cons_of_mem row found, isAbandoned⟩
      · rintro ⟨rfl | member, all⟩
        · exact .inl rfl
        · refine .inr ⟨member, fun between low high => ?_⟩
          obtain ⟨isFree, item, found, isAbandoned⟩ := all between (by omega) high
          refine ⟨isFree, item, ?_, isAbandoned⟩
          rcases List.mem_cons.mp found with same | later
          · rw [← same] at low
            exact absurd low (lt_irrefl _)
          · exact later

theorem Valid.mem_skippedItems (valid : Valid self) {tsn : Int} {item : Item} :
    (tsn, item) ∈ self.skippedItems ↔ InRun self tsn ∧ self.outstandingData[tsn]? = some item := by
  have above : ∀ row ∈ self.outstandingData.toList, self.lastCumulativeTsnAck < row.1 :=
    fun row member => ((valid.keys row.1).mp
      (mem_iff_exists.mpr ⟨row.2, ExtTreeMap.mem_toList_iff_getElem?_eq_some.mp member⟩)).1
  rw [skippedItems, mem_skippedFrom (toList_pairwise_lt _) above]
  simp only [ExtTreeMap.mem_toList_iff_getElem?_eq_some]
  constructor
  · rintro ⟨found, all⟩
    exact ⟨⟨above _ (ExtTreeMap.mem_toList_iff_getElem?_eq_some.mpr found), all⟩, found⟩
  · rintro ⟨⟨-, all⟩, found⟩
    exact ⟨found, all⟩

theorem skippedFrom_sublist (breakpoints : Finset Int) (start : Int) (rows : List (Int × Item)) :
    (skippedFrom breakpoints start rows).Sublist rows := by
  induction rows generalizing start with
  | nil => exact .slnil
  | cons row rest ih =>
    unfold skippedFrom
    split_ifs
    · exact List.nil_sublist _
    · exact (ih row.1).cons_cons row

theorem Valid.inRun_iff (valid : Valid self) {tsn : Int}
    (behind : self.lastCumulativeTsnAck < tsn) : InRun self tsn ↔ tsn ≤ self.newCumulativeAck := by
  constructor
  · intro inRun
    obtain ⟨-, item, found, -⟩ := inRun.2 tsn behind (le_refl tsn)
    have member := valid.mem_skippedItems.mpr ⟨inRun, found⟩
    have ordered : self.skippedItems.Pairwise fun one two => one.1 < two.1 :=
      (toList_pairwise_lt self.outstandingData).sublist (skippedFrom_sublist _ _ _)
    obtain ⟨front, last, isLast⟩ := (List.eq_nil_or_concat' self.skippedItems).resolve_left
      (List.ne_nil_of_mem member)
    rw [newCumulativeAck, isLast, List.getLast?_concat, Option.map_some, Option.getD_some]
    rw [isLast, List.mem_append, List.mem_singleton] at member
    rw [isLast, List.pairwise_append] at ordered
    rcases member with earlier | rfl
    · exact (ordered.2.2 _ earlier last List.mem_cons_self).le
    · exact le_refl tsn
  · intro within
    obtain ⟨item, member⟩ := exists_mem_skippedFrom behind within
    exact (valid.mem_skippedItems.mp member).1

theorem Valid.le_newCumulativeAck (valid : Valid self) :
    self.lastCumulativeTsnAck ≤ self.newCumulativeAck := by
  rw [newCumulativeAck]
  cases isLast : self.skippedItems.getLast? with
  | none => exact le_refl _
  | some entry => exact (valid.mem_skippedItems.mp (List.mem_of_getLast? isLast)).1.1.le

/-! ## The numbers -/

variable {κ : Type} [Ord κ] [Std.TransOrd κ] [Std.LawfulEqOrd κ] [DecidableEq κ] {width : Nat}

/-- The loop over the fragments, with the largest number on every stream. -/
def latest (skip : Data → Bool) (stream : Data → κ)
    (number : Data → BitVec width) (rows : List (Int × Item)) : ExtTreeMap κ (BitVec width) :=
  rows.foldl (fun skipped entry =>
    let data := entry.2.data
    let last := skipped[stream data]?.getD 0
    if skip data then skipped
    else skipped.insert (stream data) (if last < number data then number data else last)) ∅

/-- What is held for a stream is one of its numbers, and none of them is larger. -/
theorem latest_spec (skip : Data → Bool) (stream : Data → κ)
    (number : Data → BitVec width) (rows : List (Int × Item)) (key : κ) :
    (∀ entry ∈ rows, skip entry.2.data = false → stream entry.2.data = key →
      ∃ held, (latest skip stream number rows)[key]? = some held ∧ number entry.2.data ≤ held) ∧
    ∀ held, (latest skip stream number rows)[key]? = some held →
      ∃ entry ∈ rows, skip entry.2.data = false ∧ stream entry.2.data = key ∧
        number entry.2.data = held := by
  induction rows using List.reverseRecOn with
  | nil => simp [latest]
  | append_singleton rows row ih =>
    obtain ⟨bounded, attained⟩ := ih
    have step : latest skip stream number (rows ++ [row]) =
        if skip row.2.data then latest skip stream number rows
        else (latest skip stream number rows).insert (stream row.2.data)
          (if (latest skip stream number rows)[stream row.2.data]?.getD 0 < number row.2.data
            then number row.2.data
            else (latest skip stream number rows)[stream row.2.data]?.getD 0) := by
      rw [latest, List.foldl_append]
      rfl
    have lookup : (latest skip stream number (rows ++ [row]))[key]? =
        if skip row.2.data = false ∧ stream row.2.data = key then
          some (if (latest skip stream number rows)[key]?.getD 0 < number row.2.data
            then number row.2.data else (latest skip stream number rows)[key]?.getD 0)
        else (latest skip stream number rows)[key]? := by
      rw [step]
      cases skip row.2.data with
      | true => simp
      | false =>
        rw [if_neg Bool.false_ne_true, lookup_insert]
        by_cases same : stream row.2.data = key
        · simp [same]
        · simp [same]
    rw [lookup]
    by_cases counts : skip row.2.data = false ∧ stream row.2.data = key
    · rw [if_pos counts]
      generalize (latest skip stream number rows)[key]? = before at bounded attained
      refine ⟨fun entry member unskipped onStream => ⟨_, rfl, ?_⟩, ?_⟩
      · rcases List.mem_append.mp member with earlier | isRow
        · obtain ⟨held, rfl, below⟩ := bounded entry earlier unskipped onStream
          split_ifs with larger
          · exact BitVec.le_trans below (BitVec.le_of_lt larger)
          · exact below
        · obtain rfl := List.mem_singleton.mp isRow
          split_ifs with larger
          · exact BitVec.le_refl _
          · exact BitVec.not_lt.mp larger
      · rintro _ ⟨⟩
        split_ifs with larger
        · exact ⟨row, by simp, counts.1, counts.2, rfl⟩
        cases before with
        | some held =>
          obtain ⟨entry, member, rest⟩ := attained held rfl
          exact ⟨entry, by simp [member], rest⟩
        | none =>
          refine ⟨row, by simp, counts.1, counts.2, ?_⟩
          exact BitVec.eq_of_toNat_eq (by
            simpa [BitVec.lt_def] using larger)
    · rw [if_neg counts]
      refine ⟨fun entry member unskipped onStream => ?_, fun held isHeld => ?_⟩
      · rcases List.mem_append.mp member with earlier | isRow
        · exact bounded entry earlier unskipped onStream
        · obtain rfl := List.mem_singleton.mp isRow
          exact absurd ⟨unskipped, onStream⟩ counts
      · obtain ⟨entry, member, rest⟩ := attained held isHeld
        exact ⟨entry, by simp [member], rest⟩

variable {skip : Data → Bool} {stream : Data → κ} {number : Data → BitVec width} {key : κ}

/-- The number held for a stream is the last one exactly if the last one is the largest. -/
theorem Valid.latest_eq_iff (valid : Valid self) {tsn : Int} {item : Item}
    (last : Skipped self (fun data => skip data = false ∧ stream data = key) tsn item) :
    (latest skip stream number self.skippedItems)[key]? = some (number item.data) ↔
      ∀ earlier other, Skipped self (fun data => skip data = false ∧ stream data = key)
        earlier other → number other.data ≤ number item.data := by
  obtain ⟨bounded, attained⟩ := latest_spec skip stream number self.skippedItems key
  constructor
  · intro isHeld earlier other skipped
    obtain ⟨held, found, below⟩ := bounded (earlier, other)
      (valid.mem_skippedItems.mpr ⟨skipped.inRun, skipped.found⟩) skipped.onStream.1
      skipped.onStream.2
    cases found.symm.trans isHeld
    exact below
  · intro largest
    obtain ⟨held, found, below⟩ := bounded (tsn, item)
      (valid.mem_skippedItems.mpr ⟨last.inRun, last.found⟩) last.onStream.1 last.onStream.2
    obtain ⟨⟨other, otherItem⟩, member, unskipped, onStream, rfl⟩ := attained held found
    obtain ⟨inRun, otherFound⟩ := valid.mem_skippedItems.mp member
    have above := largest other otherItem ⟨inRun, otherFound, unskipped, onStream⟩
    rw [found, BitVec.le_antisymm below above]

/-! ## The chunks -/

/-- The numbers skipped on a stream are no others than the one of its last fragment. -/
def NamesLast (self : OutstandingData Q) {width : Nat} (OnStream : Data → Prop)
    (number : Data → BitVec width) (Named : BitVec width → Prop) : Prop :=
  ∀ tsn item, LastSkipped self OnStream tsn item →
    ∀ named, Named named ↔ named = number item.data

/-- The number of the last fragment on a stream is the largest one, as an unsigned number. -/
def LastIsLargest (self : OutstandingData Q) {width : Nat} (OnStream : Data → Prop)
    (number : Data → BitVec width) : Prop :=
  ∀ tsn item, LastSkipped self OnStream tsn item → ∀ earlier other,
    Skipped self OnStream earlier other → number other.data ≤ number item.data

theorem Valid.namesLast_iff (valid : Valid self) {Named : BitVec width → Prop}
    (named_iff : ∀ named, Named named ↔
      (latest skip stream number self.skippedItems)[key]? = some named) :
    NamesLast self (fun data => skip data = false ∧ stream data = key) number Named ↔
      LastIsLargest self (fun data => skip data = false ∧ stream data = key) number := by
  refine forall_congr' fun tsn => forall_congr' fun item => forall_congr' fun last => ?_
  rw [← valid.latest_eq_iff last.skipped]
  simp only [named_iff]
  constructor
  · intro only
    exact (only _).mpr rfl
  · intro held named
    rw [held, Option.some.injEq, eq_comm]

/-- Ordered messages of a stream. -/
def OrderedOn (streamId : StreamId) (data : Data) : Prop :=
  data.isUnordered = false ∧ data.streamId = streamId

/-- Messages of a stream, either the ordered or the unordered ones. -/
def MessageOn (unordered : Bool) (streamId : StreamId) (data : Data) : Prop :=
  data.isUnordered = unordered ∧ data.streamId = streamId

theorem named_forwardTsn (self : OutstandingData Q) (streamId : StreamId) (ssn : Ssn) :
    (∃ skipped ∈ self.createForwardTsn.skippedStreams,
      skipped.streamId = streamId ∧ skipped.ssn = ssn) ↔
    (latest Data.isUnordered Data.streamId Data.ssn self.skippedItems)[streamId]? = some ssn := by
  simp [createForwardTsn, skippedPerOrderedStream, latest]

theorem named_iForwardTsn (self : OutstandingData Q) (unordered : Bool) (streamId : StreamId)
    (messageId : Mid) :
    (∃ skipped ∈ self.createIForwardTsn.skippedStreams, skipped.unordered = unordered ∧
      skipped.streamId = streamId ∧ skipped.messageId = messageId) ↔
    (latest (fun _ => false) (fun data => toLex (data.isUnordered, data.streamId)) Data.messageId
      self.skippedItems)[toLex (unordered, streamId)]? = some messageId := by
  rw [← ExtTreeMap.mem_toList_iff_getElem?_eq_some]
  simp only [createIForwardTsn, List.mem_map, Prod.exists]
  constructor
  · rintro ⟨_, ⟨stream, _, member, rfl⟩, rfl, rfl, rfl⟩
    exact member
  · intro member
    exact ⟨_, ⟨toLex (unordered, streamId), messageId, member, rfl⟩, rfl, rfl, rfl⟩

/-- The cumulative TSN of a chunk stands for the end of the run. -/
def EndsRun (self : OutstandingData Q) (chunk : AnyForwardTsnChunk) : Prop :=
  ∃ last, chunk.newCumulativeTsn = Unwrapped.wrap 32 last ∧ self.lastCumulativeTsnAck ≤ last ∧
    ∀ tsn, self.lastCumulativeTsnAck < tsn → (InRun self tsn ↔ tsn ≤ last)

/--
In every state of a run, both chunks move to the end of the abandoned fragments that follow
the cumulative TSN.  They name the last message of every stream exactly if, among these
fragments, the number of the last one is the largest one of its stream.
-/
theorem forwardTsn_names_last_iff (dataChunkHeaderSize : Nat) (lastCumulativeTsnAck : Int)
    (discardFromSendQueue : Bool → StreamId → Mid → Q → Bool × Q) (sendQueue : Q)
    (inputs : List Input) (state : Audited Q)
    (run : machine.Run ⟨create dataChunkHeaderSize (lastCumulativeTsnAck + 1)
      lastCumulativeTsnAck discardFromSendQueue sendQueue, false, none⟩ inputs state) :
    EndsRun state.self state.self.createForwardTsn ∧
    EndsRun state.self state.self.createIForwardTsn ∧
    (∀ streamId, NamesLast state.self (OrderedOn streamId) Data.ssn (fun ssn =>
        ∃ skipped ∈ state.self.createForwardTsn.skippedStreams,
          skipped.streamId = streamId ∧ skipped.ssn = ssn) ↔
      LastIsLargest state.self (OrderedOn streamId) Data.ssn) ∧
    ∀ unordered streamId, NamesLast state.self (MessageOn unordered streamId) Data.messageId
        (fun messageId => ∃ skipped ∈ state.self.createIForwardTsn.skippedStreams,
          skipped.unordered = unordered ∧ skipped.streamId = streamId ∧
            skipped.messageId = messageId) ↔
      LastIsLargest state.self (MessageOn unordered streamId) Data.messageId := by
  have valid : Valid state.self := (Sound.of_run (create_sound _ _ _ _) run).valid
  have ends : ∀ chunk : AnyForwardTsnChunk, chunk.newCumulativeTsn =
      Unwrapped.wrap 32 state.self.newCumulativeAck → EndsRun state.self chunk :=
    fun _ isEnd => ⟨_, isEnd, valid.le_newCumulativeAck, fun _ behind => valid.inRun_iff behind⟩
  refine ⟨ends _ rfl, ends _ rfl, fun streamId => ?_, fun unordered streamId => ?_⟩
  · exact valid.namesLast_iff (named_forwardTsn state.self streamId)
  · have onStream : MessageOn unordered streamId = fun data =>
        (fun _ : Data => false) data = false ∧
          toLex (data.isUnordered, data.streamId) = toLex (unordered, streamId) := by
      funext data
      simp [MessageOn]
    rw [onStream]
    exact valid.namesLast_iff (named_iForwardTsn state.self unordered streamId)

/-- An ordered message that has expired when it is sent. -/
def expired (ssn : Ssn) (messageId : Mid) : Input :=
  .insert ⟨1, ssn, messageId, 0, 51, [1, 2, 3], true, true, false⟩ 0 0 0 0

/-- Outstanding data after two expired messages in a row. -/
def afterExpired (first second : Ssn) : Audited Unit :=
  machine.outcome ⟨create 16 11 10 (fun _ _ _ queue => (false, queue)) (), false, none⟩
    [expired first 0, expired second 1]

theorem run_afterExpired (first second : Ssn) :
    machine.Run ⟨create 16 11 10 (fun _ _ _ queue => (false, queue)) (), false, none⟩
      [expired first 0, expired second 1] (afterExpired first second) :=
  Machine.Admits.run (M := machine)
    ⟨⟨nofun, trivial⟩, ⟨nofun, trivial⟩, trivial⟩

theorem lastSkipped_afterExpired {first second : Ssn}
    (behind : (afterExpired first second).self.lastCumulativeTsnAck < 12)
    (moved : (afterExpired first second).self.newCumulativeAck = 12)
    (held : ((afterExpired first second).self.outstandingData[(12 : Int)]?.any fun item =>
      !item.data.isUnordered && item.data.streamId == 1 && item.data.ssn == second) = true) :
    ∃ item, LastSkipped (afterExpired first second).self (OrderedOn 1) 12 item ∧
      item.data.ssn = second := by
  have valid : Valid (afterExpired first second).self :=
    (Sound.of_run (create_sound 16 10 _ _) (run_afterExpired first second)).valid
  obtain ⟨item, found, isLast⟩ := (Option.any_eq_true _ _).mp held
  simp only [Bool.and_eq_true, Bool.not_eq_true', beq_iff_eq] at isLast
  refine ⟨item, ⟨⟨(valid.inRun_iff behind).mpr moved.ge, found, isLast.1⟩,
    fun later other skipped => ?_⟩, isLast.2⟩
  rw [← moved]
  exact (valid.inRun_iff skipped.inRun.1).mp skipped.inRun

/-- The second of two expired messages is named, as its number is the larger one. -/
theorem forwardTsn_names_second :
    EndsRun (afterExpired 7 8).self (afterExpired 7 8).self.createForwardTsn ∧
    ∃ skipped ∈ (afterExpired 7 8).self.createForwardTsn.skippedStreams,
      skipped.streamId = 1 ∧ skipped.ssn = 8 := by
  obtain ⟨ends, -, named, -⟩ := forwardTsn_names_last_iff 16 10 _ () _ _ (run_afterExpired 7 8)
  obtain ⟨item, last, isEight⟩ := @lastSkipped_afterExpired 7 8 (by decide +kernel)
    (by decide +kernel) (by decide +kernel)
  have small : ∀ entry ∈ (afterExpired 7 8).self.outstandingData.toList,
      entry.2.data.ssn ≤ 8 := by decide +kernel
  refine ⟨ends, ((named 1).mpr ?_ 12 item last 8).mpr isEight.symm⟩
  intro tsn final isFinal earlier other skipped
  have same : tsn = 12 :=
    le_antisymm (last.last _ _ isFinal.skipped) (isFinal.last _ _ last.skipped)
  subst same
  cases isFinal.skipped.found.symm.trans last.skipped.found
  rw [isEight]
  exact small _ (ExtTreeMap.mem_toList_iff_getElem?_eq_some.mpr skipped.found)

/-- Where the sequence numbers wrap around, the message before the last one is named: the peer
still waits for the last one. -/
theorem forwardTsn_names_wrapped :
    machine.Run ⟨create 16 11 10 (fun _ _ _ queue => (false, queue)) (), false, none⟩
      [expired 65535 0, expired 0 1] (afterExpired 65535 0) ∧
    (afterExpired 65535 0).self.createForwardTsn.skippedStreams = [⟨1, 65535, false, 0⟩] ∧
    ∃ item, LastSkipped (afterExpired 65535 0).self (OrderedOn 1) 12 item ∧ item.data.ssn = 0 :=
  ⟨run_afterExpired 65535 0, by decide +kernel, lastSkipped_afterExpired (by decide +kernel)
    (by decide +kernel) (by decide +kernel)⟩

end MaeRtc.DcSctp.OutstandingData
