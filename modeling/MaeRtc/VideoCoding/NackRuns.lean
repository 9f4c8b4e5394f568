import MaeRtc.Base.Machine
import MaeRtc.VideoCoding.NackWindow

/-!
# Runs of the requester

The requester runs beside a log of what happened to the sequence numbers: that one was
skipped, that its packet arrived, that it was requested.  In every run the list holds
numbers that were skipped and whose packets have not arrived since, each of which was
requested as often as the list says.
-/

namespace MaeRtc.VideoCoding

open Base SeqNum

inductive NackEvent where
  | skipped (seqNum : SeqNum)
  | received (seqNum : SeqNum)
  | requested (seqNum : SeqNum)
  deriving DecidableEq, Repr

/-- What happened since the number was last skipped, if the log starts with the latest. -/
def since (log : List NackEvent) (seqNum : SeqNum) : List NackEvent :=
  log.takeWhile fun event => event ≠ .skipped seqNum

/-- How often the number was requested since it was last skipped. -/
def requests (log : List NackEvent) (seqNum : SeqNum) : Nat :=
  (since log seqNum).count (.requested seqNum)

variable {seqNum : SeqNum}

theorem since_cons_of_ne {event : NackEvent} (other : event ≠ .skipped seqNum)
    (log : List NackEvent) : since (event :: log) seqNum = event :: since log seqNum :=
  List.takeWhile_cons_of_pos (decide_eq_true other)

theorem since_received (seqNum number : SeqNum) (log : List NackEvent) :
    since (.received seqNum :: log) number = .received seqNum :: since log number := by
  have other : NackEvent.received seqNum ≠ .skipped number := by simp
  exact since_cons_of_ne other log

theorem since_append_of_ne {events : List NackEvent}
    (other : ∀ event ∈ events, event ≠ .skipped seqNum) (log : List NackEvent) :
    since (events ++ log) seqNum = events ++ since log seqNum :=
  List.takeWhile_append_of_pos fun event member => decide_eq_true (other event member)

/-- Since it was skipped just now, only others were skipped. -/
theorem since_skipped {numbers : List SeqNum} (member : seqNum ∈ numbers) (log : List NackEvent) :
    ∀ event ∈ since (numbers.map .skipped ++ log) seqNum, ∃ number, event = .skipped number := by
  induction numbers with
  | nil => cases member
  | cons number rest ih =>
    by_cases same : number = seqNum
    · have none : since ((number :: rest).map .skipped ++ log) seqNum = [] :=
        List.takeWhile_cons_of_neg (by simp [same])
      rw [none]
      simp
    · rw [List.map_cons, List.cons_append, since_cons_of_ne (by simpa using same)]
      refine List.forall_mem_cons.mpr ⟨⟨number, rfl⟩, ih ?_⟩
      exact (List.mem_cons.mp member).resolve_left fun isHead => same isHead.symm

/-- The entries of the list, as the log knows them. -/
structure Tracked (log : List NackEvent) (nackList : List NackInfo) : Prop where
  skipped : ∀ info ∈ nackList, .skipped info.seqNum ∈ log
  missing : ∀ info ∈ nackList, .received info.seqNum ∉ since log info.seqNum
  retries : ∀ info ∈ nackList, requests log info.seqNum = info.retries
  fewRetries : ∀ info ∈ nackList, info.retries < kMaxNackRetries
  bounded : ∀ seqNum, requests log seqNum ≤ kMaxNackRetries

variable {fewer : List NackInfo}

namespace Tracked

variable {log : List NackEvent} {nackList : List NackInfo}

theorem nil : Tracked [] [] :=
  ⟨by simp, by simp, by simp, by simp, fun _ => Nat.zero_le _⟩

variable (tracked : Tracked log nackList)
include tracked

theorem sublist (isSublist : fewer.Sublist nackList) : Tracked log fewer :=
  ⟨fun info member => tracked.skipped info (isSublist.subset member),
    fun info member => tracked.missing info (isSublist.subset member),
    fun info member => tracked.retries info (isSublist.subset member),
    fun info member => tracked.fewRetries info (isSublist.subset member), tracked.bounded⟩

theorem receive {seqNum : SeqNum} (absent : ∀ info ∈ nackList, info.seqNum ≠ seqNum) :
    Tracked (.received seqNum :: log) nackList := by
  have same : ∀ number, requests (.received seqNum :: log) number = requests log number := by
    intro number
    rfl
  refine ⟨fun info member => List.mem_cons_of_mem _ (tracked.skipped info member),
    fun info member => ?_, fun info member => ?_, tracked.fewRetries, fun number => ?_⟩
  · rw [since_received, List.mem_cons]
    rintro (isSeqNum | earlier)
    · cases isSeqNum
      exact absent info member rfl
    · exact tracked.missing info member earlier
  · rw [same, tracked.retries info member]
  · exact tracked.bounded number

/-- Numbers that are not in the list are skipped, and some of them are added. -/
theorem skip {numbers : List SeqNum} (absent : ∀ info ∈ nackList, info.seqNum ∉ numbers)
    {added : List NackInfo} (isSkipped : ∀ info ∈ added, info.seqNum ∈ numbers ∧ info.retries = 0) :
    Tracked (numbers.map .skipped ++ log) (nackList ++ added) := by
  have others : ∀ number, number ∉ numbers →
      since (numbers.map .skipped ++ log) number = numbers.map .skipped ++ since log number := by
    intro number isOther
    refine since_append_of_ne (fun event member => ?_) log
    obtain ⟨skipped, isNumber, rfl⟩ := List.mem_map.mp member
    rintro ⟨⟩
    exact isOther isNumber
  have requestsOf : ∀ number, requests (numbers.map .skipped ++ log) number =
      if number ∈ numbers then 0 else requests log number := by
    intro number
    split_ifs with isSkipped
    · rw [requests, List.count_eq_zero]
      intro member
      obtain ⟨_, ⟨⟩⟩ := since_skipped isSkipped log _ member
    · rw [requests, others number isSkipped, List.count_append, List.count_eq_zero.mpr, Nat.zero_add]
      · rfl
      · simp
  refine ⟨?_, ?_, ?_, ?_, fun number => ?_⟩
  · refine List.forall_mem_append.mpr ⟨fun info member => ?_, fun info member => ?_⟩
    · exact List.mem_append_right _ (tracked.skipped info member)
    · exact List.mem_append_left _ (List.mem_map_of_mem (isSkipped info member).1)
  · refine List.forall_mem_append.mpr ⟨fun info member => ?_, fun info member => ?_⟩
    · rw [others _ (absent info member), List.mem_append, not_or]
      exact ⟨by simp, tracked.missing info member⟩
    · intro received
      obtain ⟨_, ⟨⟩⟩ := since_skipped (isSkipped info member).1 log _ received
  · refine List.forall_mem_append.mpr ⟨fun info member => ?_, fun info member => ?_⟩
    · rw [requestsOf, if_neg (absent info member), tracked.retries info member]
    · rw [requestsOf, if_pos (isSkipped info member).1, (isSkipped info member).2]
  · refine List.forall_mem_append.mpr ⟨tracked.fewRetries, fun info member => ?_⟩
    rw [(isSkipped info member).2]
    decide
  · rw [requestsOf]
    split_ifs
    · exact Nat.zero_le _
    · exact tracked.bounded number

end Tracked

/-! ## Batches -/

/-- What is left of an entry after a batch. -/
def renewed (requester : NackRequester) (options : NackFilterOptions) (now : Int)
    (info : NackInfo) : Option NackInfo :=
  if requester.isDue options now info then
    if info.retries + 1 ≥ kMaxNackRetries then none
    else some { info with retries := info.retries + 1, sentAtTime := some now }
  else some info

theorem seqNum_of_renewed {requester : NackRequester} {options : NackFilterOptions} {now : Int}
    {info after : NackInfo} (isAfter : renewed requester options now info = some after) :
    after.seqNum = info.seqNum := by
  unfold renewed at isAfter
  split_ifs at isAfter <;> cases isAfter <;> rfl

section

variable (requester : NackRequester) (options : NackFilterOptions) (now : Int)

theorem nackBatch_eq (nackList : List NackInfo) :
    requester.nackBatch options now nackList =
      (NackRequester.keys (nackList.filter (requester.isDue options now)),
        nackList.filterMap (renewed requester options now)) := by
  induction nackList with
  | nil => rfl
  | cons info rest ih =>
    rw [NackRequester.nackBatch, ih]
    by_cases isDue : requester.isDue options now info
    · by_cases last : info.retries + 1 ≥ kMaxNackRetries
      · simp [isDue, renewed, last, NackRequester.keys]
      · simp [isDue, renewed, last, NackRequester.keys]
    · simp [isDue, renewed]

theorem keys_filterMap_renewed (nackList : List NackInfo) :
    (NackRequester.keys (nackList.filterMap (renewed requester options now))).Sublist
      (NackRequester.keys nackList) := by
  induction nackList with
  | nil => exact .slnil
  | cons info rest ih =>
    cases isAfter : renewed requester options now info with
    | none =>
      rw [List.filterMap_cons_none isAfter]
      exact ih.cons _
    | some after =>
      rw [List.filterMap_cons_some isAfter, NackRequester.keys, List.map_cons,
        seqNum_of_renewed isAfter]
      exact ih.cons_cons _

end

theorem Window.of_keys {newest : SeqNum} {age : Nat} {nackList : List NackInfo}
    (window : Window newest age nackList)
    (isSublist : (NackRequester.keys fewer).Sublist (NackRequester.keys nackList)) :
    Window newest age fewer := by
  constructor
  · intro info member
    obtain ⟨other, isOther, same⟩ := List.mem_map.mp (isSublist.subset (List.mem_map_of_mem member))
    rw [← same]
    exact window.within other isOther
  · have ordered : (NackRequester.keys nackList).Pairwise fun one two =>
        behind newest two < behind newest one := List.pairwise_map.mpr window.ordered
    exact List.pairwise_map.mp (ordered.sublist isSublist)

theorem Tracked.batch {log : List NackEvent} {nackList : List NackInfo}
    (tracked : Tracked log nackList) (nodup : (NackRequester.keys nackList).Nodup)
    (requester : NackRequester) (options : NackFilterOptions) (now : Int) :
    Tracked ((NackRequester.keys (nackList.filter (requester.isDue options now))).map .requested ++
      log) (nackList.filterMap (renewed requester options now)) := by
  obtain ⟨batch, isBatch⟩ : ∃ batch, batch =
    NackRequester.keys (nackList.filter (requester.isDue options now)) := ⟨_, rfl⟩
  rw [← isBatch]
  have sinceOf : ∀ number, since (batch.map .requested ++ log) number =
      batch.map .requested ++ since log number := by
    refine fun number => since_append_of_ne (fun event member => ?_) log
    obtain ⟨_, _, rfl⟩ := List.mem_map.mp member
    exact fun same => nomatch same
  have batchNodup : batch.Nodup := by
    rw [isBatch]
    exact nodup.sublist (List.filter_sublist.map _)
  have requestsOf : ∀ number, requests (batch.map .requested ++ log) number =
      (if number ∈ batch then 1 else 0) + requests log number := by
    intro number
    rw [requests, sinceOf, List.count_append]
    congr 1
    rw [List.count_map_of_injective _ _ (fun one two same => by cases same; rfl)]
    split_ifs with member
    · exact List.count_eq_one_of_mem batchNodup member
    · exact List.count_eq_zero.mpr member
  have inBatch : ∀ info ∈ nackList,
      info.seqNum ∈ batch ↔ requester.isDue options now info = true := by
    intro info member
    rw [isBatch]
    constructor
    · intro isKey
      obtain ⟨other, isOther, same⟩ := List.mem_map.mp isKey
      obtain ⟨otherMember, isDue⟩ := List.mem_filter.mp isOther
      have unique := List.inj_on_of_nodup_map nodup otherMember member same
      rwa [← unique]
    · exact fun isDue => List.mem_map_of_mem (List.mem_filter.mpr ⟨member, isDue⟩)
  refine ⟨fun after member => ?_, fun after member => ?_, fun after member => ?_,
    fun after member => ?_, fun number => ?_⟩
  · obtain ⟨info, isInfo, isAfter⟩ := List.mem_filterMap.mp member
    rw [seqNum_of_renewed isAfter]
    exact List.mem_append_right _ (tracked.skipped info isInfo)
  · obtain ⟨info, isInfo, isAfter⟩ := List.mem_filterMap.mp member
    rw [seqNum_of_renewed isAfter, sinceOf, List.mem_append, not_or]
    exact ⟨by simp, tracked.missing info isInfo⟩
  · obtain ⟨info, isInfo, isAfter⟩ := List.mem_filterMap.mp member
    rw [seqNum_of_renewed isAfter, requestsOf, tracked.retries info isInfo]
    unfold renewed at isAfter
    split_ifs at isAfter with isDue last
    · cases isAfter
      rw [if_pos ((inBatch info isInfo).mpr isDue)]
      exact Nat.add_comm _ _
    · cases isAfter
      rw [if_neg (fun due => isDue ((inBatch _ isInfo).mp due)), Nat.zero_add]
  · obtain ⟨info, isInfo, isAfter⟩ := List.mem_filterMap.mp member
    unfold renewed at isAfter
    split_ifs at isAfter with isDue last
    · cases isAfter
      exact Nat.lt_of_not_ge last
    · cases isAfter
      exact tracked.fewRetries _ isInfo
  · rw [requestsOf]
    split_ifs with member
    · rw [isBatch] at member
      obtain ⟨info, isInfo, rfl⟩ := List.mem_map.mp member
      have isMember := List.mem_of_mem_filter isInfo
      have few := tracked.fewRetries info isMember
      rw [tracked.retries info isMember]
      omega
    · rw [Nat.zero_add]
      exact tracked.bounded number

/-! ## The machine -/

/-- The requester, what happened to the numbers, and an assertion that failed. -/
structure WatchedNacks where
  requester : NackRequester
  log : List NackEvent := []
  fault : Option NackViolation := none

namespace WatchedNacks

def start (sendNackDelay : Int) : WatchedNacks where
  requester := { sendNackDelay := sendNackDelay }

/-- The numbers that a packet skips: it is ahead of the newest one, and is not recovered. -/
def skips (requester : NackRequester) (seqNum : SeqNum) (isRecovered : Bool) : List SeqNum :=
  if requester.initialized ∧ seqNum ≠ requester.newestSeqNum ∧
      ¬ aheadOf requester.newestSeqNum seqNum ∧ ¬ isRecovered then
    span (behind seqNum requester.newestSeqNum - 1) (requester.newestSeqNum + 1)
  else []

end WatchedNacks

inductive NackCall where
  | onReceivedPacket (trees : Trees) (now : Int) (seqNum : SeqNum) (isKeyframe isRecovered : Bool)
  | clearUpTo (trees : Trees) (seqNum : SeqNum)
  | updateRtt (rttMs : Int)
  | processNacks (now : Int)

/-- All calls are possible at all times. -/
def watchNacks : Machine WatchedNacks NackCall where
  pre _ _ := True
  next state call := match call with
    | .onReceivedPacket trees now seqNum isKeyframe isRecovered =>
      match state.requester.onReceivedPacket trees now seqNum isKeyframe isRecovered with
      | .error violation => { state with fault := some violation }
      | .ok received => { state with
          requester := received.requester
          log := received.nackBatch.map .requested ++ .received seqNum ::
            ((WatchedNacks.skips state.requester seqNum isRecovered).map .skipped ++ state.log) }
    | .clearUpTo trees seqNum =>
      { state with requester := state.requester.clearUpTo trees seqNum }
    | .updateRtt rttMs => { state with requester := state.requester.updateRtt rttMs }
    | .processNacks now =>
      let (batch, requester) := state.requester.processNacks now
      { state with requester := requester, log := batch.map .requested ++ state.log }

namespace WatchedNacks

/-- The list is a window, is not too long, and is as the log says. -/
structure Healthy (newest : SeqNum) (log : List NackEvent) (nackList : List NackInfo) : Prop where
  window : Window newest kMaxPacketAge nackList
  small : nackList.length ≤ kMaxNackPackets
  tracked : Tracked log nackList

namespace Healthy

variable {newest : SeqNum} {log : List NackEvent} {nackList : List NackInfo}

theorem sublist (healthy : Healthy newest log nackList)
    (isSublist : fewer.Sublist nackList) : Healthy newest log fewer :=
  ⟨healthy.window.sublist isSublist, isSublist.length_le.trans healthy.small,
    healthy.tracked.sublist isSublist⟩

theorem batch (healthy : Healthy newest log nackList) (requester : NackRequester)
    (options : NackFilterOptions) (now : Int) :
    Healthy newest ((NackRequester.keys (nackList.filter
      (requester.isDue options now))).map .requested ++ log)
      (nackList.filterMap (renewed requester options now)) :=
  ⟨healthy.window.of_keys (keys_filterMap_renewed requester options now nackList),
    (List.length_filterMap_le _ _).trans healthy.small,
    healthy.tracked.batch healthy.window.nodup requester options now⟩

end Healthy

/-- What holds after every call. -/
structure InStep (state : WatchedNacks) : Prop where
  healthy : Healthy state.requester.newestSeqNum state.log state.requester.nackList
  empty : state.requester.initialized = false → state.requester.nackList = []
  noFault : state.fault = none

theorem inStep_start (sendNackDelay : Int) : (start sendNackDelay).InStep :=
  ⟨⟨.nil, Nat.zero_le _, .nil⟩, fun _ => rfl, rfl⟩

variable {state : WatchedNacks}

theorem InStep.next_processNacks (inStep : state.InStep) (now : Int) :
    (watchNacks.next state (.processNacks now)).InStep := by
  have step : watchNacks.next state (.processNacks now) = { state with
      requester := { state.requester with
        nackList := state.requester.nackList.filterMap (renewed state.requester .timeOnly now) }
      log := (NackRequester.keys (state.requester.nackList.filter
        (state.requester.isDue .timeOnly now))).map .requested ++ state.log } := by
    simp only [watchNacks, NackRequester.processNacks, NackRequester.getNackBatch, nackBatch_eq]
  rw [step]
  refine ⟨inStep.healthy.batch state.requester .timeOnly now, fun fresh => ?_, inStep.noFault⟩
  rw [inStep.empty fresh]
  rfl

theorem InStep.next_clearUpTo (inStep : state.InStep) (trees : Trees) (seqNum : SeqNum) :
    (watchNacks.next state (.clearUpTo trees seqNum)).InStep := by
  refine ⟨inStep.healthy.sublist (List.drop_sublist _ _), fun fresh => ?_, inStep.noFault⟩
  have none := inStep.empty fresh
  change NackRequester.eraseNacksBefore trees state.requester.nackList seqNum = []
  rw [none, NackRequester.eraseNacksBefore, List.drop_nil]

/-- The skipped numbers are those behind the new packet that are ahead of the newest one. -/
theorem mem_skipped_iff {newest seqNum : SeqNum} (isNew : seqNum ≠ newest) (number : SeqNum) :
    number ∈ span (behind seqNum newest - 1) (newest + 1) ↔
      1 ≤ behind seqNum number ∧ behind seqNum number < behind seqNum newest := by
  have some : behind seqNum newest ≠ 0 := fun zero => isNew (behind_eq_zero_iff.mp zero).symm
  rw [mem_span _ (behind_succ (by omega : behind seqNum newest = behind seqNum newest - 1 + 1))]
  omega

/-- The list after a packet that is ahead, before the batch. -/
theorem Healthy.ahead {log : List NackEvent} {requester : NackRequester}
    (healthy : Healthy requester.newestSeqNum log requester.nackList) {seqNum : SeqNum}
    (isNew : seqNum ≠ requester.newestSeqNum) {old added : List NackInfo} {now : Int}
    {kept : SeqNum → Bool} (isSublist : old.Sublist requester.nackList)
    (isAdded : added = ((span (behind seqNum requester.newestSeqNum - 1)
      (requester.newestSeqNum + 1)).filter kept).map (newNack now))
    (window : Window seqNum kMaxPacketAge (old ++ added))
    (small : (old ++ added).length ≤ kMaxNackPackets)
    (older : ∀ info ∈ old, behind seqNum requester.newestSeqNum < behind seqNum info.seqNum) :
    Healthy seqNum (.received seqNum :: ((span (behind seqNum requester.newestSeqNum - 1)
      (requester.newestSeqNum + 1)).map .skipped ++ log)) (old ++ added) := by
  refine ⟨window, small, Tracked.receive ?_ fun info member same => ?_⟩
  · refine (healthy.tracked.sublist isSublist).skip (fun info member => ?_) fun info member => ?_
    · rw [mem_skipped_iff isNew]
      have isOlder := older info member
      omega
    · rw [isAdded] at member
      obtain ⟨number, isNumber, rfl⟩ := List.mem_map.mp member
      exact ⟨List.mem_of_mem_filter isNumber, rfl⟩
  · have within := window.within info member
    rw [same, behind_eq_zero_iff.mpr rfl] at within
    omega

theorem InStep.next_onReceivedPacket (inStep : state.InStep) (trees : Trees) (now : Int)
    (seqNum : SeqNum) (isKeyframe isRecovered : Bool) :
    (watchNacks.next state
      (.onReceivedPacket trees now seqNum isKeyframe isRecovered)).InStep := by
  obtain ⟨received, returned, initialized, arrival⟩ := @onReceivedPacket_cases trees _
    inStep.healthy.window now seqNum isKeyframe isRecovered
  have step : watchNacks.next state (.onReceivedPacket trees now seqNum isKeyframe isRecovered) =
      { state with
        requester := received.requester
        log := received.nackBatch.map .requested ++ .received seqNum ::
          ((skips state.requester seqNum isRecovered).map .skipped ++ state.log) } := by
    simp only [watchNacks, returned]
  rw [step]
  refine ⟨?_, fun fresh => ?_, inStep.noFault⟩
  swap
  · rw [initialized] at fresh
    cases fresh
  cases arrival with
  | first notInitialized newest nackList recoveredList batch =>
    have noSkips : skips state.requester seqNum isRecovered = [] := if_neg (by simp [notInitialized])
    rw [newest, nackList, batch, noSkips, inStep.empty notInitialized]
    have empty := inStep.healthy.tracked
    rw [inStep.empty notInitialized] at empty
    exact ⟨.nil, Nat.zero_le _, empty.receive (by simp)⟩
  | late initialized isLate newest nackList recoveredList batch =>
    have noSkips : skips state.requester seqNum isRecovered = [] := if_neg (by
      rintro ⟨_, isNew, notAhead, _⟩
      exact isLate.elim isNew notAhead)
    rw [newest, nackList, batch, noSkips]
    obtain ⟨window, small, tracked⟩ := inStep.healthy.sublist
      (List.filter_sublist (p := fun info => decide (info.seqNum ≠ seqNum)))
    exact ⟨window, small, tracked.receive fun info member => of_decide_eq_true
      (List.mem_filter.mp member).2⟩
  | recovered initialized wasRecovered isNew isAhead newest nackList recoveredList batch =>
    have noSkips : skips state.requester seqNum isRecovered = [] := if_neg (by simp [wasRecovered])
    rw [newest, nackList, batch, noSkips]
    obtain ⟨window, small, tracked⟩ := inStep.healthy
    refine ⟨window, small, tracked.receive fun info member same => ?_⟩
    have within := window.within info member
    rw [same] at within
    have isAheadOf := (aheadOf_iff (a := state.requester.newestSeqNum) (b := seqNum)).mpr
      (.inl ⟨within.1, within.2.trans_lt (by decide)⟩)
    rw [isAheadOf] at isAhead
    cases isAhead
  | ahead initialized notRecovered isNew isAhead between newest sent recoveredList nackList =>
    have isSkips : skips state.requester seqNum isRecovered = span
        (behind seqNum state.requester.newestSeqNum - 1) (state.requester.newestSeqNum + 1) :=
      if_pos ⟨initialized, isNew, by simp [isAhead], by simp [notRecovered]⟩
    rw [isSkips]
    rw [NackRequester.getNackBatch, nackBatch_eq, Prod.mk.injEq] at sent
    rw [sent.1, sent.2, newest]
    refine Healthy.batch ?_ between .seqNumOnly now
    rcases nackList with ⟨_, none⟩ | ⟨_, old, added, isList, isSublist, isAdded, window, small,
      older⟩
    · rw [none]
      exact @Healthy.ahead _ _ inStep.healthy _ isNew [] [] now (fun _ => false)
        (List.nil_sublist _) (by simp) .nil (Nat.zero_le _) (by simp)
    · rw [isList]
      exact inStep.healthy.ahead isNew isSublist isAdded window small older

theorem inStep_of_run {first last : WatchedNacks} {calls : List NackCall} (inStep : first.InStep)
    (run : watchNacks.Run first calls last) : last.InStep := by
  refine run.invariant (fun _ state => state.InStep) inStep fun _ state call _ holds _ => ?_
  cases call with
  | onReceivedPacket trees now seqNum isKeyframe isRecovered =>
    exact holds.next_onReceivedPacket trees now seqNum isKeyframe isRecovered
  | clearUpTo trees seqNum => exact holds.next_clearUpTo trees seqNum
  | updateRtt rttMs => exact ⟨holds.healthy, holds.empty, holds.noFault⟩
  | processNacks now => exact holds.next_processNacks now

end WatchedNacks

/--
In every run, whatever the shapes of the trees: the assertion holds; the list has at most
a thousand entries, all of them strictly behind the newest packet, and not too far; each
was skipped, and its packet has not arrived since; and since it was last skipped no number
was requested more than ten times.
-/
theorem nackList_of_run (sendNackDelay : Int) (calls : List NackCall) (last : WatchedNacks)
    (run : watchNacks.Run (.start sendNackDelay) calls last) :
    last.fault = none ∧
    last.requester.nackList.length ≤ 1000 ∧
    (∀ info ∈ last.requester.nackList, aheadOf last.requester.newestSeqNum info.seqNum = true ∧
      behind last.requester.newestSeqNum info.seqNum ≤ 10000 ∧
      .skipped info.seqNum ∈ last.log ∧
      .received info.seqNum ∉ since last.log info.seqNum) ∧
    ∀ seqNum, requests last.log seqNum ≤ 10 := by
  obtain ⟨⟨window, small, tracked⟩, _, noFault⟩ :=
    WatchedNacks.inStep_of_run (WatchedNacks.inStep_start sendNackDelay) run
  refine ⟨noFault, small, fun info member => ?_, tracked.bounded⟩
  have within := window.within info member
  refine ⟨aheadOf_iff.mpr (.inl ⟨within.1, within.2.trans_lt (by decide)⟩), within.2,
    tracked.skipped info member, tracked.missing info member⟩

def earliestTrees : Trees :=
  ⟨.earliest _, .earliest _, .earliest _⟩

/-- Two gaps across the end of the number space, a late packet, a retry and a clearing. -/
def gapCalls : List NackCall :=
  [.onReceivedPacket earliestTrees 0 65533 true false,
   .onReceivedPacket earliestTrees 0 2 false false,
   .onReceivedPacket earliestTrees 10 0 false false,
   .onReceivedPacket earliestTrees 20 5 false false,
   .updateRtt 50,
   .processNacks 60000,
   .clearUpTo earliestTrees 65535]

theorem nackList_after_gaps :
    NackRequester.keys (watchNacks.outcome (.start 0) gapCalls).requester.nackList =
        [65535, 1, 3, 4] ∧
      ∀ seqNum, requests (watchNacks.outcome (.start 0) gapCalls).log seqNum ≤ 10 := by
  have admitted : watchNacks.Admits (.start 0) gapCalls :=
    Machine.admits_of_forall (fun _ _ _ => trivial) _
  have holds := nackList_of_run 0 gapCalls _ admitted.run
  exact ⟨by decide +kernel, holds.2.2.2⟩

end MaeRtc.VideoCoding
