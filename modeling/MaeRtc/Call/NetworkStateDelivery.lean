import MaeRtc.Call.BitrateAllocator

/-!
# Delivery of the network state

Updates ought to carry the state of the network of the latest estimate: the
loss ratio and the times, as far as the allocator stores them, the reduction
ratio of the congestion window and the overuse signal.  The last two are not
stored, so the updates that announce a new observer lack them.  Over whole runs
every update carries the network state exactly if observers are added only
while these two are zero.
-/

namespace MaeRtc.Call.BitrateAllocator

open MaeRtc.Base

variable {Observer : Type*}

structure Stores (allocator : BitrateAllocator Observer) (msg : TargetTransferRate) :
    Prop where
  loss : allocator.lastFractionLoss = max 0 (min 255 (truncate (msg.lossRateRatio * 255)))
  rtt : allocator.lastRttMs = toMs msg.roundTripTimeUs
  bwePeriod : allocator.lastBwePeriodMs = toMs msg.bwePeriodUs

/-- An update carries the state of the network of an estimate. -/
structure Carries (msg : TargetTransferRate) (update : BitrateAllocationUpdate) : Prop where
  loss : update.packetLossRatio =
    ((max 0 (min 255 (truncate (msg.lossRateRatio * 255))) : Int) : ℚ) / 256
  rtt : update.roundTripTimeUs = toMs msg.roundTripTimeUs * 1000
  bwePeriod : update.bwePeriodUs = toMs msg.bwePeriodUs * 1000
  cwndReduceRatio : update.cwndReduceRatio = msg.cwndReduceRatio
  overused : update.isOverusedForEncoder = msg.isOverusedForEncoder

variable {self : BitrateAllocator Observer}

/-- An update built from stored values carries all but the last two. -/
theorem carries_iff_of_stores {msg : TargetTransferRate} (stores : Stores self msg)
    {update : BitrateAllocationUpdate} (target stableTarget : Nat)
    (lossEq : update.packetLossRatio = (self.storedUpdate target stableTarget).packetLossRatio)
    (rttEq : update.roundTripTimeUs = (self.storedUpdate target stableTarget).roundTripTimeUs)
    (bweEq : update.bwePeriodUs = (self.storedUpdate target stableTarget).bwePeriodUs) :
    Carries msg update ↔ update.cwndReduceRatio = msg.cwndReduceRatio ∧
      update.isOverusedForEncoder = msg.isOverusedForEncoder := by
  constructor
  · intro carries
    exact ⟨carries.cwndReduceRatio, carries.overused⟩
  · rintro ⟨cwndEq, overusedEq⟩
    refine ⟨?_, ?_, ?_, cwndEq, overusedEq⟩
    · rw [lossEq, storedUpdate, stores.loss]
    · rw [rttEq, storedUpdate, stores.rtt]
    · rw [bweEq, storedUpdate, stores.bwePeriod]

variable [DecidableEq Observer]

inductive Input (Observer : Type*) where
  | onNetworkEstimateChanged (msg : TargetTransferRate) (answers : Answers Observer)
  | addObserver (observer : Observer) (config : MediaStreamAllocationConfig)
      (answers : Answers Observer)
  | removeObserver (observer : Observer)
  | updateStartRate (startRateBps : Nat)

def apply (self : BitrateAllocator Observer) :
    Input Observer → Deliveries Observer × BitrateAllocator Observer
  | .onNetworkEstimateChanged msg answers => self.onNetworkEstimateChanged msg answers
  | .addObserver observer config answers => self.addObserver observer config answers
  | .removeObserver observer => ([], self.removeObserver observer)
  | .updateStartRate startRateBps => ([], self.updateStartRate startRateBps)

/-- An allocator with the latest estimate and what the latest call delivered. -/
structure Audited (Observer : Type*) where
  self : BitrateAllocator Observer
  latest : Option TargetTransferRate
  delivered : Deliveries Observer

def start : Audited Observer where
  self := create
  latest := none
  delivered := []

def machine : Machine (Audited Observer) (Input Observer) where
  pre _ _ := True
  next state input :=
    { self := (state.self.apply input).2
      latest := match input with
        | .onNetworkEstimateChanged msg _ => some msg
        | _ => state.latest
      delivered := (state.self.apply input).1 }

/-- While the target is positive, everything just delivered carries the latest state. -/
def DeliversLatest (state : Audited Observer) : Prop :=
  0 < state.self.lastTargetBps → ∀ delivery ∈ state.delivered,
    ∃ msg ∈ state.latest, Carries msg delivery.2

/-- An observer is added only while the values that are not stored are zero. -/
def AddedQuietly (state : Audited Observer) : Input Observer → Prop
  | .addObserver _ _ _ => 0 < state.self.lastTargetBps → ∀ msg ∈ state.latest,
      msg.cwndReduceRatio = 0 ∧ msg.isOverusedForEncoder = 0
  | _ => True

/-- The allocator stores the latest estimate, or none has come yet. -/
structure Tracked (state : Audited Observer) : Prop where
  silent : state.latest = none → state.self.lastTargetBps = 0
  stores : ∀ msg ∈ state.latest, Stores state.self msg

/-! ## What the calls store and deliver -/

theorem mem_deliver {answers : Answers Observer}
    {complete : BitrateAllocationUpdate → BitrateAllocationUpdate}
    {delivery : Observer × BitrateAllocationUpdate}
    (member : delivery ∈ (self.deliver answers complete).1) :
    ∃ target stableTarget, delivery.2 = complete (self.storedUpdate target stableTarget) := by
  obtain ⟨track, _, rfl⟩ := List.mem_map.mp member
  exact ⟨_, _, rfl⟩

theorem register_ne_nil (tracks : List (AllocatableTrack Observer)) (observer : Observer)
    (config : MediaStreamAllocationConfig) : register tracks observer config ≠ [] := by
  unfold register
  split
  · simp
  · split_ifs <;> simp

theorem onNetworkEstimateChanged_spec (self : BitrateAllocator Observer)
    (msg : TargetTransferRate) (answers : Answers Observer) :
    Stores (self.onNetworkEstimateChanged msg answers).2 msg ∧
      ∀ delivery ∈ (self.onNetworkEstimateChanged msg answers).1, Carries msg delivery.2 := by
  refine ⟨⟨rfl, rfl, rfl⟩, ?_⟩
  intro delivery member
  have delivered : delivery ∈ ((self.storeEstimate msg).deliver answers fun update =>
      { update with
        cwndReduceRatio := msg.cwndReduceRatio
        isOverusedForEncoder := msg.isOverusedForEncoder }).1 := member
  obtain ⟨target, stableTarget, updateEq⟩ := mem_deliver delivered
  have stores : Stores (self.storeEstimate msg) msg := ⟨rfl, rfl, rfl⟩
  rw [updateEq]
  refine (carries_iff_of_stores stores target stableTarget ?_ ?_ ?_).mpr ⟨?_, ?_⟩ <;> rfl

theorem addObserver_stored (self : BitrateAllocator Observer) (observer : Observer)
    (config : MediaStreamAllocationConfig) (answers : Answers Observer) :
    (self.addObserver observer config answers).2.lastTargetBps = self.lastTargetBps ∧
      ∀ msg, Stores self msg → Stores (self.addObserver observer config answers).2 msg := by
  unfold addObserver
  dsimp only
  split_ifs <;> exact ⟨rfl, fun _ stores => ⟨stores.loss, stores.rtt, stores.bwePeriod⟩⟩

/-- With a positive target, adding an observer delivers updates without the last two values. -/
theorem addObserver_carries_iff {msg : TargetTransferRate} (stores : Stores self msg)
    (positive : 0 < self.lastTargetBps) (observer : Observer)
    (config : MediaStreamAllocationConfig) (answers : Answers Observer) :
    (∀ delivery ∈ (self.addObserver observer config answers).1, Carries msg delivery.2) ↔
      msg.cwndReduceRatio = 0 ∧ msg.isOverusedForEncoder = 0 := by
  have delivered : (self.addObserver observer config answers).1 =
      (deliver { self with
        allocatableTracks := register self.allocatableTracks observer config } answers id).1 := by
    unfold addObserver
    rw [if_pos positive]
  have registered : Stores { self with
      allocatableTracks := register self.allocatableTracks observer config } msg :=
    ⟨stores.loss, stores.rtt, stores.bwePeriod⟩
  have carries_iff : ∀ target stableTarget, Carries msg (storedUpdate { self with
      allocatableTracks := register self.allocatableTracks observer config }
      target stableTarget) ↔ (0 : ℚ) = msg.cwndReduceRatio ∧ 0 = msg.isOverusedForEncoder :=
    fun target stableTarget =>
      carries_iff_of_stores registered target stableTarget rfl rfl rfl
  rw [delivered]
  constructor
  · intro carried
    obtain ⟨track, member⟩ := List.exists_mem_of_ne_nil _
      (register_ne_nil self.allocatableTracks observer config)
    have first := carried _ (List.mem_map_of_mem member)
    obtain ⟨cwndEq, overusedEq⟩ := (carries_iff _ _).mp first
    exact ⟨cwndEq.symm, overusedEq.symm⟩
  · rintro ⟨cwndEq, overusedEq⟩ delivery member
    obtain ⟨target, stableTarget, updateEq⟩ := mem_deliver member
    rw [updateEq]
    exact (carries_iff target stableTarget).mpr ⟨cwndEq.symm, overusedEq.symm⟩

/-! ## Runs -/

section

variable {state : Audited Observer} (tracked : Tracked state) (input : Input Observer)
include tracked

theorem Tracked.next : Tracked (machine.next state input) := by
  cases input with
  | onNetworkEstimateChanged msg answers =>
    refine ⟨fun silent => absurd silent (by simp [machine]), ?_⟩
    rintro _ ⟨⟩
    exact (onNetworkEstimateChanged_spec state.self msg answers).1
  | addObserver observer config answers =>
    obtain ⟨targetEq, stores⟩ := addObserver_stored state.self observer config answers
    exact ⟨fun silent => targetEq.trans (tracked.silent silent),
      fun msg latest => stores msg (tracked.stores msg latest)⟩
  | removeObserver observer =>
    exact ⟨tracked.silent, fun msg latest =>
      have stored := tracked.stores msg latest
      ⟨stored.loss, stored.rtt, stored.bwePeriod⟩⟩
  | updateStartRate startRateBps =>
    exact ⟨tracked.silent, fun msg latest =>
      have stored := tracked.stores msg latest
      ⟨stored.loss, stored.rtt, stored.bwePeriod⟩⟩

/-- One step: what is delivered carries the latest state exactly under the condition. -/
theorem Tracked.deliversLatest_next_iff :
    DeliversLatest (machine.next state input) ↔ AddedQuietly state input := by
  cases input with
  | onNetworkEstimateChanged msg answers =>
    simp only [AddedQuietly, iff_true]
    intro _ delivery member
    exact ⟨msg, rfl, (onNetworkEstimateChanged_spec state.self msg answers).2 delivery member⟩
  | addObserver observer config answers =>
    have targetEq := (addObserver_stored state.self observer config answers).1
    simp only [DeliversLatest, machine, apply, targetEq]
    refine forall_congr' fun positive => ?_
    cases latestEq : state.latest with
    | none => exact absurd (tracked.silent latestEq) positive.ne'
    | some msg =>
      simpa using addObserver_carries_iff (tracked.stores msg latestEq) positive
        observer config answers
  | removeObserver observer => simp [DeliversLatest, AddedQuietly, machine, apply]
  | updateStartRate startRateBps => simp [DeliversLatest, AddedQuietly, machine, apply]

end

/--
In every run of the allocator, all updates delivered while the target is
positive carry the state of the latest estimate exactly if observers are added
only while the reduction ratio and the overuse signal of that estimate are
zero, or while the target is zero.
-/
theorem deliversLatest_always_iff (inputs : List (Input Observer)) (last : Audited Observer)
    (run : machine.Run start inputs last) :
    (∀ count, DeliversLatest (machine.outcome start (inputs.take count))) ↔
      (machine.restrict AddedQuietly).Run start inputs last := by
  have initial : Tracked (start : Audited Observer) :=
    ⟨fun _ => rfl, fun _ latest => absurd latest (by simp [start])⟩
  refine run.always_iff ?_ initial
    (fun _ input tracked _ => tracked.deliversLatest_next_iff input)
    (fun _ input tracked _ _ => tracked.next input)
  intro _ delivery member
  exact absurd member List.not_mem_nil

def videoConfig : MediaStreamAllocationConfig where
  minBitrateBps := 30000
  maxBitrateBps := 2000000
  padUpBitrateBps := 0
  priorityBitrateBps := 0
  enforceMinBitrate := false
  bitratePriority := 1
  bitratePriority_pos := usualPriority_pos

def estimateOf (isOverusedForEncoder : ℚ) : TargetTransferRate where
  targetRateBps := 300000
  stableTargetRateBps := 300000
  lossRateRatio := 0
  roundTripTimeUs := 50000
  bwePeriodUs := 1000000
  cwndReduceRatio := 0
  isOverusedForEncoder := isOverusedForEncoder

/-- A stream, an estimate with the given overuse signal, and another stream. -/
def secondStreamAfter (isOverusedForEncoder : ℚ) : List (Input Nat) :=
  [.addObserver 0 videoConfig fun _ _ => 0,
    .onNetworkEstimateChanged (estimateOf isOverusedForEncoder) fun _ _ => 0,
    .addObserver 1 videoConfig fun _ _ => 0]

theorem run_secondStreamAfter (isOverusedForEncoder : ℚ) :
    machine.Run start (secondStreamAfter isOverusedForEncoder)
      (machine.outcome start (secondStreamAfter isOverusedForEncoder)) :=
  Machine.Admits.run ⟨trivial, trivial, trivial, trivial⟩

/-- A stream added without overuse: every update carries the network state. -/
theorem deliversLatest_always_without_overuse :
    ∃ last, machine.Run start (secondStreamAfter 0) last ∧
      last.delivered.length = 2 ∧
      ∀ count, DeliversLatest
        (machine.outcome start ((secondStreamAfter 0).take count)) := by
  refine ⟨_, run_secondStreamAfter 0, rfl, ?_⟩
  refine (deliversLatest_always_iff _ _ (run_secondStreamAfter 0)).mpr ?_
  refine Machine.Admits.run ⟨⟨trivial, ?_⟩, ⟨trivial, trivial⟩, ⟨trivial, ?_⟩, trivial⟩
  · exact fun positive => absurd positive (lt_irrefl 0)
  · rintro _ _ ⟨⟩
    exact ⟨rfl, rfl⟩

/--
A stream added during overuse: the update that the first stream is sent says
that there is no overuse, although the latest estimate reports it.
-/
theorem overuse_lost_on_added_stream :
    ∃ last, machine.Run start (secondStreamAfter 1) last ∧ 0 < last.self.lastTargetBps ∧
      (∃ msg ∈ last.latest, msg.isOverusedForEncoder = 1) ∧
      ∃ update, (0, update) ∈ last.delivered ∧ update.isOverusedForEncoder = 0 := by
  refine ⟨_, run_secondStreamAfter 1, by decide, ⟨_, rfl, rfl⟩, ?_⟩
  exact ⟨_, List.mem_cons_self, rfl⟩

end MaeRtc.Call.BitrateAllocator
