import MaeRtc.Call.AllocateBitrates

/-!
# Distribution by priority

Observers are filled up in the order of capacity by priority as long as the
share of the next one suffices; the others get their shares.  In that order
nobody is given more than the capacity left, and all together get no more than
the bitrate that is divided.
-/

namespace MaeRtc.Call

open MaeRtc.Base AllocatableTrack

variable {Observer : Type*}

/-- An allocation that is not negative grows by the whole part of a share. -/
theorem truncate_add {rate : Int} {share : ℚ} (rate_nonneg : 0 ≤ rate)
    (share_nonneg : 0 ≤ share) : truncate (rate + share) = rate + ⌊share⌋ := by
  have nonneg : (0 : ℚ) ≤ rate + share := by
    have : (0 : ℚ) ≤ rate := by exact_mod_cast rate_nonneg
    linarith
  rw [truncate, if_pos nonneg, Int.floor_intCast_add]

/-- The rate at which an observer is filled, given its priority. -/
def PriorityRateObserverConfig.level (config : PriorityRateObserverConfig Observer) : ℚ :=
  config.capacityBps / config.bitratePriority

def prioritySum (configs : List (PriorityRateObserverConfig Observer)) : ℚ :=
  (configs.map fun config => config.bitratePriority).sum

@[simp] theorem prioritySum_cons (config : PriorityRateObserverConfig Observer)
    (rest : List (PriorityRateObserverConfig Observer)) :
    prioritySum (config :: rest) = config.bitratePriority + prioritySum rest := by
  simp [prioritySum]

theorem prioritySum_nonneg {configs : List (PriorityRateObserverConfig Observer)}
    (positive : ∀ config ∈ configs, 0 < config.bitratePriority) : 0 ≤ prioritySum configs := by
  apply List.sum_nonneg
  intro priority member
  obtain ⟨config, configMember, rfl⟩ := List.mem_map.mp member
  exact (positive config configMember).le

def MovesByCapacity (config : PriorityRateObserverConfig Observer) (before after : Int) : Prop :=
  before + min 0 config.capacityBps ≤ after ∧ after ≤ before + config.capacityBps

/-- What a distribution by priority gives to the observers it visits. -/
abbrev RelativelyDistributed : List (PriorityRateObserverConfig Observer) → ℚ →
    Allocation Observer → Allocation Observer → Prop :=
  Distributed (·.allocationKey) MovesByCapacity

/-- Every observer can be filled up, and what is distributed fits, in an `int`. -/
structure Fillable (configs : List (PriorityRateObserverConfig Observer)) (remaining : Nat)
    (allocation : Allocation Observer) : Prop where
  nonneg : ∀ config ∈ configs, 0 ≤ allocation config.allocationKey
  filled : ∀ config ∈ configs, 0 ≤ allocation config.allocationKey + config.capacityBps ∧
    allocation config.allocationKey + config.capacityBps < 2 ^ 31
  small : keyedSum (configs.map (·.allocationKey)) allocation + remaining < 2 ^ 31

variable {config : PriorityRateObserverConfig Observer}
  {rest : List (PriorityRateObserverConfig Observer)} {remaining : Nat}
  {allocation : Allocation Observer}

theorem Fillable.head_small (holds : Fillable (config :: rest) remaining allocation) :
    allocation config.allocationKey + remaining < 2 ^ 31 := by
  have single : allocation config.allocationKey ≤
      keyedSum ((config :: rest).map (·.allocationKey)) allocation :=
    le_keyedSum holds.nonneg List.mem_cons_self
  have := holds.small
  omega

variable [DecidableEq Observer]

/-- Filling up an observer, which may lower it, leaves the others fillable. -/
theorem Fillable.fill {left : Nat} (holds : Fillable (config :: rest) remaining allocation)
    (absent : config.allocationKey ∉ rest.map (·.allocationKey))
    (balance : left + config.capacityBps = remaining) :
    Fillable rest left (Function.update allocation config.allocationKey
      (allocation config.allocationKey + config.capacityBps)) := by
  obtain ⟨nonneg, filled, small⟩ := holds
  have unvisited := update_behind absent allocation
    (allocation config.allocationKey + config.capacityBps)
  refine ⟨?_, ?_, ?_⟩
  · intro other member
    rw [unvisited other member]
    exact nonneg other (List.mem_cons_of_mem _ member)
  · intro other member
    rw [unvisited other member]
    exact filled other (List.mem_cons_of_mem _ member)
  · have := filled config List.mem_cons_self
    rw [List.map_cons, keyedSum_cons] at small
    rw [keyedSum_update_of_notMem absent]
    omega

/-- The shares of observers whose level lies above the common level. -/
theorem distributeShares_spec {remaining : Nat} {total : ℚ} (total_pos : 0 < total)
    (configs : List (PriorityRateObserverConfig Observer))
    (nodup : (configs.map (·.allocationKey)).Nodup)
    (positive : ∀ config ∈ configs, 0 < config.bitratePriority)
    (fits : ∀ config ∈ configs, config.bitratePriority / total * remaining ≤ config.capacityBps)
    (allocation : Allocation Observer)
    (nonneg : ∀ config ∈ configs, 0 ≤ allocation config.allocationKey)
    (filled : ∀ config ∈ configs,
      allocation config.allocationKey + config.capacityBps < 2 ^ 31) :
    RelativelyDistributed configs (prioritySum configs / total * remaining) allocation
      (distributeShares remaining total configs allocation) := by
  induction configs generalizing allocation with
  | nil => exact distributed_nil (by simp [prioritySum]) allocation
  | cons config rest ih =>
    obtain ⟨absent, restNodup⟩ := List.nodup_cons.mp nodup
    have priority_pos := positive config List.mem_cons_self
    let share : ℚ := config.bitratePriority / total * remaining
    have share_nonneg : 0 ≤ share :=
      mul_nonneg (div_nonneg priority_pos.le total_pos.le) (Nat.cast_nonneg remaining)
    have share_fits : share ≤ config.capacityBps := fits config List.mem_cons_self
    have floor_nonneg : 0 ≤ ⌊share⌋ := Int.floor_nonneg.mpr share_nonneg
    have floor_le : ⌊share⌋ ≤ config.capacityBps := Int.floor_le_iff.mpr (by linarith)
    have grown : truncate (allocation config.allocationKey + share) =
        allocation config.allocationKey + ⌊share⌋ :=
      truncate_add (nonneg config List.mem_cons_self) share_nonneg
    have stored : store allocation config.allocationKey
        (truncate (allocation config.allocationKey + share)) =
        Function.update allocation config.allocationKey
          (allocation config.allocationKey + ⌊share⌋) := by
      have := nonneg config List.mem_cons_self
      have := filled config List.mem_cons_self
      rw [grown, store_of_small (by omega) (by omega)]
    have unvisited := update_behind absent allocation (allocation config.allocationKey + ⌊share⌋)
    have later := ih restNodup
      (fun other member => positive other (List.mem_cons_of_mem _ member))
      (fun other member => fits other (List.mem_cons_of_mem _ member))
      (Function.update allocation config.allocationKey (allocation config.allocationKey + ⌊share⌋))
      (fun other member => by
        rw [unvisited other member]
        exact nonneg other (List.mem_cons_of_mem _ member))
      (fun other member => by
        rw [unvisited other member]
        exact filled other (List.mem_cons_of_mem _ member))
    have unfolded : distributeShares remaining total (config :: rest) allocation =
        distributeShares remaining total rest
          (Function.update allocation config.allocationKey
            (allocation config.allocationKey + ⌊share⌋)) := by
      rw [← stored]
      rfl
    rw [unfolded]
    refine .cons _ absent ⟨by omega, by omega⟩ ?_ later
    have := Int.floor_le share
    rw [prioritySum_cons, add_div, add_mul]
    push_cast
    linarith

/-- Observers are filled in the order of their levels; the rest get shares. -/
theorem distributeCapacities_spec (configs : List (PriorityRateObserverConfig Observer))
    (nodup : (configs.map (·.allocationKey)).Nodup)
    (positive : ∀ config ∈ configs, 0 < config.bitratePriority)
    (sorted : configs.Pairwise fun one two => one.level ≤ two.level) (remaining : Nat)
    (allocation : Allocation Observer) (holds : Fillable configs remaining allocation) :
    RelativelyDistributed configs remaining allocation
      (distributeCapacities configs remaining (prioritySum configs) allocation) := by
  induction configs generalizing remaining allocation with
  | nil => exact distributed_nil (Nat.cast_nonneg remaining) allocation
  | cons config rest ih =>
    obtain ⟨absent, restNodup⟩ := List.nodup_cons.mp nodup
    obtain ⟨lowest, restSorted⟩ := List.pairwise_cons.mp sorted
    have priority_pos := positive config List.mem_cons_self
    have restPositive : ∀ other ∈ rest, 0 < other.bitratePriority :=
      fun other member => positive other (List.mem_cons_of_mem _ member)
    have rest_nonneg := prioritySum_nonneg restPositive
    have total_pos : 0 < prioritySum (config :: rest) := by
      rw [prioritySum_cons]
      linarith
    unfold distributeCapacities
    dsimp only
    split_ifs with enough
    · -- the share suffices: the observer is filled up
      have capacity_le : (config.capacityBps : ℚ) ≤ remaining := by
        have share_le : config.bitratePriority / prioritySum (config :: rest) ≤ 1 := by
          rw [div_le_one total_pos, prioritySum_cons]
          linarith
        exact enough.trans (mul_le_of_le_one_left (Nat.cast_nonneg remaining) share_le)
      have capacity_le' : config.capacityBps ≤ remaining := by exact_mod_cast capacity_le
      have totalEq : prioritySum (config :: rest) - config.bitratePriority =
          prioritySum rest := by simp
      have filled := holds.filled config List.mem_cons_self
      have below := holds.head_small
      have balance : (uint32 (remaining - config.capacityBps) : Int) + config.capacityBps =
          remaining := by
        rw [Words.uint32_of_nonneg (by omega) (by omega)]
        omega
      rw [totalEq, store_of_small (by omega) (by omega)]
      have later := ih restNodup restPositive restSorted _ _ (holds.fill absent balance)
      refine .cons _ absent ⟨by omega, le_rfl⟩ (le_of_eq ?_) later
      exact_mod_cast (by omega)
    · -- the common level lies below that of this observer, hence below all others
      have level_lt : remaining / prioritySum (config :: rest) < config.level := by
        rw [PriorityRateObserverConfig.level, lt_div_iff₀ priority_pos]
        calc remaining / prioritySum (config :: rest) * config.bitratePriority
            = config.bitratePriority / prioritySum (config :: rest) * remaining := by ring
          _ < config.capacityBps := not_le.mp enough
      have fits : ∀ other ∈ config :: rest,
          other.bitratePriority / prioritySum (config :: rest) * remaining ≤
            other.capacityBps := by
        intro other member
        have other_pos := positive other member
        have level_le : config.level ≤ other.level := by
          rcases List.mem_cons.mp member with rfl | restMember
          · exact le_rfl
          · exact lowest other restMember
        have below : remaining / prioritySum (config :: rest) ≤ other.level :=
          (level_lt.trans_le level_le).le
        rw [PriorityRateObserverConfig.level, le_div_iff₀ other_pos] at below
        calc other.bitratePriority / prioritySum (config :: rest) * remaining
            = remaining / prioritySum (config :: rest) * other.bitratePriority := by ring
          _ ≤ other.capacityBps := below
      have shared := distributeShares_spec total_pos (config :: rest) nodup positive fits
        allocation holds.nonneg fun other member => (holds.filled other member).2
      rwa [div_self total_pos.ne', one_mul] at shared

theorem distributeBitrateRelatively_spec {tracks : List (AllocatableTrack Observer)}
    (distinct : (tracks.map observer).Nodup) (remaining : Nat)
    (capacities : Observer → Int) {allocation : Allocation Observer}
    (nonneg : ∀ track ∈ tracks, 0 ≤ allocation track.observer)
    (filled : ∀ track ∈ tracks, 0 ≤ allocation track.observer + capacities track.observer ∧
      allocation track.observer + capacities track.observer < 2 ^ 31)
    (small : keyedSum (tracks.map observer) allocation + remaining < 2 ^ 31) :
    (∀ track ∈ tracks, allocation track.observer + min 0 (capacities track.observer) ≤
          distributeBitrateRelatively tracks remaining capacities allocation track.observer ∧
        distributeBitrateRelatively tracks remaining capacities allocation track.observer ≤
          allocation track.observer + capacities track.observer) ∧
      keyedSum (tracks.map observer)
          (distributeBitrateRelatively tracks remaining capacities allocation) ≤
        keyedSum (tracks.map observer) allocation + remaining := by
  let configOf (track : AllocatableTrack Observer) : PriorityRateObserverConfig Observer :=
    { allocationKey := track.observer
      capacityBps := capacities track.observer
      bitratePriority := track.config.bitratePriority }
  let configs := (tracks.map configOf).mergeSort fun one two => one.level ≤ two.level
  have perm : configs.Perm (tracks.map configOf) := List.mergeSort_perm _ _
  have keysPerm : (configs.map (·.allocationKey)).Perm (tracks.map observer) := by
    have := perm.map (·.allocationKey)
    rwa [List.map_map] at this
  have ofTrack : ∀ config ∈ configs, ∃ track ∈ tracks, configOf track = config :=
    fun config member => List.mem_map.mp (perm.mem_iff.mp member)
  have sorted : configs.Pairwise fun one two => one.level ≤ two.level := by
    have compared : configs.Pairwise fun one two => decide (one.level ≤ two.level) = true :=
      List.pairwise_mergeSort (fun one two three => by simpa using le_trans)
        (fun one two => by simpa using le_total one.level two.level) _
    simpa using compared
  have totalEq : (tracks.map fun track => track.config.bitratePriority).sum =
      prioritySum configs := by
    have := (perm.map (·.bitratePriority)).sum_eq
    rw [List.map_map] at this
    exact this.symm
  have spec := distributeCapacities_spec configs (keysPerm.nodup_iff.mpr distinct)
    (fun config member => by
      obtain ⟨track, _, rfl⟩ := ofTrack config member
      exact track.config.bitratePriority_pos)
    sorted remaining allocation
    { nonneg := fun config member => by
        obtain ⟨track, trackMember, rfl⟩ := ofTrack config member
        exact nonneg track trackMember
      filled := fun config member => by
        obtain ⟨track, trackMember, rfl⟩ := ofTrack config member
        exact filled track trackMember
      small := by
        have : keyedSum (configs.map (·.allocationKey)) allocation =
            keyedSum (tracks.map observer) allocation := (keysPerm.map allocation).sum_eq
        omega }
  have unfolded : distributeBitrateRelatively tracks remaining capacities allocation =
      distributeCapacities configs remaining (prioritySum configs) allocation := by
    rw [← totalEq]
    rfl
  rw [unfolded]
  constructor
  · intro track member
    have inside : configOf track ∈ configs := perm.mem_iff.mpr (List.mem_map_of_mem member)
    exact spec.moves _ inside
  · exact spec.sum_le distinct fun key member => keysPerm.mem_iff.mp member

end MaeRtc.Call
