import MaeRtc.Call.RelativeDistribution

/-!
# Bounds on the distributed bitrate

Every pass of the distribution obeys one conservation law: what the tracks hold
together with what is left does not grow.  Together with bounds for the single
track this gives the bounds of the three regimes.
-/

namespace MaeRtc.Call

open MaeRtc.Base AllocatableTrack

variable {Observer : Type*}

theorem min_le_minBitrateWithHysteresis (track : AllocatableTrack Observer) :
    track.config.minBitrateBps ≤ track.minBitrateWithHysteresis := by
  unfold minBitrateWithHysteresis
  extract_lets minBitrate required
  have toggled : minBitrate ≤ required := by
    unfold required
    split_ifs <;> omega
  refine toggled.trans ?_
  split_ifs with protection
  · apply Nat.le_floor
    have : (0 : ℚ) ≤ required * (1 - track.mediaRatio) :=
      mul_nonneg (Nat.cast_nonneg _) (by linarith [protection.2])
    linarith
  · exact le_rfl

/-! ## Regimes and the rates of a single track -/

/-- The bitrate does not suffice to give every track what it requires. -/
def LowRateRegime (tracks : List (AllocatableTrack Observer)) (bitrate : Nat) : Prop :=
  enoughBitrateForAllObservers tracks bitrate (sumMinBitrates tracks) = false

variable {tracks : List (AllocatableTrack Observer)} {track : AllocatableTrack Observer}

theorem sumMinBitrates_le_of_enough {bitrate : Nat}
    (enough : enoughBitrateForAllObservers tracks bitrate (sumMinBitrates tracks) = true) :
    sumMinBitrates tracks ≤ bitrate := by
  unfold enoughBitrateForAllObservers at enough
  split_ifs at enough with short
  exact not_lt.mp short

def enforcedRate (track : AllocatableTrack Observer) : Int :=
  if track.config.enforceMinBitrate then track.config.minBitrateBps else 0

/-- The most a track may hold at low rates. -/
def lowRateLimit (track : AllocatableTrack Observer) : Int :=
  max track.config.maxBitrateBps track.minBitrateWithHysteresis

structure LowRate (track : AllocatableTrack Observer) (rate : Int) : Prop where
  nonneg : 0 ≤ rate
  enforced : track.config.enforceMinBitrate = true → track.config.minBitrateBps ≤ rate
  free : track.config.enforceMinBitrate = false → rate = 0 ∨ track.config.minBitrateBps ≤ rate
  upper : rate ≤ lowRateLimit track

theorem lowRate_required (track : AllocatableTrack Observer) :
    LowRate track track.minBitrateWithHysteresis := by
  have := min_le_minBitrateWithHysteresis track
  refine ⟨by omega, fun _ => by omega, fun _ => .inr (by omega), le_max_right _ _⟩

theorem lowRate_enforced (ordered : track.config.minBitrateBps ≤ track.config.maxBitrateBps) :
    LowRate track (enforcedRate track) := by
  unfold enforcedRate
  refine ⟨?_, ?_, ?_, le_max_of_le_left ?_⟩
  · split_ifs <;> omega
  · intro enforced
    simp [enforced]
  · intro free
    simp [free]
  · split_ifs <;> omega

/-- The rate above which the even distribution does not raise a track. -/
def limit (factor : Nat) (track : AllocatableTrack Observer) : Int :=
  factor * track.config.maxBitrateBps

def MovesToLimit (factor : Nat) (track : AllocatableTrack Observer)
    (before after : Int) : Prop :=
  min before (limit factor track) ≤ after ∧ after ≤ limit factor track

/-- What the loop of the even distribution gives to the tracks it visits. -/
abbrev EvenlyDistributed (factor : Nat) : List (AllocatableTrack Observer) → ℚ →
    Allocation Observer → Allocation Observer → Prop :=
  Distributed observer (MovesToLimit factor)

/-- What a track is given in its round, `others` tracks being behind it. -/
def roundShare (factor : Nat) (track : AllocatableTrack Observer) (others : Nat)
    (rounds : EvenRounds Observer) : Int :=
  min (limit factor track - rounds.allocation track.observer)
    (rounds.bitrate / (others + 1) : Nat)

theorem limit_lt {factor : Nat} (small : track.config.maxBitrateBps < 2 ^ 31)
    (twice : factor ≤ 2) : limit factor track < 2 ^ 32 := by
  have : factor * track.config.maxBitrateBps ≤ 2 * track.config.maxBitrateBps :=
    Nat.mul_le_mul_right _ twice
  unfold limit
  exact_mod_cast (by omega)

theorem limit_nonneg (factor : Nat) (track : AllocatableTrack Observer) :
    0 ≤ limit factor track := by
  unfold limit
  positivity

/-- A round takes no more than is left and moves the track towards its limit, if at all. -/
theorem roundShare_bounds (factor : Nat) (track : AllocatableTrack Observer)
    (others : Nat) (rounds : EvenRounds Observer) :
    roundShare factor track others rounds ≤ rounds.bitrate ∧
    MovesToLimit factor track (rounds.allocation track.observer)
      (rounds.allocation track.observer + roundShare factor track others rounds) := by
  have shareLe : rounds.bitrate / (others + 1) ≤ rounds.bitrate := Nat.div_le_self _ _
  unfold MovesToLimit roundShare
  generalize rounds.bitrate / (others + 1) = share at shareLe
  omega

theorem listMaxBitrates_perm (tracks : List (AllocatableTrack Observer))
    (includeZero : Bool) (allocation : Allocation Observer) :
    (listMaxBitrates tracks includeZero allocation).Perm
      (participants tracks includeZero allocation) :=
  List.mergeSort_perm _ _

theorem nodup_listMaxBitrates (distinct : (tracks.map observer).Nodup)
    (includeZero : Bool) (allocation : Allocation Observer) :
    ((listMaxBitrates tracks includeZero allocation).map observer).Nodup :=
  ((listMaxBitrates_perm _ _ _).map _).nodup_iff.mpr
    (distinct.sublist (List.filter_sublist.map _))

theorem LowRate.spread {remainder : ℚ} {before after : Allocation Observer}
    (rate : LowRate track (before track.observer))
    (spread : EvenlyDistributed 1 (participants tracks false before) remainder before after)
    (member : track ∈ tracks) (ordered : track.config.minBitrateBps ≤ track.config.maxBitrateBps) :
    LowRate track (after track.observer) := by
  by_cases zero : before track.observer = 0
  · -- a track without a rate is left out
    have outside : track.observer ∉ (participants tracks false before).map observer := by
      intro inside
      obtain ⟨other, otherMember, same⟩ := List.mem_map.mp inside
      have := (List.mem_filter.mp otherMember).2
      simp [same, zero] at this
    rw [spread.others _ outside]
    exact rate
  · have inside : track ∈ participants tracks false before :=
      List.mem_filter.mpr ⟨member, by simpa using zero⟩
    obtain ⟨lower, upper⟩ := spread.moves track inside
    have atLeast : (track.config.minBitrateBps : Int) ≤ before track.observer := by
      cases enforce : track.config.enforceMinBitrate with
      | true => exact rate.enforced enforce
      | false => exact (rate.free enforce).resolve_left zero
    simp only [limit, Nat.cast_one, one_mul] at lower upper
    have above : (track.config.minBitrateBps : Int) ≤ after track.observer :=
      le_trans (le_min atLeast (by exact_mod_cast ordered)) lower
    exact ⟨by omega, fun _ => above, fun _ => .inr above, le_max_of_le_left upper⟩

variable [DecidableEq Observer]

/-! ## Even distribution -/

/-- A round without overflow gives the smaller of the room and the even share. -/
theorem evenRound_eq {factor : Nat} {rounds : EvenRounds Observer}
    (limited : limit factor track < 2 ^ 32) (nonneg : 0 ≤ rounds.allocation track.observer)
    (small : rounds.allocation track.observer + rounds.bitrate < 2 ^ 32) (others : Nat) :
    evenRound factor track others rounds =
      ⟨(rounds.bitrate - roundShare factor track others rounds).toNat,
        store rounds.allocation track.observer
          (rounds.allocation track.observer + roundShare factor track others rounds),
        rounds.asserted && decide (rounds.bitrate > 0)⟩ := by
  have shareLe : rounds.bitrate / (others + 1) ≤ rounds.bitrate := Nat.div_le_self _ _
  have limitNonneg := limit_nonneg factor track
  have limitEq : (uint32 (factor * track.config.maxBitrateBps) : Int) =
      limit factor track := Words.uint32_of_nonneg limitNonneg limited
  unfold evenRound roundShare
  generalize rounds.bitrate / (others + 1) = share at shareLe
  have totalEq : (uint32 (share + rounds.allocation track.observer) : Int) =
      share + rounds.allocation track.observer := Words.uint32_of_nonneg (by omega) (by omega)
  dsimp only
  rw [totalEq, limitEq]
  split_ifs with exceeds
  · have left := @Words.uint32_of_nonneg ((rounds.bitrate - share : Nat) +
      (share + rounds.allocation track.observer - limit factor track)) (by omega) (by omega)
    refine EvenRounds.mk.injEq .. |>.mpr ⟨by omega, congrArg (store _ _) (by omega), rfl⟩
  · refine EvenRounds.mk.injEq .. |>.mpr ⟨by omega, congrArg (store _ _) (by omega), rfl⟩

theorem distributeEvenlyLoop_of_notMem (factor : Nat)
    {items : List (AllocatableTrack Observer)} {other : Observer}
    (absent : other ∉ items.map observer) (rounds : EvenRounds Observer) :
    (distributeEvenlyLoop factor items rounds).allocation other =
      rounds.allocation other := by
  induction items generalizing rounds with
  | nil => rfl
  | cons track rest ih =>
    rw [List.map_cons, List.mem_cons, not_or] at absent
    rw [distributeEvenlyLoop, ih absent.2]
    unfold evenRound
    dsimp only
    split_ifs
    · exact Function.update_of_ne absent.1 _ _
    · exact Function.update_of_ne absent.1 _ _

/-- The loop, as long as all that is distributed fits in an `int`. -/
theorem distributeEvenlyLoop_spec (factor : Nat) {items : List (AllocatableTrack Observer)}
    (nodup : (items.map observer).Nodup)
    (limited : ∀ track ∈ items, limit factor track < 2 ^ 32)
    (rounds : EvenRounds Observer)
    (nonneg : ∀ track ∈ items, 0 ≤ rounds.allocation track.observer)
    (small : keyedSum (items.map observer) rounds.allocation + rounds.bitrate < 2 ^ 31) :
    EvenlyDistributed factor items rounds.bitrate rounds.allocation
      (distributeEvenlyLoop factor items rounds).allocation := by
  induction items generalizing rounds with
  | nil => exact distributed_nil (Nat.cast_nonneg _) _
  | cons track rest ih =>
    obtain ⟨absent, restNodup⟩ := List.nodup_cons.mp nodup
    have trackLimited := limited track List.mem_cons_self
    have trackNonneg := nonneg track List.mem_cons_self
    have single := le_keyedSum nonneg List.mem_cons_self
    have limitNonneg := limit_nonneg factor track
    obtain ⟨shareLe, moved⟩ := roundShare_bounds factor track rest.length rounds
    have ⟨atLeast, atMost⟩ := moved
    have roundEq := evenRound_eq trackLimited trackNonneg (by omega) rest.length
    generalize roundShare factor track rest.length rounds = share at *
    have balance : ((rounds.bitrate - share).toNat : Int) = rounds.bitrate - share := by omega
    rw [store_of_small (by omega) (by omega)] at roundEq
    rw [distributeEvenlyLoop, roundEq]
    refine .cons _ absent moved (le_of_eq ?_) (ih restNodup ?_ ⟨_, _, _⟩ ?_ ?_)
    · dsimp only
      exact_mod_cast (by omega)
    · exact fun other member => limited other (List.mem_cons_of_mem track member)
    · intro other member
      refine (nonneg other (List.mem_cons_of_mem track member)).trans_eq ?_
      exact (update_behind absent _ _ other member).symm
    · rw [List.map_cons, keyedSum_cons] at small
      change keyedSum _ (Function.update _ _ _) + ((rounds.bitrate - share).toNat : Int) < _
      rw [keyedSum_update_of_notMem absent]
      omega

theorem distributeBitrateEvenly_spec (distinct : (tracks.map observer).Nodup) (bitrate : Nat)
    (includeZero : Bool) (factor : Nat)
    (limited : ∀ track ∈ tracks, limit factor track < 2 ^ 32)
    {allocation : Allocation Observer}
    (nonneg : ∀ track ∈ tracks, 0 ≤ allocation track.observer)
    (small : keyedSum (tracks.map observer) allocation + bitrate < 2 ^ 31) :
    EvenlyDistributed factor (participants tracks includeZero allocation)
      bitrate allocation
      (distributeBitrateEvenly tracks bitrate includeZero factor
        allocation).allocation := by
  have perm := listMaxBitrates_perm tracks includeZero allocation
  have keysPerm := perm.map observer
  have included : ∀ track ∈ listMaxBitrates tracks includeZero allocation,
      track ∈ tracks := fun track member => (List.mem_filter.mp (perm.mem_iff.mp member)).1
  have fewer : keyedSum ((listMaxBitrates tracks includeZero allocation).map observer)
      allocation ≤ keyedSum (tracks.map observer) allocation := by
    refine (keysPerm.map allocation).sum_eq.trans_le ?_
    refine ((List.filter_sublist.map observer).map allocation).sum_le_sum ?_
    intro rate member
    obtain ⟨key, keyMember, rfl⟩ := List.mem_map.mp member
    obtain ⟨track, trackMember, rfl⟩ := List.mem_map.mp keyMember
    exact nonneg track trackMember
  obtain ⟨others, moves, conserved⟩ :=
    distributeEvenlyLoop_spec factor
      (nodup_listMaxBitrates distinct includeZero allocation)
      (fun track member => limited track (included track member))
      ⟨bitrate, allocation, true⟩
      (fun track member => nonneg track (included track member)) (by dsimp only; omega)
  refine ⟨?_, ?_, ?_⟩
  · exact fun other outside => others other fun member => outside (keysPerm.mem_iff.mp member)
  · exact fun track member => moves track (perm.mem_iff.mpr member)
  · intro keys keysNodup subset
    exact conserved keys keysNodup fun key member => subset (keysPerm.mem_iff.mp member)

/-! ## Low rates -/

namespace Budget

variable (tracks : List (AllocatableTrack Observer)) (rate : AllocatableTrack Observer → Int)
  (budget : Budget Observer)

theorem assignAll_allocation
    (small : ∀ track ∈ tracks, -2 ^ 31 ≤ rate track ∧ rate track < 2 ^ 31) :
    (assignAll tracks rate budget).allocation =
      tabulate observer rate tracks budget.allocation := by
  induction tracks generalizing budget with
  | nil => rfl
  | cons track rest ih =>
    have stored := store_of_small (small track List.mem_cons_self).1
      (small track List.mem_cons_self).2 budget.allocation track.observer
    refine (ih (budget.assign track.observer (rate track))
      fun other member => small other (List.mem_cons_of_mem track member)).trans ?_
    rw [assign, stored]
    rfl

theorem assignAll_remaining :
    (assignAll tracks rate budget).remaining = budget.remaining - (tracks.map rate).sum := by
  induction tracks generalizing budget with
  | nil => simp [assignAll]
  | cons track rest ih =>
    refine (ih (budget.assign track.observer (rate track))).trans ?_
    simp only [assign, List.map_cons, List.sum_cons]
    ring

end Budget

/-- What holds between the passes of the low-rate allocation. -/
structure LowRateBudget (tracks : List (AllocatableTrack Observer)) (bitrate : Int)
    (budget : Budget Observer) : Prop where
  remaining_nonneg : 0 ≤ budget.remaining
  conserved : keyedSum (tracks.map observer) budget.allocation + budget.remaining ≤ bitrate
  rates : ∀ track ∈ tracks, LowRate track (budget.allocation track.observer)

variable {tracks : List (AllocatableTrack Observer)} {bitrate : Int}

section

variable (distinct : (tracks.map observer).Nodup) (small : bitrate < 2 ^ 31)
include distinct small

/-- One step of a pass: a track is given what it requires, if that is left. -/
theorem LowRateBudget.giveRequired {budget : Budget Observer}
    (holds : LowRateBudget tracks bitrate budget) {track : AllocatableTrack Observer}
    (member : track ∈ tracks) : LowRateBudget tracks bitrate (giveRequired budget track) := by
  unfold Call.giveRequired
  split_ifs with enough
  · have single := le_keyedSum (fun other inside => (holds.rates other inside).nonneg) member
    have old := (holds.rates track member).nonneg
    have conserved := holds.conserved
    have stored := @store_of_small _ _ track.minBitrateWithHysteresis (by omega) (by omega)
      budget.allocation track.observer
    refine ⟨?_, ?_, ?_⟩
    · simp only [Budget.assign]
      omega
    · simp only [Budget.assign, stored]
      rw [keyedSum_update distinct (List.mem_map_of_mem member)]
      omega
    · intro other otherMember
      by_cases same : other.observer = track.observer
      · obtain rfl : other = track := List.inj_on_of_nodup_map distinct otherMember member same
        simpa [Budget.assign, stored] using lowRate_required other
      · simpa [Budget.assign, stored, Function.update_of_ne same]
          using holds.rates other otherMember
  · exact holds

/-- A whole pass over the tracks, whichever of them it skips. -/
theorem LowRateBudget.pass {budget : Budget Observer} (skips : AllocatableTrack Observer → Bool)
    (holds : LowRateBudget tracks bitrate budget) :
    LowRateBudget tracks bitrate (giveRequiredUnless skips tracks budget) := by
  unfold giveRequiredUnless
  split_ifs
  · refine List.foldlRecOn tracks _ holds ?_
    intro current currentHolds track member
    split_ifs
    · exact currentHolds
    · exact currentHolds.giveRequired distinct small member
  · exact holds

end

theorem lowRateAllocation_spec (distinct : (tracks.map observer).Nodup)
    (ordered : ∀ track ∈ tracks, track.config.minBitrateBps ≤ track.config.maxBitrateBps)
    (maxSmall : ∀ track ∈ tracks, track.config.maxBitrateBps < 2 ^ 31)
    {bitrate : Nat} (small : bitrate < 2 ^ 31) :
    (∀ track ∈ tracks, LowRate track (lowRateAllocation tracks bitrate track.observer)) ∧
      keyedSum (tracks.map observer) (lowRateAllocation tracks bitrate) ≤
        max (bitrate : Int) (tracks.map enforcedRate).sum := by
  let rate (track : AllocatableTrack Observer) : Int :=
    if track.config.enforceMinBitrate then int32 track.config.minBitrateBps else 0
  have rateEq : ∀ track ∈ tracks, rate track = enforcedRate track := by
    intro track member
    have := ordered track member
    have := maxSmall track member
    simp only [rate, enforcedRate,
      @Words.int32_of_small track.config.minBitrateBps (by omega) (by omega)]
  have rates := List.map_congr_left rateEq
  have allocationEq : (enforceMinima tracks bitrate).allocation =
      tabulate observer rate tracks fun _ => 0 := by
    refine Budget.assignAll_allocation tracks rate _ ?_
    intro track member
    have := ordered track member
    have := maxSmall track member
    rw [rateEq track member, enforcedRate]
    split_ifs <;> omega
  have remainingEq : (enforceMinima tracks bitrate).remaining =
      bitrate - (tracks.map enforcedRate).sum := by
    rw [← rates]
    exact Budget.assignAll_remaining ..
  have enforcedRates : ∀ track ∈ tracks,
      LowRate track ((enforceMinima tracks bitrate).allocation track.observer) := by
    intro track member
    rw [allocationEq, tabulate_of_mem distinct member, rateEq track member]
    exact lowRate_enforced (ordered track member)
  have enforcedSum : keyedSum (tracks.map observer) (enforceMinima tracks bitrate).allocation =
      (tracks.map enforcedRate).sum := by
    rw [allocationEq, keyedSum_tabulate distinct, rates]
  rcases le_or_gt (enforceMinima tracks bitrate).remaining 0 with exhausted | left
  · have unchanged : lowRateAllocation tracks bitrate =
        (enforceMinima tracks bitrate).allocation := by
      simp [lowRateAllocation, resumePaused, resumeActive, giveRequiredUnless, not_lt.mpr exhausted]
    rw [unchanged]
    exact ⟨enforcedRates, le_max_of_le_right enforcedSum.le⟩
  · have start : LowRateBudget tracks bitrate (enforceMinima tracks bitrate) :=
      ⟨left.le, by omega, enforcedRates⟩
    have resumed : LowRateBudget tracks bitrate
        (resumePaused tracks (resumeActive tracks (enforceMinima tracks bitrate))) :=
      (start.pass distinct (by omega) _).pass distinct (by omega) _
    unfold lowRateAllocation
    generalize resumePaused tracks (resumeActive tracks (enforceMinima tracks bitrate)) =
      budget at resumed
    dsimp only
    split_ifs with remains
    · have nonneg : ∀ track ∈ tracks, 0 ≤ budget.allocation track.observer :=
        fun track member => (resumed.rates track member).nonneg
      have conserved := resumed.conserved
      have sum_nonneg : 0 ≤ keyedSum (tracks.map observer) budget.allocation :=
        keyedSum_nonneg nonneg
      have remainder : (uint32 budget.remaining : Int) = budget.remaining :=
        Words.uint32_of_nonneg remains.le (by omega)
      have spread := distributeBitrateEvenly_spec distinct (uint32 budget.remaining) false 1
        (fun track member => limit_lt (maxSmall track member) (by decide)) nonneg (by omega)
      refine ⟨fun track member => ?_, le_max_of_le_left ?_⟩
      · exact (resumed.rates track member).spread spread member (ordered track member)
      · have total := spread.sum_le distinct
          (List.map_subset _ fun _ inside => (List.mem_filter.mp inside).1)
        omega
    · refine ⟨resumed.rates, le_max_of_le_left ?_⟩
      have := resumed.conserved
      have := resumed.remaining_nonneg
      omega

/-! ## Normal rates -/

structure RaisedBudget (tracks : List (AllocatableTrack Observer)) (bitrate : Int)
    (state : Allocation Observer × (Observer → Int) × Nat) : Prop where
  conserved : keyedSum (tracks.map observer) state.1 + state.2.2 = bitrate
  lower : ∀ track ∈ tracks, track.config.minBitrateBps ≤ state.1 track.observer
  upper : ∀ track ∈ tracks, state.1 track.observer ≤
    max (track.config.minBitrateBps : Int) track.config.priorityBitrateBps
  capacity : ∀ track ∈ tracks, state.1 track.observer + state.2.1 track.observer =
    track.config.maxBitrateBps

omit [DecidableEq Observer] in
theorem RaisedBudget.nonneg {state : Allocation Observer × (Observer → Int) × Nat}
    (holds : RaisedBudget tracks bitrate state) :
    ∀ track ∈ tracks, 0 ≤ state.1 track.observer := by
  intro track member
  have := holds.lower track member
  omega

section

variable (distinct : (tracks.map observer).Nodup)
  (maxSmall : ∀ track ∈ tracks, track.config.maxBitrateBps < 2 ^ 31)
include distinct maxSmall

theorem RaisedBudget.raiseToPriority {state : Allocation Observer × (Observer → Int) × Nat}
    (small : bitrate < 2 ^ 31) (holds : RaisedBudget tracks bitrate state) :
    RaisedBudget tracks bitrate (raiseToPriority tracks state) := by
  refine List.foldlRecOn tracks _ holds ?_
  rintro ⟨allocation, capacities, remaining⟩ current track member
  have single := le_keyedSum current.nonneg member
  have trackSmall := maxSmall track member
  obtain ⟨conserved, lower, upper, capacity⟩ := current
  dsimp only at *
  split_ifs with raises
  · have trackLower := lower track member
    have trackCapacity := capacity track member
    have sameTrack : ∀ other ∈ tracks, other.observer = track.observer → other = track :=
      fun other otherMember same => List.inj_on_of_nodup_map distinct otherMember member same
    have left := @Words.uint32_of_nonneg (remaining -
      min (track.config.priorityBitrateBps - allocation track.observer) remaining)
      (by omega) (by omega)
    rw [store_of_small (by omega) (by omega), store_of_small (by omega) (by omega)]
    refine ⟨?_, ?_, ?_, ?_⟩
    · dsimp only
      rw [keyedSum_update distinct (List.mem_map_of_mem member)]
      omega
    all_goals
      intro other otherMember
      have otherLower := lower other otherMember
      have otherUpper := upper other otherMember
      have otherCapacity := capacity other otherMember
      by_cases same : other.observer = track.observer
      · obtain rfl := sameTrack other otherMember same
        simp only [Function.update_self]
        omega
      · simp only [Function.update_of_ne same]
        omega
  · exact ⟨conserved, lower, upper, capacity⟩

theorem normalRateAllocation_spec
    (ordered : ∀ track ∈ tracks, track.config.minBitrateBps ≤ track.config.maxBitrateBps)
    {bitrate : Nat} (small : bitrate < 2 ^ 31) (enough : sumMinBitrates tracks ≤ bitrate) :
    (∀ track ∈ tracks, (track.config.minBitrateBps : Int) ≤
          normalRateAllocation tracks bitrate (sumMinBitrates tracks) track.observer ∧
        normalRateAllocation tracks bitrate (sumMinBitrates tracks) track.observer ≤
          max (track.config.maxBitrateBps : Int) track.config.priorityBitrateBps) ∧
      keyedSum (tracks.map observer)
        (normalRateAllocation tracks bitrate (sumMinBitrates tracks)) ≤ bitrate := by
  let minima := tabulate observer (fun track => int32 track.config.minBitrateBps) tracks
    fun _ => 0
  let capacities := tabulate observer
    (fun track => int32 (track.config.maxBitrateBps - track.config.minBitrateBps))
    tracks fun _ => 0
  have minimum : ∀ track ∈ tracks, minima track.observer = track.config.minBitrateBps := by
    intro track member
    have := ordered track member
    have := maxSmall track member
    exact (tabulate_of_mem distinct member _ _).trans
      (Words.int32_of_small (by omega) (by omega))
  have capacity : ∀ track ∈ tracks, capacities track.observer =
      (track.config.maxBitrateBps : Int) - track.config.minBitrateBps := by
    intro track member
    have := ordered track member
    have := maxSmall track member
    exact (tabulate_of_mem distinct member _ _).trans
      (Words.int32_of_small (by omega) (by omega))
  have remainder : (uint32 (bitrate - sumMinBitrates tracks) : Int) =
      bitrate - sumMinBitrates tracks := Words.uint32_of_nonneg (by omega) (by omega)
  have start : RaisedBudget tracks bitrate
      (minima, capacities, uint32 (bitrate - sumMinBitrates tracks)) := by
    refine ⟨?_, ?_, ?_, ?_⟩
    · have sumEq : keyedSum (tracks.map observer) minima = sumMinBitrates tracks := by
        rw [keyedSum, List.map_map, sumMinBitrates, Nat.cast_list_sum, List.map_map]
        exact congrArg List.sum (List.map_congr_left minimum)
      dsimp only
      omega
    · exact fun track member => (minimum track member).ge
    · exact fun track member => le_max_of_le_left (minimum track member).le
    · intro track member
      simp only [minimum track member, capacity track member]
      omega
  have raised := start.raiseToPriority distinct maxSmall (by omega)
  unfold normalRateAllocation
  dsimp only [minima, capacities] at raised ⊢
  generalize raiseToPriority tracks _ = state at raised ⊢
  obtain ⟨allocation, left, remaining⟩ := state
  have nonneg := raised.nonneg
  obtain ⟨conserved, lower, upper, capacityEq⟩ := raised
  dsimp only at *
  split_ifs with remains
  · have filled : ∀ track ∈ tracks, 0 ≤ allocation track.observer + left track.observer ∧
        allocation track.observer + left track.observer < 2 ^ 31 := by
      intro track member
      have := capacityEq track member
      have := maxSmall track member
      omega
    obtain ⟨bounds, sum_le⟩ :=
      distributeBitrateRelatively_spec distinct remaining left nonneg filled (by omega)
    refine ⟨?_, by omega⟩
    intro track member
    have := bounds track member
    have := lower track member
    have := capacityEq track member
    have := ordered track member
    omega
  · refine ⟨?_, by omega⟩
    intro track member
    have := upper track member
    have := ordered track member
    exact ⟨lower track member, by omega⟩

/-! ## All regimes -/

/-- Bounds of the allocation that gives every track its maximum and more. -/
theorem maxRateAllocation_spec {bitrate : Nat} (small : bitrate < 2 ^ 31)
    (plenty : sumMaxBitrates tracks ≤ bitrate) :
    (∀ track ∈ tracks,
      (track.config.maxBitrateBps : Int) ≤ maxRateAllocation tracks bitrate track.observer ∧
        maxRateAllocation tracks bitrate track.observer ≤ 2 * track.config.maxBitrateBps) ∧
      keyedSum (tracks.map observer) (maxRateAllocation tracks bitrate) ≤ bitrate := by
  let maxRate (track : AllocatableTrack Observer) : Int := track.config.maxBitrateBps
  let maxima := tabulate observer maxRate tracks fun _ => 0
  have maximum : ∀ track ∈ tracks, maxima track.observer = track.config.maxBitrateBps :=
    fun track member => tabulate_of_mem distinct member _ _
  have sumEq : (tracks.map maxRate).sum = sumMaxBitrates tracks := by
    rw [sumMaxBitrates, Nat.cast_list_sum, List.map_map]
    rfl
  have remainder : (uint32 ((bitrate : Int) - sumMaxBitrates tracks) : Int) =
      bitrate - sumMaxBitrates tracks := Words.uint32_of_nonneg (by omega) (by omega)
  have unfolded : maxRateAllocation tracks bitrate =
      (distributeBitrateEvenly tracks (uint32 ((bitrate : Int) - sumMaxBitrates tracks)) true
        transmissionMaxBitrateMultiplier maxima).allocation := by
    rw [maxRateAllocation, Budget.assignAll_allocation _ _ _ fun track member => ?_,
      Budget.assignAll_remaining, sumEq]
    have := maxSmall track member
    omega
  have maximaSum : keyedSum (tracks.map observer) maxima = sumMaxBitrates tracks :=
    (keyedSum_tabulate distinct _ _).trans sumEq
  have spread := distributeBitrateEvenly_spec distinct
    (uint32 ((bitrate : Int) - sumMaxBitrates tracks)) true transmissionMaxBitrateMultiplier
    (fun track member => limit_lt (maxSmall track member) le_rfl)
    (fun track member => (Nat.cast_nonneg _).trans_eq (maximum track member).symm) (by omega)
  rw [← unfolded] at spread
  constructor
  · intro track member
    have inside : track ∈ participants tracks true maxima :=
      List.mem_filter.mpr ⟨member, rfl⟩
    obtain ⟨lower, upper⟩ := spread.moves track inside
    simp only [limit, transmissionMaxBitrateMultiplier, maximum track member] at lower upper
    omega
  · have total := spread.sum_le distinct
      (List.map_subset _ fun _ inside => (List.mem_filter.mp inside).1)
    omega

end

/--
Bounds of every allocation of rates that fit in an `int`.  At low rates a track without an
enforced minimum gets nothing or at least its minimum, and no track gets more than both its
maximum and the rate it requires to be active.  Otherwise every track gets at least its
minimum and at most twice its maximum or its priority bitrate.  The sum exceeds neither the
bitrate nor what the enforced minima demand.
-/
theorem allocateBitrates_bounds (tracks : List (AllocatableTrack Observer)) (bitrate : Nat)
    (nonempty : tracks ≠ []) (distinct : (tracks.map observer).Nodup)
    (ordered : ∀ track ∈ tracks, track.config.minBitrateBps ≤ track.config.maxBitrateBps)
    (positive : 0 < bitrate) (small : bitrate < 2 ^ 31)
    (maxSmall : ∀ track ∈ tracks, track.config.maxBitrateBps < 2 ^ 31) :
    (LowRateRegime tracks bitrate → ∀ track ∈ tracks, (track.config.enforceMinBitrate = false →
        allocateBitrates tracks bitrate track.observer = 0 ∨
          track.config.minBitrateBps ≤ allocateBitrates tracks bitrate track.observer) ∧
        allocateBitrates tracks bitrate track.observer ≤
          max (track.config.maxBitrateBps : Int) track.minBitrateWithHysteresis) ∧
      (¬ LowRateRegime tracks bitrate → ∀ track ∈ tracks,
        track.config.minBitrateBps ≤ allocateBitrates tracks bitrate track.observer ∧
          allocateBitrates tracks bitrate track.observer ≤
            max (2 * track.config.maxBitrateBps : Int) track.config.priorityBitrateBps) ∧
      keyedSum (tracks.map observer) (allocateBitrates tracks bitrate) ≤
        max (bitrate : Int) (tracks.map enforcedRate).sum := by
  unfold allocateBitrates LowRateRegime
  rw [if_neg (by simpa using nonempty), if_neg positive.ne']
  cases enough : enoughBitrateForAllObservers tracks bitrate (sumMinBitrates tracks) with
  | false =>
    obtain ⟨rates, sum_le⟩ := lowRateAllocation_spec distinct ordered maxSmall small
    refine ⟨fun _ track member => ?_, fun notLow => absurd rfl notLow, by simpa using sum_le⟩
    have rate := rates track member
    exact ⟨rate.free, rate.upper⟩
  | true =>
    have sumMin_le := sumMinBitrates_le_of_enough enough
    refine ⟨fun low => absurd low (by simp), fun _ track member => ?_, le_max_of_le_left ?_⟩
    · have := ordered track member
      simp only [Bool.not_true, Bool.false_eq_true, if_false]
      split_ifs with fits
      · have := (normalRateAllocation_spec distinct maxSmall ordered small sumMin_le).1 track member
        omega
      · have := (maxRateAllocation_spec distinct maxSmall small (not_le.mp fits).le).1 track member
        omega
    · simp only [Bool.not_true, Bool.false_eq_true, if_false]
      split_ifs with fits
      · exact (normalRateAllocation_spec distinct maxSmall ordered small sumMin_le).2
      · exact (maxRateAllocation_spec distinct maxSmall small (not_le.mp fits).le).2

def trackOf (observer minBitrateBps maxBitrateBps : Nat)
    (allocatedBitrateBps : Option Nat) : AllocatableTrack Nat where
  observer := observer
  config :=
    { minBitrateBps := minBitrateBps
      maxBitrateBps := maxBitrateBps
      padUpBitrateBps := 0
      priorityBitrateBps := 0
      enforceMinBitrate := false
      bitratePriority := 1
      bitratePriority_pos := usualPriority_pos }
  allocatedBitrateBps := allocatedBitrateBps
  mediaRatio := 1

theorem allocateBitrates_bounds_two_tracks :
    ¬ LowRateRegime [trackOf 0 50000 200000 none, trackOf 1 30000 500000 none] 300000 ∧
      keyedSum [0, 1] (allocateBitrates
        [trackOf 0 50000 200000 none, trackOf 1 30000 500000 none] 300000) ≤ 300000 := by
  have bounds := allocateBitrates_bounds
    [trackOf 0 50000 200000 none, trackOf 1 30000 500000 none] 300000
    (by simp) (by decide) (by simp [trackOf]) (by norm_num) (by norm_num) (by simp [trackOf])
  refine ⟨by unfold LowRateRegime; decide +kernel, ?_⟩
  simpa [trackOf, enforcedRate] using bounds.2.2

/-- A track whose priority bitrate is five times its maximum. -/
def prioritisedTrack : AllocatableTrack Nat :=
  let track := trackOf 0 0 1000 (some 1000)
  { track with config := { track.config with priorityBitrateBps := 5000 } }

/--
A paused track is given all it requires to be resumed, which may be far more than twice its
maximum, and a track is raised to a priority bitrate above that.  A maximum that does not fit
in an `int` becomes a negative capacity, and a rate that does not fit a negative allocation.
-/
theorem allocateBitrates_outside_bounds :
    (LowRateRegime [trackOf 0 5000 5000 (some 0), trackOf 1 100000 200000 none] 25000 ∧
      allocateBitrates
        [trackOf 0 5000 5000 (some 0), trackOf 1 100000 200000 none] 25000 0 = 25000) ∧
    allocateBitrates [prioritisedTrack, trackOf 1 0 10000 (some 1000)] 5000 0 = 5000 ∧
    allocateBitrates [trackOf 0 0 3000000000 (some 1000)] 1000 0 = -1294967296 ∧
    allocateBitrates [trackOf 0 0 2000000000 (some 1000)] 4000000000 0 = -294967296 := by
  refine ⟨⟨?_, ?_⟩, ?_, ?_, ?_⟩
  · unfold LowRateRegime
    decide +kernel
  all_goals decide +kernel

end MaeRtc.Call
