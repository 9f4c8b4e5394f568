import MaeRtc.Base.KeyedSum
import MaeRtc.Base.Words

/-!
# Distribution of the available bitrate

`allocateBitrates` divides the estimated bitrate among the tracks.  There are
three regimes: a low one, in which some tracks are paused, a normal one, in
which every track gets its minimum and the rest is divided by priority, and one
in which every track gets its maximum and more.  The configured rates and their sums
are exact, and shares are rational numbers.  What is stored for an observer is an
`int`, and what is left to distribute is unsigned: both are converted to 32 bits.
-/

namespace MaeRtc.Call

open MaeRtc.Base

/-- How a media stream wants to be treated; its priority is positive. -/
structure MediaStreamAllocationConfig where
  minBitrateBps : Nat
  maxBitrateBps : Nat
  padUpBitrateBps : Nat
  priorityBitrateBps : Int
  enforceMinBitrate : Bool
  bitratePriority : ℚ
  bitratePriority_pos : 0 < bitratePriority

theorem usualPriority_pos : (0 : ℚ) < 1 := one_pos

/-- A track with what it was given last; no allocation was made yet if it is `none`. -/
structure AllocatableTrack (Observer : Type*) where
  observer : Observer
  config : MediaStreamAllocationConfig
  allocatedBitrateBps : Option Nat
  mediaRatio : ℚ

abbrev Allocation (Observer : Type*) := Observer → Int

def transmissionMaxBitrateMultiplier : Nat := 2

def toggleFactor : ℚ := 1 / 10

def minToggleBitrateBps : Nat := 20000

/-- Conversion of a real rate to an integer drops the fraction. -/
def truncate (rate : ℚ) : Int :=
  if 0 ≤ rate then ⌊rate⌋ else ⌈rate⌉

namespace AllocatableTrack

variable {Observer : Type*}

def lastAllocatedBitrate (track : AllocatableTrack Observer) : Nat :=
  track.allocatedBitrateBps.getD track.config.minBitrateBps

/-- The rate a track needs to be active: more if it is paused or uses protection. -/
def minBitrateWithHysteresis (track : AllocatableTrack Observer) : Nat :=
  let minBitrate := track.config.minBitrateBps
  let minBitrate :=
    if track.lastAllocatedBitrate = 0 then
      minBitrate + max ⌊toggleFactor * minBitrate⌋₊ minToggleBitrateBps
    else minBitrate
  if 0 < track.mediaRatio ∧ track.mediaRatio < 1 then
    ⌊minBitrate + minBitrate * (1 - track.mediaRatio)⌋₊
  else minBitrate

end AllocatableTrack

open AllocatableTrack

section Allocation

variable {Observer : Type*} [DecidableEq Observer]

def store (table : Observer → Int) (observer : Observer) (rate : Int) : Observer → Int :=
  Function.update table observer (int32 rate)

theorem store_of_small {rate : Int} (above : -2 ^ 31 ≤ rate) (below : rate < 2 ^ 31)
    (table : Observer → Int) (observer : Observer) :
    store table observer rate = Function.update table observer rate := by
  rw [store, Words.int32_of_small above below]

/-- An allocation in the making and the bitrate that is left for it. -/
structure Budget (Observer : Type*) where
  allocation : Allocation Observer
  remaining : Int

namespace Budget

def assign (budget : Budget Observer) (observer : Observer) (rate : Int) :
    Budget Observer where
  allocation := store budget.allocation observer rate
  remaining := budget.remaining - rate

def assignAll (tracks : List (AllocatableTrack Observer))
    (rate : AllocatableTrack Observer → Int) (budget : Budget Observer) : Budget Observer :=
  tracks.foldl (fun budget track => budget.assign track.observer (rate track)) budget

end Budget

def enoughBitrateForAllObservers (tracks : List (AllocatableTrack Observer))
    (bitrate sumMinBitrates : Nat) : Bool :=
  if bitrate < sumMinBitrates then false
  else
    let extraBitratePerObserver := (bitrate - sumMinBitrates) / tracks.length
    tracks.all fun track =>
      !decide (track.config.minBitrateBps + extraBitratePerObserver <
        track.minBitrateWithHysteresis)

/-- The tracks that take part in an even distribution. -/
def participants (tracks : List (AllocatableTrack Observer)) (includeZeroAllocations : Bool)
    (allocation : Allocation Observer) : List (AllocatableTrack Observer) :=
  tracks.filter fun track => includeZeroAllocations || allocation track.observer != 0

/-- The participants in the order in which they are visited. -/
def listMaxBitrates (tracks : List (AllocatableTrack Observer)) (includeZeroAllocations : Bool)
    (allocation : Allocation Observer) : List (AllocatableTrack Observer) :=
  (participants tracks includeZeroAllocations allocation).mergeSort
    fun one two => one.config.maxBitrateBps ≤ two.config.maxBitrateBps

structure EvenRounds (Observer : Type*) where
  bitrate : Nat
  allocation : Allocation Observer
  /-- The assertion that some bitrate is left held in every round. -/
  asserted : Bool

/-- The round of a track with `others` tracks behind it. -/
def evenRound (maxMultiplier : Nat) (track : AllocatableTrack Observer) (others : Nat)
    (rounds : EvenRounds Observer) : EvenRounds Observer :=
  let asserted := rounds.asserted && decide (rounds.bitrate > 0)
  let extraAllocation := rounds.bitrate / (others + 1)
  let totalAllocation := uint32 (extraAllocation + rounds.allocation track.observer)
  let bitrate := rounds.bitrate - extraAllocation
  let limit := uint32 (maxMultiplier * track.config.maxBitrateBps)
  if totalAllocation > limit then
    ⟨uint32 (bitrate + (totalAllocation - limit)), store rounds.allocation track.observer limit,
      asserted⟩
  else ⟨bitrate, store rounds.allocation track.observer totalAllocation, asserted⟩

def distributeEvenlyLoop (maxMultiplier : Nat) :
    List (AllocatableTrack Observer) → EvenRounds Observer → EvenRounds Observer
  | [], rounds => rounds
  | track :: rest, rounds =>
    distributeEvenlyLoop maxMultiplier rest (evenRound maxMultiplier track rest.length rounds)

def distributeBitrateEvenly (tracks : List (AllocatableTrack Observer)) (bitrate : Nat)
    (includeZeroAllocations : Bool) (maxMultiplier : Nat)
    (allocation : Allocation Observer) : EvenRounds Observer :=
  distributeEvenlyLoop maxMultiplier (listMaxBitrates tracks includeZeroAllocations allocation)
    ⟨bitrate, allocation, true⟩

/-- An observer with the rate it can still take. -/
structure PriorityRateObserverConfig (Observer : Type*) where
  allocationKey : Observer
  capacityBps : Int
  bitratePriority : ℚ

/-- Shares for the observers that cannot be filled up. -/
def distributeShares (remainingBitrate : Nat) (bitratePrioritySum : ℚ) :
    List (PriorityRateObserverConfig Observer) → Allocation Observer → Allocation Observer
  | [], allocation => allocation
  | config :: rest, allocation =>
    let fractionAllocated := config.bitratePriority / bitratePrioritySum
    distributeShares remainingBitrate bitratePrioritySum rest
      (store allocation config.allocationKey (truncate (allocation config.allocationKey +
          fractionAllocated * remainingBitrate)))

/-- Fill up observers as long as the share of the next one suffices. -/
def distributeCapacities :
    List (PriorityRateObserverConfig Observer) → Nat → ℚ → Allocation Observer →
      Allocation Observer
  | [], _, _, allocation => allocation
  | config :: rest, remainingBitrate, bitratePrioritySum, allocation =>
    let observerShare := config.bitratePriority / bitratePrioritySum
    if observerShare * remainingBitrate ≥ config.capacityBps then
      distributeCapacities rest (uint32 (remainingBitrate - config.capacityBps))
        (bitratePrioritySum - config.bitratePriority)
        (store allocation config.allocationKey
          (allocation config.allocationKey + config.capacityBps))
    else
      distributeShares remainingBitrate bitratePrioritySum (config :: rest) allocation

/--
Observers are filled in the order of capacity by priority.  The sort of the
source leaves the order of ties open; this is one of the admissible orders.
-/
def distributeBitrateRelatively (tracks : List (AllocatableTrack Observer))
    (remainingBitrate : Nat) (observersCapacities : Observer → Int)
    (allocation : Allocation Observer) : Allocation Observer :=
  let priorityRateObservers := (tracks.map fun track =>
    { allocationKey := track.observer
      capacityBps := observersCapacities track.observer
      bitratePriority := track.config.bitratePriority :
      PriorityRateObserverConfig Observer }).mergeSort
    fun one two => one.capacityBps / one.bitratePriority ≤ two.capacityBps / two.bitratePriority
  distributeCapacities priorityRateObservers remainingBitrate
    (tracks.map fun track => track.config.bitratePriority).sum allocation

def giveRequired (budget : Budget Observer) (track : AllocatableTrack Observer) :
    Budget Observer :=
  if budget.remaining ≥ track.minBitrateWithHysteresis then
    budget.assign track.observer track.minBitrateWithHysteresis
  else budget

/-- The enforced minima, whether or not the bitrate suffices for them. -/
def enforceMinima (tracks : List (AllocatableTrack Observer)) (bitrate : Nat) :
    Budget Observer :=
  Budget.assignAll tracks
    (fun track => if track.config.enforceMinBitrate then int32 track.config.minBitrateBps else 0)
    ⟨fun _ => 0, bitrate⟩

/-- A pass that gives the required rate to all tracks it does not skip. -/
def giveRequiredUnless (skips : AllocatableTrack Observer → Bool)
    (tracks : List (AllocatableTrack Observer)) (budget : Budget Observer) : Budget Observer :=
  if budget.remaining > 0 then
    tracks.foldl (fun budget track =>
      if skips track then budget else giveRequired budget track) budget
  else budget

/-- Previously active tracks come first, unless their minimum is enforced anyway. -/
def resumeActive : List (AllocatableTrack Observer) → Budget Observer → Budget Observer :=
  giveRequiredUnless fun track =>
    track.config.enforceMinBitrate || track.lastAllocatedBitrate == 0

/-- Previously paused tracks, also those whose minimum is enforced. -/
def resumePaused : List (AllocatableTrack Observer) → Budget Observer → Budget Observer :=
  giveRequiredUnless fun track => track.lastAllocatedBitrate != 0

def lowRateAllocation (tracks : List (AllocatableTrack Observer)) (bitrate : Nat) :
    Allocation Observer :=
  let budget := resumePaused tracks (resumeActive tracks (enforceMinima tracks bitrate))
  if budget.remaining > 0 then
    (distributeBitrateEvenly tracks (uint32 budget.remaining) false 1
      budget.allocation).allocation
  else budget.allocation

/-- Raise the tracks with a priority bitrate, first come first served. -/
def raiseToPriority (tracks : List (AllocatableTrack Observer))
    (state : Allocation Observer × (Observer → Int) × Nat) :
    Allocation Observer × (Observer → Int) × Nat :=
  tracks.foldl (fun (allocation, observersCapacities, bitrate) track =>
    let priorityMargin := track.config.priorityBitrateBps - allocation track.observer
    if priorityMargin > 0 ∧ bitrate > 0 then
      let extraBitrate := min priorityMargin bitrate
      (store allocation track.observer (allocation track.observer + extraBitrate),
        store observersCapacities track.observer
          (observersCapacities track.observer - extraBitrate),
        uint32 (bitrate - extraBitrate))
    else (allocation, observersCapacities, bitrate)) state

def normalRateAllocation (tracks : List (AllocatableTrack Observer))
    (bitrate sumMinBitrates : Nat) : Allocation Observer :=
  let minima := tabulate observer (fun track => int32 track.config.minBitrateBps) tracks
    fun _ => 0
  let capacities := tabulate observer
    (fun track => int32 (track.config.maxBitrateBps - track.config.minBitrateBps))
    tracks fun _ => 0
  let (allocation, observersCapacities, remaining) :=
    raiseToPriority tracks (minima, capacities, uint32 (bitrate - sumMinBitrates))
  if remaining > 0 then
    distributeBitrateRelatively tracks remaining observersCapacities allocation
  else allocation

def maxRateAllocation (tracks : List (AllocatableTrack Observer)) (bitrate : Nat) :
    Allocation Observer :=
  let budget := Budget.assignAll tracks (fun track => track.config.maxBitrateBps)
    ⟨fun _ => 0, bitrate⟩
  (distributeBitrateEvenly tracks (uint32 budget.remaining) true
    transmissionMaxBitrateMultiplier budget.allocation).allocation

def zeroRateAllocation (tracks : List (AllocatableTrack Observer)) : Allocation Observer :=
  tabulate observer (fun _ => 0) tracks fun _ => 0

def sumMinBitrates (tracks : List (AllocatableTrack Observer)) : Nat :=
  (tracks.map fun track => track.config.minBitrateBps).sum

def sumMaxBitrates (tracks : List (AllocatableTrack Observer)) : Nat :=
  (tracks.map fun track => track.config.maxBitrateBps).sum

def allocateBitrates (tracks : List (AllocatableTrack Observer)) (bitrate : Nat) :
    Allocation Observer :=
  if tracks.isEmpty then fun _ => 0
  else if bitrate = 0 then zeroRateAllocation tracks
  else if !enoughBitrateForAllObservers tracks bitrate (sumMinBitrates tracks) then
    lowRateAllocation tracks bitrate
  else if bitrate ≤ sumMaxBitrates tracks then
    normalRateAllocation tracks bitrate (sumMinBitrates tracks)
  else maxRateAllocation tracks bitrate

end Allocation

end MaeRtc.Call
