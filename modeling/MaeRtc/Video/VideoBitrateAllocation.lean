import Mathlib

/-!
# Bitrate allocations over the layers of a video stream

An allocation gives a bitrate to some of the spatial and temporal layers and
keeps their sum next to them.  The sum is carried together with the proof that
it is the sum of the layers and fits an unsigned 32-bit integer.
-/

namespace MaeRtc.Video

def maxSpatialLayers : Nat := 5

def maxTemporalStreams : Nat := 4

instance : NeZero maxSpatialLayers := ⟨by decide⟩

instance : NeZero maxTemporalStreams := ⟨by decide⟩

def maxBitrateBps : Nat := 2 ^ 32 - 1

/-- The bitrates of all layers, where they are set. -/
abbrev LayerBitrates := Fin maxSpatialLayers → Fin maxTemporalStreams → Option Nat

namespace LayerBitrates

/-- The sum over all layers; a layer without a bitrate counts as zero. -/
def total (bitrates : LayerBitrates) : Nat :=
  ∑ spatialIndex, ∑ temporalIndex, (bitrates spatialIndex temporalIndex).getD 0

def set (bitrates : LayerBitrates) (spatialIndex : Fin maxSpatialLayers)
    (temporalIndex : Fin maxTemporalStreams) (bitrateBps : Nat) : LayerBitrates :=
  Function.update bitrates spatialIndex
    (Function.update (bitrates spatialIndex) temporalIndex (some bitrateBps))

theorem sum_update_add {n : Nat} {α : Type} (f : Fin n → α) (weight : α → Nat)
    (index : Fin n) (value : α) :
    (∑ i, weight (Function.update f index value i)) + weight (f index) =
      (∑ i, weight (f i)) + weight value := by
  rw [← Finset.add_sum_erase _ _ (Finset.mem_univ index),
    ← Finset.add_sum_erase Finset.univ (fun i => weight (f i)) (Finset.mem_univ index)]
  have rest : ∑ i ∈ Finset.univ.erase index, weight (Function.update f index value i) =
      ∑ i ∈ Finset.univ.erase index, weight (f i) := by
    refine Finset.sum_congr rfl fun i member => ?_
    rw [Function.update_of_ne (Finset.ne_of_mem_erase member)]
  rw [rest, Function.update_self]
  omega

variable (bitrates : LayerBitrates) (spatialIndex : Fin maxSpatialLayers)
  (temporalIndex : Fin maxTemporalStreams)

theorem total_set (bitrateBps : Nat) :
    (bitrates.set spatialIndex temporalIndex bitrateBps).total +
        (bitrates spatialIndex temporalIndex).getD 0 =
      bitrates.total + bitrateBps := by
  have layer := sum_update_add (bitrates spatialIndex) (fun rate => rate.getD 0)
    temporalIndex (some bitrateBps)
  have whole := sum_update_add bitrates
    (fun layerRates => ∑ index, (layerRates index).getD 0) spatialIndex
    (Function.update (bitrates spatialIndex) temporalIndex (some bitrateBps))
  dsimp only [Option.getD_some] at layer whole
  unfold total set
  omega

theorem layer_le_total : (bitrates spatialIndex temporalIndex).getD 0 ≤ bitrates.total :=
  calc (bitrates spatialIndex temporalIndex).getD 0
      ≤ ∑ index, (bitrates spatialIndex index).getD 0 :=
        Finset.single_le_sum_of_canonicallyOrdered
          (f := fun index => (bitrates spatialIndex index).getD 0)
          (Finset.mem_univ temporalIndex)
    _ ≤ bitrates.total :=
        Finset.single_le_sum_of_canonicallyOrdered
          (f := fun layer => ∑ index, (bitrates layer index).getD 0)
          (Finset.mem_univ spatialIndex)

end LayerBitrates

structure VideoBitrateAllocation where
  sum : Nat
  bitrates : LayerBitrates
  isBwLimited : Bool
  sum_eq : sum = bitrates.total
  sum_le : sum ≤ maxBitrateBps

namespace VideoBitrateAllocation

def empty : VideoBitrateAllocation where
  sum := 0
  bitrates := fun _ _ => none
  isBwLimited := false
  sum_eq := by simp [LayerBitrates.total]
  sum_le := by simp

/-- Set one layer, unless the sum would no longer fit; the flag says which. -/
def setBitrate (allocation : VideoBitrateAllocation)
    (spatialIndex : Fin maxSpatialLayers) (temporalIndex : Fin maxTemporalStreams)
    (bitrateBps : Nat) : Bool × VideoBitrateAllocation :=
  let newBitrateSumBps := allocation.sum -
    (allocation.bitrates spatialIndex temporalIndex).getD 0 + bitrateBps
  if fits : newBitrateSumBps ≤ maxBitrateBps then
    (true,
      { sum := newBitrateSumBps
        bitrates := allocation.bitrates.set spatialIndex temporalIndex bitrateBps
        isBwLimited := allocation.isBwLimited
        sum_eq := by
          have replaced := allocation.bitrates.total_set spatialIndex temporalIndex bitrateBps
          have := allocation.sum_eq
          have layerLe := allocation.bitrates.layer_le_total spatialIndex temporalIndex
          omega
        sum_le := fits })
  else
    (false, allocation)

def getSumBps (allocation : VideoBitrateAllocation) : Nat :=
  allocation.sum

/-- The sum of all temporal layers of a spatial layer. -/
def getSpatialLayerSum (allocation : VideoBitrateAllocation)
    (spatialIndex : Fin maxSpatialLayers) : Nat :=
  ∑ temporalIndex, (allocation.bitrates spatialIndex temporalIndex).getD 0

/-- Allocations are compared layer by layer; the bandwidth flag is ignored. -/
instance : BEq VideoBitrateAllocation where
  beq one two := decide (one.bitrates = two.bitrates)

end VideoBitrateAllocation

end MaeRtc.Video
