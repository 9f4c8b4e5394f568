import Mathlib

/-!
# Indices of a cyclic buffer

A number has its place in a cyclic buffer at its remainder by the capacity.  Numbers of a
window that is not wider than the buffer have places of their own.
-/

namespace MaeRtc.Base

/-- Going forward by less than the window, the index wraps at most once. -/
theorem emod_of_ahead {window older newer : Int} (positive : 0 < window) (ahead : older ≤ newer)
    (near : newer - older < window) :
    newer % window = older % window + (newer - older) ∧ older % window + (newer - older) < window ∨
    newer % window = older % window + (newer - older) - window ∧
      window ≤ older % window + (newer - older) := by
  have lower := Int.emod_nonneg older positive.ne'
  have upper := Int.emod_lt_of_pos older positive
  have same : newer % window = (older % window + (newer - older)) % window := by
    rw [Int.emod_add_emod, add_sub_cancel]
  rw [same]
  rcases lt_or_ge (older % window + (newer - older)) window with inside | outside
  · exact .inl ⟨Int.emod_eq_of_lt (by omega) inside, inside⟩
  · right
    refine ⟨?_, outside⟩
    rw [← Int.sub_emod_right, Int.emod_eq_of_lt (by omega) (by omega)]

/-- Numbers of a window have places of their own. -/
theorem eq_of_emod_eq {window one two : Int} (positive : 0 < window) (below : one - two < window)
    (above : two - one < window) (same : one % window = two % window) : one = two := by
  rcases le_total one two with le | ge
  · rcases emod_of_ahead positive le above with ⟨_, _⟩ | ⟨_, _⟩ <;> omega
  · rcases emod_of_ahead positive ge below with ⟨_, _⟩ | ⟨_, _⟩ <;> omega

/--
A stretch of numbers that is shorter than the window fills one or two blocks of the
buffer: a number of the window is in the stretch exactly if its place is in these blocks.
-/
theorem mem_blocks_iff {window first last number : Int} (positive : 0 < window)
    (ordered : first ≤ last) (short : last - first < window)
    (below : last - number ≤ window) (above : number - first < window) :
    (if first % window ≤ last % window then
        first % window ≤ number % window ∧ number % window < last % window
      else first % window ≤ number % window ∨ number % window < last % window) ↔
      first ≤ number ∧ number < last := by
  have lastStep := emod_of_ahead positive ordered short
  rcases le_or_gt first number with behind | before
  · have step := emod_of_ahead positive behind above
    split_ifs <;> omega
  rcases eq_or_lt_of_le below with whole | near
  · -- the stretch ends a whole window after the number
    have same : last % window = number % window := by
      rw [← Int.sub_emod_right last, ← whole, sub_sub_cancel]
    split_ifs <;> omega
  · have toFirst := emod_of_ahead positive before.le (by omega)
    have toLast := emod_of_ahead positive (before.le.trans ordered) near
    split_ifs <;> omega

/-! ## Filling a stretch -/

section

variable {α : Type*} (cells : List α) (begin finish i : Nat) (value : α)

/-- `std::fill` from one index to another. -/
def fill : List α :=
  cells.mapIdx fun i cell => if begin ≤ i ∧ i < finish then value else cell

@[simp] theorem getElem?_fill : (fill cells begin finish value)[i]? =
    (cells[i]?).map fun cell => if begin ≤ i ∧ i < finish then value else cell :=
  List.getElem?_mapIdx

@[simp] theorem length_fill : (fill cells begin finish value).length = cells.length :=
  List.length_mapIdx

variable {cells begin finish i}

/-- Filling the blocks of a stretch of numbers, of which the first one may start behind the
last cell, fills the places of these numbers. -/
theorem getElem?_fill_blocks {first last number : Int} (ordered : first ≤ last)
    (short : last - first < cells.length) (below : last - number ≤ cells.length)
    (above : number - first < cells.length) (isNumber : (i : Int) = number % cells.length)
    (isFirst : (begin : Int) = first % cells.length ∨
      begin = cells.length ∧ first % cells.length = 0)
    (isLast : (finish : Int) = last % cells.length) :
    (if begin ≤ finish then fill cells begin finish value
      else fill (fill cells begin cells.length value) 0 finish value)[i]? =
      if first ≤ number ∧ number < last then some value else cells[i]? := by
  have positive : (0 : Int) < cells.length := by omega
  have inside := Int.emod_lt_of_pos number positive
  have lastInside := Int.emod_lt_of_pos last positive
  obtain ⟨cell, isCell⟩ : ∃ cell, cells[i]? = some cell :=
    ⟨_, List.getElem?_eq_getElem (by omega)⟩
  have blocks := mem_blocks_iff positive ordered short below above
  rw [← isNumber, ← isLast] at blocks
  by_cases oneBlock : begin ≤ finish
  · rw [if_pos oneBlock, getElem?_fill, isCell, Option.map_some, apply_ite some]
    refine if_congr ?_ rfl rfl
    rw [← blocks, if_pos (by omega)]
    omega
  · rw [if_neg oneBlock, getElem?_fill, getElem?_fill, isCell, Option.map_some, Option.map_some,
      ← ite_or, apply_ite some]
    refine if_congr ?_ rfl rfl
    rw [← blocks]
    split_ifs <;> omega

end

end MaeRtc.Base
