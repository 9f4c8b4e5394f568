import Mathlib

/-!
# Lists of separated integer ranges

A finite set of integers is often kept as an ascending list of inclusive
ranges.  The list is canonical when no range is empty and two neighbours
always leave at least one integer between them.
-/

namespace MaeRtc.Base

/-- The integers from `first` to `last`, both included. -/
structure Range where
  first : Int
  last : Int
  deriving DecidableEq, Repr

/-- Some range of the list contains the integer. -/
def Covers (ranges : List Range) (value : Int) : Prop :=
  ∃ range ∈ ranges, range.first ≤ value ∧ value ≤ range.last

/-- Ascending nonempty ranges, no two of which overlap or touch. -/
structure Separated (ranges : List Range) : Prop where
  gaps : ranges.Pairwise (fun left right => left.last + 1 < right.first)
  nonempty : ∀ range ∈ ranges, range.first ≤ range.last

@[simp] theorem covers_nil (value : Int) : ¬ Covers [] value := by
  simp [Covers]

@[simp] theorem covers_cons (range : Range) (ranges : List Range) (value : Int) :
    Covers (range :: ranges) value ↔
      (range.first ≤ value ∧ value ≤ range.last) ∨ Covers ranges value := by
  simp [Covers]

@[simp] theorem covers_append (left right : List Range) (value : Int) :
    Covers (left ++ right) value ↔ Covers left value ∨ Covers right value := by
  simp [Covers, or_and_right, exists_or]

/-- All ranges start above a bound. -/
def AllAbove (bound : Int) (ranges : List Range) : Prop :=
  ∀ range ∈ ranges, bound < range.first

/-- All ranges end below a bound. -/
def AllBelow (bound : Int) (ranges : List Range) : Prop :=
  ∀ range ∈ ranges, range.last < bound

variable {ranges : List Range} {bound : Int}

theorem AllAbove.lt_of_covers {value : Int} (above : AllAbove bound ranges)
    (covered : Covers ranges value) : bound < value := by
  obtain ⟨range, member, lower, _⟩ := covered
  have := above range member
  omega

theorem AllBelow.lt_of_covers {value : Int} (below : AllBelow bound ranges)
    (covered : Covers ranges value) : value < bound := by
  obtain ⟨range, member, _, upper⟩ := covered
  have := below range member
  omega

theorem AllAbove.mono {low high : Int} (le : low ≤ high) (above : AllAbove high ranges) :
    AllAbove low ranges :=
  fun range member => lt_of_le_of_lt le (above range member)

@[simp] theorem allAbove_nil (bound : Int) : AllAbove bound [] :=
  nofun

theorem allAbove_cons {range : Range} :
    AllAbove bound (range :: ranges) ↔ bound < range.first ∧ AllAbove bound ranges := by
  simp [AllAbove]

namespace Separated

@[simp] theorem nil : Separated [] :=
  ⟨.nil, nofun⟩

variable {left right : List Range} {range : Range}

theorem cons_iff {ranges : List Range} :
    Separated (range :: ranges) ↔
      range.first ≤ range.last ∧ AllAbove (range.last + 1) ranges ∧ Separated ranges := by
  constructor
  · rintro ⟨gaps, nonempty⟩
    obtain ⟨headGap, tailGaps⟩ := List.pairwise_cons.mp gaps
    exact ⟨nonempty range (.head _), headGap,
      tailGaps, fun other member => nonempty other (.tail _ member)⟩
  · rintro ⟨headNonempty, headGap, tail⟩
    refine ⟨List.pairwise_cons.mpr ⟨headGap, tail.gaps⟩, ?_⟩
    intro other member
    rcases List.mem_cons.mp member with rfl | member
    · exact headNonempty
    · exact tail.nonempty other member

/-- Two separated lists may be joined around any point that splits them. -/
theorem append (bound : Int) (leftSeparated : Separated left) (rightSeparated : Separated right)
    (below : AllBelow bound left) (above : AllAbove bound right) : Separated (left ++ right) := by
  refine ⟨List.pairwise_append.mpr ⟨leftSeparated.gaps, rightSeparated.gaps, ?_⟩, ?_⟩
  · intro one oneMember two twoMember
    have := below one oneMember
    have := above two twoMember
    omega
  · intro range member
    rcases List.mem_append.mp member with member | member
    · exact leftSeparated.nonempty range member
    · exact rightSeparated.nonempty range member

/-- A nonempty range may be put between two lists that keep their distance. -/
theorem insert {before after : List Range} (beforeSeparated : Separated before)
    (afterSeparated : Separated after) (below : AllBelow (range.first - 1) before)
    (nonempty : range.first ≤ range.last) (above : AllAbove (range.last + 1) after) :
    Separated (before ++ range :: after) := by
  refine append (range.first - 1) beforeSeparated
    (cons_iff.mpr ⟨nonempty, above, afterSeparated⟩) below ?_
  exact allAbove_cons.mpr ⟨sub_one_lt _, above.mono (by omega)⟩

/-- What stands before a range of a separated list keeps its distance. -/
theorem allBelow_before {before after : List Range}
    (separated : Separated (before ++ range :: after)) : AllBelow (range.first - 1) before := by
  intro other member
  have := (List.pairwise_append.mp separated.gaps).2.2 other member range (.head _)
  omega

theorem of_append_left (separated : Separated (left ++ right)) : Separated left :=
  ⟨(List.pairwise_append.mp separated.gaps).1,
    fun range member => separated.nonempty range (List.mem_append_left _ member)⟩

theorem of_append_right (separated : Separated (left ++ right)) : Separated right :=
  ⟨(List.pairwise_append.mp separated.gaps).2.1,
    fun range member => separated.nonempty range (List.mem_append_right _ member)⟩

/-- A bound on what a separated list covers bounds where its ranges start. -/
theorem allAbove_of_covers {ranges : List Range} (separated : Separated ranges)
    (above : ∀ value, Covers ranges value → bound < value) : AllAbove bound ranges :=
  fun range member =>
    above _ ⟨range, member, le_refl _, separated.nonempty range member⟩

end Separated

end MaeRtc.Base
