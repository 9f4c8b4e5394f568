import MaeRtc.Base.Ranges

/-!
# The additional TSN blocks of the data tracker

`DataTracker::AdditionalTsnBlocks` keeps the TSNs received beyond the
cumulative one as a sorted vector of inclusive ranges.  The three operations
are translated statement by statement; a binary search over the sorted vector
is its partition point.
-/

namespace MaeRtc.DcSctp

open MaeRtc.Base

/-- An inclusive range of received TSNs, in unwrapped numbers. -/
abbrev TsnRange := Range

namespace AdditionalTsnBlocks

/-- Add one TSN; the flag says whether it was not yet represented. -/
def add (blocks : List TsnRange) (tsn : Int) : List TsnRange × Bool :=
  let before := blocks.takeWhile (fun elem => elem.last + 1 < tsn)
  match blocks.dropWhile (fun elem => elem.last + 1 < tsn) with
  | [] => (before ++ [⟨tsn, tsn⟩], true)
  | it :: rest =>
    if tsn ≥ it.first ∧ tsn ≤ it.last then
      (blocks, false)
    else if it.last + 1 = tsn then
      match rest with
      | [] => (before ++ [⟨it.first, tsn⟩], true)
      | nextIt :: others =>
        -- expanding would make it adjacent to the next block
        if tsn + 1 = nextIt.first then
          (before ++ ⟨it.first, nextIt.last⟩ :: others, true)
        else
          (before ++ ⟨it.first, tsn⟩ :: nextIt :: others, true)
    else if it.first = tsn + 1 then
      (before ++ ⟨tsn, it.last⟩ :: rest, true)
    else
      (before ++ ⟨tsn, tsn⟩ :: it :: rest, true)

/-- Erase everything up to and including `tsn`, truncating a block around it. -/
def eraseTo (blocks : List TsnRange) (tsn : Int) : List TsnRange :=
  match blocks.dropWhile (fun elem => elem.last < tsn) with
  | [] => []
  | it :: rest =>
    if tsn ≥ it.first then ⟨tsn + 1, it.last⟩ :: rest else it :: rest

/-- Remove the first block. -/
def popFront (blocks : List TsnRange) : List TsnRange :=
  blocks.tail

/-- The partition point of a binary search, as a split of the vector. -/
private theorem exists_lowerBound (blocks : List TsnRange) (smaller : TsnRange → Bool) :
    ∃ before after, blocks = before ++ after ∧
      blocks.takeWhile smaller = before ∧ blocks.dropWhile smaller = after ∧
      (∀ elem ∈ before, smaller elem = true) ∧
      (∀ it rest, after = it :: rest → smaller it = false) := by
  refine ⟨_, _, List.takeWhile_append_dropWhile.symm, rfl, rfl, ?_, ?_⟩
  · exact fun elem member => List.mem_takeWhile_imp member
  · intro it rest equal
    have := List.head?_dropWhile_not smaller blocks
    rw [equal] at this
    simpa using this

variable {blocks : List TsnRange} (separated : Separated blocks) (tsn : Int)
include separated

/-- Adding a TSN keeps the blocks separated and adds exactly that TSN. -/
theorem add_spec :
    Separated (add blocks tsn).1 ∧
      (∀ value, Covers (add blocks tsn).1 value ↔ Covers blocks value ∨ value = tsn) ∧
      ((add blocks tsn).2 = true ↔ ¬ Covers blocks tsn) := by
  obtain ⟨before, after, blocksEq, takeEq, dropEq, small, notSmall⟩ :=
    exists_lowerBound blocks (fun elem => elem.last + 1 < tsn)
  have below : AllBelow (tsn - 1) before := by
    intro elem member
    have := of_decide_eq_true (small elem member)
    omega
  have beforeSeparated : Separated before := (blocksEq ▸ separated).of_append_left
  have notBefore : ¬ Covers before tsn := by
    intro covered
    have := below.lt_of_covers covered
    omega
  unfold add
  rw [takeEq, dropEq]
  cases after with
  | nil =>
    subst blocksEq
    refine ⟨beforeSeparated.insert .nil below (le_refl _) (allAbove_nil _), ?_, ?_⟩
    · intro value
      simp only [covers_append, covers_cons]
      grind
    · simp [notBefore]
  | cons it rest =>
    have reaches : tsn ≤ it.last + 1 := by
      have := of_decide_eq_false (notSmall it rest rfl)
      omega
    have beforeIt : AllBelow (it.first - 1) before := (blocksEq ▸ separated).allBelow_before
    obtain ⟨itNonempty, restAbove, restSeparated⟩ :=
      Separated.cons_iff.mp (blocksEq ▸ separated).of_append_right
    have notRest : ¬ Covers rest tsn := by
      intro covered
      have := restAbove.lt_of_covers covered
      omega
    have covers_iff : ∀ value, Covers blocks value ↔
        Covers before value ∨ (it.first ≤ value ∧ value ≤ it.last) ∨ Covers rest value := by
      intro value
      rw [blocksEq, covers_append, covers_cons]
    dsimp only
    split_ifs with inside right left
    · have covered : Covers blocks tsn :=
        (covers_iff tsn).mpr (.inr (.inl inside))
      refine ⟨separated, ?_, by simp [covered]⟩
      intro value
      constructor
      · exact Or.inl
      · rintro (old | rfl)
        · exact old
        · exact covered
    -- the block grows to the right, and may now touch its right neighbour
    · have absent : ¬ Covers blocks tsn := by
        grind
      cases rest with
      | nil =>
        refine ⟨beforeSeparated.insert .nil beforeIt (by dsimp; omega)
          (allAbove_nil _), ?_, by simp [absent]⟩
        intro value
        rw [covers_iff, covers_append, covers_cons]
        grind
      | cons nextIt others =>
        obtain ⟨nextNonempty, othersAbove, othersSeparated⟩ := Separated.cons_iff.mp restSeparated
        have nextAbove : it.last + 1 < nextIt.first := (allAbove_cons.mp restAbove).1
        dsimp only
        split_ifs with joined
        · refine ⟨beforeSeparated.insert othersSeparated beforeIt
            (by dsimp; omega) othersAbove, ?_, by simp [absent]⟩
          intro value
          rw [covers_iff, covers_append, covers_cons, covers_cons]
          grind
        · have gap : AllAbove (tsn + 1) (nextIt :: others) :=
            allAbove_cons.mpr ⟨by omega, othersAbove.mono (by omega)⟩
          refine ⟨beforeSeparated.insert restSeparated beforeIt
            (by dsimp; omega) gap, ?_, by simp [absent]⟩
          intro value
          rw [covers_iff, covers_append, covers_cons]
          grind
    · have absent : ¬ Covers blocks tsn := by
        grind
      refine ⟨beforeSeparated.insert restSeparated below
        (by dsimp; omega) restAbove, ?_, by simp [absent]⟩
      intro value
      rw [covers_iff, covers_append, covers_cons]
      grind
    · have absent : ¬ Covers blocks tsn := by
        grind
      have itAbove : AllAbove (tsn + 1) (it :: rest) :=
        allAbove_cons.mpr ⟨by omega, restAbove.mono (by omega)⟩
      refine ⟨beforeSeparated.insert
        (Separated.cons_iff.mpr ⟨itNonempty, restAbove, restSeparated⟩) below
        (le_refl _) itAbove, ?_, by simp [absent]⟩
      intro value
      rw [covers_iff, covers_append, covers_cons, covers_cons]
      grind

/-- What remains after erasing is separated above the erased part, except that
a truncated block starts right there and may be empty. -/
theorem eraseTo_spec :
    (∀ value, tsn < value → (Covers (eraseTo blocks tsn) value ↔ Covers blocks value)) ∧
      (Separated (eraseTo blocks tsn) ∧ AllAbove tsn (eraseTo blocks tsn) ∨
        ∃ last rest, eraseTo blocks tsn = ⟨tsn + 1, last⟩ :: rest ∧
          tsn ≤ last ∧ AllAbove (last + 1) rest ∧ Separated rest) := by
  obtain ⟨before, after, blocksEq, takeEq, dropEq, small, notSmall⟩ :=
    exists_lowerBound blocks (fun elem => elem.last < tsn)
  have below : AllBelow tsn before := fun elem member => of_decide_eq_true (small elem member)
  unfold eraseTo
  rw [dropEq]
  cases after with
  | nil =>
    refine ⟨?_, .inl ⟨.nil, allAbove_nil _⟩⟩
    intro value later
    rw [blocksEq, List.append_nil]
    refine ⟨fun covered => absurd covered (covers_nil _), ?_⟩
    intro covered
    have := below.lt_of_covers covered
    omega
  | cons it rest =>
    have reaches : tsn ≤ it.last := by
      have := of_decide_eq_false (notSmall it rest rfl)
      omega
    have afterSeparated := (blocksEq ▸ separated : Separated (before ++ it :: rest)).of_append_right
    obtain ⟨itNonempty, restAbove, restSeparated⟩ := Separated.cons_iff.mp afterSeparated
    have dropBefore : ∀ value, tsn < value →
        (Covers blocks value ↔ Covers (it :: rest) value) := by
      intro value later
      rw [blocksEq, covers_append]
      refine ⟨?_, Or.inr⟩
      rintro (covered | covered)
      · have := below.lt_of_covers covered
        omega
      · exact covered
    dsimp only
    split_ifs with within
    · refine ⟨?_, .inr ⟨it.last, rest, rfl, reaches, restAbove, restSeparated⟩⟩
      intro value later
      rw [dropBefore value later, covers_cons, covers_cons]
      grind
    · refine ⟨fun value later => (dropBefore value later).symm, .inl ⟨afterSeparated, ?_⟩⟩
      exact allAbove_cons.mpr ⟨by omega, restAbove.mono (by omega)⟩

end AdditionalTsnBlocks

end MaeRtc.DcSctp
