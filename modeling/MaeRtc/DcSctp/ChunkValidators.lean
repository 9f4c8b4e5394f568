import MaeRtc.DcSctp.DataTracker

/-!
# Cleaning of received acknowledgements

`ChunkValidators` of `chunk_validators.cc`.  Whatever gap-ack blocks a peer
sends, the blocks that are left are no empty ranges, and each of them starts
at a distance from the end of the one before it.
-/

namespace MaeRtc.DcSctp.ChunkValidators

/-- The blocks follow `prevEnd` in order, and do not touch each other. -/
def validateFrom (prevEnd : Nat) : List GapAckBlock → Bool
  | [] => true
  | block :: rest =>
    if block.stop < block.start then false
    else if block.start.toNat ≤ prevEnd + 1 then false
    else validateFrom block.stop.toNat rest

def validate (sack : SackChunk) : Bool :=
  if sack.gapAckBlocks.isEmpty then true else validateFrom 0 sack.gapAckBlocks

/-- The merging loop; `back` is the last of the merged blocks. -/
def mergeFrom (back : GapAckBlock) : List GapAckBlock → List GapAckBlock
  | [] => [back]
  | block :: rest =>
    if back.stop.toNat + 1 ≥ block.start.toNat then
      mergeFrom { back with stop := if back.stop < block.stop then block.stop else back.stop }
        rest
    else back :: mergeFrom block rest

/-- A malformed acknowledgement loses its bad blocks, and the others are merged. -/
def clean (sack : SackChunk) : SackChunk :=
  if validate sack then sack
  else
    let gapAckBlocks := sack.gapAckBlocks.filter fun block => block.start < block.stop
    if gapAckBlocks.length ≤ 1 then { sack with gapAckBlocks := gapAckBlocks }
    else
      let merged := match gapAckBlocks.mergeSort fun one two => one.start ≤ two.start with
        | [] => []
        | block :: rest => mergeFrom block rest
      { sack with gapAckBlocks := merged }

/-- Every block ends where it starts or later, and lies above the one before it. -/
structure Spaced (blocks : List GapAckBlock) : Prop where
  apart : blocks.IsChain fun one two => one.stop.toNat + 1 < two.start.toNat
  nonempty : ∀ block ∈ blocks, block.start.toNat ≤ block.stop.toNat

theorem Spaced.cons {block : GapAckBlock} {rest : List GapAckBlock} (spaced : Spaced rest)
    (nonempty : block.start.toNat ≤ block.stop.toNat)
    (above : ∀ next ∈ rest.head?, block.stop.toNat + 1 < next.start.toNat) :
    Spaced (block :: rest) := by
  refine ⟨List.isChain_cons.mpr ⟨above, spaced.apart⟩, ?_⟩
  rintro other (_ | ⟨_, member⟩)
  · exact nonempty
  · exact spaced.nonempty other member

variable {blocks : List GapAckBlock}

/-- Validated blocks are spaced, and the first one is above the previous end. -/
theorem validateFrom_spaced {prevEnd : Nat} (valid : validateFrom prevEnd blocks = true) :
    Spaced blocks ∧ ∀ block ∈ blocks.head?, prevEnd + 1 < block.start.toNat := by
  induction blocks generalizing prevEnd with
  | nil => exact ⟨⟨List.isChain_nil, by simp⟩, by simp⟩
  | cons block rest ih =>
    unfold validateFrom at valid
    split_ifs at valid with empty close
    obtain ⟨restSpaced, above⟩ := ih valid
    have nonempty : block.start.toNat ≤ block.stop.toNat := by
      rw [BitVec.lt_def] at empty
      omega
    refine ⟨restSpaced.cons nonempty above, ?_⟩
    rintro other ⟨⟩
    omega

/-- Merged blocks are spaced, and start where the first block does. -/
theorem mergeFrom_spaced {back : GapAckBlock} (backNonempty : back.start.toNat ≤ back.stop.toNat)
    (nonempty : ∀ block ∈ blocks, block.start.toNat ≤ block.stop.toNat) :
    Spaced (mergeFrom back blocks) ∧
      ∀ first ∈ (mergeFrom back blocks).head?, first.start = back.start := by
  induction blocks generalizing back with
  | nil =>
    refine ⟨⟨List.isChain_singleton _, ?_⟩, by simp [mergeFrom]⟩
    simpa [mergeFrom] using backNonempty
  | cons block rest ih =>
    have restNonempty := fun other member => nonempty other (List.mem_cons_of_mem block member)
    unfold mergeFrom
    by_cases close : back.stop.toNat + 1 ≥ block.start.toNat
    · rw [if_pos close]
      refine ih ?_ restNonempty
      dsimp only
      split_ifs with longer
      · rw [BitVec.lt_def] at longer
        omega
      · exact backNonempty
    · rw [if_neg close]
      obtain ⟨restSpaced, restFirst⟩ := ih (nonempty block List.mem_cons_self) restNonempty
      refine ⟨restSpaced.cons backNonempty fun next first => ?_, by simp⟩
      rw [restFirst next first]
      omega

/-- Whatever blocks an acknowledgement carries, the cleaned ones are spaced. -/
theorem clean_spaced (sack : SackChunk) : Spaced (clean sack).gapAckBlocks := by
  unfold clean
  by_cases valid : validate sack = true
  · rw [if_pos valid]
    unfold validate at valid
    split_ifs at valid with empty
    · rw [List.isEmpty_iff.mp empty]
      exact ⟨List.isChain_nil, by simp⟩
    · exact (validateFrom_spaced valid).1
  · rw [if_neg valid]
    dsimp only
    have nonempty : ∀ block ∈ sack.gapAckBlocks.filter (fun block => block.start < block.stop),
        block.start.toNat ≤ block.stop.toNat := by
      intro block member
      have ordered := of_decide_eq_true (List.mem_filter.mp member).2
      rw [BitVec.lt_def] at ordered
      omega
    split
    next short =>
      refine ⟨?_, nonempty⟩
      generalize sack.gapAckBlocks.filter (fun block => block.start < block.stop) = kept at short
      rcases kept with _ | ⟨block, _ | ⟨other, rest⟩⟩
      · exact List.isChain_nil
      · exact List.isChain_singleton block
      · exact absurd short (by simp)
    · have sortedNonempty : ∀ block ∈ List.mergeSort
          (sack.gapAckBlocks.filter fun block => block.start < block.stop)
          (fun one two => one.start ≤ two.start), block.start.toNat ≤ block.stop.toNat :=
        fun block member => nonempty block (List.mem_mergeSort.mp member)
      split
      · exact ⟨List.isChain_nil, by simp⟩
      next block rest sorted =>
        rw [sorted] at sortedNonempty
        exact (mergeFrom_spaced (sortedNonempty block List.mem_cons_self) fun other member =>
          sortedNonempty other (List.mem_cons_of_mem block member)).1

/-! ## The offsets that stay acknowledged -/

/-- The offsets that the blocks acknowledge; a block that ends before it starts has none. -/
def covered (blocks : List GapAckBlock) : Set Nat :=
  {offset | ∃ block ∈ blocks, block.start.toNat ≤ offset ∧ offset ≤ block.stop.toNat}

theorem mem_covered_cons {block : GapAckBlock} {rest : List GapAckBlock} {offset : Nat} :
    offset ∈ covered (block :: rest) ↔
      (block.start.toNat ≤ offset ∧ offset ≤ block.stop.toNat) ∨ offset ∈ covered rest := by
  simp [covered]

/-- Merging sorted blocks changes none of the offsets. -/
theorem mem_covered_mergeFrom {back : GapAckBlock}
    (sorted : (back :: blocks).Pairwise fun one two => one.start.toNat ≤ two.start.toNat)
    (offset : Nat) :
    offset ∈ covered (mergeFrom back blocks) ↔ offset ∈ covered (back :: blocks) := by
  induction blocks generalizing back with
  | nil => rfl
  | cons block rest ih =>
    obtain ⟨first, later⟩ := List.pairwise_cons.mp sorted
    have ordered := first block List.mem_cons_self
    rw [mem_covered_cons, mergeFrom]
    by_cases close : back.stop.toNat + 1 ≥ block.start.toNat
    · rw [if_pos close, ih, mem_covered_cons, mem_covered_cons, ← or_assoc]
      · refine or_congr_left ?_
        dsimp only
        split_ifs with longer <;> rw [BitVec.lt_def] at longer <;> omega
      · exact List.pairwise_cons.mpr
          ⟨fun other member => first other (List.mem_cons_of_mem block member),
            (List.pairwise_cons.mp later).2⟩
    · rw [if_neg close, mem_covered_cons, ih later]

/-- A malformed acknowledgement keeps what its blocks of two or more offsets cover. -/
theorem mem_covered_clean {sack : SackChunk} (malformed : validate sack = false) (offset : Nat) :
    offset ∈ covered (clean sack).gapAckBlocks ↔
      ∃ block ∈ sack.gapAckBlocks, block.start < block.stop ∧
        block.start.toNat ≤ offset ∧ offset ≤ block.stop.toNat := by
  have keeps : offset ∈ covered (sack.gapAckBlocks.filter fun block => block.start < block.stop) ↔
      ∃ block ∈ sack.gapAckBlocks, block.start < block.stop ∧
        block.start.toNat ≤ offset ∧ offset ≤ block.stop.toNat := by
    simp only [covered, Set.mem_ofPred_eq, List.mem_filter, decide_eq_true_eq, and_assoc]
  rw [← keeps]
  unfold clean
  rw [if_neg (by simp [malformed])]
  dsimp only
  generalize sack.gapAckBlocks.filter (fun block => block.start < block.stop) = kept
  split
  · rfl
  have same : ∀ block, block ∈ kept.mergeSort (fun one two => one.start ≤ two.start) ↔
      block ∈ kept := fun _ => List.mem_mergeSort
  have sorted := @List.pairwise_mergeSort _
    (fun one two : GapAckBlock => decide (one.start ≤ two.start))
    (fun a b c => by simpa using BitVec.le_trans)
    (fun a b => by simpa using BitVec.le_total a.start b.start) kept
  split
  next isNil =>
    simp only [covered, ← same, isNil]
  next block rest isCons =>
    rw [isCons] at sorted
    rw [mem_covered_mergeFrom (sorted.imp fun ordered =>
      BitVec.le_def.mp (of_decide_eq_true ordered))]
    simp only [covered, ← same, isCons]

/-- Every offset that a block acknowledges alone is acknowledged by a longer block as well. -/
def SinglesCovered (sack : SackChunk) : Prop :=
  ∀ block ∈ sack.gapAckBlocks, block.start = block.stop →
    ∃ other ∈ sack.gapAckBlocks, other.start < other.stop ∧
      other.start ≤ block.start ∧ block.start ≤ other.stop

/--
Cleaning leaves spaced blocks.  They acknowledge what the blocks received did exactly if
the blocks were valid, or if none of the blocks with a single offset is needed: these are
dropped from an acknowledgement that is cleaned.
-/
theorem clean_preserves_iff (sack : SackChunk) :
    (Spaced (clean sack).gapAckBlocks ∧
        covered (clean sack).gapAckBlocks = covered sack.gapAckBlocks) ↔
      validate sack = true ∨ SinglesCovered sack := by
  constructor
  · rintro ⟨-, same⟩
    by_cases valid : validate sack = true
    · exact .inl valid
    · refine .inr fun block member single => ?_
      have inside : block.start.toNat ∈ covered sack.gapAckBlocks :=
        ⟨block, member, le_refl _, by rw [single]⟩
      rw [← same, mem_covered_clean (Bool.not_eq_true _ ▸ valid)] at inside
      simpa only [BitVec.le_def] using inside
  · intro condition
    refine ⟨clean_spaced sack, ?_⟩
    by_cases valid : validate sack = true
    · rw [clean, if_pos valid]
    · have singles := condition.resolve_left valid
      ext offset
      rw [mem_covered_clean (Bool.not_eq_true _ ▸ valid)]
      constructor
      · rintro ⟨block, member, -, inside⟩
        exact ⟨block, member, inside⟩
      · rintro ⟨block, member, lower, upper⟩
        by_cases longer : block.start < block.stop
        · exact ⟨block, member, longer, lower, upper⟩
        · rw [BitVec.lt_def] at longer
          have single : block.start = block.stop := BitVec.eq_of_toNat_eq (by omega)
          obtain ⟨other, otherMember, otherLonger, below, above⟩ := singles block member single
          rw [BitVec.le_def] at below above
          exact ⟨other, otherMember, otherLonger, by omega, by rw [single] at lower above; omega⟩

/-- Two received packets, reported in the wrong order. -/
def unsortedSack : SackChunk :=
  ⟨10, 1000, [⟨4, 4⟩, ⟨2, 2⟩], ∅⟩

/-- None of the two packets stays acknowledged. -/
theorem clean_drops_singles :
    (clean unsortedSack).gapAckBlocks = [] ∧ 4 ∈ covered unsortedSack.gapAckBlocks ∧
      4 ∉ covered (clean unsortedSack).gapAckBlocks := by
  have dropped : (clean unsortedSack).gapAckBlocks = [] := by decide
  refine ⟨dropped, ⟨⟨4, 4⟩, List.mem_cons_self, by decide, by decide⟩, ?_⟩
  rintro ⟨_, member, -⟩
  cases member

end MaeRtc.DcSctp.ChunkValidators
