import MaeRtc.VideoCoding.FrameBuffer

/-!
# The search for a decodable unit

At each frame the search knows the unit that ends there: the frames before it, as far back
as they have its timestamp.  It finds the first frame that is the last of its layers, is
not after the last continuous one and whose unit is decodable.
-/

namespace MaeRtc.VideoCoding

namespace FrameBuffer

/-- The unit that ends with the last of these frames. -/
def unitOf (frames : List FrameInfo) : List FrameInfo :=
  frames.foldl extendUnit []

theorem unitOf_snoc (frames : List FrameInfo) (it : FrameInfo) :
    unitOf (frames ++ [it]) = extendUnit (unitOf frames) it := by
  simp [unitOf]

/-- Frames with one timestamp up to the end, before which the timestamp is another one. -/
structure EndsWithUnit (frames before unit : List FrameInfo) (it : FrameInfo) : Prop where
  split : frames = before ++ unit
  last : unit.getLast? = some it
  same : ∀ other ∈ unit, other.timestamp = it.timestamp
  maximal : ∀ earlier ∈ before.getLast?, earlier.timestamp ≠ it.timestamp

variable {frames unit : List FrameInfo} {it : FrameInfo}

theorem EndsWithUnit.head {before : List FrameInfo} (ends : EndsWithUnit frames before unit it) :
    ∃ first rest, unit = first :: rest ∧ first.timestamp = it.timestamp := by
  cases unit with
  | nil => cases ends.last
  | cons first rest => exact ⟨first, rest, rfl, ends.same first List.mem_cons_self⟩

theorem unitOf_spec (frames : List FrameInfo) (it : FrameInfo) :
    ∃ before, EndsWithUnit (frames ++ [it]) before (unitOf (frames ++ [it])) it := by
  induction frames using List.reverseRecOn generalizing it with
  | nil => exact ⟨[], by simp [unitOf, extendUnit], by simp [unitOf, extendUnit],
      by simp [unitOf, extendUnit], by simp⟩
  | append_singleton earlier previous ih =>
    obtain ⟨before, ends⟩ := ih previous
    obtain ⟨first, rest, isUnit, isFirst⟩ := ends.head
    rw [unitOf_snoc]
    by_cases same : previous.timestamp = it.timestamp
    · have extended : extendUnit (unitOf (earlier ++ [previous])) it =
          unitOf (earlier ++ [previous]) ++ [it] := by
        rw [extendUnit, if_pos]
        rw [isUnit]
        exact decide_eq_true (isFirst.trans same)
      refine ⟨before, ?_, ?_, ?_, ?_⟩
      · rw [extended, ← List.append_assoc, ← ends.split]
      · rw [extended, List.getLast?_concat]
      · rw [extended]
        refine List.forall_mem_append.mpr ⟨fun other member => ?_, by simp⟩
        rw [ends.same other member, same]
      · rw [← same]
        exact ends.maximal
    · have fresh : extendUnit (unitOf (earlier ++ [previous])) it = [it] := by
        rw [extendUnit, if_neg]
        rw [isUnit]
        simpa [isFirst] using same
      refine ⟨earlier ++ [previous], ?_, ?_, ?_, ?_⟩
      · rw [fresh]
      · rw [fresh]
        rfl
      · rw [fresh]
        simp
      · simpa using same

variable {rest : List FrameInfo}

theorem foldl_extendUnit {first : FrameInfo} (isFirst : unit.head? = some first)
    (same : ∀ it ∈ rest, it.timestamp = first.timestamp) :
    rest.foldl extendUnit unit = unit ++ rest := by
  induction rest generalizing unit with
  | nil => simp
  | cons it rest ih =>
    obtain ⟨sameHere, sameLater⟩ := List.forall_mem_cons.mp same
    have extended : extendUnit unit it = unit ++ [it] := by
      rw [extendUnit, if_pos]
      rw [isFirst]
      exact decide_eq_true sameHere.symm
    rw [List.foldl_cons, extended, ih (by simp [isFirst]) sameLater, List.append_assoc]
    rfl

theorem unitOf_eq {before : List FrameInfo}
    (ends : EndsWithUnit frames before unit it) : unitOf frames = unit := by
  obtain ⟨first, rest, rfl, isFirst⟩ := ends.head
  have started : extendUnit (unitOf before) first = [first] := by
    rcases List.eq_nil_or_concat before with rfl | ⟨earlier, previous, rfl⟩
    · rfl
    obtain ⟨_, endsBefore⟩ := unitOf_spec earlier previous
    obtain ⟨head, tail, isUnit, isHead⟩ := endsBefore.head
    have differs := ends.maximal previous (by simp)
    rw [List.concat_eq_append, extendUnit, if_neg]
    rw [isUnit]
    simpa [isHead, isFirst] using differs
  rw [ends.split, unitOf, List.foldl_append, List.foldl_cons]
  change List.foldl extendUnit (extendUnit (unitOf before) first) rest = _
  rw [started, foldl_extendUnit rfl fun other member => ?_]
  · rfl
  · rw [isFirst, ends.same other (List.mem_cons_of_mem _ member)]

/-! ## The loop -/

section

variable (history : DecodedFramesHistory) (lastContinuous : Int)

/-- The frame at the end of these is the last of a decodable unit. -/
def DecodableAt (frames : List FrameInfo) (it : FrameInfo) : Prop :=
  it.isLastFrameInTemporalUnit = true ∧
    temporalUnitDecodable history (unitOf (frames ++ [it])) = true

variable {history lastContinuous}

theorem findDecodable_some (rest unit : List FrameInfo) (found : TemporalUnit)
    (lastTimestamp : BitVec 32) :
    (findDecodable history lastContinuous rest unit (some found) lastTimestamp).1 = some found := by
  induction rest generalizing unit lastTimestamp with
  | nil => rfl
  | cons it rest ih =>
    unfold findDecodable
    dsimp only
    split_ifs
    · rfl
    · exact ih _ _
    · exact ih _ _

variable {lastTimestamp : BitVec 32}

/-- What is found is a decodable unit, and no unit that ends before it is decodable. -/
theorem findDecodable_sound (passed : List FrameInfo) {found : TemporalUnit}
    (isFound : (findDecodable history lastContinuous rest (unitOf passed) none lastTimestamp).1 =
      some found) :
    ∃ between it after, rest = between ++ it :: after ∧
      DecodableAt history (passed ++ between) it ∧
      found = ⟨((unitOf (passed ++ between ++ [it])).headD it).frameId, it.frameId⟩ ∧
      ∀ earlier other later, between = earlier ++ other :: later →
        ¬ DecodableAt history (passed ++ earlier) other := by
  induction rest generalizing passed lastTimestamp with
  | nil => cases isFound
  | cons it rest ih =>
    unfold findDecodable at isFound
    dsimp only at isFound
    rw [← unitOf_snoc] at isFound
    split_ifs at isFound with tooNew decodable
    · rw [Option.orElse_none, findDecodable_some] at isFound
      cases isFound
      exact ⟨[], it, rest, rfl, by simpa [DecodableAt] using decodable, by simp, by simp⟩
    obtain ⟨between, last, after, rfl, isDecodable, isUnit, first⟩ := ih _ isFound
    simp only [List.append_assoc] at isDecodable isUnit first
    refine ⟨it :: between, last, after, rfl, isDecodable, by simpa using isUnit, ?_⟩
    intro earlier other later isEarlier
    cases earlier with
    | nil =>
      cases isEarlier
      simpa [DecodableAt] using decodable
    | cons head earlier =>
      obtain ⟨rfl, isLater⟩ := List.cons_eq_cons.mp isEarlier
      exact first earlier other later isLater

/-- A decodable unit is found, if its frames are not after the last continuous one. -/
theorem findDecodable_complete (passed : List FrameInfo) {between after : List FrameInfo}
    (split : rest = between ++ it :: after)
    (reached : ∀ other ∈ between ++ [it], other.frameId ≤ lastContinuous)
    (isDecodable : DecodableAt history (passed ++ between) it) :
    (findDecodable history lastContinuous rest (unitOf passed) none lastTimestamp).1 ≠ none := by
  induction rest generalizing passed lastTimestamp between with
  | nil => simp at split
  | cons head rest ih =>
    unfold findDecodable
    dsimp only
    rw [← unitOf_snoc]
    cases between with
    | nil =>
      obtain ⟨rfl, rfl⟩ := List.cons_eq_cons.mp split
      have isReached := reached head (by simp)
      rw [if_neg (by omega), if_pos (by simpa [DecodableAt] using isDecodable),
        Option.orElse_none, findDecodable_some]
      exact Option.some_ne_none _
    | cons other between =>
      obtain ⟨rfl, isRest⟩ := List.cons_eq_cons.mp split
      have isReached := reached head (by simp)
      rw [if_neg (by omega)]
      split_ifs with decodable
      · rw [Option.orElse_none, findDecodable_some]
        exact Option.some_ne_none _
      · refine ih (passed ++ [head]) isRest (fun other member => reached other ?_) ?_
        · exact List.mem_cons_of_mem _ member
        · simpa using isDecodable

/-- The unit that the search finds among all frames. -/
theorem findDecodable_first {found : TemporalUnit}
    (isFound : (findDecodable history lastContinuous frames [] none lastTimestamp).1 = some found) :
    ∃ between it after, frames = between ++ it :: after ∧ DecodableAt history between it ∧
      found = ⟨((unitOf (between ++ [it])).headD it).frameId, it.frameId⟩ ∧
      ∀ earlier other later, between = earlier ++ other :: later →
        ¬ DecodableAt history earlier other := by
  obtain ⟨between, it, after, split, decodable, isUnit, first⟩ := findDecodable_sound [] isFound
  refine ⟨between, it, after, split, decodable, isUnit, fun earlier other later isEarlier => ?_⟩
  have notDecodable := first earlier other later isEarlier
  rwa [List.nil_append] at notDecodable

end

end FrameBuffer

end MaeRtc.VideoCoding
