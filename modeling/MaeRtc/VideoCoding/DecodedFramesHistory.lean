import MaeRtc.Base.Checked
import MaeRtc.Base.CyclicIndex
import MaeRtc.Base.Words

/-!
# The history of decoded frames

`DecodedFramesHistory` of `decoded_frames_history.cc`: which of the last frame ids were
decoded, in a cyclic buffer.  The index of an id is its remainder, taken of unsigned
numbers; for a negative id this is the right one only if the size of the buffer divides
2^64.
-/

namespace MaeRtc.VideoCoding

open Base

/-- What the calls must not come to: the assertion of `InsertDecoded`, an iterator that no
longer points into the map, and a frame that was moved out of its entry. -/
inductive FrameViolation where
  | notIncreasing
  | danglingIterator
  | nullFrame
  deriving DecidableEq, Repr

structure DecodedFramesHistory where
  buffer : List Bool
  lastFrameId : Option Int := none
  lastDecodedFrame : Option Int := none
  lastDecodedFrameTimestamp : Option (BitVec 32) := none
  deriving DecidableEq, Repr

namespace DecodedFramesHistory

def new (windowSize : Nat) : DecodedFramesHistory where
  buffer := List.replicate windowSize false

/-- The id is converted to the unsigned type of the size, so that the remainder is never
negative.  It fits in an `int` if the window has less than 2^31 ids. -/
def frameIdToIndex (history : DecodedFramesHistory) (frameId : Int) : Nat :=
  uint64 frameId % history.buffer.length

/-- The buffer without the values that are too old once the frame is the last one. -/
def expire (history : DecodedFramesHistory) (frameId : Int) : List Bool :=
  match history.lastFrameId with
  | none => history.buffer
  | some lastFrameId =>
    let idJump := int64 (frameId - lastFrameId)
    let lastIndex := history.frameIdToIndex lastFrameId
    let newIndex := history.frameIdToIndex frameId
    if idJump ≥ history.buffer.length then fill history.buffer 0 history.buffer.length false
    else if newIndex > lastIndex then fill history.buffer (lastIndex + 1) newIndex false
    else
      fill (fill history.buffer (lastIndex + 1) history.buffer.length false) 0 newIndex false

def insertDecoded (history : DecodedFramesHistory) (frameId : Int) (timestamp : BitVec 32) :
    Except FrameViolation DecodedFramesHistory := do
  check (history.lastFrameId.all (· < frameId)) .notIncreasing
  .ok {
    buffer := (history.expire frameId).set (history.frameIdToIndex frameId) true
    lastFrameId := some frameId
    lastDecodedFrame := some frameId
    lastDecodedFrameTimestamp := some timestamp }

def wasDecoded (history : DecodedFramesHistory) (frameId : Int) : Bool :=
  match history.lastFrameId with
  | none => false
  | some lastFrameId =>
    if frameId ≤ int64 (lastFrameId - history.buffer.length) then false
    else if frameId > lastFrameId then false
    else (history.buffer[history.frameIdToIndex frameId]?).getD false

def clear (history : DecodedFramesHistory) : DecodedFramesHistory where
  buffer := fill history.buffer 0 history.buffer.length false

end DecodedFramesHistory

/-! ## Ids whose index is their remainder -/

/-- The signed remainder and the unsigned one agree. -/
def Addressable (window : Nat) (id : Int) : Prop :=
  0 ≤ id ∨ 2 ^ 64 % window = 0

instance (window : Nat) (id : Int) : Decidable (Addressable window id) :=
  inferInstanceAs (Decidable (_ ∨ _))

/-- The differences of ids and the size of the window do not overflow. -/
structure InRange (window : Nat) (id : Int) : Prop where
  positive : 0 < window
  window_lt : window < 2 ^ 31
  lower : -2 ^ 62 ≤ id
  upper : id < 2 ^ 62

namespace DecodedFramesHistory

variable {id : Int}

theorem frameIdToIndex_eq {history : DecodedFramesHistory}
    (addressable : Addressable history.buffer.length id) (lower : -2 ^ 63 ≤ id)
    (upper : id < 2 ^ 63) : (history.frameIdToIndex id : Int) = id % history.buffer.length := by
  have unsigned : (uint64 id : Int) = id % 2 ^ 64 :=
    Int.toNat_of_nonneg (Int.emod_nonneg _ (by decide))
  rw [frameIdToIndex, Int.natCast_mod, unsigned]
  rcases addressable with nonneg | divides
  · rw [Int.emod_eq_of_lt nonneg (by omega)]
  · refine Int.emod_emod_of_dvd _ ?_
    exact_mod_cast Nat.dvd_of_mod_eq_zero divides

/--
The history agrees with the list of ids that were decoded, newest first, as far back as its
window reaches.
-/
structure Remembers (history : DecodedFramesHistory) (decoded : List Int) : Prop where
  last : history.lastFrameId = decoded.head?
  lastDecoded : history.lastDecodedFrame = decoded.head?
  ordered : decoded.Pairwise (· > ·)
  regular : ∀ id ∈ decoded, InRange history.buffer.length id ∧
    Addressable history.buffer.length id
  empty : decoded = [] → ∀ i < history.buffer.length, history.buffer[i]? = some false
  held : ∀ last ∈ decoded.head?, ∀ id, last - history.buffer.length < id → id ≤ last →
    history.buffer[(id % history.buffer.length).toNat]? = some (decide (id ∈ decoded))

variable {history : DecodedFramesHistory} {decoded : List Int}

theorem Remembers.lt_of_mem (remembers : history.Remembers decoded) {last : Int}
    (isLast : last ∈ decoded.head?) (member : id ∈ decoded) : id ≤ last := by
  cases decoded with
  | nil => cases member
  | cons newest rest =>
    cases isLast
    rcases List.mem_cons.mp member with rfl | older
    · exact le_refl id
    · exact (List.rel_of_pairwise_cons remembers.ordered older).le

theorem remembers_new (windowSize : Nat) : (new windowSize).Remembers [] :=
  ⟨rfl, rfl, .nil, by simp, fun _ i inside => by
    rw [new, List.length_replicate] at inside
    simp [new, inside], by simp⟩

theorem remembers_clear (history : DecodedFramesHistory) : history.clear.Remembers [] := by
  refine ⟨rfl, rfl, .nil, by simp, fun _ i inside => ?_, by simp⟩
  rw [clear, length_fill] at inside
  rw [clear, getElem?_fill, List.getElem?_eq_getElem inside, Option.map_some,
    if_pos ⟨i.zero_le, inside⟩]

theorem Remembers.wasDecoded_iff (remembers : history.Remembers decoded)
    (addressable : Addressable history.buffer.length id) :
    history.wasDecoded id = true ↔
      id ∈ decoded ∧ ∀ last ∈ decoded.head?, last - history.buffer.length < id := by
  unfold wasDecoded
  rw [remembers.last]
  cases isLast : decoded.head? with
  | none =>
    rw [List.head?_eq_none_iff] at isLast
    simp [isLast]
  | some last =>
    have range := (remembers.regular last (List.mem_of_head? isLast)).1
    have noOverflow : int64 (last - history.buffer.length) = last - history.buffer.length :=
      Words.int64_of_small (by have := range.lower; have := range.window_lt; omega)
        (by have := range.upper; omega)
    dsimp only
    rw [noOverflow]
    have bound : (∀ newest ∈ some last, newest - (history.buffer.length : Int) < id) ↔
        last - history.buffer.length < id := by simp
    rw [bound]
    split_ifs with tooOld tooNew
    · simp only [false_iff, not_and, not_lt]
      exact fun _ => tooOld
    · simp only [false_iff, not_and]
      intro member
      have := remembers.lt_of_mem isLast member
      omega
    · have isIndex := frameIdToIndex_eq addressable
        (by have := range.lower; have := range.window_lt; omega)
        (by have := range.upper; omega)
      have index : history.frameIdToIndex id = (id % history.buffer.length).toNat := by omega
      rw [index, remembers.held last isLast id (by omega) (by omega), Option.getD_some,
        decide_eq_true_eq]
      simp only [iff_self_and]
      omega

@[simp] theorem length_expire (history : DecodedFramesHistory) (frameId : Int) :
    (history.expire frameId).length = history.buffer.length := by
  unfold expire
  cases history.lastFrameId with
  | none => rfl
  | some last =>
    dsimp only
    split_ifs <;> simp

section

variable {newId : Int} (remembers : history.Remembers decoded)
  (range : InRange history.buffer.length newId)
  (addressable : Addressable history.buffer.length newId)
  (increasing : ∀ last ∈ decoded.head?, last < newId)
include remembers range addressable increasing

/-- What is left once a frame is the last one: the ids after the last one so far are
forgotten, the others are as they were. -/
theorem Remembers.getElem?_expire (near : newId - history.buffer.length < id) (older : id < newId) :
    (history.expire newId)[(id % history.buffer.length).toNat]? = some (decide (id ∈ decoded)) := by
  have positive : (0 : Int) < history.buffer.length := by exact_mod_cast range.positive
  have lower := Int.emod_nonneg id positive.ne'
  have upper := Int.emod_lt_of_pos id positive
  have inside : (id % history.buffer.length).toNat < history.buffer.length := by omega
  unfold expire
  rw [remembers.last]
  cases isLast : decoded.head? with
  | none =>
    rw [List.head?_eq_none_iff] at isLast
    rw [remembers.empty isLast _ inside]
    simp [isLast]
  | some last =>
    obtain ⟨lastRange, lastAddressable⟩ := remembers.regular last (List.mem_of_head? isLast)
    have isNewer := increasing last isLast
    have noOverflow : int64 (newId - last) = newId - last :=
      Words.int64_of_small (by omega) (by have := range.upper; have := lastRange.lower; omega)
    have lastIndex := frameIdToIndex_eq lastAddressable
      (by have := lastRange.lower; omega) (by have := lastRange.upper; omega)
    have newIndex := frameIdToIndex_eq addressable
      (by have := range.lower; omega) (by have := range.upper; omega)
    have notLater : last < id → decide (id ∈ decoded) = false := fun later =>
      decide_eq_false fun member => by
        have := remembers.lt_of_mem isLast member
        omega
    have isIndex := Int.toNat_of_nonneg lower
    dsimp only
    rw [noOverflow]
    by_cases jump : newId - last ≥ history.buffer.length
    · rw [if_pos jump, getElem?_fill, List.getElem?_eq_getElem inside, Option.map_some,
        if_pos ⟨Nat.zero_le _, inside⟩, notLater (by omega)]
    · -- The stretch from the id behind the last one to the new one is filled.
      have next := emod_of_ahead positive (by omega : last ≤ last + 1) (by omega)
      have lastInside := Int.emod_lt_of_pos last positive
      have isNext : ((history.frameIdToIndex last + 1 : Nat) : Int) =
          (last + 1) % history.buffer.length ∨ history.frameIdToIndex last + 1 =
            history.buffer.length ∧ (last + 1) % (history.buffer.length : Int) = 0 := by omega
      have filled := getElem?_fill_blocks false (by omega : last + 1 ≤ newId) (by omega)
        (by omega) (by omega) isIndex isNext newIndex
      rw [if_neg jump]
      refine filled.trans ?_
      split_ifs with between
      · rw [notLater (by omega)]
      · exact remembers.held last isLast id (by omega) (by omega)

/-- A frame with a higher id is remembered as the last one. -/
theorem Remembers.insertDecoded (timestamp : BitVec 32) :
    Ensures (history.insertDecoded newId timestamp) fun after =>
      after.Remembers (newId :: decoded) ∧ after.buffer.length = history.buffer.length := by
  have positive : (0 : Int) < history.buffer.length := by exact_mod_cast range.positive
  have isIncreasing : history.lastFrameId.all (· < newId) = true := by
    rw [remembers.last]
    cases isLast : decoded.head? with
    | none => rfl
    | some last => exact decide_eq_true (increasing last isLast)
  have newIndex := frameIdToIndex_eq addressable
    (by have := range.lower; omega) (by have := range.upper; omega)
  refine (Ensures.check isIncreasing).bind fun _ _ => .ok ⟨?_, by simp⟩
  refine ⟨rfl, rfl, List.pairwise_cons.mpr ⟨fun id member => ?_, remembers.ordered⟩, ?_,
    fun isNil => absurd isNil (List.cons_ne_nil _ _), ?_⟩
  · obtain ⟨last, isLast⟩ : ∃ last, decoded.head? = some last :=
      ⟨_, List.head?_eq_some_head (List.ne_nil_of_mem member)⟩
    exact (remembers.lt_of_mem isLast member).trans_lt (increasing last isLast)
  · simp only [List.length_set, length_expire]
    exact List.forall_mem_cons.mpr ⟨⟨range, addressable⟩, remembers.regular⟩
  · rintro _ ⟨⟩ id near notNewer
    simp only [List.length_set, length_expire] at near ⊢
    have upper := Int.emod_lt_of_pos id positive
    have lower := Int.emod_nonneg id positive.ne'
    rcases lt_or_eq_of_le notNewer with older | rfl
    · have differs : history.frameIdToIndex newId ≠ (id % history.buffer.length).toNat := by
        have := emod_of_ahead positive older.le (by omega)
        omega
      rw [List.getElem?_set_ne differs,
        remembers.getElem?_expire range addressable increasing near older]
      simp [older.ne]
    · have index : history.frameIdToIndex id = (id % history.buffer.length).toNat := by omega
      rw [index, List.getElem?_set_self (by rw [length_expire]; omega)]
      simp

end

/-! ## Runs of calls -/

/-- A call that changes the history. -/
inductive Call where
  | insertDecoded (frameId : Int) (timestamp : BitVec 32)
  | clear
  deriving DecidableEq, Repr

def call (history : DecodedFramesHistory) : Call → Except FrameViolation DecodedFramesHistory
  | .insertDecoded frameId timestamp => history.insertDecoded frameId timestamp
  | .clear => .ok history.clear

/-- The ids inserted since the last `Clear`, newest first, if `decoded` were before the calls. -/
def decodedSince (decoded : List Int) (calls : List Call) : List Int :=
  calls.foldl (fun decoded next => match next with
    | .insertDecoded frameId _ => frameId :: decoded
    | .clear => []) decoded

/-- The ids increase between two calls of `Clear`, and each of them has its remainder as its
index. -/
def Regular (window : Nat) : List Int → List Call → Prop
  | _, [] => True
  | decoded, .insertDecoded frameId _ :: rest =>
    (∀ last ∈ decoded.head?, last < frameId) ∧ InRange window frameId ∧
      Addressable window frameId ∧ Regular window (frameId :: decoded) rest
  | _, .clear :: rest => Regular window [] rest

theorem Remembers.calls (remembers : history.Remembers decoded) {calls : List Call}
    (regular : Regular history.buffer.length decoded calls) :
    Ensures (calls.foldlM call history) fun after =>
      after.Remembers (decodedSince decoded calls) ∧
        after.buffer.length = history.buffer.length := by
  induction calls generalizing history decoded with
  | nil => exact .ok ⟨remembers, rfl⟩
  | cons next rest ih =>
    cases next with
    | insertDecoded frameId timestamp =>
      obtain ⟨increasing, range, addressable, later⟩ := regular
      refine (remembers.insertDecoded range addressable increasing timestamp).bind
        fun after inserted => ?_
      obtain ⟨afterRemembers, sameLength⟩ := inserted
      refine (ih afterRemembers (sameLength ▸ later)).weaken fun final reached => ?_
      exact ⟨reached.1, reached.2.trans sameLength⟩
    | clear =>
      have sameLength : history.clear.buffer.length = history.buffer.length :=
        length_fill _ _ _ _
      refine (ih (remembers_clear history) (sameLength.symm ▸ regular)).weaken
        fun final reached => ?_
      exact ⟨reached.1, reached.2.trans sameLength⟩

/--
If the ids are not negative, or if the window divides 2^64, the history is exact: an id was
decoded if it was inserted since the last `Clear` and is still within the window.
-/
theorem wasDecoded_iff_of_regular (window : Nat) (calls : List Call)
    (regular : Regular window [] calls) :
    ∃ history, calls.foldlM call (new window) = .ok history ∧
      ∀ id, Addressable window id → (history.wasDecoded id = true ↔ id ∈ decodedSince [] calls ∧
          ∀ last ∈ (decodedSince [] calls).head?, last - window < id) := by
  have length : (new window).buffer.length = window := List.length_replicate
  obtain ⟨history, ran, remembers, sameLength⟩ :=
    (remembers_new window).calls (by rw [length]; exact regular)
  refine ⟨history, ran, fun id addressable => ?_⟩
  rw [length] at sameLength
  have exact := remembers.wasDecoded_iff (sameLength.symm ▸ addressable)
  rwa [sameLength] at exact

/-- Three frames are decoded, and the window is left by the first one. -/
theorem wasDecoded_iff_of_regular_three :
    let calls := [.insertDecoded 0 0, .insertDecoded 2 0, .insertDecoded 5 0]
    Regular 5 [] calls ∧ ∃ history, calls.foldlM call (new 5) = .ok history ∧
      ∀ id, Addressable 5 id → (history.wasDecoded id = true ↔
        id ∈ decodedSince [] calls ∧ ∀ last ∈ (decodedSince [] calls).head?, last - 5 < id) := by
  have regular : Regular 5 []
      [.insertDecoded 0 0, .insertDecoded 2 0, .insertDecoded 5 0] := by
    refine ⟨by simp, ⟨?_, ?_, ?_, ?_⟩, .inl ?_, by simp, ⟨?_, ?_, ?_, ?_⟩, .inl ?_, by simp,
      ⟨?_, ?_, ?_, ?_⟩, .inl ?_, trivial⟩ <;> norm_num
  exact ⟨regular, wasDecoded_iff_of_regular 5 _ regular⟩

/-- With a window of five ids, -1 has the index of 0: once 0 was decoded, so was -1. -/
theorem wasDecoded_negative_id :
    ∃ history, [Call.insertDecoded 0 0].foldlM call (new 5) = .ok history ∧
      history.wasDecoded (-1) = true ∧ -1 ∉ decodedSince [] [Call.insertDecoded 0 0] :=
  ⟨⟨[true, false, false, false, false], some 0, some 0, some 0⟩, by decide, by decide, by decide⟩

end DecodedFramesHistory

end MaeRtc.VideoCoding
