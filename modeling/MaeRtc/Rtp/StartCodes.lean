import MaeRtc.Rtp.H264Packetizer

/-!
# What the scanner for start codes finds

The scanner skips ahead over bytes that no start code has, and still finds every start
code.  In particular it finds the units of a frame whose NAL units have no bytes below
two, each after a start code of three bytes.
-/

namespace MaeRtc.Rtp.H264

open Base

/-- A start code of three bytes. -/
def IsCode (buffer : List Octet) (i : Nat) : Prop :=
  buffer.getD i 0 = 0 ∧ buffer.getD (i + 1) 0 = 0 ∧ buffer.getD (i + 2) 0 = 1

instance decidableIsCode (buffer : List Octet) (i : Nat) : Decidable (IsCode buffer i) :=
  inferInstanceAs (Decidable (_ ∧ _))

/-- The start codes from a position on, as far as the scanner looks. -/
def codesFrom (buffer : List Octet) (i : Nat) : List Nat :=
  (List.range' i (buffer.length - 3 - i)).filter fun p => IsCode buffer p

/-- Where a start code begins that may have four bytes. -/
def startOffset (buffer : List Octet) (i : Nat) : Nat :=
  if 0 < i ∧ buffer.getD (i - 1) 0 = 0 then i - 1 else i

/-- The entries for some start codes; each payload ends where the next one starts. -/
def link (buffer : List Octet) : List Nat → List NaluIndex
  | [] => []
  | i :: rest =>
    ⟨startOffset buffer i, i + 3,
      rest.head?.elim buffer.length (startOffset buffer) - (i + 3)⟩ :: link buffer rest

variable {buffer : List Octet} {i : Nat}

theorem codesFrom_of_code (inside : i < buffer.length - 3) (isCode : IsCode buffer i) :
    codesFrom buffer i = i :: codesFrom buffer (i + 1) := by
  obtain ⟨n, count⟩ : ∃ n, buffer.length - 3 - i = n + 1 := ⟨buffer.length - 3 - i - 1, by omega⟩
  rw [codesFrom, count, List.range'_succ, List.filter_cons_of_pos (by simpa using isCode),
    codesFrom, show buffer.length - 3 - (i + 1) = n by omega]

theorem codesFrom_next (notCode : ¬ IsCode buffer i) :
    codesFrom buffer i = codesFrom buffer (i + 1) := by
  cases count : buffer.length - 3 - i with
  | zero => rw [codesFrom, codesFrom, count, show buffer.length - 3 - (i + 1) = 0 by omega]; rfl
  | succ n =>
    rw [codesFrom, count, List.range'_succ, List.filter_cons_of_neg (by simpa using notCode),
      codesFrom, show buffer.length - 3 - (i + 1) = n by omega]

/-- Positions without a start code may be passed over. -/
theorem codesFrom_skip (n : Nat) (notCodes : ∀ k < n, ¬ IsCode buffer (i + k)) :
    codesFrom buffer i = codesFrom buffer (i + n) := by
  induction n with
  | zero => rfl
  | succ n ih =>
    rw [ih fun k below => notCodes k (by omega), codesFrom_next (notCodes n (by omega))]
    rfl

/-- The loop adds the start codes that are ahead, one after the other. -/
theorem scan_eq (fuel : Nat) (enough : buffer.length - 3 ≤ i + fuel) (sequences : List NaluIndex) :
    scan buffer (buffer.length - 3) fuel i sequences =
      (codesFrom buffer i).foldl (fun found p => addIndex buffer p found) sequences := by
  induction fuel generalizing i sequences with
  | zero =>
    rw [codesFrom, show buffer.length - 3 - i = 0 by omega]
    rfl
  | succ fuel ih =>
    rw [scan]
    by_cases inside : i < buffer.length - 3
    · rw [if_pos inside]
      -- the third byte tells that no start code begins at the next two positions
      have skips (positive : buffer.getD (i + 2) 0 ≠ 0) :
          codesFrom buffer (i + 1) = codesFrom buffer (i + 3) := by
        refine codesFrom_skip 2 fun k below => ?_
        rintro ⟨first, second, -⟩
        obtain rfl | rfl : k = 0 ∨ k = 1 := by omega
        · exact positive second
        · exact positive first
      split_ifs with large one isCode
      · have notCode : ¬ IsCode buffer i := by
          rintro ⟨-, -, third⟩
          rw [third] at large
          exact absurd large (by decide)
        have positive : buffer.getD (i + 2) 0 ≠ 0 := by
          intro zero
          rw [zero] at large
          cases large
        rw [ih (by omega), codesFrom_next notCode, skips positive]
      · rw [ih (by omega), codesFrom_of_code inside ⟨isCode.2, isCode.1, one⟩, List.foldl_cons,
          skips (by rw [one]; decide)]
      · rw [ih (by omega), codesFrom_next fun code => isCode ⟨code.2.1, code.1⟩,
          skips (by rw [one]; decide)]
      · rw [ih (by omega), codesFrom_next fun code => one code.2.2]
    · rw [if_neg inside, codesFrom, show buffer.length - 3 - i = 0 by omega]
      rfl

theorem updateLast_concat (payloadEnd : Nat) (found : List NaluIndex) (last : NaluIndex) :
    updateLast payloadEnd (found ++ [last]) =
      found ++ [{ last with payloadSize := payloadEnd - last.payloadStartOffset }] := by
  unfold updateLast
  simp

theorem foldl_addIndex (codes : List Nat) (found : List NaluIndex) (size : Nat) :
    updateLast buffer.length (codes.foldl (fun found p => addIndex buffer p found)
      (found ++ [⟨startOffset buffer i, i + 3, size⟩])) = found ++ link buffer (i :: codes) := by
  induction codes generalizing i found size with
  | nil => exact updateLast_concat _ _ _
  | cons next rest ih =>
    have added : addIndex buffer next (found ++ [⟨startOffset buffer i, i + 3, size⟩]) =
        found ++ [⟨startOffset buffer i, i + 3, startOffset buffer next - (i + 3)⟩] ++
          [⟨startOffset buffer next, next + 3, 0⟩] :=
      congrArg (· ++ _) (updateLast_concat _ _ _)
    rw [List.foldl_cons, added, ih, List.append_assoc]
    rfl

/-- The scanner finds the start codes, all of them and in order. -/
theorem findNaluIndices_eq (buffer : List Octet) :
    findNaluIndices buffer = link buffer (codesFrom buffer 0) := by
  rw [findNaluIndices, kNaluShortStartSequenceSize]
  split_ifs with short
  · rw [codesFrom, show buffer.length - 3 - 0 = 0 by omega]
    rfl
  · rw [scan_eq _ (by omega)]
    cases codesFrom buffer 0 with
    | nil => rfl
    | cons first rest =>
      exact foldl_addIndex rest [] 0

/-- Start codes do not overlap, even if the second one has four bytes. -/
theorem add_three_le_startOffset {p q : Nat} (first : IsCode buffer p) (second : IsCode buffer q)
    (later : p < q) : p + 3 ≤ startOffset buffer q := by
  have notNext (zero : buffer.getD (p + 2) 0 = 0) : False := by
    rw [first.2.2] at zero
    cases zero
  have one : q ≠ p + 1 := by
    rintro rfl
    exact notNext second.2.1
  have two : q ≠ p + 2 := by
    rintro rfl
    exact notNext second.1
  unfold startOffset
  split_ifs with zero
  · have three : q ≠ p + 3 := by
      rintro rfl
      exact notNext zero.2
    omega
  · omega

/-! ## Units without start codes in them -/

/-- The units, each after a start code. -/
def annexB (units : List (List Octet)) : List Octet :=
  units.flatMap fun unit => [0, 0, 1] ++ unit

theorem annexB_cons (unit : List Octet) (rest : List (List Octet)) :
    annexB (unit :: rest) = 0 :: 0 :: 1 :: (unit ++ annexB rest) :=
  rfl

/-- Bytes that no start code has. -/
def Clear (unit : List Octet) : Prop :=
  unit ≠ [] ∧ ∀ byte ∈ unit, 1 < byte

section

variable {front unit : List Octet} {units : List (List Octet)}
  (isBuffer : buffer = front ++ annexB (unit :: units))
include isBuffer

/-- The bytes of a unit and of its start code, in what is left. -/
theorem getD_annexB (k : Nat) :
    buffer.getD (front.length + k) 0 = (0 :: 0 :: 1 :: (unit ++ annexB units)).getD k 0 := by
  rw [isBuffer, annexB_cons, List.getD_append_right _ _ _ _ (by omega), Nat.add_sub_cancel_left]

theorem getD_unit (clear : Clear unit) {k : Nat} (below : k < unit.length) :
    1 < buffer.getD (front.length + (k + 3)) 0 := by
  rw [getD_annexB isBuffer]
  change 1 < (unit ++ annexB units).getD k 0
  rw [List.getD_append _ _ _ _ below, List.getD_eq_getElem _ _ below]
  exact clear.2 _ (List.getElem_mem _)

/-- The first start code of what is left, and those behind its unit. -/
theorem codesFrom_annexB (clear : Clear unit) :
    codesFrom buffer front.length =
      front.length :: codesFrom buffer (front.length + 3 + unit.length) := by
  have some := List.length_pos_of_ne_nil clear.1
  have length : front.length + 3 + unit.length ≤ buffer.length := by
    rw [isBuffer, annexB_cons]
    simp only [List.length_append, List.length_cons]
    omega
  have isCode : IsCode buffer front.length := by
    refine ⟨?_, ?_, ?_⟩
    · exact getD_annexB isBuffer 0
    · exact getD_annexB isBuffer 1
    · exact getD_annexB isBuffer 2
  rw [codesFrom_of_code (by omega) isCode, codesFrom_skip (unit.length + 2), Nat.add_assoc,
    Nat.add_assoc, show 1 + (unit.length + 2) = 3 + unit.length by omega]
  rintro k below ⟨zero, second, -⟩
  rw [Nat.add_assoc] at zero second
  have one : (1 : Octet) ≠ 0 := by decide
  match k with
  | 0 => exact one ((getD_annexB isBuffer 2).symm.trans second)
  | 1 => exact one ((getD_annexB isBuffer 2).symm.trans zero)
  | k + 2 =>
    have large := getD_unit isBuffer clear (show k < unit.length by omega)
    rw [show k + 3 = 1 + (k + 2) by omega, zero] at large
    cases large

end

/-- The first start code of what is left has three bytes. -/
theorem startOffset_annexB {front unit next : List Octet} {units : List (List Octet)}
    (isBuffer : buffer = front ++ annexB (unit :: next :: units)) (clear : Clear unit) :
    startOffset buffer (front.length + 3 + unit.length) = front.length + 3 + unit.length := by
  have some := List.length_pos_of_ne_nil clear.1
  refine if_neg ?_
  rintro ⟨-, zero⟩
  have large := getD_unit isBuffer clear (show unit.length - 1 < unit.length by omega)
  rw [show front.length + (unit.length - 1 + 3) = front.length + 3 + unit.length - 1 by omega,
    zero] at large
  cases large

theorem map_link_annexB (units : List (List Octet)) (clear : ∀ unit ∈ units, Clear unit)
    (front : List Octet) (isBuffer : buffer = front ++ annexB units) :
    (link buffer (codesFrom buffer front.length)).map (fun index =>
      (buffer.drop index.payloadStartOffset).take index.payloadSize) = units := by
  induction units generalizing front with
  | nil =>
    have length : buffer.length = front.length := by
      rw [isBuffer]
      exact congrArg List.length (List.append_nil front)
    rw [codesFrom, length, show front.length - 3 - front.length = 0 by omega]
    rfl
  | cons unit rest ih =>
    obtain ⟨unitClear, restClear⟩ := List.forall_mem_cons.mp clear
    have split : buffer = (front ++ [0, 0, 1] ++ unit) ++ annexB rest := by
      rw [isBuffer, annexB_cons, List.append_assoc, List.append_assoc]
      rfl
    have frontLength : (front ++ [0, 0, 1] ++ unit).length = front.length + 3 + unit.length := by
      rw [List.length_append, List.length_append]
      rfl
    have later := ih restClear (front ++ [0, 0, 1] ++ unit) split
    rw [frontLength] at later
    -- the payload ends at the next start code, or with the buffer
    have ends : (codesFrom buffer (front.length + 3 + unit.length)).head?.elim buffer.length
        (startOffset buffer) = front.length + 3 + unit.length := by
      cases rest with
      | nil =>
        have length : buffer.length = front.length + 3 + unit.length := by
          rw [split, ← frontLength]
          exact congrArg List.length (List.append_nil _)
        rw [codesFrom, show buffer.length - 3 - (front.length + 3 + unit.length) = 0 by omega]
        exact length
      | cons next others =>
        have following := codesFrom_annexB split (restClear next List.mem_cons_self)
        rw [frontLength] at following
        rw [following]
        exact startOffset_annexB isBuffer unitClear
    rw [codesFrom_annexB isBuffer unitClear, link, ends, List.map_cons, later,
      Nat.add_sub_cancel_left, split, List.append_assoc, List.drop_left' (by simp),
      List.take_left]

theorem nalus_annexB {units : List (List Octet)} (clear : ∀ unit ∈ units, Clear unit) :
    nalus (annexB units) = units := by
  rw [nalus, findNaluIndices_eq]
  exact map_link_annexB units clear [] rfl

end MaeRtc.Rtp.H264
