import MaeRtc.Rtp.StartCodes

/-!
# Start codes and emulation prevention

`ParseRbsp` and `WriteRbsp` of `h264_common.cc`.  The writer breaks up every run of bytes
that could be taken for a start code, and the reader restores it; in what was scanned, the
payloads between the start codes lie one behind the other.
-/

namespace MaeRtc.Rtp.H264

open Base

/-- The reader: a three behind two zeros is left out. -/
def parseRbsp : List Octet → List Octet
  | one :: two :: three :: rest =>
    if one = 0 ∧ two = 0 ∧ three = 3 then one :: two :: parseRbsp rest
    else one :: parseRbsp (two :: three :: rest)
  | short => short

/-- The loop of the writer, behind a number of zeros. -/
def writeRbspFrom : Nat → List Octet → List Octet
  | _, [] => []
  | numConsecutiveZeros, byte :: rest =>
    if byte ≤ 3 ∧ 2 ≤ numConsecutiveZeros then
      3 :: byte :: writeRbspFrom (if byte = 0 then 1 else 0) rest
    else byte :: writeRbspFrom (if byte = 0 then numConsecutiveZeros + 1 else 0) rest

def writeRbsp (bytes : List Octet) : List Octet :=
  writeRbspFrom 0 bytes

theorem parseRbsp_cons {byte : Octet} {rest : List Octet} (plain : ¬ [0, 0, 3] <+: byte :: rest) :
    parseRbsp (byte :: rest) = byte :: parseRbsp rest := by
  match rest with
  | [] => rfl
  | [_] => rfl
  | two :: three :: others =>
    rw [parseRbsp, if_neg]
    rintro ⟨rfl, rfl, rfl⟩
    exact plain ⟨others, rfl⟩

/--
Rule for the writer.  What is written behind at most two zeros is an escape before what
needs one, one more zero, or a byte that ends the zeros.
-/
theorem writeRbsp_rule (Holds : List Octet → List Octet → Prop)
    (done : ∀ zeros ≤ 2, Holds (List.replicate zeros 0) (List.replicate zeros 0))
    (escape : ∀ byte rest written, Holds (byte :: rest) (byte :: written) →
      Holds (0 :: 0 :: byte :: rest) (0 :: 0 :: 3 :: byte :: written))
    (plain : ∀ byte rest written, byte ≠ 0 → Holds rest written →
      Holds (byte :: rest) (byte :: written))
    (zero : ∀ byte rest written, byte ≠ 0 → Holds (byte :: rest) (byte :: written) →
      Holds (0 :: byte :: rest) (0 :: byte :: written))
    (zeros : ∀ byte rest written, 3 < byte → Holds (byte :: rest) (byte :: written) →
      Holds (0 :: 0 :: byte :: rest) (0 :: 0 :: byte :: written))
    (bytes : List Octet) {count : Nat} (few : count ≤ 2) :
    Holds (List.replicate count 0 ++ bytes) (List.replicate count 0 ++ writeRbspFrom count bytes) := by
  induction bytes generalizing count with
  | nil =>
    rw [writeRbspFrom, List.append_nil]
    exact done count few
  | cons byte rest ih =>
    have one := @ih 1 (by omega)
    have none := @ih 0 (by omega)
    rw [writeRbspFrom]
    by_cases isZero : byte = 0
    · subst isZero
      match count with
      | 0 => exact one
      | 1 => exact @ih 2 (by omega)
      | 2 => exact escape 0 rest _ one
    · have first := plain byte rest _ isZero none
      simp only [if_neg isZero]
      match count with
      | 0 =>
        rw [if_neg (by omega)]
        exact first
      | 1 =>
        rw [if_neg (by omega)]
        exact zero byte rest _ isZero first
      | 2 =>
        split_ifs with small
        · exact escape byte rest _ first
        · exact zeros byte rest _ (by simpa using small) first

/-- What is written has nothing that could be taken for a start code. -/
theorem not_infix_writeRbsp (bytes : List Octet) {third : Octet} (small : third ≤ 2) :
    ¬ [0, 0, third] <:+: writeRbsp bytes := by
  refine writeRbsp_rule (fun _ written => ¬ [0, 0, third] <:+: written) ?_ ?_ ?_ ?_ ?_ bytes
    (Nat.zero_le 2)
  · intro count few infixed
    have longer := infixed.length_le
    simp only [List.length_replicate, List.length_cons] at longer
    omega
  · intro byte rest written safe
    simp only [List.infix_cons_iff, List.cons_prefix_cons] at safe ⊢
    rintro (⟨-, -, rfl, -⟩ | ⟨-, three, -⟩ | ⟨three, -⟩ | inside)
    · exact absurd small (by decide)
    · cases three
    · cases three
    · exact safe inside
  · intro byte rest written notZero safe
    simp only [List.infix_cons_iff, List.cons_prefix_cons]
    rintro (⟨isZero, -⟩ | inside)
    · exact notZero isZero.symm
    · exact safe inside
  · intro byte rest written notZero safe
    rw [List.infix_cons_iff, List.cons_prefix_cons, List.cons_prefix_cons]
    rintro (⟨-, isZero, -⟩ | inside)
    · exact notZero isZero.symm
    · exact safe inside
  · intro byte rest written large safe
    rw [List.infix_cons_iff, List.infix_cons_iff]
    simp only [List.cons_prefix_cons]
    rintro (⟨-, -, rfl, -⟩ | ⟨-, isZero, -⟩ | inside)
    · exact absurd (Nat.lt_of_lt_of_le (BitVec.lt_def.mp large) (BitVec.le_def.mp small)) (by decide)
    · rw [← isZero] at large
      cases large
    · exact safe inside

theorem parseRbsp_writeRbsp (bytes : List Octet) : parseRbsp (writeRbsp bytes) = bytes := by
  refine writeRbsp_rule (fun bytes written => parseRbsp written = bytes) ?_ ?_ ?_ ?_ ?_ bytes
    (Nat.zero_le 2)
  · intro count few
    match count with
    | 0 => rfl
    | 1 => rfl
    | 2 => rfl
  · intro byte rest written same
    rw [parseRbsp, if_pos ⟨rfl, rfl, rfl⟩, same]
  · intro byte rest written notZero same
    rw [parseRbsp_cons, same]
    rintro ⟨_, equal⟩
    exact notZero (List.cons.inj equal).1.symm
  · intro byte rest written notZero same
    rw [parseRbsp_cons, same]
    simp only [List.cons_prefix_cons]
    exact fun start => notZero start.2.1.symm
  · intro byte rest written large same
    rw [parseRbsp_cons, parseRbsp_cons, same]
    · simp only [List.cons_prefix_cons]
      rintro ⟨-, isZero, -⟩
      rw [← isZero] at large
      cases large
    · simp only [List.cons_prefix_cons]
      rintro ⟨-, -, isThree, -⟩
      rw [← isThree] at large
      exact absurd large (by decide)

variable {buffer : List Octet}

theorem startOffset_le (p : Nat) : startOffset buffer p ≤ p := by
  unfold startOffset
  split_ifs <;> omega

/-- The payloads lie behind their start codes, and reach to the next one, or to the end. -/
theorem link_tiles {codes : List Nat} (isCodes : ∀ p ∈ codes, IsCode buffer p ∧ p + 3 ≤ buffer.length)
    (ordered : codes.Pairwise (· < ·)) :
    ((link buffer codes).map fun index => (index.startOffset, index.payloadStartOffset)) =
        codes.map (fun p => (startOffset buffer p, p + 3)) ∧
      (link buffer codes).IsChain (fun one two =>
        one.payloadStartOffset + one.payloadSize = two.startOffset ∧
          two.startOffset < two.payloadStartOffset) ∧
      (∀ last ∈ (link buffer codes).getLast?,
        last.payloadStartOffset + last.payloadSize = buffer.length) ∧
      ∀ index ∈ link buffer codes, index.payloadStartOffset + index.payloadSize ≤ buffer.length := by
  induction codes with
  | nil => exact ⟨rfl, .nil, by simp [link], by simp [link]⟩
  | cons p rest ih =>
    obtain ⟨⟨isCode, inside⟩, restCodes⟩ := List.forall_mem_cons.mp isCodes
    obtain ⟨before, restOrdered⟩ := List.pairwise_cons.mp ordered
    obtain ⟨positions, chain, ends, within⟩ := ih restCodes restOrdered
    refine ⟨congrArg (_ :: ·) positions, ?_, ?_, List.forall_mem_cons.mpr ⟨?_, within⟩⟩
    · refine List.isChain_cons.mpr ⟨?_, chain⟩
      cases rest with
      | nil => exact fun _ none => absurd none (by simp [link])
      | cons q others =>
        rintro next ⟨⟩
        have gap := add_three_le_startOffset isCode (restCodes q List.mem_cons_self).1
          (before q List.mem_cons_self)
        constructor
        · exact Nat.add_sub_cancel' gap
        · exact (startOffset_le q).trans_lt (Nat.lt_add_of_pos_right (Nat.zero_lt_succ 2))
    · cases rest with
      | nil =>
        rintro last ⟨⟩
        exact Nat.add_sub_cancel' inside
      | cons q others =>
        rw [link, link, List.getLast?_cons_cons, ← link]
        exact ends
    · cases rest with
      | nil => exact (Nat.add_sub_cancel' inside).le
      | cons q others =>
        have next : startOffset buffer q ≤ q := startOffset_le q
        have after := (restCodes q List.mem_cons_self).2
        change p + 3 + (startOffset buffer q - (p + 3)) ≤ buffer.length
        omega

/--
In every buffer the scanner finds exactly the start codes, in order; a payload reaches from
its start code to the next one, or to the end.  What the writer makes of any bytes has no
start code in it, and is read as these bytes.
-/
theorem startCodes_delimit (buffer bytes : List Octet) :
    ((findNaluIndices buffer).map fun index => (index.startOffset, index.payloadStartOffset)) =
        ((List.range (buffer.length - 3)).filter fun p => IsCode buffer p).map
          (fun p => (if 0 < p ∧ buffer.getD (p - 1) 0 = 0 then p - 1 else p, p + 3)) ∧
      (findNaluIndices buffer).IsChain (fun one two =>
        one.payloadStartOffset + one.payloadSize = two.startOffset ∧
          two.startOffset < two.payloadStartOffset) ∧
      (∀ last ∈ (findNaluIndices buffer).getLast?,
        last.payloadStartOffset + last.payloadSize = buffer.length) ∧
      (∀ index ∈ findNaluIndices buffer,
        index.payloadStartOffset + index.payloadSize ≤ buffer.length) ∧
      (∀ third : Octet, third ≤ 2 → ¬ [0, 0, third] <:+: writeRbsp bytes) ∧
      parseRbsp (writeRbsp bytes) = bytes := by
  have isCodes : ∀ p ∈ codesFrom buffer 0, IsCode buffer p ∧ p + 3 ≤ buffer.length := by
    intro p member
    obtain ⟨inRange, isCode⟩ := List.mem_filter.mp member
    have below := List.mem_range'_1.mp inRange
    exact ⟨by simpa using isCode, by omega⟩
  have ordered : (codesFrom buffer 0).Pairwise (· < ·) := List.Pairwise.filter _ List.pairwise_lt_range'
  obtain ⟨positions, chain, ends, within⟩ := link_tiles isCodes ordered
  rw [← findNaluIndices_eq] at positions chain ends within
  rw [codesFrom, Nat.sub_zero, ← List.range_eq_range'] at positions
  exact ⟨positions, chain, ends, within, fun third => not_infix_writeRbsp bytes,
    parseRbsp_writeRbsp bytes⟩

end MaeRtc.Rtp.H264
