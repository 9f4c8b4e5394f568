import Mathlib

/-!
# Splitting a payload into packets of about equal size

`RtpPacketizer::SplitAboutEqually` of `rtp_format.cc`.  An `int` is an integer, and
computations are those that do not overflow; divisions truncate, as they do in the
source.  A division by zero, and a loop that would not end, are faults.
-/

namespace MaeRtc.Rtp

/-- How much fits into a packet, and how much less into some of them. -/
structure PayloadSizeLimits where
  maxPayloadLen : Int := 1200
  firstPacketReductionLen : Int := 0
  lastPacketReductionLen : Int := 0
  /-- for a packet that is first and last at the same time -/
  singlePacketReductionLen : Int := 0
  deriving DecidableEq, Repr

inductive SplitFault where
  | divisionByZero
  | endless
  deriving DecidableEq, Repr

/-- The size of the packet that the loop is about to add. -/
def currentPacketBytes (limits : PayloadSizeLimits) (firstPacket : Bool)
    (bytesPerPacket remainingData numPacketsLeft : Int) : Int :=
  let currentPacketBytes :=
    if firstPacket then
      if bytesPerPacket > limits.firstPacketReductionLen + 1 then
        bytesPerPacket - limits.firstPacketReductionLen
      else 1
    else bytesPerPacket
  let currentPacketBytes :=
    if currentPacketBytes > remainingData then remainingData else currentPacketBytes
  if numPacketsLeft = 2 ∧ currentPacketBytes = remainingData then currentPacketBytes - 1
  else currentPacketBytes

/-- The loop of the source, which may run for `fuel` packets. -/
def splitLoop (limits : PayloadSizeLimits) (numLargerPackets : Int) :
    Nat → Bool → Int → Int → Int → Except SplitFault (List Int)
  | 0, _, _, _, _ => .error .endless
  | fuel + 1, firstPacket, bytesPerPacket, remainingData, numPacketsLeft =>
    if remainingData > 0 then
      let bytesPerPacket :=
        if numPacketsLeft = numLargerPackets then bytesPerPacket + 1 else bytesPerPacket
      let current := currentPacketBytes limits firstPacket bytesPerPacket remainingData
        numPacketsLeft
      do
        let rest ← splitLoop limits numLargerPackets fuel false bytesPerPacket
          (remainingData - current) (numPacketsLeft - 1)
        .ok (current :: rest)
    else .ok []

/-- The number of packets: as many as are needed, but not a single one. -/
def numPackets (totalBytes maxPayloadLen : Int) : Int :=
  let numPacketsLeft := (totalBytes + maxPayloadLen - 1).tdiv maxPayloadLen
  if numPacketsLeft = 1 then 2 else numPacketsLeft

def splitAboutEqually (payloadLen : Int) (limits : PayloadSizeLimits) :
    Except SplitFault (List Int) :=
  if limits.maxPayloadLen ≥ limits.singlePacketReductionLen + payloadLen then .ok [payloadLen]
  else if limits.maxPayloadLen - limits.firstPacketReductionLen < 1 ∨
      limits.maxPayloadLen - limits.lastPacketReductionLen < 1 then .ok []
  else if limits.maxPayloadLen = 0 then .error .divisionByZero
  else
    let totalBytes :=
      payloadLen + limits.firstPacketReductionLen + limits.lastPacketReductionLen
    let numPacketsLeft := numPackets totalBytes limits.maxPayloadLen
    if payloadLen < numPacketsLeft then .ok []
    else if numPacketsLeft = 0 then .error .divisionByZero
    else
      splitLoop limits (totalBytes.tmod numPacketsLeft) (payloadLen.toNat + 2) true
        (totalBytes.tdiv numPacketsLeft) payloadLen numPacketsLeft

example : splitAboutEqually 14 { maxPayloadLen := 5, firstPacketReductionLen := 2 } =
    .ok [2, 4, 4, 4] := by decide

/-! ## Divisions -/

variable {parts : List Int}

namespace PayloadSizeLimits

/-- A division of a payload into positive parts, each within the limit of its packet. -/
structure Respects (limits : PayloadSizeLimits) (parts : List Int) : Prop where
  positive : ∀ part ∈ parts, 0 < part
  middle : ∀ part ∈ parts, part ≤ limits.maxPayloadLen
  first : ∀ part ∈ parts.head?, part ≤ limits.maxPayloadLen - limits.firstPacketReductionLen
  last : ∀ part ∈ parts.getLast?, part ≤ limits.maxPayloadLen - limits.lastPacketReductionLen

variable {limits : PayloadSizeLimits}

theorem sum_le_of_le {bound : Int} (small : ∀ part ∈ parts, part ≤ bound) :
    parts.sum ≤ parts.length * bound := by
  simpa using List.sum_le_card_nsmul parts bound small

theorem length_le_sum (positive : ∀ part ∈ parts, 0 < part) : (parts.length : Int) ≤ parts.sum := by
  simpa using List.card_nsmul_le_sum parts 1 positive

/-- A division needs a packet for every part of the whole that fits into one. -/
theorem Respects.sum_le (respects : limits.Respects parts) (several : 2 ≤ parts.length) :
    parts.sum + limits.firstPacketReductionLen + limits.lastPacketReductionLen ≤
      parts.length * limits.maxPayloadLen := by
  obtain ⟨positive, middle, first, last⟩ := respects
  match parts with
  | one :: two :: rest =>
    obtain ⟨front, final, split⟩ : ∃ front final, two :: rest = front ++ [final] :=
      ⟨_, _, (List.dropLast_append_getLast (List.cons_ne_nil two rest)).symm⟩
    rw [split] at middle last ⊢
    have firstPart := first one rfl
    have lastPart := last final (by
      rw [Option.mem_def, ← List.cons_append, List.getLast?_append]
      rfl)
    have frontParts : front.sum ≤ front.length * limits.maxPayloadLen :=
      sum_le_of_le fun part member => middle part (by simp [member])
    simp only [List.sum_cons, List.sum_append, List.sum_nil, List.length_cons,
      List.length_append, List.length_nil]
    push_cast
    linarith

end PayloadSizeLimits

/-! ## The loop -/

/-- What a packet gets before any correction, if `left` packets are left. -/
def share (bytes larger left : Int) : Int :=
  if left ≤ larger then bytes + 1 else bytes

/-- What the last `left` packets get before any correction. -/
def shares (bytes larger : Int) : Nat → Int
  | 0 => 0
  | left + 1 => share bytes larger (left + 1) + shares bytes larger left

theorem shares_eq {bytes larger : Int} (nonneg : 0 ≤ larger) (left : Nat) :
    shares bytes larger left = left * bytes + min (left : Int) larger := by
  induction left with
  | zero => simp [shares, nonneg]
  | succ left ih =>
    rw [shares, ih, share]
    push_cast
    split_ifs with within
    · rw [min_eq_left within, min_eq_left (by omega)]
      ring
    · rw [min_eq_right (by omega), min_eq_right (by omega)]
      ring

section Loop

variable {limits : PayloadSizeLimits} {bytes larger : Int}

/-- What the tail of a division has to be. -/
structure Tail (limits : PayloadSizeLimits) (remaining : Int) (left : Nat)
    (parts : List Int) : Prop where
  length : parts.length = left
  sum : parts.sum = remaining
  positive : ∀ part ∈ parts, 0 < part
  middle : ∀ part ∈ parts, part ≤ limits.maxPayloadLen
  last : ∀ part ∈ parts.getLast?, part ≤ limits.maxPayloadLen - limits.lastPacketReductionLen

variable {remaining : Int}

theorem Tail.cons {part : Int} {left : Nat} (tail : Tail limits remaining (left + 1) parts)
    (positive : 0 < part) (middle : part ≤ limits.maxPayloadLen) :
    Tail limits (part + remaining) (left + 2) (part :: parts) where
  length := by rw [List.length_cons, tail.length]
  sum := by rw [List.sum_cons, tail.sum]
  positive := List.forall_mem_cons.mpr ⟨positive, tail.positive⟩
  middle := List.forall_mem_cons.mpr ⟨middle, tail.middle⟩
  last := by
    have some : parts ≠ [] := by
      rintro rfl
      cases tail.length
    obtain ⟨next, rest, rfl⟩ := List.exists_cons_of_ne_nil some
    exact tail.last

/-- The number of bytes per packet when `left` packets are left, before it is raised. -/
def perPacket (bytes larger left : Int) : Int :=
  if left < larger then bytes + 1 else bytes

theorem raised (left : Int) :
    (if left = larger then perPacket bytes larger left + 1 else perPacket bytes larger left) =
      share bytes larger left := by
  unfold perPacket share
  split_ifs <;> omega

theorem perPacket_sub_one (left : Int) : perPacket bytes larger (left - 1) = share bytes larger left := by
  unfold perPacket share
  split_ifs <;> omega

theorem splitLoop_step (fuel : Nat) {firstPacket : Bool} {left current : Int} (some : 0 < remaining)
    (isCurrent : currentPacketBytes limits firstPacket (share bytes larger left) remaining left =
      current) {rest : List Int}
    (later : splitLoop limits larger fuel false (perPacket bytes larger (left - 1))
      (remaining - current) (left - 1) = .ok rest) :
    splitLoop limits larger (fuel + 1) firstPacket (perPacket bytes larger left) remaining left =
      .ok (current :: rest) := by
  rw [perPacket_sub_one] at later
  unfold splitLoop
  rw [if_pos some]
  dsimp only
  rw [raised, isCurrent, later]
  rfl

theorem splitLoop_done (fuel : Nat) (firstPacket : Bool) (bytesPerPacket left : Int) :
    splitLoop limits larger (fuel + 1) firstPacket bytesPerPacket 0 left = .ok [] := by
  rfl

variable (positive : 0 < bytes)
  (fits : ∀ left, 1 ≤ left → share bytes larger left ≤ limits.maxPayloadLen)
  (lastFits : 1 ≤ limits.maxPayloadLen - limits.lastPacketReductionLen)

include fits in
theorem splitLoop_last (fuel : Nat) (some : 0 < remaining)
    (small : remaining ≤ share bytes larger 1)
    (within : remaining ≤ limits.maxPayloadLen - limits.lastPacketReductionLen) :
    ∃ parts, splitLoop limits larger (fuel + 2) false (perPacket bytes larger 1) remaining 1 =
      .ok parts ∧ Tail limits remaining 1 parts := by
  have current : currentPacketBytes limits false (share bytes larger 1) remaining 1 =
      remaining := by
    unfold currentPacketBytes
    simp only [Bool.false_eq_true, if_false]
    split_ifs <;> omega
  refine ⟨[remaining], splitLoop_step (fuel + 1) some current ?_, ?_⟩
  · rw [sub_self remaining]
    exact splitLoop_done _ _ _ _
  · exact ⟨rfl, by simp, by simpa using some, by simpa using small.trans (fits 1 le_rfl),
      by simpa using within⟩

include positive fits lastFits in
/-- The packet before the last leaves one byte at least. -/
theorem splitLoop_lastTwo (fuel : Nat) (some : 2 ≤ remaining)
    (small : remaining ≤ shares bytes larger 2 - limits.lastPacketReductionLen)
    (nonneg : 0 ≤ limits.lastPacketReductionLen) :
    ∃ parts, splitLoop limits larger (fuel + 3) false (perPacket bytes larger 2) remaining 2 =
      .ok parts ∧ Tail limits remaining 2 parts := by
  have two := fits 2 (by norm_num)
  have one := fits 1 le_rfl
  have sharePositive : 0 < share bytes larger 1 ∧ 0 < share bytes larger 2 := by
    unfold share
    constructor <;> split_ifs <;> omega
  simp only [shares] at small
  norm_num at small
  obtain ⟨current, isCurrent, currentPositive, atMost, rest, restSmall⟩ : ∃ current,
      currentPacketBytes limits false (share bytes larger 2) remaining 2 = current ∧
      0 < current ∧ current ≤ limits.maxPayloadLen ∧ 0 < remaining - current ∧
      (remaining - current = 1 ∨
        remaining - current ≤ share bytes larger 1 - limits.lastPacketReductionLen) := by
    refine ⟨_, rfl, ?_⟩
    unfold currentPacketBytes
    simp only [Bool.false_eq_true, if_false, true_and]
    split_ifs <;> omega
  obtain ⟨parts, returned, tail⟩ := splitLoop_last fits fuel rest
    (by omega) (by omega)
  refine ⟨current :: parts, splitLoop_step (fuel + 2) (by omega) isCurrent ?_, ?_⟩
  · exact returned
  · have whole := tail.cons currentPositive atMost
    rwa [add_sub_cancel] at whole

include positive in
theorem shares_two_le (larger : Int) (count : Nat) :
    shares bytes larger 2 ≤ shares bytes larger (count + 2) := by
  induction count with
  | zero => exact le_rfl
  | succ count ih =>
    refine ih.trans ?_
    rw [shares.eq_2 bytes larger (count + 2)]
    unfold share
    split_ifs <;> omega

include fits in
/-- Beyond the last two, no packet gets more than fits. -/
theorem shares_le (count : Nat) :
    shares bytes larger (count + 2) ≤ shares bytes larger 2 + count * limits.maxPayloadLen := by
  induction count with
  | zero => simp
  | succ count ih =>
    rw [shares.eq_2 bytes larger (count + 2)]
    have next := fits (((count + 2 : Nat) : Int) + 1) (by omega)
    push_cast at next ⊢
    linarith

include positive fits lastFits in
/-- The packets after the first: as long as more than two are left none is clipped. -/
theorem splitLoop_tail (fuel left : Nat)
    (enough : shares bytes larger (left + 2) - shares bytes larger 2 + 2 ≤ remaining)
    (small : remaining ≤ shares bytes larger (left + 2) - limits.lastPacketReductionLen)
    (nonneg : 0 ≤ limits.lastPacketReductionLen) :
    ∃ parts, splitLoop limits larger (fuel + left + 3) false
        (perPacket bytes larger (left + 2)) remaining (left + 2) = .ok parts ∧
      Tail limits remaining (left + 2) parts := by
  induction left generalizing remaining with
  | zero =>
    have result := splitLoop_lastTwo positive fits lastFits fuel
      (by simpa using enough) (by simpa using small) nonneg
    simpa using result
  | succ left ih =>
    have head : shares bytes larger (left + 1 + 2) =
        share bytes larger (left + 1 + 2) + shares bytes larger (left + 2) := by
      rw [shares]
      push_cast
      ring_nf
    have headPositive : 0 < share bytes larger (left + 1 + 2) := by
      unfold share
      split_ifs <;> omega
    have more := shares_two_le positive larger left
    have current : currentPacketBytes limits false (share bytes larger (left + 1 + 2)) remaining
        (left + 1 + 2) = share bytes larger (left + 1 + 2) := by
      unfold currentPacketBytes
      simp only [Bool.false_eq_true, if_false]
      rw [if_neg (by omega), if_neg (by omega)]
    obtain ⟨parts, returned, tail⟩ := @ih (remaining - share bytes larger (left + 1 + 2))
      (by omega) (by omega)
    refine ⟨share bytes larger (left + 1 + 2) :: parts, ?_, ?_⟩
    · refine splitLoop_step (fuel + left + 3) (by omega) current ?_
      rw [show ((left : Int) + 1 + 2 - 1) = left + 2 by ring]
      exact returned
    · have whole := tail.cons headPositive (fits _ (by omega))
      rwa [add_sub_cancel] at whole

include positive fits lastFits in
/-- The whole loop: the first packet may get more than its share, but never so much that
the packets after it run dry. -/
theorem splitLoop_whole (fuel count : Nat) {payloadLen : Int}
    (nonnegFirst : 0 ≤ limits.firstPacketReductionLen)
    (nonnegLast : 0 ≤ limits.lastPacketReductionLen)
    (firstFits : 1 ≤ limits.maxPayloadLen - limits.firstPacketReductionLen)
    (enough : (count + 2 : Int) ≤ payloadLen) (fewer : larger < count + 2)
    (total : shares bytes larger (count + 2) = payloadLen + limits.firstPacketReductionLen +
      limits.lastPacketReductionLen)
    (needed : count ≠ 0 → (count + 1) * limits.maxPayloadLen < payloadLen +
      limits.firstPacketReductionLen + limits.lastPacketReductionLen) :
    ∃ parts, splitLoop limits larger (fuel + count + 3) true bytes payloadLen (count + 2) =
        .ok parts ∧ parts.length = count + 2 ∧ parts.sum = payloadLen ∧
      limits.Respects parts := by
  have shareFirst : share bytes larger (count + 2) = bytes := if_neg (by omega)
  have perPacketFirst : perPacket bytes larger (count + 2) = bytes := if_neg (by omega)
  have bytesFit := fits (count + 2) (by omega)
  rw [shareFirst] at bytesFit
  -- it is enough to know the first packet and the tail that follows it
  have assemble : ∀ current parts,
      currentPacketBytes limits true bytes payloadLen (count + 2) = current → 0 < current →
      current ≤ limits.maxPayloadLen - limits.firstPacketReductionLen →
      splitLoop limits larger (fuel + count + 2) false (perPacket bytes larger (count + 1))
        (payloadLen - current) (count + 1) = .ok parts →
      Tail limits (payloadLen - current) (count + 1) parts →
      ∃ parts, splitLoop limits larger (fuel + count + 3) true bytes payloadLen (count + 2) =
          .ok parts ∧ parts.length = count + 2 ∧ parts.sum = payloadLen ∧
        limits.Respects parts := by
    intro current parts isCurrent currentPositive currentFits returned tail
    have whole := tail.cons currentPositive (by omega)
    rw [add_sub_cancel] at whole
    refine ⟨current :: parts, ?_, whole.length, whole.sum,
      ⟨whole.positive, whole.middle, by simpa using currentFits, whole.last⟩⟩
    rw [← shareFirst] at isCurrent
    rw [← perPacketFirst]
    refine splitLoop_step (fuel + count + 2) (by omega) isCurrent ?_
    rw [show ((count : Int) + 2 - 1) = count + 1 by ring]
    exact returned
  cases count with
  | zero =>
    simp only [shares] at total
    norm_num at total shareFirst enough
    have one := fits 1 le_rfl
    obtain ⟨current, isCurrent, currentPositive, currentFits, rest, restSmall⟩ : ∃ current,
        currentPacketBytes limits true bytes payloadLen 2 = current ∧ 0 < current ∧
        current ≤ limits.maxPayloadLen - limits.firstPacketReductionLen ∧
        0 < payloadLen - current ∧
        (payloadLen - current = 1 ∨
          payloadLen - current ≤ share bytes larger 1 - limits.lastPacketReductionLen) := by
      refine ⟨_, rfl, ?_⟩
      unfold currentPacketBytes
      simp only [true_and]
      split_ifs <;> omega
    have sharePositive : 0 < share bytes larger 1 := by
      unfold share
      split_ifs <;> omega
    obtain ⟨parts, returned, tail⟩ := splitLoop_last fits fuel rest
      (by omega) (by omega)
    exact assemble current parts isCurrent currentPositive currentFits returned tail
  | succ count =>
    have split : shares bytes larger (count + 1 + 2) =
        bytes + shares bytes larger (count + 2) := by
      push_cast at shareFirst
      rw [shares, show (((count + 2 : Nat) : Int) + 1) = count + 1 + 2 by push_cast; ring,
        shareFirst]
    have grows := shares_two_le positive larger count
    have others := shares_le fits count
    have necessary : count * limits.maxPayloadLen + 2 * limits.maxPayloadLen <
        payloadLen + limits.firstPacketReductionLen + limits.lastPacketReductionLen := by
      have more := needed (by omega)
      push_cast at more
      linarith
    -- the first packet and the last two get more than two whole packets, so two bytes remain
    obtain ⟨current, isCurrent, currentPositive, currentFits, many, few⟩ : ∃ current,
        currentPacketBytes limits true bytes payloadLen (count + 1 + 2) = current ∧
        0 < current ∧
        current ≤ limits.maxPayloadLen - limits.firstPacketReductionLen ∧
        shares bytes larger (count + 2) - shares bytes larger 2 + 2 ≤ payloadLen - current ∧
        payloadLen - current ≤
          shares bytes larger (count + 2) - limits.lastPacketReductionLen := by
      refine ⟨_, rfl, ?_⟩
      unfold currentPacketBytes
      simp only [if_true]
      split_ifs <;> omega
    obtain ⟨parts, returned, tail⟩ := splitLoop_tail positive fits lastFits fuel count many few
      nonnegLast
    refine assemble current parts (by push_cast; exact isCurrent) currentPositive currentFits
      ?_ (by exact_mod_cast tail)
    exact returned

end Loop

/-! ## The result -/

/-- The number of packets is the least that can take all bytes, but two at least. -/
theorem numPackets_spec {totalBytes maxPayloadLen : Int} (some : 0 < totalBytes)
    (positive : 0 < maxPayloadLen) :
    2 ≤ numPackets totalBytes maxPayloadLen ∧
    totalBytes ≤ numPackets totalBytes maxPayloadLen * maxPayloadLen ∧
    (numPackets totalBytes maxPayloadLen ≠ 2 →
      (numPackets totalBytes maxPayloadLen - 1) * maxPayloadLen < totalBytes) ∧
    ∀ count : Int, 2 ≤ count → totalBytes ≤ count * maxPayloadLen →
      numPackets totalBytes maxPayloadLen ≤ count := by
  have quotient : (totalBytes + maxPayloadLen - 1).tdiv maxPayloadLen =
      (totalBytes + maxPayloadLen - 1) / maxPayloadLen := Int.tdiv_eq_ediv_of_nonneg (by omega)
  obtain ⟨number, isNumber⟩ : ∃ number, number =
    (totalBytes + maxPayloadLen - 1) / maxPayloadLen := ⟨_, rfl⟩
  have lower : number * maxPayloadLen ≤ totalBytes + maxPayloadLen - 1 := by
    rw [isNumber]
    exact Int.ediv_mul_le _ positive.ne'
  have upper : totalBytes + maxPayloadLen - 1 < (number + 1) * maxPayloadLen := by
    rw [isNumber]
    exact Int.lt_ediv_add_one_mul_self _ positive
  have one : 1 ≤ number := by
    by_contra small
    nlinarith
  unfold numPackets
  dsimp only
  rw [quotient, ← isNumber]
  refine ⟨?_, ?_, ?_, fun count several enough => ?_⟩
  · split_ifs <;> omega
  · split_ifs with single
    · subst single
      linarith
    · linarith
  · split_ifs with single
    · simp
    · intro _
      linarith
  · split_ifs with single
    · exact several
    · by_contra more
      nlinarith

section Result

variable {payloadLen : Int} {limits : PayloadSizeLimits}

section

variable (some : 0 < payloadLen) (positive : 0 < limits.maxPayloadLen)
  (nonnegFirst : 0 ≤ limits.firstPacketReductionLen)
  (nonnegLast : 0 ≤ limits.lastPacketReductionLen)
include some positive nonnegFirst nonnegLast

/-- A division into several parts is one into as many parts as the packets need. -/
theorem numPackets_le_length {division : List Int} (several : 2 ≤ division.length)
    (whole : division.sum = payloadLen) (respects : limits.Respects division) :
    numPackets (payloadLen + limits.firstPacketReductionLen + limits.lastPacketReductionLen)
      limits.maxPayloadLen ≤ division.length := by
  obtain ⟨_, _, _, least⟩ := numPackets_spec (by omega :
    0 < payloadLen + limits.firstPacketReductionLen + limits.lastPacketReductionLen) positive
  have needed := respects.sum_le several
  rw [whole] at needed
  exact least division.length (by exact_mod_cast several) needed

/-- Each packet has room for a byte, and there are bytes enough for the packets. -/
theorem splitAboutEqually_several
    (notSingle : ¬ limits.maxPayloadLen ≥ limits.singlePacketReductionLen + payloadLen)
    (room : ¬ (limits.maxPayloadLen - limits.firstPacketReductionLen < 1 ∨ limits.maxPayloadLen - limits.lastPacketReductionLen < 1))
    (enough : ¬ payloadLen < numPackets (payloadLen + limits.firstPacketReductionLen + limits.lastPacketReductionLen) limits.maxPayloadLen) :
    ∃ parts, splitAboutEqually payloadLen limits = .ok parts ∧
      (parts.length : Int) = numPackets (payloadLen + limits.firstPacketReductionLen +
        limits.lastPacketReductionLen) limits.maxPayloadLen ∧
      parts.sum = payloadLen ∧ limits.Respects parts := by
  obtain ⟨total, isTotal⟩ : ∃ total, total =
    payloadLen + limits.firstPacketReductionLen + limits.lastPacketReductionLen := ⟨_, rfl⟩
  rw [← isTotal] at enough
  obtain ⟨several, covers, needed, _⟩ := numPackets_spec (by omega : 0 < total) positive
  obtain ⟨count, isCount⟩ : ∃ count : Nat,
      numPackets total limits.maxPayloadLen = count + 2 := by
    refine ⟨(numPackets total limits.maxPayloadLen - 2).toNat, ?_⟩
    omega
  rw [isCount] at several covers needed enough
  obtain ⟨bytes, isBytes⟩ : ∃ bytes, bytes = total / ((count : Int) + 2) := ⟨_, rfl⟩
  obtain ⟨larger, isLarger⟩ : ∃ larger, larger = total % ((count : Int) + 2) := ⟨_, rfl⟩
  have division : (count + 2) * bytes + larger = total := by
    rw [isBytes, isLarger]
    exact Int.mul_ediv_add_emod total (count + 2)
  have remainder : 0 ≤ larger := isLarger ▸ Int.emod_nonneg _ (by omega)
  have fewer : larger < count + 2 := isLarger ▸ Int.emod_lt_of_pos _ (by omega)
  have bytesPositive : 0 < bytes := by
    have one : 1 ≤ bytes := by
      rw [isBytes]
      exact Int.le_ediv_of_mul_le (by omega) (by omega)
    omega
  have fits : ∀ left, 1 ≤ left → share bytes larger left ≤ limits.maxPayloadLen := by
    intro left atLeast
    unfold share
    split_ifs with within
    · -- some packets are larger, so that the quotient was not exact
      by_contra tooLarge
      nlinarith
    · by_contra tooLarge
      nlinarith
  have shared : shares bytes larger (count + 2) = payloadLen + limits.firstPacketReductionLen +
      limits.lastPacketReductionLen := by
    rw [shares_eq remainder, min_eq_right (by push_cast; omega), ← isTotal, ← division]
    push_cast
    ring
  obtain ⟨parts, returned, length, whole, respects⟩ := splitLoop_whole bytesPositive fits
    (by omega) (payloadLen.toNat - count - 1) count nonnegFirst nonnegLast (by omega) (by omega)
    fewer shared (by
      intro more
      have isNeeded := needed (by omega)
      linarith)
  refine ⟨parts, ?_, by rw [length, ← isTotal, isCount]; push_cast; ring, whole, respects⟩
  have fuel : payloadLen.toNat - count - 1 + count + 3 = payloadLen.toNat + 2 := by omega
  unfold splitAboutEqually
  rw [if_neg notSingle, if_neg room, if_neg (by omega)]
  dsimp only
  rw [← isTotal, isCount, if_neg enough, if_neg (by omega),
    Int.tmod_eq_emod_of_nonneg (by omega), Int.tdiv_eq_ediv_of_nonneg (by omega), ← isLarger,
    ← isBytes, ← fuel]
  exact returned

theorem splitAboutEqually_cases :
    (limits.singlePacketReductionLen + payloadLen ≤ limits.maxPayloadLen ∧
      splitAboutEqually payloadLen limits = .ok [payloadLen]) ∨
    (¬ limits.singlePacketReductionLen + payloadLen ≤ limits.maxPayloadLen ∧
      splitAboutEqually payloadLen limits = .ok [] ∧
      ∀ division : List Int, 2 ≤ division.length → division.sum = payloadLen →
        ¬ limits.Respects division) ∨
    (¬ limits.singlePacketReductionLen + payloadLen ≤ limits.maxPayloadLen ∧
      ∃ parts, splitAboutEqually payloadLen limits = .ok parts ∧ 2 ≤ parts.length ∧
        parts.sum = payloadLen ∧ limits.Respects parts ∧
        ∀ division : List Int, 2 ≤ division.length → division.sum = payloadLen →
          limits.Respects division → parts.length ≤ division.length) := by
  by_cases single : limits.maxPayloadLen ≥ limits.singlePacketReductionLen + payloadLen
  · exact .inl ⟨single, if_pos single⟩
  right
  by_cases room : limits.maxPayloadLen - limits.firstPacketReductionLen < 1 ∨
      limits.maxPayloadLen - limits.lastPacketReductionLen < 1
  · refine .inl ⟨single, ?_, ?_⟩
    · unfold splitAboutEqually
      rw [if_neg single, if_pos room]
    intro division several _ respects
    have notNil : division ≠ [] := by
      rintro rfl
      simp at several
    rcases room with noFirst | noLast
    · have first := respects.first _ (List.head?_eq_some_head notNil)
      have firstPositive := respects.positive _ (List.head_mem notNil)
      omega
    · have last := respects.last _ (List.getLast?_eq_some_getLast notNil)
      have lastPositive := respects.positive _ (List.getLast_mem notNil)
      omega
  by_cases enough : payloadLen < numPackets (payloadLen + limits.firstPacketReductionLen +
      limits.lastPacketReductionLen) limits.maxPayloadLen
  · refine .inl ⟨single, ?_, ?_⟩
    · unfold splitAboutEqually
      rw [if_neg single, if_neg room, if_neg (by omega)]
      exact if_pos enough
    · intro division several whole respects
      have least := numPackets_le_length some positive nonnegFirst nonnegLast several whole respects
      have bytes := PayloadSizeLimits.length_le_sum respects.positive
      omega
  · obtain ⟨parts, returned, length, whole, respects⟩ := splitAboutEqually_several some
      positive nonnegFirst nonnegLast single room enough
    have atLeast := (numPackets_spec (by omega : 0 < payloadLen +
      limits.firstPacketReductionLen + limits.lastPacketReductionLen) positive).1
    refine .inr ⟨single, parts, returned, by omega, whole, respects, ?_⟩
    intro division divisionSeveral divisionWhole divisionRespects
    have least := numPackets_le_length some positive nonnegFirst nonnegLast divisionSeveral
      divisionWhole divisionRespects
    omega

end

/--
A payload that fits into a single packet is not divided.  Otherwise the result is empty
exactly if no division into several positive parts respects the limits; and if it is not
empty, it is such a division, and none has fewer parts.
-/
theorem splitAboutEqually_optimal (payloadLen : Int) (limits : PayloadSizeLimits)
    (some : 0 < payloadLen) (positive : 0 < limits.maxPayloadLen)
    (nonnegFirst : 0 ≤ limits.firstPacketReductionLen)
    (nonnegLast : 0 ≤ limits.lastPacketReductionLen) :
    ∃ parts, splitAboutEqually payloadLen limits = .ok parts ∧
      (limits.singlePacketReductionLen + payloadLen ≤ limits.maxPayloadLen → parts = [payloadLen]) ∧
      (¬ limits.singlePacketReductionLen + payloadLen ≤ limits.maxPayloadLen →
        (parts = [] ↔ ¬ ∃ division : List Int, 2 ≤ division.length ∧
          division.sum = payloadLen ∧ limits.Respects division) ∧
        (parts ≠ [] → 2 ≤ parts.length ∧ parts.sum = payloadLen ∧ limits.Respects parts ∧
          ∀ division : List Int, 2 ≤ division.length → division.sum = payloadLen →
            limits.Respects division → parts.length ≤ division.length)) := by
  rcases splitAboutEqually_cases some positive nonnegFirst nonnegLast with
    ⟨single, returned⟩ | ⟨notSingle, returned, none⟩ |
    ⟨notSingle, parts, returned, several, whole, respects, least⟩
  · exact ⟨[payloadLen], returned, fun _ => rfl, fun notSingle => absurd single notSingle⟩
  · refine ⟨[], returned, fun isSingle => absurd isSingle notSingle, fun _ => ⟨⟨?_, ?_⟩, ?_⟩⟩
    · rintro _ ⟨division, several, whole, respects⟩
      exact none division several whole respects
    · exact fun _ => rfl
    · exact fun notEmpty => absurd rfl notEmpty
  · refine ⟨parts, returned, fun isSingle => absurd isSingle notSingle, fun _ =>
      ⟨⟨?_, ?_⟩, fun _ => ⟨several, whole, respects, least⟩⟩⟩
    · rintro rfl
      simp at several
    · exact fun none => absurd ⟨parts, several, whole, respects⟩ none

def tightLimits : PayloadSizeLimits where
  maxPayloadLen := 8
  firstPacketReductionLen := 7
  lastPacketReductionLen := 5
  singlePacketReductionLen := 3

theorem splitAboutEqually_optimal_thirty :
    splitAboutEqually 30 tightLimits = .ok [1, 7, 7, 7, 7, 1] ∧
    ∀ division : List Int, 2 ≤ division.length → division.sum = 30 →
      tightLimits.Respects division → 6 ≤ division.length := by
  obtain ⟨parts, returned, _, several⟩ := splitAboutEqually_optimal 30 tightLimits
    (by decide) (by decide) (by decide) (by decide)
  have evaluated : splitAboutEqually 30 tightLimits = .ok [1, 7, 7, 7, 7, 1] := by
    decide +kernel
  cases returned
  exact ⟨evaluated, ((several (by decide)).2 (by decide)).2.2.2⟩

end Result

end MaeRtc.Rtp
