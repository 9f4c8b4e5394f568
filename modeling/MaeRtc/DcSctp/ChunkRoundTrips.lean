import MaeRtc.DcSctp.DataTracker
import MaeRtc.DcSctp.SctpPacket

/-!
# Chunks and parameters on the wire

`SackChunk`, `ForwardTsnChunk` and `Parameters`.  The padded length of a parameter is a number
of sixteen bits: for a parameter of 65533 octets or more it is zero, and the loops over the
parameters do not get past it.
-/

namespace MaeRtc.DcSctp

open MaeRtc.Base Wire

/-! ## Records of one size -/

/-- The loop over a number of records. -/
def readRecords {α : Type} (size : Nat) (read : List Octet → α) : Nat → List Octet → List α
  | 0, _ => []
  | count + 1, data => read data :: readRecords size read count (data.drop size)

section

variable {α : Type} {size : Nat} {write : α → List Octet}
  (isSize : ∀ record, (write record).length = size)
include isSize

theorem readRecords_write {read : List Octet → α} {records : List α}
    (reads : ∀ record ∈ records, ∀ more, read (write record ++ more) = record) (more : List Octet) :
    readRecords size read records.length (records.flatMap write ++ more) = records := by
  induction records with
  | nil => rfl
  | cons record rest ih =>
    rw [List.flatMap_cons, List.append_assoc, List.length_cons, readRecords,
      reads record List.mem_cons_self, List.drop_left' (isSize record),
      ih fun other member => reads other (List.mem_cons_of_mem record member)]

theorem length_flatMap_of_size (records : List α) :
    (records.flatMap write).length = size * records.length := by
  rw [List.length_flatMap, List.map_congr_left fun record _ => isSize record, List.map_const',
    List.sum_replicate, smul_eq_mul, mul_comm]

end

/-- A number that was written at an offset is loaded from there. -/
theorem load16_write {front back : List Octet} {offset number : Nat} (small : number < 65536)
    (position : front.length = offset) :
    load16 (front ++ (writeBigEndian 2 number ++ back)) offset = number := by
  rw [load16, field_of_split rfl position (length_writeBigEndian 2 _),
    readBigEndian_write_of_lt small]

theorem load32_write {front back : List Octet} {offset number : Nat} (small : number < 2 ^ 32)
    (position : front.length = offset) :
    load32 (front ++ (writeBigEndian 4 number ++ back)) offset = number := by
  rw [load32, field_of_split rfl position (length_writeBigEndian 4 _),
    readBigEndian_write_of_lt small]

/-- Two numbers of sixteen bits. -/
def writePair (one two : BitVec 16) : List Octet :=
  writeBigEndian 2 one.toNat ++ writeBigEndian 2 two.toNat

def readPair (data : List Octet) : BitVec 16 × BitVec 16 :=
  (BitVec.ofNat 16 (load16 data 0), BitVec.ofNat 16 (load16 data 2))

theorem length_writePair (one two : BitVec 16) : (writePair one two).length = 4 := by
  simp [writePair]

theorem readPair_write (one two : BitVec 16) (more : List Octet) :
    readPair (writePair one two ++ more) = (one, two) := by
  have first := @load16_write [] (writeBigEndian 2 two.toNat ++ more) 0 _ one.isLt rfl
  have second := @load16_write (writeBigEndian 2 one.toNat) more 2 _ two.isLt
    (length_writeBigEndian 2 _)
  rw [List.nil_append] at first
  rw [readPair, writePair, List.append_assoc, first, second, BitVec.ofNat_toNat,
    BitVec.ofNat_toNat, BitVec.setWidth_eq, BitVec.setWidth_eq]

/-- A length that does not fit sixteen bits leaves more than three octets as padding. -/
theorem Wire.Tlv.parseTLV_large {tlv : Tlv} (large : 65536 ≤ tlv.size)
    (isVariable : tlv.config.variableLengthAlignment ≠ 0) :
    parseTLV tlv.config tlv.serializeTo = none := by
  have length := tlv.load16_length []
  rw [List.append_nil] at length
  unfold parseTLV
  dsimp only
  rw [length, tlv.length_serializeTo, if_neg isVariable]
  split_ifs <;> first | rfl | omega

/-! ## SACK -/

namespace SackChunk

def config : TlvConfig := ⟨3, 1, 16, 4, by decide⟩

def writeBlock (block : GapAckBlock) : List Octet :=
  writePair block.start block.stop

def readBlock (data : List Octet) : GapAckBlock :=
  ⟨(readPair data).1, (readPair data).2⟩

/-- The duplicates in the order of the set. -/
def sortedTsns (sack : SackChunk) : List Nat :=
  (sack.duplicateTsns.image BitVec.toNat).sort (· ≤ ·)

def fields (sack : SackChunk) : List Octet :=
  writeBigEndian 4 sack.cumulativeTsnAck.toNat ++ (writeBigEndian 4 sack.aRwnd.toNat ++
    (writeBigEndian 2 sack.gapAckBlocks.length ++ writeBigEndian 2 sack.duplicateTsns.card))

def toTlv (sack : SackChunk) : Tlv where
  config := config
  flags := 0
  rest := sack.fields ++ (sack.gapAckBlocks.flatMap writeBlock ++
    sack.sortedTsns.flatMap (writeBigEndian 4))
  sized := by simp [config, fields]; omega

def parse (data : List Octet) : Option SackChunk := do
  let reader ← parseTLV config data
  let nbrOfGapBlocks := load16 reader 12
  let nbrOfDupTsns := load16 reader 14
  if reader.length - 16 ≠ nbrOfGapBlocks * 4 + nbrOfDupTsns * 4 then none
  else
    some {
      cumulativeTsnAck := BitVec.ofNat 32 (load32 reader 4)
      aRwnd := BitVec.ofNat 32 (load32 reader 8)
      gapAckBlocks := readRecords 4 readBlock nbrOfGapBlocks (reader.drop 16)
      duplicateTsns := ((readRecords 4 (load32 · 0) nbrOfDupTsns
        (reader.drop (16 + 4 * nbrOfGapBlocks))).map (BitVec.ofNat 32)).toFinset }

theorem length_writeBlock (block : GapAckBlock) : (writeBlock block).length = 4 :=
  length_writePair _ _

theorem readBlock_write (block : GapAckBlock) (more : List Octet) :
    readBlock (writeBlock block ++ more) = block := by
  rw [readBlock, writeBlock, readPair_write]

theorem length_sortedTsns (sack : SackChunk) :
    sack.sortedTsns.length = sack.duplicateTsns.card := by
  rw [sortedTsns, Finset.length_sort]
  exact Finset.card_image_of_injective _ fun _ _ => BitVec.eq_of_toNat_eq

theorem size_toTlv (sack : SackChunk) :
    sack.toTlv.size = 16 + 4 * sack.gapAckBlocks.length + 4 * sack.duplicateTsns.card := by
  simp only [Tlv.size, toTlv, List.length_append, length_flatMap_of_size length_writeBlock,
    length_flatMap_of_size (length_writeBigEndian 4), sack.length_sortedTsns]
  simp [fields]
  omega

theorem sortedTsns_toFinset (sack : SackChunk) :
    (sack.sortedTsns.map (BitVec.ofNat 32)).toFinset = sack.duplicateTsns := by
  ext tsn
  simp only [sortedTsns, List.mem_toFinset, List.mem_map, Finset.mem_sort, Finset.mem_image]
  constructor
  · rintro ⟨_, ⟨other, member, rfl⟩, rfl⟩
    rwa [BitVec.ofNat_toNat, BitVec.setWidth_eq]
  · intro member
    exact ⟨_, ⟨tsn, member, rfl⟩, by rw [BitVec.ofNat_toNat, BitVec.setWidth_eq]⟩

theorem parse_serializeTo {sack : SackChunk} (fits : sack.toTlv.size < 65536) :
    parse sack.toTlv.serializeTo = some sack := by
  have size := sack.size_toTlv
  have card := sack.length_sortedTsns
  have whole : parseTLV config _ = _ := @Tlv.parseTLV_serializeTo sack.toTlv fits
    ⟨fun fixed => absurd fixed (by simp [toTlv, config]), fun _ => by
      rw [size]
      simp only [toTlv, config]
      omega⟩ [] (by rw [size, roundUpTo4, List.length_nil]; omega)
  rw [List.append_nil] at whole
  have split : sack.toTlv.serializeTo = sack.toTlv.front ++ (writeBigEndian 2 sack.toTlv.size ++
      (writeBigEndian 4 sack.cumulativeTsnAck.toNat ++ (writeBigEndian 4 sack.aRwnd.toNat ++
        (writeBigEndian 2 sack.gapAckBlocks.length ++ (writeBigEndian 2 sack.duplicateTsns.card ++
          (sack.gapAckBlocks.flatMap writeBlock ++
            sack.sortedTsns.flatMap (writeBigEndian 4))))))) := by
    simp [Tlv.serializeTo, toTlv, fields]
  have tsn : load32 sack.toTlv.serializeTo 4 = sack.cumulativeTsnAck.toNat := by
    exact load32_write sack.cumulativeTsnAck.isLt (by simp)
  have window : load32 sack.toTlv.serializeTo 8 = sack.aRwnd.toNat := by
    rw [split, ← List.append_assoc, ← List.append_assoc]
    exact load32_write sack.aRwnd.isLt (by simp)
  have blocks : load16 sack.toTlv.serializeTo 12 = sack.gapAckBlocks.length := by
    rw [split, ← List.append_assoc, ← List.append_assoc, ← List.append_assoc]
    exact load16_write (by omega) (by simp)
  have duplicates : load16 sack.toTlv.serializeTo 14 = sack.duplicateTsns.card := by
    rw [split, ← List.append_assoc, ← List.append_assoc, ← List.append_assoc, ← List.append_assoc]
    exact load16_write (by omega) (by simp)
  have behind : sack.toTlv.serializeTo.drop 16 = sack.gapAckBlocks.flatMap writeBlock ++
      sack.sortedTsns.flatMap (writeBigEndian 4) := by
    rw [split, ← List.append_assoc, ← List.append_assoc, ← List.append_assoc,
      ← List.append_assoc, ← List.append_assoc, List.drop_left' (by simp)]
  have tail : sack.toTlv.serializeTo.drop (16 + 4 * sack.gapAckBlocks.length) =
      sack.sortedTsns.flatMap (writeBigEndian 4) ++ [] := by
    rw [← List.drop_drop, behind, List.append_nil,
      List.drop_left' (length_flatMap_of_size length_writeBlock _)]
  have readTsns : readRecords 4 (load32 · 0) sack.duplicateTsns.card
      (sack.sortedTsns.flatMap (writeBigEndian 4) ++ []) = sack.sortedTsns := by
    rw [← card]
    refine readRecords_write (length_writeBigEndian 4) (fun number member more => ?_) []
    obtain ⟨other, -, rfl⟩ := Finset.mem_image.mp ((Finset.mem_sort _).mp member)
    exact @load32_write [] more 0 _ other.isLt rfl
  rw [parse, whole, Option.bind_eq_bind, Option.bind_some]
  rw [tsn, window, blocks, duplicates, sack.toTlv.length_serializeTo, if_neg (by omega), behind,
    tail, readRecords_write length_writeBlock fun block _ => readBlock_write block, readTsns,
    sack.sortedTsns_toFinset, BitVec.ofNat_toNat, BitVec.ofNat_toNat, BitVec.setWidth_eq,
    BitVec.setWidth_eq]

end SackChunk

/-! ## FORWARD-TSN -/

structure ForwardTsnChunk where
  newCumulativeTsn : Tsn
  skippedStreams : List (BitVec 16 × Ssn)
  deriving DecidableEq

namespace ForwardTsnChunk

def config : TlvConfig := ⟨192, 1, 8, 4, by decide⟩

def toTlv (chunk : ForwardTsnChunk) : Tlv where
  config := config
  flags := 0
  rest := writeBigEndian 4 chunk.newCumulativeTsn.toNat ++
    chunk.skippedStreams.flatMap fun skipped => writePair skipped.1 skipped.2
  sized := by simp [config]; omega

def parse (data : List Octet) : Option ForwardTsnChunk := do
  let reader ← parseTLV config data
  some {
    newCumulativeTsn := BitVec.ofNat 32 (load32 reader 4)
    skippedStreams := readRecords 4 readPair ((reader.length - 8) / 4) (reader.drop 8) }

theorem size_toTlv (chunk : ForwardTsnChunk) :
    chunk.toTlv.size = 8 + 4 * chunk.skippedStreams.length := by
  simp only [Tlv.size, toTlv, List.length_append, length_writeBigEndian,
    length_flatMap_of_size fun _ => length_writePair _ _]
  omega

/-- A chunk is read again exactly if its length fits sixteen bits. -/
theorem parse_serializeTo_iff (chunk : ForwardTsnChunk) :
    parse chunk.toTlv.serializeTo = some chunk ↔ chunk.toTlv.size < 65536 := by
  have size := chunk.size_toTlv
  have notFixed : chunk.toTlv.config.variableLengthAlignment ≠ 0 := by simp [toTlv, config]
  constructor
  · intro parsed
    by_contra large
    have refused : parseTLV config _ = _ := Tlv.parseTLV_large (by omega) notFixed
    rw [parse, refused] at parsed
    cases parsed
  · intro fits
    have whole : parseTLV config _ = _ := @Tlv.parseTLV_serializeTo chunk.toTlv fits
      ⟨fun fixed => absurd fixed notFixed, fun _ => by
        rw [size]
        simp only [toTlv, config]
        omega⟩ [] (by rw [size, roundUpTo4, List.length_nil]; omega)
    rw [List.append_nil] at whole
    have split : chunk.toTlv.serializeTo = (chunk.toTlv.front ++
        writeBigEndian 2 chunk.toTlv.size) ++ (writeBigEndian 4 chunk.newCumulativeTsn.toNat ++
          (chunk.skippedStreams.flatMap (fun skipped => writePair skipped.1 skipped.2) ++ [])) := by
      simp [Tlv.serializeTo, toTlv]
    have tsn : load32 chunk.toTlv.serializeTo 4 = chunk.newCumulativeTsn.toNat := by
      exact load32_write chunk.newCumulativeTsn.isLt (by simp)
    have behind : chunk.toTlv.serializeTo.drop 8 =
        chunk.skippedStreams.flatMap (fun skipped => writePair skipped.1 skipped.2) ++ [] := by
      rw [split, ← List.append_assoc, List.drop_left' (by simp)]
    have count : (chunk.toTlv.size - 8) / 4 = chunk.skippedStreams.length := by omega
    rw [parse, whole, Option.bind_eq_bind, Option.bind_some]
    rw [tsn, behind, chunk.toTlv.length_serializeTo, count, readRecords_write
      (fun _ => length_writePair _ _) (fun skipped _ => readPair_write skipped.1 skipped.2),
      BitVec.ofNat_toNat, BitVec.setWidth_eq]

end ForwardTsnChunk

/-! ## Parameters -/

structure ParameterDescriptor where
  type : Nat
  data : List Octet
  deriving DecidableEq, Repr

/-- How a loop over parameters ends, other than with a result. -/
inductive Failure where
  /-- The parameters are refused. -/
  | invalid
  /-- A header is read that the buffer does not contain. -/
  | pastEnd
  /-- A round leaves the buffer as it was, and so will all that follow. -/
  | endless
  deriving DecidableEq, Repr

namespace Parameters

/-- `Builder::Add`: a parameter is padded once another one follows. -/
def add (data : List Octet) (parameter : Tlv) : List Octet :=
  data ++ List.replicate (roundUpTo4 data.length - data.length) 0 ++ parameter.serializeTo

/-- The length with padding, as a number of sixteen bits. -/
def lengthWithPadding (span : List Octet) : Nat := roundUpTo4 (load16 span 2) % 65536

def parse (span : List Octet) : Except Failure Unit :=
  if span.isEmpty then .ok ()
  else if span.length < 4 then .error .invalid
  else if load16 span 2 < 4 ∨ load16 span 2 > span.length then .error .invalid
  else if lengthWithPadding span > span.length then .ok ()
  else if lengthWithPadding span = 0 then .error .endless
  else parse (span.drop (lengthWithPadding span))
termination_by span.length
decreasing_by
  rw [List.length_drop]
  omega

def descriptors (span : List Octet) : Except Failure (List ParameterDescriptor) :=
  if span.isEmpty then .ok []
  else if span.length < 4 then .error .pastEnd
  else
    let descriptor : ParameterDescriptor := ⟨load16 span 0, span.take (load16 span 2)⟩
    if lengthWithPadding span > span.length then .ok [descriptor]
    else if lengthWithPadding span = 0 then .error .endless
    else do
      let rest ← descriptors (span.drop (lengthWithPadding span))
      .ok (descriptor :: rest)
termination_by span.length
decreasing_by
  rw [List.length_drop]
  omega

open Wire.SctpPacket (piece length_piece)

theorem length_pieces_mod (parameters : List Tlv) : (parameters.flatMap piece).length % 4 = 0 := by
  induction parameters with
  | nil => rfl
  | cons parameter rest ih =>
    rw [List.flatMap_cons, List.length_append, length_piece, roundUpTo4]
    omega

theorem foldl_add_snoc (parameters : List Tlv) (last : Tlv) :
    (parameters ++ [last]).foldl add [] = parameters.flatMap piece ++ last.serializeTo := by
  induction parameters using List.reverseRecOn generalizing last with
  | nil => rfl
  | append_singleton parameters parameter ih =>
    have divisible := length_pieces_mod parameters
    have padding : roundUpTo4 (parameters.flatMap piece ++ parameter.serializeTo).length -
        (parameters.flatMap piece ++ parameter.serializeTo).length =
          roundUpTo4 parameter.size - parameter.size := by
      rw [List.length_append, parameter.length_serializeTo]
      unfold roundUpTo4
      omega
    rw [List.foldl_append, ih, List.foldl_cons, List.foldl_nil, add, padding]
    simp [piece]

/-- What a parameter is described by. -/
def describe (parameter : Tlv) : ParameterDescriptor :=
  ⟨parameter.config.type, parameter.serializeTo⟩

section Step

variable {parameter : Tlv} (twoOctets : parameter.config.typeSizeInBytes = 2)
  (small : parameter.size ≤ 65532)

include small in
theorem lengthWithPadding_serializeTo (more : List Octet) :
    lengthWithPadding (parameter.serializeTo ++ more) = roundUpTo4 parameter.size := by
  rw [lengthWithPadding, parameter.load16_length, roundUpTo4, roundUpTo4]
  omega

include twoOctets small in
/-- The first round of both loops: the rest is what follows the padding, if there is one. -/
theorem round_serializeTo {more : List Octet} :
    (parse (parameter.serializeTo ++ more) =
      if more.length < roundUpTo4 parameter.size - parameter.size then .ok ()
      else parse (more.drop (roundUpTo4 parameter.size - parameter.size))) ∧
    descriptors (parameter.serializeTo ++ more) =
      if more.length < roundUpTo4 parameter.size - parameter.size then .ok [describe parameter]
      else (descriptors (more.drop (roundUpTo4 parameter.size - parameter.size))).map
        (describe parameter :: ·) := by
  have padded := lengthWithPadding_serializeTo small more
  have length : load16 (parameter.serializeTo ++ more) 2 = parameter.size := by
    rw [parameter.load16_length, Nat.mod_eq_of_lt (by omega)]
  have type : load16 (parameter.serializeTo ++ more) 0 = parameter.config.type := by
    have loaded := parameter.loadType_serializeTo more
    rwa [TlvConfig.loadType, if_neg (by omega)] at loaded
  have total : (parameter.serializeTo ++ more).length = parameter.size + more.length := by simp
  have sizeGe : 4 ≤ parameter.size := Nat.le_add_right 4 _
  have sizeLe : parameter.size ≤ roundUpTo4 parameter.size := by unfold roundUpTo4; omega
  have notEmpty : (parameter.serializeTo ++ more).isEmpty = false := by
    rw [List.isEmpty_eq_false_iff, ← List.length_pos_iff]
    omega
  have taken : (parameter.serializeTo ++ more).take parameter.size = parameter.serializeTo :=
    List.take_left' parameter.length_serializeTo
  have dropped : (parameter.serializeTo ++ more).drop (roundUpTo4 parameter.size) =
      more.drop (roundUpTo4 parameter.size - parameter.size) := by
    rw [List.drop_append, List.drop_of_length_le (by simpa using sizeLe), List.nil_append,
      parameter.length_serializeTo]
  constructor
  · rw [parse, padded, length, notEmpty, dropped, if_neg Bool.false_ne_true, if_neg (by omega),
      if_neg (by omega)]
    refine if_congr (by omega) rfl ?_
    rw [if_neg (by omega)]
  · rw [descriptors, padded, length, notEmpty, dropped, taken, type, if_neg Bool.false_ne_true,
      if_neg (by omega)]
    refine if_congr (by omega) rfl ?_
    rw [if_neg (by omega)]
    rfl

end Step

/-- Both loops get past a parameter only if its padded length fits sixteen bits. -/
theorem size_le_of_read {parameter : Tlv} {more : List Octet} {rest : List ParameterDescriptor}
    (accepted : parse (parameter.serializeTo ++ more) = .ok ())
    (read : descriptors (parameter.serializeTo ++ more) = .ok (describe parameter :: rest)) :
    parameter.size ≤ 65532 := by
  have length := parameter.load16_length more
  have sizeGe : 4 ≤ parameter.size := Nat.le_add_right 4 _
  have notEmpty : (parameter.serializeTo ++ more).isEmpty = false := by
    rw [List.isEmpty_eq_false_iff, ← List.length_pos_iff, List.length_append,
      parameter.length_serializeTo]
    omega
  have exact : parameter.size < 65536 := by
    have taken : (parameter.serializeTo ++ more).take (parameter.size % 65536) =
        parameter.serializeTo := by
      rw [descriptors, notEmpty, if_neg Bool.false_ne_true, length] at read
      split_ifs at read
      · exact congrArg ParameterDescriptor.data (List.cons.inj (Except.ok.inj read)).1
      cases following : descriptors ((parameter.serializeTo ++ more).drop
          (lengthWithPadding (parameter.serializeTo ++ more))) with
      | error failure =>
        rw [following] at read
        cases read
      | ok others =>
        rw [following] at read
        exact congrArg ParameterDescriptor.data (List.cons.inj (Except.ok.inj read)).1
    have sizes := congrArg List.length taken
    rw [List.length_take, parameter.length_serializeTo] at sizes
    omega
  by_contra large
  have nothing : lengthWithPadding (parameter.serializeTo ++ more) = 0 := by
    rw [lengthWithPadding, length, roundUpTo4]
    omega
  rw [parse, notEmpty, if_neg Bool.false_ne_true, nothing] at accepted
  split_ifs at accepted <;> omega

/-- Parameters of a buffer that is accepted lie within it, as long as they say they are. -/
theorem descriptors_of_parse {span : List Octet} (accepted : parse span = .ok ()) :
    ∃ read, descriptors span = .ok read ∧
      ∀ descriptor ∈ read, load16 descriptor.data 2 = descriptor.data.length := by
  have within : ∀ {span : List Octet}, ¬ (load16 span 2 < 4 ∨ load16 span 2 > span.length) →
      load16 (span.take (load16 span 2)) 2 = (span.take (load16 span 2)).length := by
    intro span sized
    rw [List.length_take_of_le (by omega)]
    conv_rhs => rw [load16]
    rw [load16, field, field, List.drop_take, List.take_take, Nat.min_eq_left (by omega)]
  fun_induction parse span with
  | case1 span empty =>
    rw [descriptors, if_pos empty]
    exact ⟨[], rfl, by simp⟩
  | case2 | case3 | case5 => cases accepted
  | case4 span notEmpty large sized beyond =>
    rw [descriptors, if_neg notEmpty, if_neg large, if_pos beyond]
    exact ⟨_, rfl, by simpa using within sized⟩
  | case6 span notEmpty large sized inside progress ih =>
    obtain ⟨read, isRead, declared⟩ := ih accepted
    rw [descriptors, if_neg notEmpty, if_neg large, if_neg inside, if_neg progress, isRead]
    exact ⟨_, rfl, List.forall_mem_cons.mpr ⟨within sized, declared⟩⟩

/-- The parameters are accepted and found again. -/
def RoundTrips (parameters : List Tlv) : Prop :=
  parse (parameters.foldl add []) = .ok () ∧
    descriptors (parameters.foldl add []) = .ok (parameters.map describe)

theorem roundTrips_iff {parameters : List Tlv}
    (twoOctets : ∀ parameter ∈ parameters, parameter.config.typeSizeInBytes = 2) :
    RoundTrips parameters ↔ ∀ parameter ∈ parameters, parameter.size ≤ 65532 := by
  rcases List.eq_nil_or_concat' parameters with rfl | ⟨front, last, rfl⟩
  · simp [RoundTrips, parse, descriptors]
  rw [RoundTrips, foldl_add_snoc]
  induction front with
  | nil =>
    rw [List.flatMap_nil, List.nil_append, List.nil_append, List.map_singleton,
      ← List.append_nil last.serializeTo]
    constructor
    · rintro ⟨accepted, read⟩
      simpa using size_le_of_read accepted read
    intro small
    obtain ⟨parsed, read⟩ := @round_serializeTo last (twoOctets last (by simp))
      (small last (by simp)) []
    rw [parsed, read, List.drop_nil]
    split_ifs
    · exact ⟨rfl, rfl⟩
    · simp [parse, descriptors, Except.map]
  | cons parameter rest ih =>
    obtain ⟨isTwo, restTwo⟩ := List.forall_mem_cons.mp twoOctets
    have regroup : (parameter :: rest).flatMap piece ++ last.serializeTo =
        parameter.serializeTo ++ (List.replicate (roundUpTo4 parameter.size - parameter.size) 0 ++
          (rest.flatMap piece ++ last.serializeTo)) := by
      simp [piece]
    have following : parameter.size ≤ 65532 →
        parse ((parameter :: rest).flatMap piece ++ last.serializeTo) =
          parse (rest.flatMap piece ++ last.serializeTo) ∧
        descriptors ((parameter :: rest).flatMap piece ++ last.serializeTo) =
          (descriptors (rest.flatMap piece ++ last.serializeTo)).map
            (describe parameter :: ·) := by
      intro small
      obtain ⟨parsed, read⟩ := @round_serializeTo parameter isTwo small
        (List.replicate (roundUpTo4 parameter.size - parameter.size) 0 ++
          (rest.flatMap piece ++ last.serializeTo))
      rw [regroup, parsed, read, if_neg (by simp), if_neg (by simp),
        List.drop_left' List.length_replicate]
      exact ⟨rfl, rfl⟩
    rw [List.cons_append, List.forall_mem_cons, List.map_cons, ← ih restTwo]
    constructor
    · rintro ⟨accepted, read⟩
      have small : parameter.size ≤ 65532 := by
        rw [regroup] at accepted read
        exact size_le_of_read accepted read
      obtain ⟨parsed, found⟩ := following small
      rw [parsed] at accepted
      rw [found] at read
      refine ⟨small, accepted, ?_⟩
      cases others : descriptors (rest.flatMap piece ++ last.serializeTo) with
      | error failure =>
        rw [others] at read
        cases read
      | ok list =>
        rw [others] at read
        rw [(List.cons.inj (Except.ok.inj read)).2]
    · rintro ⟨small, accepted, read⟩
      obtain ⟨parsed, found⟩ := following small
      rw [parsed, found, read]
      exact ⟨accepted, rfl⟩

end Parameters

/--
Acknowledgements that fit their length are read again; a FORWARD-TSN is exactly if its length
fits sixteen bits; and parameters are exactly if none of them has more than 65532 octets.
Whatever is accepted as parameters is described without a read past its end.
-/
theorem chunks_and_parameters_read_again (sack : SackChunk) (chunk : ForwardTsnChunk)
    (parameters : List Tlv)
    (twoOctets : ∀ parameter ∈ parameters, parameter.config.typeSizeInBytes = 2)
    (span : List Octet) :
    (sack.toTlv.size < 65536 → SackChunk.parse sack.toTlv.serializeTo = some sack) ∧
    (ForwardTsnChunk.parse chunk.toTlv.serializeTo = some chunk ↔
      chunk.skippedStreams.length ≤ 16381) ∧
    (Parameters.RoundTrips parameters ↔ ∀ parameter ∈ parameters, parameter.size ≤ 65532) ∧
    (Parameters.parse span = .ok () → ∃ read, Parameters.descriptors span = .ok read ∧
      ∀ descriptor ∈ read, load16 descriptor.data 2 = descriptor.data.length) := by
  refine ⟨SackChunk.parse_serializeTo, ?_, Parameters.roundTrips_iff twoOctets,
    Parameters.descriptors_of_parse⟩
  rw [ForwardTsnChunk.parse_serializeTo_iff, ForwardTsnChunk.size_toTlv]
  omega

def cookieConfig : TlvConfig := ⟨7, 2, 4, 1, by decide⟩

/-- A state cookie. -/
def stateCookie (cookie : List Octet) : Tlv :=
  ⟨cookieConfig, 0, cookie, Nat.le_add_right 4 _⟩

theorem two_cookies_read_again : Parameters.RoundTrips [stateCookie [1, 2, 3], stateCookie [4]] :=
  (chunks_and_parameters_read_again ⟨0, 0, [], ∅⟩ ⟨0, []⟩ _
    (by simp [stateCookie, cookieConfig]) []).2.2.1.mpr (by simp [stateCookie, Tlv.size])

/-- A cookie of 65529 octets fills its length of sixteen bits, and its parameter is never
passed. -/
theorem large_cookie_endless :
    (stateCookie (List.replicate 65529 0)).size = 65533 ∧
      Parameters.parse ([stateCookie (List.replicate 65529 0)].foldl Parameters.add []) =
        .error .endless := by
  have size : (stateCookie (List.replicate 65529 0)).size = 65533 := by
    rw [Tlv.size, stateCookie, List.length_replicate]
  refine ⟨size, ?_⟩
  have length := (stateCookie (List.replicate 65529 0)).load16_length []
  have total := (stateCookie (List.replicate 65529 0)).length_serializeTo
  rw [List.append_nil, size] at length
  rw [size] at total
  rw [List.foldl_cons, List.foldl_nil, Parameters.add]
  generalize (stateCookie (List.replicate 65529 0)).serializeTo = data at *
  have nothing : Parameters.lengthWithPadding data = 0 := by
    rw [Parameters.lengthWithPadding, length]
    rfl
  have notEmpty : data.isEmpty = false := by
    rw [List.isEmpty_eq_false_iff, ← List.length_pos_iff, total]
    decide
  change Parameters.parse data = _
  rw [Parameters.parse, notEmpty, length, nothing, total]
  rfl

end MaeRtc.DcSctp
