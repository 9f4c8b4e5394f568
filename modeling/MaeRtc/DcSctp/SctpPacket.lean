import MaeRtc.Base.ByteReader
import MaeRtc.DcSctp.Data

/-!
# Packets and the chunks in them

`TLVTrait` of `tlv_trait.h`, and `SctpPacket` of `sctp_packet.cc`.  A packet is a header of
twelve octets and chunks, each of them padded to a multiple of four octets.  The checksum is a
parameter.
-/

namespace MaeRtc.DcSctp.Wire

open MaeRtc.Base

def load16 (data : List Octet) (offset : Nat) : Nat :=
  readBigEndian (field data offset 2)

def load32 (data : List Octet) (offset : Nat) : Nat :=
  readBigEndian (field data offset 4)

/-- The template parameter of `TLVTrait`, with what its assertions demand. -/
structure TlvConfig where
  type : Nat
  typeSizeInBytes : Nat
  headerSize : Nat
  variableLengthAlignment : Nat
  allowed : (typeSizeInBytes = 1 ∨ typeSizeInBytes = 2) ∧ type < 256 ^ typeSizeInBytes ∧
    4 ≤ headerSize ∧ headerSize % 4 = 0

/-- The type, of one or of two octets. -/
def TlvConfig.loadType (config : TlvConfig) (data : List Octet) : Nat :=
  if config.typeSizeInBytes = 1 then readBigEndian (field data 0 1) else load16 data 0

def parseTLV (config : TlvConfig) (data : List Octet) : Option (List Octet) :=
  let length := load16 data 2
  if data.length < config.headerSize then none
  else if config.loadType data ≠ config.type then none
  else if config.variableLengthAlignment = 0 then
    if length ≠ config.headerSize ∨ data.length ≠ config.headerSize then none
    else some (data.take length)
  else if length > data.length ∨ length < config.headerSize then none
  else if data.length - length > 3 then none
  else if length % config.variableLengthAlignment ≠ 0 then none
  else some (data.take length)

/-- An object that is serialised through `AllocateTLV`: its flags, which a type of two octets
does not leave room for, and what follows the length. -/
structure Tlv where
  config : TlvConfig
  flags : Octet
  rest : List Octet
  sized : config.headerSize ≤ 4 + rest.length

namespace Tlv

def size (tlv : Tlv) : Nat := 4 + tlv.rest.length

/-- The size is one that `ParseTLV` accepts. -/
def Aligned (tlv : Tlv) : Prop :=
  (tlv.config.variableLengthAlignment = 0 → tlv.size = tlv.config.headerSize) ∧
    (tlv.config.variableLengthAlignment ≠ 0 → tlv.size % tlv.config.variableLengthAlignment = 0)

def front (tlv : Tlv) : List Octet :=
  if tlv.config.typeSizeInBytes = 1 then [BitVec.ofNat 8 tlv.config.type, tlv.flags]
  else writeBigEndian 2 tlv.config.type

/-- The length is cut to sixteen bits. -/
def serializeTo (tlv : Tlv) : List Octet :=
  tlv.front ++ (writeBigEndian 2 tlv.size ++ tlv.rest)

@[simp] theorem length_front (tlv : Tlv) : tlv.front.length = 2 := by
  unfold front
  split_ifs <;> simp

@[simp] theorem length_serializeTo (tlv : Tlv) : tlv.serializeTo.length = tlv.size := by
  simp only [serializeTo, List.length_append, length_front, length_writeBigEndian, size]
  omega

theorem load16_length (tlv : Tlv) (more : List Octet) :
    load16 (tlv.serializeTo ++ more) 2 = tlv.size % 65536 := by
  have split : tlv.serializeTo ++ more =
      tlv.front ++ (writeBigEndian 2 tlv.size ++ (tlv.rest ++ more)) := by
    simp [serializeTo]
  rw [load16, field_of_split split tlv.length_front (length_writeBigEndian 2 _),
    readBigEndian_write, show 256 ^ 2 = 65536 from rfl]

theorem loadType_serializeTo (tlv : Tlv) (more : List Octet) :
    tlv.config.loadType (tlv.serializeTo ++ more) = tlv.config.type := by
  have fits := tlv.config.allowed.2.1
  unfold TlvConfig.loadType
  split_ifs with one
  · rw [one] at fits
    rw [serializeTo, front, if_pos one]
    simpa [field, readBigEndian] using fits
  rw [tlv.config.allowed.1.resolve_left one] at fits
  have split : tlv.serializeTo ++ more = [] ++ (writeBigEndian 2 tlv.config.type ++
      (writeBigEndian 2 tlv.size ++ tlv.rest ++ more)) := by
    simp [serializeTo, front, one]
  rw [load16, field_of_split split List.length_nil (length_writeBigEndian 2 _),
    readBigEndian_write_of_lt fits]

/-- Padding of at most three octets is stripped again. -/
theorem parseTLV_serializeTo {tlv : Tlv} (exact : tlv.size < 65536) (aligned : tlv.Aligned)
    {padding : List Octet} (short : padding.length = roundUpTo4 tlv.size - tlv.size) :
    parseTLV tlv.config (tlv.serializeTo ++ padding) = some tlv.serializeTo := by
  have taken : (tlv.serializeTo ++ padding).take tlv.size = tlv.serializeTo := by
    rw [← tlv.length_serializeTo, List.take_left]
  have sized : tlv.config.headerSize ≤ tlv.size := tlv.sized
  have header := tlv.config.allowed.2.2.2
  unfold roundUpTo4 at short
  unfold parseTLV
  simp only [tlv.load16_length, tlv.loadType_serializeTo, Nat.mod_eq_of_lt exact,
    List.length_append, tlv.length_serializeTo, taken]
  rw [if_neg (by omega), if_neg (not_not.mpr rfl)]
  by_cases fixed : tlv.config.variableLengthAlignment = 0
  · have size := aligned.1 fixed
    rw [if_pos fixed, if_neg (by omega)]
  · rw [if_neg fixed, if_neg (by omega), if_neg (by omega), if_neg (not_not.mpr (aligned.2 fixed))]

theorem aligned_of_parseTLV {tlv : Tlv} {data : List Octet}
    (parsed : parseTLV tlv.config data = some tlv.serializeTo) : tlv.Aligned := by
  have size := tlv.length_serializeTo
  unfold parseTLV at parsed
  dsimp only at parsed
  split_ifs at parsed with small type fixed wrong outside padded unaligned
  · rw [← Option.some.inj parsed, List.length_take] at size
    exact ⟨fun _ => by omega, fun notFixed => absurd fixed notFixed⟩
  · rw [← Option.some.inj parsed, List.length_take_of_le (by omega)] at size
    exact ⟨fun isFixed => absurd isFixed fixed, fun _ => size ▸ not_not.mp unaligned⟩

end Tlv

/-! ## Packets -/

structure DcSctpOptions where
  localPort : BitVec 16
  remotePort : BitVec 16
  mtu : Nat
  disableChecksumVerification : Bool
  enableZeroChecksum : Bool

structure CommonHeader where
  sourcePort : Nat
  destinationPort : Nat
  verificationTag : Nat
  checksum : Nat
  deriving DecidableEq, Repr

structure ChunkDescriptor where
  type : Octet
  flags : Octet
  data : List Octet
  deriving DecidableEq, Repr

structure SctpPacket where
  commonHeader : CommonHeader
  descriptors : List ChunkDescriptor
  deriving DecidableEq, Repr

namespace SctpPacket

/-- The packet so far; the source keeps the options and the tag in the builder. -/
abbrev Builder := List Octet

/-- The ports and the verification tag. -/
def addresses (tag : BitVec 32) (options : DcSctpOptions) : List Octet :=
  writeBigEndian 2 options.localPort.toNat ++ (writeBigEndian 2 options.remotePort.toNat ++
    writeBigEndian 4 tag.toNat)

/-- The header, with room for the checksum. -/
def header (tag : BitVec 32) (options : DcSctpOptions) : List Octet :=
  addresses tag options ++ List.replicate 4 0

def maxPacketSize (options : DcSctpOptions) : Nat := options.mtu / 4 * 4

def add (tag : BitVec 32) (options : DcSctpOptions) (out : Builder) (chunk : Tlv) : Builder :=
  let out := (if out.isEmpty then header tag options else out) ++ chunk.serializeTo
  out ++ List.replicate (roundUpTo4 out.length - out.length) 0

def store32 (buffer : List Octet) (offset value : Nat) : List Octet :=
  buffer.take offset ++ (writeBigEndian 4 value ++ buffer.drop (offset + 4))

variable (generateCrc32C : List Octet → BitVec 32)

def build (writeChecksum : Bool) (out : Builder) : List Octet :=
  if !out.isEmpty && writeChecksum then store32 out 8 (generateCrc32C out).toNat else out

/-- The loop over the chunks; the padded length is cut to sixteen bits. -/
def parseChunks (data : List Octet) : Option (List ChunkDescriptor) :=
  if data.isEmpty then some []
  else if data.length < 4 then none
  else
    let paddedLength := roundUpTo4 (load16 data 2) % 65536
    if paddedLength > data.length then none
    else if paddedLength < 4 then none
    else do
      let descriptors ← parseChunks (data.drop paddedLength)
      some (⟨data[0]?.getD 0, data[1]?.getD 0, data.take paddedLength⟩ :: descriptors)
termination_by data.length
decreasing_by
  rw [List.length_drop]
  omega

def parse (options : DcSctpOptions) (data : List Octet) : Option SctpPacket :=
  let commonHeader : CommonHeader :=
    ⟨load16 data 0, load16 data 2, load32 data 4, load32 data 8⟩
  if data.length < 12 + 4 ∨ data.length > 65535 then none
  else if !(options.disableChecksumVerification ||
      options.enableZeroChecksum && commonHeader.checksum == 0) &&
      (generateCrc32C (store32 data 8 0)).toNat != commonHeader.checksum then none
  else do
    let descriptors ← parseChunks (data.drop 12)
    some ⟨commonHeader, descriptors⟩

/-! ## What the builder writes -/

/-- A chunk with its padding. -/
def piece (chunk : Tlv) : List Octet :=
  chunk.serializeTo ++ List.replicate (roundUpTo4 chunk.size - chunk.size) 0

theorem length_piece (chunk : Tlv) : (piece chunk).length = roundUpTo4 chunk.size := by
  rw [piece, List.length_append, List.length_replicate, chunk.length_serializeTo, roundUpTo4]
  omega

theorem length_header (tag : BitVec 32) (options : DcSctpOptions) :
    (header tag options).length = 12 := by
  simp [header, addresses]

/-- Every chunk starts at a multiple of four, so that its padding depends on its size only. -/
theorem out_addAll (tag : BitVec 32) (options : DcSctpOptions) {chunks : List Tlv}
    (nonempty : chunks ≠ []) :
    chunks.foldl (add tag options) [] = header tag options ++ chunks.flatMap piece := by
  suffices all : chunks.foldl (add tag options) [] =
      (if chunks.isEmpty then [] else header tag options) ++ chunks.flatMap piece ∧
      (chunks.foldl (add tag options) []).length % 4 = 0 by
    rw [all.1, if_neg (by simpa using nonempty)]
  clear nonempty
  induction chunks using List.reverseRecOn with
  | nil => simp
  | append_singleton chunks chunk ih =>
    obtain ⟨same, divisible⟩ := ih
    have start : (if (chunks.foldl (add tag options) []).isEmpty then header tag options
        else chunks.foldl (add tag options) []) =
        header tag options ++ chunks.flatMap piece := by
      rw [same]
      cases chunks with
      | nil => simp
      | cons first others => simp
    have startDivisible : (header tag options ++ chunks.flatMap piece).length % 4 = 0 := by
      rw [← start]
      split_ifs
      · rw [length_header]
      · exact divisible
    have added : (chunks ++ [chunk]).foldl (add tag options) [] =
        header tag options ++ (chunks ++ [chunk]).flatMap piece := by
      have padding : roundUpTo4 (header tag options ++ chunks.flatMap piece ++
          chunk.serializeTo).length - (header tag options ++ chunks.flatMap piece ++
          chunk.serializeTo).length = roundUpTo4 chunk.size - chunk.size := by
        rw [List.length_append, chunk.length_serializeTo]
        unfold roundUpTo4
        omega
      rw [List.foldl_append, List.foldl_cons, List.foldl_nil, add, start, padding]
      simp [piece]
    refine ⟨by simpa using added, ?_⟩
    rw [added, List.flatMap_append, ← List.append_assoc, List.length_append,
      Nat.add_mod, startDivisible]
    simp [length_piece, roundUpTo4]

/-! ## What the parser reads -/

/-- A descriptor of a chunk: its type and flags, and what is left of its data without padding. -/
structure Describes (chunk : Tlv) (descriptor : ChunkDescriptor) : Prop where
  type : descriptor.type.toNat = chunk.config.type
  flags : descriptor.flags = chunk.flags
  data : parseTLV chunk.config descriptor.data = some chunk.serializeTo

theorem parseChunks_pieces {chunks : List Tlv}
    (isChunk : ∀ chunk ∈ chunks, chunk.config.typeSizeInBytes = 1 ∧ chunk.Aligned)
    (short : (chunks.flatMap piece).length ≤ 65523) :
    ∃ descriptors, parseChunks (chunks.flatMap piece) = some descriptors ∧
      List.Forall₂ Describes chunks descriptors := by
  induction chunks with
  | nil => exact ⟨[], by rw [List.flatMap_nil, parseChunks]; rfl, .nil⟩
  | cons chunk rest ih =>
    rw [List.flatMap_cons, List.length_append, length_piece] at short
    obtain ⟨descriptors, parsed, described⟩ :=
      ih (fun other member => isChunk other (List.mem_cons_of_mem chunk member)) (by omega)
    obtain ⟨oneOctet, aligned⟩ := isChunk chunk List.mem_cons_self
    have sizeLe : chunk.size ≤ roundUpTo4 chunk.size := by unfold roundUpTo4; omega
    have sizeGe : 4 ≤ chunk.size := Nat.le_add_right 4 _
    have length : load16 (piece chunk ++ rest.flatMap piece) 2 = chunk.size := by
      rw [piece, List.append_assoc, chunk.load16_length, Nat.mod_eq_of_lt (by omega)]
    have front : piece chunk ++ rest.flatMap piece =
        BitVec.ofNat 8 chunk.config.type :: chunk.flags :: (writeBigEndian 2 chunk.size ++
          chunk.rest ++ List.replicate (roundUpTo4 chunk.size - chunk.size) 0 ++
          rest.flatMap piece) := by
      simp [piece, Tlv.serializeTo, Tlv.front, oneOctet]
    refine ⟨⟨BitVec.ofNat 8 chunk.config.type, chunk.flags, piece chunk⟩ :: descriptors, ?_,
      .cons ⟨?_, rfl, chunk.parseTLV_serializeTo (by omega) aligned (by simp)⟩ described⟩
    · have total : (piece chunk ++ rest.flatMap piece).length =
          roundUpTo4 chunk.size + (rest.flatMap piece).length := by
        rw [List.length_append, length_piece]
      rw [List.flatMap_cons, parseChunks, if_neg (by simp [front]), if_neg (by omega)]
      rw [length, Nat.mod_eq_of_lt (by omega), if_neg (by omega), if_neg (by omega),
        ← length_piece, List.drop_left, List.take_left, parsed]
      simp [front]
    · have fits := chunk.config.allowed.2.1
      rw [oneOctet] at fits
      simpa using fits

theorem store32_of_split {front old : List Octet} {offset : Nat} (position : front.length = offset)
    (size : old.length = 4) (value : Nat) (body : List Octet) :
    store32 (front ++ (old ++ body)) offset value = front ++ (writeBigEndian 4 value ++ body) := by
  subst position
  rw [store32, List.take_left, List.drop_length_add_append, ← size, List.drop_left]

/-- The checksum that the builder leaves is accepted. -/
def Accepted (writeChecksum : Bool) (options : DcSctpOptions) : Prop :=
  writeChecksum = true ∨ options.disableChecksumVerification = true ∨
    options.enableZeroChecksum = true

theorem parse_body (options : DcSctpOptions) {writeChecksum : Bool}
    (accepted : Accepted writeChecksum options) (tag : BitVec 32) (builderOptions : DcSctpOptions)
    {body : List Octet} (sized : 4 ≤ body.length ∧ body.length ≤ 65523)
    {descriptors : List ChunkDescriptor} (parsed : parseChunks body = some descriptors) :
    ∃ packet, parse generateCrc32C options
        (build generateCrc32C writeChecksum (header tag builderOptions ++ body)) = some packet ∧
      packet.descriptors = descriptors := by
  have short : (addresses tag builderOptions).length = 8 := by simp [addresses]
  have split : header tag builderOptions ++ body =
      addresses tag builderOptions ++ (List.replicate 4 0 ++ body) := List.append_assoc _ _ _
  have notEmpty : (header tag builderOptions ++ body).isEmpty = false := by simp [header]
  obtain ⟨checksum, fits, built, correct⟩ : ∃ checksum, checksum < 256 ^ 4 ∧
      build generateCrc32C writeChecksum (header tag builderOptions ++ body) =
        addresses tag builderOptions ++ (writeBigEndian 4 checksum ++ body) ∧
      (options.disableChecksumVerification = true ∨
        (options.enableZeroChecksum = true ∧ checksum = 0) ∨
        (generateCrc32C (header tag builderOptions ++ body)).toNat = checksum) := by
    rw [build, notEmpty]
    cases writeChecksum with
    | true =>
      refine ⟨_, (generateCrc32C (header tag builderOptions ++ body)).isLt, ?_, .inr (.inr rfl)⟩
      rw [Bool.not_false, Bool.and_self, if_pos rfl]
      nth_rewrite 1 [split]
      rw [store32_of_split short (by simp)]
    | false =>
      refine ⟨0, by decide, ?_, ?_⟩
      · rfl
      · exact (accepted.resolve_left Bool.false_ne_true).imp_right fun zero => .inl ⟨zero, rfl⟩
  rw [built]
  have stored : load32 (addresses tag builderOptions ++ (writeBigEndian 4 checksum ++ body)) 8 =
      checksum := by
    rw [load32, field_of_split rfl short (length_writeBigEndian 4 _),
      readBigEndian_write_of_lt fits]
  have restored : store32 (addresses tag builderOptions ++
      (writeBigEndian 4 checksum ++ body)) 8 0 = header tag builderOptions ++ body := by
    rfl
  have total : (addresses tag builderOptions ++ (writeBigEndian 4 checksum ++ body)).length =
      12 + body.length := by
    rw [List.length_append, short, List.length_append, length_writeBigEndian]
    omega
  have dropped : (addresses tag builderOptions ++
      (writeBigEndian 4 checksum ++ body)).drop 12 = body := by
    rw [← List.append_assoc, List.drop_left' (by simp [short])]
  unfold parse
  rw [if_neg (by omega), if_neg, dropped, parsed]
  · exact ⟨_, rfl, rfl⟩
  · rw [stored, restored]
    rcases correct with disabled | ⟨zero, rfl⟩ | same
    · simp [disabled]
    · simp [zero]
    · simp [same]

/-- The descriptors make up the data, in pieces that are aligned to four octets. -/
def Partitions (descriptors : List ChunkDescriptor) (data : List Octet) : Prop :=
  descriptors.flatMap ChunkDescriptor.data = data ∧
    ∀ descriptor ∈ descriptors, descriptor.data.length % 4 = 0

theorem partitions_of_parseChunks {data : List Octet} {descriptors : List ChunkDescriptor}
    (parsed : parseChunks data = some descriptors) : Partitions descriptors data := by
  fun_induction parseChunks data generalizing descriptors with
  | case1 data empty =>
    cases parsed
    exact ⟨(List.isEmpty_iff.mp empty).symm, by simp⟩
  | case2 | case3 | case4 => cases parsed
  | case5 data notEmpty large paddedLength fits notSmall =>
    rename_i ih
    obtain ⟨rest, restParsed, ⟨⟩⟩ := Option.bind_eq_some_iff.mp parsed
    obtain ⟨same, aligned⟩ := ih restParsed
    refine ⟨by rw [List.flatMap_cons, same, List.take_append_drop], ?_⟩
    refine List.forall_mem_cons.mpr ⟨?_, aligned⟩
    rw [List.length_take_of_le (by omega)]
    simp only [paddedLength, roundUpTo4]
    omega

/--
What the builder writes is read again, as long as it is no larger than a UDP packet and the
sizes of the chunks are aligned: one descriptor for every chunk, in order.  And the
descriptors of any packet that is accepted partition what follows its header.
-/
theorem parse_build (tag : BitVec 32) (builderOptions options : DcSctpOptions)
    (writeChecksum : Bool) :
    (∀ chunks : List Tlv, chunks ≠ [] →
      (∀ chunk ∈ chunks, chunk.config.typeSizeInBytes = 1 ∧ chunk.size < 65536) →
      (∀ chunk ∈ chunks, chunk.Aligned) →
      (chunks.foldl (add tag builderOptions) []).length ≤ 65535 → Accepted writeChecksum options →
      ∃ packet, parse generateCrc32C options
          (build generateCrc32C writeChecksum (chunks.foldl (add tag builderOptions) [])) =
            some packet ∧
        List.Forall₂ Describes chunks packet.descriptors) ∧
    ∀ data packet, parse generateCrc32C options data = some packet →
      Partitions packet.descriptors (data.drop 12) := by
  constructor
  · intro chunks nonempty isChunk aligned within accepted
    rw [out_addAll tag builderOptions nonempty] at within ⊢
    rw [List.length_append, length_header] at within
    obtain ⟨descriptors, parsed, described⟩ :=
      parseChunks_pieces
        (fun chunk member => ⟨(isChunk chunk member).1, aligned chunk member⟩) (by omega)
    have sized : 4 ≤ (chunks.flatMap piece).length := by
      obtain ⟨chunk, rest, rfl⟩ := List.exists_cons_of_ne_nil nonempty
      rw [List.flatMap_cons, List.length_append, length_piece, Tlv.size, roundUpTo4]
      omega
    obtain ⟨packet, isPacket, same⟩ := parse_body generateCrc32C options accepted tag builderOptions
      ⟨sized, by omega⟩ parsed
    exact ⟨packet, isPacket, same ▸ described⟩
  · intro data packet parsed
    unfold parse at parsed
    dsimp only at parsed
    split_ifs at parsed
    obtain ⟨descriptors, parsedChunks, equal⟩ := Option.bind_eq_some_iff.mp parsed
    obtain rfl := Option.some.inj equal
    exact partitions_of_parseChunks parsedChunks

def dataConfig : TlvConfig := ⟨0, 1, 16, 1, by decide⟩

def errorConfig : TlvConfig := ⟨9, 1, 4, 4, by decide⟩

/-- A DATA chunk with a payload of zeros. -/
def dataChunk (payload : Nat) : Tlv where
  config := dataConfig
  flags := 3
  rest := List.replicate (12 + payload) 0
  sized := by rw [List.length_replicate]; exact Nat.add_le_add_left (Nat.le_add_right 12 _) 4

/-- An ERROR chunk with one cause: a protocol violation, explained by a text. -/
def errorChunk (text : List Octet) : Tlv where
  config := errorConfig
  flags := 0
  rest := writeBigEndian 2 13 ++ (writeBigEndian 2 (4 + text.length) ++ text)
  sized := Nat.le_add_right 4 _

def usualOptions (mtu : Nat) : DcSctpOptions := ⟨5000, 5000, mtu, false, false⟩

/-- The chunks are added to a packet, which is then read. -/
def roundTrip (mtu : Nat) (chunks : List Tlv) : Option SctpPacket :=
  parse (fun _ => 7) (usualOptions mtu)
    (build (fun _ => 7) true (chunks.foldl (add 1 (usualOptions mtu)) []))

theorem parse_build_two_chunks :
    ∃ packet, roundTrip 1191 [errorChunk [33, 33, 33, 33], dataChunk 3] = some packet ∧
      List.Forall₂ Describes [errorChunk [33, 33, 33, 33], dataChunk 3] packet.descriptors :=
  (parse_build (fun _ => 7) 1 (usualOptions 1191) (usualOptions 1191) true).1 _ (by simp)
    (by simp [Tlv.size, dataChunk, dataConfig, errorChunk, errorConfig])
    (by simp [Tlv.Aligned, Tlv.size, dataChunk, dataConfig, errorChunk, errorConfig, Nat.mod_one])
    (by decide) (.inl rfl)

/--
With a larger MTU the builder makes packets that the parser refuses.  And an ERROR chunk with
a text of three octets is refused by its own class, since its size is no multiple of four.
-/
theorem parse_refuses_built :
    (([dataChunk 32752, dataChunk 32752].foldl (add 1 (usualOptions 70000)) []).length ≤
        maxPacketSize (usualOptions 70000) ∧
      (dataChunk 32752).size < 65536 ∧
      roundTrip 70000 [dataChunk 32752, dataChunk 32752] = none) ∧
    ([errorChunk [33, 33, 33]].foldl (add 1 (usualOptions 1191)) []).length ≤
        maxPacketSize (usualOptions 1191) ∧
      ¬ ∃ packet, roundTrip 1191 [errorChunk [33, 33, 33]] = some packet ∧
        List.Forall₂ Describes [errorChunk [33, 33, 33]] packet.descriptors := by
  have size : (dataChunk 32752).size = 32768 := by
    rw [Tlv.size, dataChunk, List.length_replicate]
  have total : ([dataChunk 32752, dataChunk 32752].foldl
      (add 1 (usualOptions 70000)) []).length = 65548 := by
    rw [out_addAll _ _ (by simp), List.length_append, length_header]
    simp [length_piece, size, roundUpTo4]
  refine ⟨⟨by rw [total]; decide, by omega, ?_⟩, by decide, ?_⟩
  · unfold roundTrip
    generalize [dataChunk 32752, dataChunk 32752].foldl (add 1 (usualOptions 70000)) [] = out at *
    have built : (build (fun _ => 7) true out).length = 65548 := by
      rw [build]
      split_ifs
      · rw [store32, List.length_append, List.length_append, length_writeBigEndian,
          List.length_take, List.length_drop, total]
        rfl
      · exact total
    rw [parse, if_pos (.inr (by omega))]
  · rintro ⟨packet, -, described⟩
    obtain ⟨descriptor, rest, first, -, -⟩ := List.forall₂_cons_left_iff.mp described
    exact absurd ((Tlv.aligned_of_parseTLV first.data).2 (by decide)) (by decide)

end SctpPacket

end MaeRtc.DcSctp.Wire
