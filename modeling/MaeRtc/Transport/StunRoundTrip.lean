import MaeRtc.Transport.AttributeCodec
import MaeRtc.Transport.AuthenticatedAttributes

/-!
# Messages that are built, sent and checked

A message is built by adding attributes, then a digest and then a checksum.  The header
counts every attribute with its padding as it is added, so the digest is made over a
header that ends with the digest, and the checksum over one that ends with the checksum.
The receiver restores the first of these headers.
-/

namespace MaeRtc.Transport

open MaeRtc.Base

/-- The header of a message with the magic cookie. -/
def headerOf (type : BitVec 16) (length : Nat) (transactionId : List Octet) : List Octet :=
  writeBigEndian 2 type.toNat ++ (writeBigEndian 2 length ++
    (writeBigEndian 4 kStunMagicCookie.toNat ++ transactionId))

theorem length_headerOf {type : BitVec 16} {length : Nat} {transactionId : List Octet}
    (short : transactionId.length = kStunTransactionIdLength) :
    (headerOf type length transactionId).length = kStunHeaderSize := by
  simp [headerOf, short, kStunHeaderSize, kStunTransactionIdLength]

/-! ## The attributes that are added last -/

/-- The octets of a digest. -/
def integrityOctets (digest : List Octet) : List Octet :=
  writeBigEndian 2 STUN_ATTR_MESSAGE_INTEGRITY.toNat ++
    (writeBigEndian 2 kStunMessageIntegritySize ++ digest)

/-- The octets of a checksum. -/
def fingerprintOctets (bits : BitVec 32) : List Octet :=
  writeBigEndian 2 STUN_ATTR_FINGERPRINT.toNat ++ (writeBigEndian 2 4 ++
    writeBigEndian 4 bits.toNat)

variable {digest last : List Octet}

section LastAttributes

variable {table : AttributeTable} {transactionId : List Octet}

theorem createdType_integrity : table.createdType STUN_ATTR_MESSAGE_INTEGRITY = .byteString := by
  simp [AttributeTable.createdType, table.integrity]

theorem createdType_fingerprint : table.createdType STUN_ATTR_FINGERPRINT = .uint32 := by
  simp [AttributeTable.createdType, table.fingerprint]

theorem encodes_integrity (size : digest.length = kStunMessageIntegritySize) :
    Encodes table transactionId (.ofByteString STUN_ATTR_MESSAGE_INTEGRITY digest)
      (integrityOctets digest) := by
  have coded : ValueEncodes transactionId
      (table.createdType (StunAttribute.ofByteString STUN_ATTR_MESSAGE_INTEGRITY digest).type)
      (.ofByteString STUN_ATTR_MESSAGE_INTEGRITY digest) (digest ++ writePadding digest.length) := by
    change ValueEncodes _ (table.createdType STUN_ATTR_MESSAGE_INTEGRITY) _ _
    rw [createdType_integrity]
    exact byteString_encodes (by rw [size]; decide) (by rw [size]; decide)
  have noPadding : digest ++ writePadding digest.length = digest := by
    rw [size, show writePadding kStunMessageIntegritySize = [] by decide, List.append_nil]
  have length : (StunAttribute.ofByteString STUN_ATTR_MESSAGE_INTEGRITY digest).length =
      kStunMessageIntegritySize := by
    rw [StunAttribute.ofByteString, size]
    rfl
  rw [noPadding] at coded
  have encodes := coded.encodes
  rw [length] at encodes
  exact encodes

theorem length_integrityOctets
    (size : digest.length = kStunMessageIntegritySize) : (integrityOctets digest).length = 24 := by
  simp [integrityOctets, size, kStunMessageIntegritySize]

theorem encodes_fingerprint (bits : BitVec 32) :
    Encodes table transactionId (.ofUInt32 STUN_ATTR_FINGERPRINT bits)
      (fingerprintOctets bits) := by
  have coded : ValueEncodes transactionId
      (table.createdType (StunAttribute.ofUInt32 STUN_ATTR_FINGERPRINT bits).type)
      (.ofUInt32 STUN_ATTR_FINGERPRINT bits) (writeBigEndian 4 bits.toNat) := by
    change ValueEncodes _ (table.createdType STUN_ATTR_FINGERPRINT) _ _
    rw [createdType_fingerprint]
    exact uint32_encodes STUN_ATTR_FINGERPRINT bits
  exact coded.encodes

theorem length_fingerprintOctets (bits : BitVec 32) : (fingerprintOctets bits).length = 8 := by
  simp [fingerprintOctets]

/-- What stands before the last attribute, by the length of the attribute. -/
theorem take_before_last {front octets : List Octet} {length : Nat}
    (size : last.length = 4 + length) :
    (front ++ (octets ++ last)).take
        ((front ++ (octets ++ last)).length - kStunAttributeHeaderSize - length) =
      front ++ octets := by
  rw [← List.append_assoc]
  apply List.take_left'
  simp only [List.length_append, kStunAttributeHeaderSize]
  omega

end LastAttributes

namespace StunMessage

/-- A message with attributes that were added one after the other. -/
def build (table : AttributeTable) (type : BitVec 16) (transactionId : List Octet)
    (attributes : List (BitVec 16 × NewValue)) : Option StunMessage :=
  (attributes.map fun entry => entry.2.make entry.1).foldlM (addAttribute table)
    (create type transactionId)

/-- A message whose attributes are encoded by some octets, which its header counts. -/
structure Ready (table : AttributeTable) (message : StunMessage) (octets : List Octet) :
    Prop where
  short : message.transactionId.length = kStunTransactionIdLength
  coded : EncodesAll table message.transactionId message.attrs octets
  length : message.length = octets.length

namespace Ready

variable {table : AttributeTable} {message : StunMessage} {octets : List Octet}

theorem create {type : BitVec 16} {transactionId : List Octet}
    (short : transactionId.length = kStunTransactionIdLength) :
    Ready table (StunMessage.create type transactionId) [] :=
  ⟨short, .nil, rfl⟩

section

variable (ready : Ready table message octets)
include ready

theorem add {attr : StunAttribute} {more : List Octet}
    (coded : Encodes table message.transactionId attr more)
    (room : octets.length + more.length < 2 ^ 16) :
    Ready table (message.append attr) (octets ++ more) := by
  refine ⟨ready.short, ready.coded.snoc coded, ?_⟩
  change (message.length + (paddedLength attr.length + 4) % 2 ^ 16) % 2 ^ 16 = _
  have size := coded.size
  rw [ready.length, List.length_append]
  omega

/-- Another attribute of the same size in the place of the last one. -/
theorem replaceLast {attr last : StunAttribute} {more : List Octet} {status : IntegrityStatus}
    (coded : Encodes table message.transactionId last more) (sameLength : attr.length = last.length)
    (room : octets.length + more.length < 2 ^ 16) :
    Ready table { message.append attr with
      attrs := message.attrs ++ [last], integrity := status } (octets ++ more) := by
  refine ⟨ready.short, ready.coded.snoc coded, ?_⟩
  change (message.length + (paddedLength attr.length + 4) % 2 ^ 16) % 2 ^ 16 = _
  have size := coded.size
  rw [ready.length, List.length_append, sameLength]
  omega

theorem writeHeader :
    message.writeHeader = headerOf message.type octets.length message.transactionId := by
  have notLegacy : message.isLegacy = false := by
    simp [isLegacy, ready.short, kStunTransactionIdLength, kStunLegacyTransactionIdLength]
  rw [StunMessage.writeHeader, notLegacy, ready.length, headerOf, if_neg (by decide)]
  simp only [List.append_assoc]

theorem write :
    message.write = some (headerOf message.type octets.length message.transactionId ++ octets) := by
  rw [StunMessage.write, ready.coded.written, Option.map_some, ready.writeHeader]

/-- What was written is read again. -/
theorem read (notRtp : message.type.toNat < 0x8000) (room : octets.length < 2 ^ 16) :
    let bytes := headerOf message.type octets.length message.transactionId ++ octets
    ∃ parsed, StunMessage.read table bytes = some parsed ∧ parsed.type = message.type ∧
      parsed.transactionId = message.transactionId ∧ parsed.attrs = message.attrs ∧
      parsed.buffer = bytes := by
  intro bytes
  obtain ⟨items, itemsRead, sameAttrs⟩ := ready.coded.readItems (Nat.le_refl _)
  have typeFits : message.type.toNat < 256 ^ 2 := message.type.isLt
  have lengthFits : octets.length < 256 ^ 2 := room
  have cookie : readBigEndian (writeBigEndian 4 kStunMagicCookie.toNat) =
      kStunMagicCookie.toNat := readBigEndian_write_of_lt kStunMagicCookie.isLt
  refine ⟨⟨message.type, octets.length, message.transactionId, message.attrs, bytes, .notSet⟩,
    ?_, rfl, rfl, rfl, rfl⟩
  have steps : bytes = writeBigEndian 2 message.type.toNat ++ (writeBigEndian 2 octets.length ++
      (writeBigEndian 4 kStunMagicCookie.toNat ++ (message.transactionId ++ octets))) := by
    simp only [bytes, headerOf, List.append_assoc]
  rw [StunMessage.read, readWithItems, steps]
  simp only [readNumber_write typeFits, readNumber_write lengthFits,
    readBytes_append (length_writeBigEndian 4 _), readBytes_append ready.short,
    Option.bind_eq_bind, Option.bind_some, cookie, ne_eq, not_true_eq_false, if_false,
    if_neg (show ¬ message.type.toNat ≥ 0x8000 by omega), itemsRead, sameAttrs,
    Option.map_some, BitVec.ofNat_toNat, BitVec.setWidth_eq]

end

/-- The digest of a message, with the length of a header that counts it. -/
def digestOf (hmac : Hmac) (password : List Octet) (message : StunMessage)
    (octets : List Octet) : List Octet :=
  (hmac password (headerOf message.type (octets.length + 24) message.transactionId ++
    octets)).toList

/-- The checksum of a message, with the length of a header that counts it. -/
def checksumOf (crc : Crc) (message : StunMessage) (octets : List Octet) : BitVec 32 :=
  crc (headerOf message.type (octets.length + 8) message.transactionId ++ octets) ^^^
    STUN_FINGERPRINT_XOR_VALUE

theorem addMessageIntegrity (ready : Ready table message octets)
    (room : octets.length + 24 < 2 ^ 16) (hmac : Hmac) (password : List Octet) :
    let digest := digestOf hmac password message octets
    ∃ signed, message.addMessageIntegrity table hmac password = some signed ∧
      signed.type = message.type ∧ signed.transactionId = message.transactionId ∧
      signed.attrs = message.attrs ++ [.ofByteString STUN_ATTR_MESSAGE_INTEGRITY digest] ∧
      Ready table signed (octets ++ integrityOctets digest) := by
  intro digest
  have digestSize : digest.length = kStunMessageIntegritySize := Vector.length_toList
  have dummySize : (List.replicate kStunMessageIntegritySize (0x30 : Octet)).length =
      kStunMessageIntegritySize := List.length_replicate
  have written := (ready.add (encodes_integrity dummySize)
    (by rw [length_integrityOctets dummySize]; exact room)).write
  rw [List.length_append, length_integrityOctets dummySize] at written
  change StunMessage.write (message.append _) =
    some (headerOf message.type (octets.length + 24) message.transactionId ++ _) at written
  have whole : digest.take kStunMessageIntegritySize = digest := by
    rw [← digestSize, List.take_length]
  have allowed : message.addAttribute table (.ofByteString STUN_ATTR_MESSAGE_INTEGRITY
      (List.replicate kStunMessageIntegritySize 0x30)) = some _ :=
    if_pos (.inr table.integrity.symm)
  refine ⟨{ message.append (.ofByteString STUN_ATTR_MESSAGE_INTEGRITY
      (List.replicate kStunMessageIntegritySize 0x30)) with
    attrs := message.attrs ++ [.ofByteString STUN_ATTR_MESSAGE_INTEGRITY digest]
    integrity := .integrityOk }, ?_, rfl, rfl, rfl, ?_⟩
  · simp only [StunMessage.addMessageIntegrity, addMessageIntegrityOfType, allowed, written,
      Option.bind_eq_bind, Option.bind_some]
    rw [take_before_last (length_integrityOctets dummySize)]
    exact congrArg some (by rw [← whole]; rfl)
  · refine ready.replaceLast (encodes_integrity digestSize) ?_ ?_
    · simp only [StunAttribute.ofByteString, digestSize, dummySize]
    · rw [length_integrityOctets digestSize]
      exact room

theorem addFingerprint (ready : Ready table message octets) (room : octets.length + 8 < 2 ^ 16)
    (crc : Crc) :
    let bits := checksumOf crc message octets
    ∃ sealed, message.addFingerprint table crc = some sealed ∧
      sealed.type = message.type ∧ sealed.transactionId = message.transactionId ∧
      sealed.attrs = message.attrs ++ [.ofUInt32 STUN_ATTR_FINGERPRINT bits] ∧
      Ready table sealed (octets ++ fingerprintOctets bits) := by
  intro bits
  have written := (ready.add (encodes_fingerprint 0)
    (by rw [length_fingerprintOctets]; exact room)).write
  rw [List.length_append, length_fingerprintOctets] at written
  have allowed : message.addAttribute table (.ofUInt32 STUN_ATTR_FINGERPRINT 0) = some _ :=
    if_pos (.inr table.fingerprint.symm)
  refine ⟨{ message.append (.ofUInt32 STUN_ATTR_FINGERPRINT 0) with
    attrs := message.attrs ++ [.ofUInt32 STUN_ATTR_FINGERPRINT bits] }, ?_, rfl, rfl, rfl, ?_⟩
  · simp only [StunMessage.addFingerprint, allowed, written, Option.bind_eq_bind, Option.bind_some]
    rw [take_before_last (length_fingerprintOctets 0)]
    rfl
  · refine ready.replaceLast (encodes_fingerprint bits) rfl ?_
    exact room

end Ready

end StunMessage

/-! ## What the receiver checks -/

section Validation

variable {table : AttributeTable} {type : BitVec 16} {transactionId octets : List Octet}
  {attrs : List StunAttribute}

theorem EncodesAll.aligned (coded : EncodesAll table transactionId attrs octets) :
    octets.length % 4 = 0 := by
  induction coded with
  | nil => rfl
  | @cons attr attrs octets others first rest ih =>
    have padded := paddedLength_mod attr.length
    rw [List.length_append, first.size]
    omega

variable (short : transactionId.length = kStunTransactionIdLength)
include short

/-- The digest is found behind the attributes, which are of other types. -/
theorem integrityPosition_sealed (coded : EncodesAll table transactionId attrs octets)
    (different : ∀ attr ∈ attrs, attr.type ≠ STUN_ATTR_MESSAGE_INTEGRITY)
    (digestSize : digest.length = kStunMessageIntegritySize) (lastSize : last.length = 8)
    (room : octets.length + 32 < 2 ^ 16) :
    integrityPosition STUN_ATTR_MESSAGE_INTEGRITY kStunMessageIntegritySize
        (headerOf type (octets.length + 32) transactionId ++
          (octets ++ (integrityOctets digest ++ last))) =
      some (kStunHeaderSize + octets.length) := by
  have headerSize : (headerOf type (octets.length + 32) transactionId).length = 20 :=
    length_headerOf short
  have size : (headerOf type (octets.length + 32) transactionId ++
      (octets ++ (integrityOctets digest ++ last))).length = octets.length + 52 := by
    simp only [List.length_append, length_integrityOctets digestSize]
    omega
  have lengthAt : getBE16 (headerOf type (octets.length + 32) transactionId ++
      (octets ++ (integrityOctets digest ++ last))) 2 = octets.length + 32 := by
    rw [getBE16, headerOf, List.append_assoc, List.append_assoc,
      field_of_split rfl (length_writeBigEndian 2 _) (length_writeBigEndian 2 _)]
    exact readBigEndian_write_of_lt room
  have whole := coded.aligned
  have enough := coded.length_le
  -- as many rounds as there are attributes, and one for the digest
  obtain ⟨fuel, rounds⟩ : ∃ fuel, octets.length + 52 = fuel + 1 + attrs.length :=
    ⟨octets.length + 51 - attrs.length, by omega⟩
  have digestCoded : Encodes table transactionId
      (.ofByteString STUN_ATTR_MESSAGE_INTEGRITY digest) (integrityOctets digest) :=
    encodes_integrity digestSize
  have here := digestCoded.typeAt (headerOf type (octets.length + 32) transactionId ++ octets) last
  have there :=
    digestCoded.lengthAt (headerOf type (octets.length + 32) transactionId ++ octets) last
  rw [List.length_append, headerSize, List.append_assoc] at here there
  change _ = STUN_ATTR_MESSAGE_INTEGRITY.toNat at here
  have digestLength : (StunAttribute.ofByteString STUN_ATTR_MESSAGE_INTEGRITY digest).length =
      kStunMessageIntegritySize := by
    rw [StunAttribute.ofByteString, digestSize]
    rfl
  rw [integrityPosition, size, if_neg (by unfold kStunHeaderSize; omega),
    if_neg (by rw [lengthAt]; unfold kStunHeaderSize; omega), rounds,
    show kStunHeaderSize = (headerOf type (octets.length + 32) transactionId).length from
      headerSize.symm, coded.findIntegrity different, headerSize, findIntegrity, size,
    if_pos (by omega), here, there, digestLength]
  rw [if_pos rfl, if_neg]
  unfold kStunMessageIntegritySize
  omega

/-- The receiver restores the octets that the digest was made of. -/
theorem coveredOctets_sealed (digestSize : digest.length = kStunMessageIntegritySize)
    (lastSize : last.length = 8) :
    coveredOctets kStunMessageIntegritySize (headerOf type (octets.length + 32) transactionId ++
        (octets ++ (integrityOctets digest ++ last))) (kStunHeaderSize + octets.length) =
      headerOf type (octets.length + 24) transactionId ++ octets := by
  have headerSize : (headerOf type (octets.length + 32) transactionId).length = 20 :=
    length_headerOf short
  have trailing : (headerOf type (octets.length + 32) transactionId ++
      (octets ++ (integrityOctets digest ++ last))).length >
        kStunHeaderSize + octets.length + kStunAttributeHeaderSize + kStunMessageIntegritySize := by
    simp only [List.length_append, length_integrityOctets digestSize,
      kStunHeaderSize, kStunAttributeHeaderSize, kStunMessageIntegritySize]
    omega
  have split : headerOf type (octets.length + 32) transactionId ++
      (octets ++ (integrityOctets digest ++ last)) =
      (writeBigEndian 2 type.toNat ++ writeBigEndian 2 (octets.length + 32)) ++
        ((writeBigEndian 4 kStunMagicCookie.toNat ++ (transactionId ++ octets)) ++
          (integrityOctets digest ++ last)) := by
    simp only [headerOf, List.append_assoc]
  have middle : field (headerOf type (octets.length + 32) transactionId ++
      (octets ++ (integrityOctets digest ++ last))) 4 (kStunHeaderSize + octets.length - 4) =
      writeBigEndian 4 kStunMagicCookie.toNat ++ (transactionId ++ octets) := by
    refine field_of_split split (by simp) ?_
    simp only [List.length_append, length_writeBigEndian, short, kStunHeaderSize,
      kStunTransactionIdLength]
    omega
  have front : (headerOf type (octets.length + 32) transactionId ++
      (octets ++ (integrityOctets digest ++ last))).take 2 = writeBigEndian 2 type.toNat := by
    exact List.take_left' (length_writeBigEndian 2 _)
  have adjusted : kStunHeaderSize + octets.length + kStunAttributeHeaderSize +
      kStunMessageIntegritySize - kStunHeaderSize = octets.length + 24 := by
    unfold kStunHeaderSize kStunAttributeHeaderSize kStunMessageIntegritySize
    omega
  rw [coveredOctets, if_pos trailing, middle, front, adjusted, headerOf]
  simp only [List.append_assoc]

/-- The digest that a message carries is the one that is computed from it. -/
theorem validateMessageIntegrityOfType_sealed (type : BitVec 16) (hmac : Hmac)
    (password : List Octet) (coded : EncodesAll table transactionId attrs octets)
    (different : ∀ attr ∈ attrs, attr.type ≠ STUN_ATTR_MESSAGE_INTEGRITY)
    (lastSize : last.length = 8) (room : octets.length + 32 < 2 ^ 16) :
    let digest := (hmac password
      (headerOf type (octets.length + 24) transactionId ++ octets)).toList
    validateMessageIntegrityOfType hmac STUN_ATTR_MESSAGE_INTEGRITY kStunMessageIntegritySize
      (headerOf type (octets.length + 32) transactionId ++
        (octets ++ (integrityOctets digest ++ last))) password = true := by
  intro digest
  have digestSize : digest.length = kStunMessageIntegritySize := Vector.length_toList
  have carried : field (headerOf type (octets.length + 32) transactionId ++
      (octets ++ (integrityOctets digest ++ last)))
        (kStunHeaderSize + octets.length + kStunAttributeHeaderSize)
        kStunMessageIntegritySize = digest := by
    have split : headerOf type (octets.length + 32) transactionId ++
        (octets ++ (integrityOctets digest ++ last)) =
        (headerOf type (octets.length + 32) transactionId ++ (octets ++
          (writeBigEndian 2 STUN_ATTR_MESSAGE_INTEGRITY.toNat ++
            writeBigEndian 2 kStunMessageIntegritySize))) ++ (digest ++ last) := by
      simp only [integrityOctets, List.append_assoc]
    refine field_of_split split ?_ digestSize
    simp only [List.length_append, length_headerOf short, length_writeBigEndian,
      kStunAttributeHeaderSize]
    omega
  rw [validateMessageIntegrityOfType,
    integrityPosition_sealed short coded different digestSize lastSize room]
  dsimp only
  rw [carried, coveredOctets_sealed short digestSize lastSize, beq_iff_eq]
  exact (List.take_of_length_le (le_of_eq digestSize)).symm

/-- The checksum at the end of a message is the one that is computed from it. -/
theorem validateFingerprint_sealed (type : BitVec 16) (crc : Crc)
    (coded : EncodesAll table transactionId attrs octets) :
    validateFingerprint crc (headerOf type (octets.length + 8) transactionId ++ (octets ++
      fingerprintOctets (crc (headerOf type (octets.length + 8) transactionId ++ octets) ^^^
        STUN_FINGERPRINT_XOR_VALUE))) = true := by
  generalize bitsAre : crc (headerOf type (octets.length + 8) transactionId ++ octets) ^^^
    STUN_FINGERPRINT_XOR_VALUE = bits
  have headerSize : (headerOf type (octets.length + 8) transactionId).length = 20 :=
    length_headerOf short
  have size : (headerOf type (octets.length + 8) transactionId ++ (octets ++
      fingerprintOctets bits)).length = octets.length + 28 := by
    simp only [List.length_append, length_fingerprintOctets]
    omega
  have cookie : getBE32 (headerOf type (octets.length + 8) transactionId ++ (octets ++
      fingerprintOctets bits)) 4 = kStunMagicCookie.toNat := by
    have split : headerOf type (octets.length + 8) transactionId ++ (octets ++
        fingerprintOctets bits) =
        (writeBigEndian 2 type.toNat ++ writeBigEndian 2 (octets.length + 8)) ++
          (writeBigEndian 4 kStunMagicCookie.toNat ++ (transactionId ++ (octets ++
            fingerprintOctets bits))) := by
      simp only [headerOf, List.append_assoc]
    rw [getBE32, field_of_split split (by simp) (length_writeBigEndian 4 _)]
    exact readBigEndian_write_of_lt kStunMagicCookie.isLt
  have frontSize : (headerOf type (octets.length + 8) transactionId ++ octets).length =
      octets.length + 28 - (kStunAttributeHeaderSize + 4) := by
    rw [List.length_append, headerSize, kStunAttributeHeaderSize]
    omega
  have lastCoded : Encodes table transactionId (.ofUInt32 STUN_ATTR_FINGERPRINT bits)
      (fingerprintOctets bits) := encodes_fingerprint bits
  have here := lastCoded.typeAt (headerOf type (octets.length + 8) transactionId ++ octets) []
  have there := lastCoded.lengthAt (headerOf type (octets.length + 8) transactionId ++ octets) []
  rw [List.append_nil, frontSize, List.append_assoc] at here there
  have carried : getBE32 (headerOf type (octets.length + 8) transactionId ++ (octets ++
      fingerprintOctets bits))
        (octets.length + 28 - (kStunAttributeHeaderSize + 4) + kStunAttributeHeaderSize) =
      bits.toNat := by
    have split : headerOf type (octets.length + 8) transactionId ++ (octets ++
        fingerprintOctets bits) =
        (headerOf type (octets.length + 8) transactionId ++ octets ++
          (writeBigEndian 2 STUN_ATTR_FINGERPRINT.toNat ++ writeBigEndian 2 4)) ++
          (writeBigEndian 4 bits.toNat ++ []) := by
      simp only [fingerprintOctets, List.append_assoc, List.append_nil]
    rw [getBE32, field_of_split split (by rw [List.length_append, frontSize]; simp
      [kStunAttributeHeaderSize]) (length_writeBigEndian 4 _)]
    exact readBigEndian_write_of_lt bits.isLt
  have summed : (headerOf type (octets.length + 8) transactionId ++ (octets ++
      fingerprintOctets bits)).take (octets.length + 28 - (kStunAttributeHeaderSize + 4)) =
      headerOf type (octets.length + 8) transactionId ++ octets := by
    rw [← List.append_assoc]
    exact List.take_left' frontSize
  have whole := coded.aligned
  rw [validateFingerprint, size]
  dsimp only
  rw [if_neg (by unfold kStunHeaderSize kStunAttributeHeaderSize; omega),
    if_neg (not_not.mpr cookie), here, there, if_neg (by
      rintro (wrongType | wrongLength)
      · exact wrongType rfl
      · exact wrongLength rfl), carried, summed, beq_iff_eq, ← bitsAre]
  simp

end Validation

namespace StunMessage

/-! ## Whole messages -/

/-- The octets of attributes with their headers and padding. -/
def totalSize (attributes : List (BitVec 16 × NewValue)) : Nat :=
  (attributes.map fun entry => 4 + paddedLength entry.2.size).sum

/-- A legal attribute that is no digest; where any class may be added it is read with its own. -/
structure Fitting (table : AttributeTable) (entry : BitVec 16 × NewValue) : Prop where
  created : designatedExpertRange entry.1 = true → table.createdType entry.1 = entry.2.valueType
  legal : entry.2.Legal entry.1
  notIntegrity : entry.1 ≠ STUN_ATTR_MESSAGE_INTEGRITY

/-- The digest and the checksum are added to a message. -/
def addIntegrityAndFingerprint (table : AttributeTable) (hmac : Hmac) (crc : Crc)
    (password : List Octet) (message : StunMessage) : Option StunMessage := do
  let signed ← message.addMessageIntegrity table hmac password
  signed.addFingerprint table crc

/-- Outside of the range where any class may be added, the assertion leaves only the class that
an attribute is read with. -/
theorem Fitting.createdType {table : AttributeTable} {entry : BitVec 16 × NewValue}
    (fitting : Fitting table entry) {message added : StunMessage}
    (isAdded : message.addAttribute table (entry.2.make entry.1) = some added) :
    table.createdType entry.1 = entry.2.valueType ∧
      added = message.append (entry.2.make entry.1) := by
  obtain ⟨asserted, ⟨⟩⟩ := Option.ite_none_right_eq_some.mp isAdded
  refine ⟨?_, rfl⟩
  rw [entry.2.make_type, entry.2.make_valueType] at asserted
  rcases asserted with expert | same
  · exact fitting.created expert
  · have known : entry.2.valueType ≠ .unknown := by cases entry.2 <;> simp [NewValue.valueType]
    rw [AttributeTable.createdType, ← same, if_pos known]

section

variable {table : AttributeTable} {message : StunMessage} {octets : List Octet}
  (ready : Ready table message octets)
include ready

theorem Ready.addAll {attributes : List (BitVec 16 × NewValue)}
    (fitting : ∀ entry ∈ attributes, Fitting table entry)
    (room : octets.length + totalSize attributes < 2 ^ 16) {built : StunMessage}
    (isBuilt : (attributes.map fun entry => entry.2.make entry.1).foldlM (addAttribute table)
      message = some built) :
    built.type = message.type ∧ built.transactionId = message.transactionId ∧
      built.attrs = message.attrs ++ attributes.map (fun entry => entry.2.make entry.1) ∧
      ∃ more, Ready table built (octets ++ more) ∧ more.length = totalSize attributes := by
  induction attributes generalizing message octets with
  | nil =>
    cases isBuilt
    exact ⟨rfl, rfl, (List.append_nil _).symm, [], by simpa using ready, rfl⟩
  | cons entry attributes ih =>
    obtain ⟨fits, others⟩ := List.forall_mem_cons.mp fitting
    have total : totalSize (entry :: attributes) =
        4 + paddedLength entry.2.size + totalSize attributes := by
      simp [totalSize]
    have padded : entry.2.size ≤ paddedLength entry.2.size := Nat.le_add_right _ _
    have small : entry.2.size < 2 ^ 16 := by omega
    rw [List.map_cons, List.foldlM_cons, Option.bind_eq_bind, Option.bind_eq_some_iff] at isBuilt
    obtain ⟨added, isAdded, isBuilt⟩ := isBuilt
    obtain ⟨created, rfl⟩ := fits.createdType isAdded
    obtain ⟨first, coded⟩ := NewValue.encodes ready.short created fits.legal small
    have firstSize := coded.size
    rw [entry.2.make_length entry.1 small] at firstSize
    have added := ready.add coded (by omega)
    obtain ⟨sameType, sameId, attrs, more, built, moreSize⟩ :=
      ih added others (by rw [List.length_append]; omega) isBuilt
    refine ⟨sameType, sameId, ?_, first ++ more, ?_, ?_⟩
    · rw [List.map_cons, attrs]
      change message.attrs ++ [_] ++ _ = _
      rw [List.append_assoc, List.singleton_append]
    · rw [← List.append_assoc]
      exact built
    · rw [List.length_append, firstSize, moreSize, total]

/-- With both the digest and the checksum the octets are still those of a message. -/
theorem Ready.addIntegrityAndFingerprint (room : octets.length + 32 < 2 ^ 16) (hmac : Hmac)
    (crc : Crc) (password : List Octet) :
    let digest := Ready.digestOf hmac password message octets
    let bits := crc (headerOf message.type (octets.length + 32) message.transactionId ++
      (octets ++ integrityOctets digest)) ^^^ STUN_FINGERPRINT_XOR_VALUE
    ∃ sent, message.addIntegrityAndFingerprint table hmac crc password = some sent ∧
      sent.type = message.type ∧ sent.transactionId = message.transactionId ∧
      sent.attrs = message.attrs ++ [.ofByteString STUN_ATTR_MESSAGE_INTEGRITY digest,
        .ofUInt32 STUN_ATTR_FINGERPRINT bits] ∧
      EncodesAll table message.transactionId
        (message.attrs ++ [.ofByteString STUN_ATTR_MESSAGE_INTEGRITY digest])
        (octets ++ integrityOctets digest) ∧
      Ready table sent (octets ++ integrityOctets digest ++ fingerprintOctets bits) := by
  intro digest bits
  obtain ⟨signed, signedIs, signedType, signedId, signedAttrs, signedReady⟩ :=
    ready.addMessageIntegrity (by omega) hmac password
  have digestSize : digest.length = kStunMessageIntegritySize := Vector.length_toList
  have signedSize : (octets ++ integrityOctets digest).length = octets.length + 24 := by
    rw [List.length_append, length_integrityOctets digestSize]
  obtain ⟨sent, sentIs, sentType, sentId, sentAttrs, sentReady⟩ :=
    signedReady.addFingerprint (by rw [signedSize]; omega) crc
  have sameBits : Ready.checksumOf crc signed (octets ++ integrityOctets digest) = bits := by
    rw [Ready.checksumOf, signedType, signedId, signedSize]
  rw [sameBits] at sentAttrs sentReady
  refine ⟨sent, ?_, sentType.trans signedType, sentId.trans signedId, ?_, ?_, sentReady⟩
  · rw [StunMessage.addIntegrityAndFingerprint, signedIs, Option.bind_eq_bind, Option.bind_some,
      sentIs]
  · rw [sentAttrs, signedAttrs, List.append_assoc, List.singleton_append]
  · rw [← signedId, ← signedAttrs]
    exact signedReady.coded

end

/--
Every message of the magic cookie that is built of fitting attributes: after the digest and
the checksum were added it can be written, what is written is read with the same type,
transaction and attributes, and both checks of the receiver hold.
-/
theorem build_roundTrip {table : AttributeTable} {type : BitVec 16}
    {transactionId : List Octet} {attributes : List (BitVec 16 × NewValue)}
    (hmac : Hmac) (crc : Crc) (password : List Octet) (notRtp : type.toNat < 0x8000)
    (short : transactionId.length = kStunTransactionIdLength)
    (fitting : ∀ entry ∈ attributes, Fitting table entry)
    (room : totalSize attributes < 2 ^ 16 - 64) {message : StunMessage}
    (built : build table type transactionId attributes = some message) :
    ∃ sent bytes parsed digest checksum,
      message.addIntegrityAndFingerprint table hmac crc password = some sent ∧
      sent.write = some bytes ∧ read table bytes = some parsed ∧
      parsed.type = type ∧ parsed.transactionId = transactionId ∧
      parsed.attrs = sent.attrs ∧
      parsed.attrs = attributes.map (fun entry => entry.2.make entry.1) ++
        [.ofByteString STUN_ATTR_MESSAGE_INTEGRITY digest,
          .ofUInt32 STUN_ATTR_FINGERPRINT checksum] ∧
      parsed.validateMessageIntegrity hmac password = .integrityOk ∧
      validateFingerprint crc bytes = true := by
  have start : Ready table (create type transactionId) [] := .create short
  obtain ⟨builtType, builtId, builtAttrs, octets, ready, size⟩ :=
    start.addAll fitting (by simp only [List.length_nil]; omega) built
  change message.type = type at builtType
  change message.transactionId = transactionId at builtId
  change message.attrs = attributes.map (fun entry => entry.2.make entry.1) at builtAttrs
  change Ready table message octets at ready
  have different : ∀ attr ∈ message.attrs, attr.type ≠ STUN_ATTR_MESSAGE_INTEGRITY := by
    rw [builtAttrs]
    intro attr member
    obtain ⟨entry, isEntry, rfl⟩ := List.mem_map.mp member
    rw [entry.2.make_type]
    exact (fitting entry isEntry).notIntegrity
  have sealing := ready.addIntegrityAndFingerprint (by omega) hmac crc password
  have coded := ready.coded
  rw [Ready.digestOf, builtType, builtId] at sealing
  dsimp only at sealing
  rw [builtId] at coded
  generalize digestIs : (hmac password
    (headerOf type (octets.length + 24) transactionId ++ octets)).toList = digest at sealing
  have digestSize : digest.length = kStunMessageIntegritySize := by
    rw [← digestIs]
    exact Vector.length_toList
  generalize bitsAre : crc (headerOf type (octets.length + 32) transactionId ++
    (octets ++ integrityOctets digest)) ^^^ STUN_FINGERPRINT_XOR_VALUE = bits at sealing
  obtain ⟨sent, sentIs, sentType, sentId, sentAttrs, signedCoded, sentReady⟩ := sealing
  have signedSize : (octets ++ integrityOctets digest).length = octets.length + 24 := by
    rw [List.length_append, length_integrityOctets digestSize]
  have sentSize : (octets ++ integrityOctets digest ++ fingerprintOctets bits).length =
      octets.length + 32 := by
    rw [List.length_append, signedSize, length_fingerprintOctets]
  obtain ⟨parsed, parsedIs, parsedType, parsedId, parsedAttrs, buffer⟩ :=
    sentReady.read (by rw [sentType]; exact notRtp) (by omega)
  rw [sentType, sentId, sentSize] at parsedIs buffer
  refine ⟨sent, _, parsed, digest, bits, sentIs, ?_, parsedIs, parsedType.trans sentType,
    parsedId.trans sentId, parsedAttrs, ?_, ?_, ?_⟩
  · rw [sentReady.write, sentType, sentId, sentSize]
  · rw [parsedAttrs, sentAttrs, builtAttrs]
  · have visible : (parsed.getAttribute STUN_ATTR_MESSAGE_INTEGRITY).isSome = true := by
      rw [getAttribute, List.find?_isSome, parsedAttrs, sentAttrs]
      exact ⟨.ofByteString STUN_ATTR_MESSAGE_INTEGRITY digest, by simp, beq_self_eq_true _⟩
    have valid := validateMessageIntegrityOfType_sealed short type hmac password coded different
      (length_fingerprintOctets bits) (by omega)
    dsimp only at valid
    rw [digestIs, ← List.append_assoc octets] at valid
    rw [validateMessageIntegrity, integrityAttribute, if_pos visible]
    dsimp only
    rw [buffer, valid, if_pos rfl]
  · have valid := validateFingerprint_sealed short type crc signedCoded
    rw [signedSize, bitsAre] at valid
    exact valid

instance decidableFitting (table : AttributeTable) (entry : BitVec 16 × NewValue) :
    Decidable (Fitting table entry) :=
  decidable_of_iff ((designatedExpertRange entry.1 = true →
      table.createdType entry.1 = entry.2.valueType) ∧ entry.2.Legal entry.1 ∧
      entry.1 ≠ STUN_ATTR_MESSAGE_INTEGRITY)
    ⟨fun ⟨created, legal, notIntegrity⟩ => ⟨created, legal, notIntegrity⟩,
      fun fitting => ⟨fitting.created, fitting.legal, fitting.notIntegrity⟩⟩

/-- A user name and an address that is hidden by the transaction. -/
theorem build_roundTrip_username : let attributes : List (BitVec 16 × NewValue) :=
      [(0x0006, .byteString [0x61, 0x62, 0x63]), (0x0020, .xorAddress ⟨.v6 7, 3478⟩),
        (0x0009, .errorCode 431 [0x6e, 0x6f])]
    (∀ entry ∈ attributes, Fitting stunTable entry) ∧
    ∃ message sent bytes parsed digest checksum,
      build stunTable 1 (List.replicate 12 5) attributes = some message ∧
      message.addIntegrityAndFingerprint stunTable sumHmac (fun _ => 9) [1] = some sent ∧
      sent.write = some bytes ∧ read stunTable bytes = some parsed ∧
      parsed.type = 1 ∧ parsed.transactionId = List.replicate 12 5 ∧
      parsed.attrs = sent.attrs ∧
      parsed.attrs = attributes.map (fun entry => entry.2.make entry.1) ++
        [.ofByteString STUN_ATTR_MESSAGE_INTEGRITY digest,
          .ofUInt32 STUN_ATTR_FINGERPRINT checksum] ∧
      parsed.validateMessageIntegrity sumHmac [1] = .integrityOk ∧
      validateFingerprint (fun _ => 9) bytes = true := by
  intro attributes
  have fitting : ∀ entry ∈ attributes, Fitting stunTable entry := by decide
  obtain ⟨message, built⟩ : ∃ message, build stunTable 1 (List.replicate 12 5) attributes =
    some message := ⟨_, rfl⟩
  obtain ⟨sent, bytes, parsed, digest, checksum, sentIs, rest⟩ := build_roundTrip sumHmac
    (fun _ => 9) [1] (by decide) (by decide) fitting (by decide) built
  exact ⟨fitting, message, sent, bytes, parsed, digest, checksum, built, sentIs, rest⟩

/-- What a receiver gets of a message that is built of some attributes. -/
def received (type : BitVec 16) (attributes : List (BitVec 16 × NewValue)) :
    Option StunMessage := do
  let message ← build stunTable type (List.replicate 12 0) attributes
  let sent ← message.addIntegrityAndFingerprint stunTable sumHmac (fun _ => 9) [1]
  let bytes ← sent.write
  read stunTable bytes

/--
Without the conditions it fails: the parser refuses types with the highest bit, an earlier
digest is the one that is checked, an attribute of a type for designated experts is read as
octets, and an attribute without an address cannot be written.
-/
theorem build_roundTrip_fails :
    received 0x8001 [] = none ∧
      ((received 1 [(STUN_ATTR_MESSAGE_INTEGRITY, .byteString (List.replicate 20 0))]).map
        (·.validateMessageIntegrity sumHmac [1])) = some .integrityBad ∧
      ((received 1 [(0xC001, .uint32 5)]).map (·.attrs.take 1)) =
        some [.ofByteString 0xC001 [0, 0, 0, 5]] ∧
      ∃ message, build stunTable 1 (List.replicate 12 0) [(0x0001, .address ⟨.unspec, 0⟩)] =
          some message ∧
        message.addIntegrityAndFingerprint stunTable sumHmac (fun _ => 9) [1] = none := by
  refine ⟨?_, ?_, ?_, _, rfl, ?_⟩ <;> decide +kernel

end StunMessage

end MaeRtc.Transport
