import MaeRtc.Transport.StunAttribute

/-!
# STUN messages

A message is parsed by one walk over its attributes, and its integrity is checked by
another walk over the same octets.  What the parser takes from the buffer for each
attribute is recorded as an item.  The digests are functions that are handed in, and so
is the table of the attribute classes, which the kinds of messages extend.
-/

namespace MaeRtc.Transport

open MaeRtc.Base

def kStunHeaderSize : Nat := 20

def kStunAttributeHeaderSize : Nat := 4

def kStunMessageIntegritySize : Nat := 20

def kStunMessageIntegrity32Size : Nat := 4

def STUN_ATTR_MESSAGE_INTEGRITY : BitVec 16 := 0x0008

def STUN_ATTR_GOOG_MESSAGE_INTEGRITY_32 : BitVec 16 := 0xC060

def STUN_ATTR_FINGERPRINT : BitVec 16 := 0x8028

def STUN_FINGERPRINT_XOR_VALUE : BitVec 32 := 0x5354554E

/-- The class of each known type; all messages know integrity and fingerprint. -/
structure AttributeTable where
  valueType : BitVec 16 → StunAttributeValueType
  integrity : valueType STUN_ATTR_MESSAGE_INTEGRITY = .byteString
  fingerprint : valueType STUN_ATTR_FINGERPRINT = .uint32

/-- The classes of the attributes of plain messages. -/
def getAttributeValueType (type : BitVec 16) : StunAttributeValueType :=
  match type.toNat with
  | 0x0001 => .address
  | 0x0006 => .byteString
  | 0x0008 => .byteString
  | 0x0009 => .errorCode
  | 0x000a => .uint16List
  | 0x0014 => .byteString
  | 0x0015 => .byteString
  | 0x0020 => .xorAddress
  | 0x8022 => .byteString
  | 0x8023 => .address
  | 0x8028 => .uint32
  | 0xFF00 => .uint32
  | 0xC058 => .byteString
  | 0xC059 => .uint16List
  | 0xC05C => .byteString
  | 0xC05D => .uint64
  | _ => .unknown

def stunTable : AttributeTable where
  valueType := getAttributeValueType
  integrity := rfl
  fingerprint := rfl

def designatedExpertRange (type : BitVec 16) : Bool :=
  0x4000 ≤ type.toNat && type.toNat ≤ 0x7FFF || 0xC000 ≤ type.toNat && type.toNat ≤ 0xFFFF

/-- The class that an attribute of a type is read with, if any. -/
def AttributeTable.createdType (table : AttributeTable) (type : BitVec 16) :
    StunAttributeValueType :=
  if table.valueType type ≠ .unknown then table.valueType type
  else if designatedExpertRange type then .byteString
  else .unknown

inductive IntegrityStatus where
  | notSet
  | noIntegrity
  | integrityOk
  | integrityBad
  deriving DecidableEq, Repr

structure StunMessage where
  type : BitVec 16
  length : Nat
  transactionId : List Octet
  attrs : List StunAttribute
  buffer : List Octet
  integrity : IntegrityStatus
  deriving DecidableEq, Repr

/-- A keyed digest of some octets. -/
abbrev Hmac := List Octet → List Octet → Vector Octet 20

/-- A checksum of some octets. -/
abbrev Crc := List Octet → BitVec 32

/-! ## Parsing -/

/-- What one round of the parser takes: an attribute, or one that is skipped. -/
structure Item where
  type : BitVec 16
  length : Nat
  attr : Option StunAttribute
  octets : List Octet
  deriving DecidableEq, Repr

/-- One round of the parser. -/
def readItem (table : AttributeTable) (transactionId : List Octet) (buf : List Octet) :
    Option (Item × List Octet) := do
  let (attrType, afterType) ← readNumber 2 buf
  let (attrLength, afterLength) ← readNumber 2 afterType
  let type := BitVec.ofNat 16 attrType
  if table.createdType type = .unknown then
    -- the length is rounded up in 16 bits
    let (_, rest) ← readBytes (paddedLength attrLength % 2 ^ 16) afterLength
    some (⟨type, attrLength, none, buf.take (buf.length - rest.length)⟩, rest)
  else
    let (attr, rest) ←
      readAttribute transactionId type attrLength (table.createdType type) afterLength
    some (⟨type, attrLength, some attr, buf.take (buf.length - rest.length)⟩, rest)

/-- All rounds of the parser; every round takes something, so that the octets suffice as fuel. -/
def readItems (table : AttributeTable) (transactionId : List Octet) :
    Nat → List Octet → Option (List Item)
  | _, [] => some []
  | 0, _ :: _ => none
  | fuel + 1, octet :: others => do
    let (item, rest) ← readItem table transactionId (octet :: others)
    let items ← readItems table transactionId fuel rest
    some (item :: items)

namespace StunMessage

def create (type : BitVec 16) (transactionId : List Octet) : StunMessage where
  type := type
  length := 0
  transactionId := transactionId
  attrs := []
  buffer := []
  integrity := .notSet

def isLegacy (self : StunMessage) : Bool :=
  self.transactionId.length == kStunLegacyTransactionIdLength

/-- The message that some octets hold, with the items of its body. -/
def readWithItems (table : AttributeTable) (bytes : List Octet) :
    Option (StunMessage × List Item) := do
  let (type, buf) ← readNumber 2 bytes
  if type ≥ 0x8000 then none
  else
    let (length, buf) ← readNumber 2 buf
    let (magicCookie, buf) ← readBytes 4 buf
    let (shortId, buf) ← readBytes kStunTransactionIdLength buf
    let transactionId :=
      if readBigEndian magicCookie ≠ kStunMagicCookie.toNat then magicCookie ++ shortId
      else shortId
    if length ≠ buf.length then none
    else
      let items ← readItems table transactionId buf.length buf
      some ({ type := BitVec.ofNat 16 type
              length := length
              transactionId := transactionId
              attrs := items.filterMap (·.attr)
              buffer := bytes
              integrity := .notSet }, items)

def read (table : AttributeTable) (bytes : List Octet) : Option StunMessage :=
  (readWithItems table bytes).map (·.1)

def getAttribute (self : StunMessage) (type : BitVec 16) : Option StunAttribute :=
  self.attrs.find? fun attr => attr.type == type

/-! ## Building -/

/-- The end of `AddAttribute`. -/
def append (self : StunMessage) (attr : StunAttribute) : StunMessage :=
  { self with
    length := (self.length + (paddedLength attr.length + 4) % 2 ^ 16) % 2 ^ 16
    attrs := self.attrs ++ [attr] }

/-- An attribute has to be of the class of its type, unless the type is one for designated
experts: `none` is a failed assertion. -/
def addAttribute (table : AttributeTable) (self : StunMessage) (attr : StunAttribute) :
    Option StunMessage :=
  if designatedExpertRange attr.type ∨ attr.value.valueType = table.valueType attr.type then
    some (self.append attr)
  else none

/-- The octets of an attribute with its header. -/
def writeAttribute (transactionId : List Octet) (attr : StunAttribute) :
    Option (List Octet) :=
  (attr.writeValue transactionId).map fun value =>
    writeBigEndian 2 attr.type.toNat ++ writeBigEndian 2 attr.length ++ value

/-- The attributes one after the other, unless one of them cannot be written. -/
def writeAttributes (transactionId : List Octet) : List StunAttribute → Option (List Octet)
  | [] => some []
  | attr :: rest => do
    let octets ← writeAttribute transactionId attr
    let others ← writeAttributes transactionId rest
    some (octets ++ others)

def writeHeader (self : StunMessage) : List Octet :=
  writeBigEndian 2 self.type.toNat ++ writeBigEndian 2 self.length ++
    (if self.isLegacy then [] else writeBigEndian 4 kStunMagicCookie.toNat) ++
    self.transactionId

def write (self : StunMessage) : Option (List Octet) :=
  (writeAttributes self.transactionId self.attrs).map fun octets => self.writeHeader ++ octets

/-- A digest over all that comes before it, with the length of the header including it. -/
def addMessageIntegrityOfType (table : AttributeTable) (hmac : Hmac) (attrType : BitVec 16)
    (attrSize : Nat) (key : List Octet) (self : StunMessage) : Option StunMessage := do
  let dummy := StunAttribute.ofByteString attrType (List.replicate attrSize 0x30)
  let added ← self.addAttribute table dummy
  let buf ← added.write
  let digest := hmac key
    (buf.take (buf.length - kStunAttributeHeaderSize - dummy.length))
  some { added with
    attrs := self.attrs ++ [.ofByteString attrType (digest.toList.take attrSize)]
    integrity := .integrityOk }

def addMessageIntegrity (table : AttributeTable) (hmac : Hmac) (password : List Octet)
    (self : StunMessage) : Option StunMessage :=
  self.addMessageIntegrityOfType table hmac STUN_ATTR_MESSAGE_INTEGRITY kStunMessageIntegritySize
    password

def addFingerprint (table : AttributeTable) (crc : Crc) (self : StunMessage) :
    Option StunMessage := do
  let dummy := StunAttribute.ofUInt32 STUN_ATTR_FINGERPRINT 0
  let added ← self.addAttribute table dummy
  let buf ← added.write
  let checksum := crc (buf.take (buf.length - kStunAttributeHeaderSize - dummy.length))
  some { added with
    attrs := self.attrs ++
      [.ofUInt32 STUN_ATTR_FINGERPRINT (checksum ^^^ STUN_FINGERPRINT_XOR_VALUE)] }

end StunMessage

/-! ## Validation -/

/-- A number of 16 bits at a position. -/
def getBE16 (data : List Octet) (position : Nat) : Nat :=
  readBigEndian (field data position 2)

def getBE32 (data : List Octet) (position : Nat) : Nat :=
  readBigEndian (field data position 4)

/-- The position of the first attribute of a type, which has to have the given size. -/
def findIntegrity (miAttrType : BitVec 16) (miAttrSize : Nat) (data : List Octet) :
    Nat → Nat → Option Nat
  | 0, _ => none
  | fuel + 1, currentPos =>
    if currentPos + 4 ≤ data.length then
      let attrLength := getBE16 data (currentPos + 2)
      if getBE16 data currentPos = miAttrType.toNat then
        if attrLength ≠ miAttrSize ∨ currentPos + 4 + attrLength > data.length then none
        else some currentPos
      else findIntegrity miAttrType miAttrSize data fuel
        (currentPos + 4 + paddedLength attrLength)
    else none

/-- The octets that the digest is computed of: what follows it does not count. -/
def coveredOctets (miAttrSize : Nat) (data : List Octet) (miPos : Nat) : List Octet :=
  if data.length > miPos + kStunAttributeHeaderSize + miAttrSize then
    let newAdjustedLen := miPos + kStunAttributeHeaderSize + miAttrSize - kStunHeaderSize
    data.take 2 ++ writeBigEndian 2 newAdjustedLen ++ field data 4 (miPos - 4)
  else data.take miPos

/-- The position of the digest, if the size of the message is right. -/
def integrityPosition (miAttrType : BitVec 16) (miAttrSize : Nat) (data : List Octet) :
    Option Nat :=
  if data.length % 4 ≠ 0 ∨ data.length < kStunHeaderSize then none
  else if data.length ≠ getBE16 data 2 + kStunHeaderSize then none
  else findIntegrity miAttrType miAttrSize data data.length kStunHeaderSize

def validateMessageIntegrityOfType (hmac : Hmac) (miAttrType : BitVec 16) (miAttrSize : Nat)
    (data password : List Octet) : Bool :=
  match integrityPosition miAttrType miAttrSize data with
  | none => false
  | some miPos =>
    field data (miPos + kStunAttributeHeaderSize) miAttrSize ==
      (hmac password (coveredOctets miAttrSize data miPos)).toList.take miAttrSize

namespace StunMessage

/-- The type and the size of the digest that a message is checked with. -/
def integrityAttribute (self : StunMessage) : Option (BitVec 16 × Nat) :=
  if (self.getAttribute STUN_ATTR_MESSAGE_INTEGRITY).isSome then
    some (STUN_ATTR_MESSAGE_INTEGRITY, kStunMessageIntegritySize)
  else if (self.getAttribute STUN_ATTR_GOOG_MESSAGE_INTEGRITY_32).isSome then
    some (STUN_ATTR_GOOG_MESSAGE_INTEGRITY_32, kStunMessageIntegrity32Size)
  else none

def validateMessageIntegrity (hmac : Hmac) (password : List Octet) (self : StunMessage) :
    IntegrityStatus :=
  match self.integrityAttribute with
  | some (miAttrType, miAttrSize) =>
    if validateMessageIntegrityOfType hmac miAttrType miAttrSize self.buffer password then
      .integrityOk
    else .integrityBad
  | none => .noIntegrity

end StunMessage

def validateFingerprint (crc : Crc) (data : List Octet) : Bool :=
  let fingerprintAttrSize := kStunAttributeHeaderSize + 4
  if data.length % 4 ≠ 0 ∨ data.length < kStunHeaderSize + fingerprintAttrSize then false
  else if getBE32 data 4 ≠ kStunMagicCookie.toNat then false
  else
    let position := data.length - fingerprintAttrSize
    if getBE16 data position ≠ STUN_ATTR_FINGERPRINT.toNat ∨ getBE16 data (position + 2) ≠ 4 then
      false
    else
      BitVec.ofNat 32 (getBE32 data (position + kStunAttributeHeaderSize)) ^^^
        STUN_FINGERPRINT_XOR_VALUE == crc (data.take position)

end MaeRtc.Transport
