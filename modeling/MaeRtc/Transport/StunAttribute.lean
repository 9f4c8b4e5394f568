import MaeRtc.Base.ByteReader

/-!
# Attributes of STUN messages

An attribute has a type, a length and a value of one of seven classes.  Each class reads
and writes its value by a function of its own; the length an attribute is created with,
the octets it takes from the buffer and the length it has afterwards are not always the
same number.  Numbers of 16 bits that only occur as lengths are natural numbers.
-/

namespace MaeRtc.Transport

open MaeRtc.Base

def kStunMagicCookie : BitVec 32 := 0x2112A442

def kStunTransactionIdLength : Nat := 12

def kStunLegacyTransactionIdLength : Nat := 16

inductive StunAttributeValueType where
  | unknown
  | address
  | xorAddress
  | uint32
  | uint64
  | byteString
  | errorCode
  | uint16List
  deriving DecidableEq, Repr

/-- An address in network byte order, or none. -/
inductive IPAddress where
  | unspec
  | v4 (address : BitVec 32)
  | v6 (address : BitVec 128)
  deriving DecidableEq, Repr

structure SocketAddress where
  ip : IPAddress
  port : BitVec 16
  deriving DecidableEq, Repr

inductive StunValue where
  | address (address : SocketAddress)
  | xorAddress (address : SocketAddress)
  | uint32 (bits : BitVec 32)
  | uint64 (bits : BitVec 64)
  | byteString (bytes : List Octet)
  | errorCode (errorClass number : BitVec 8) (reason : List Octet)
  | uint16List (attrTypes : List (BitVec 16))
  deriving DecidableEq, Repr

structure StunAttribute where
  type : BitVec 16
  length : Nat
  value : StunValue
  deriving DecidableEq, Repr

def StunValue.valueType : StunValue → StunAttributeValueType
  | address _ => .address
  | xorAddress _ => .xorAddress
  | uint32 _ => .uint32
  | uint64 _ => .uint64
  | byteString _ => .byteString
  | errorCode _ _ _ => .errorCode
  | uint16List _ => .uint16List

/-! ## Lengths -/

/-- The octets that pad a value to a multiple of four. -/
def paddingOf (length : Nat) : Nat :=
  if length % 4 ≠ 0 then 4 - length % 4 else 0

/-- A length rounded up to a multiple of four. -/
def paddedLength (length : Nat) : Nat :=
  length + paddingOf length

/-- The length that an address sets. -/
def IPAddress.ensuredLength : IPAddress → Nat
  | unspec => 0
  | v4 _ => 8
  | v6 _ => 20

/-! ## Construction -/

namespace StunAttribute

def ofAddress (type : BitVec 16) (address : SocketAddress) : StunAttribute :=
  ⟨type, address.ip.ensuredLength, .address address⟩

def ofXorAddress (type : BitVec 16) (address : SocketAddress) : StunAttribute :=
  ⟨type, address.ip.ensuredLength, .xorAddress address⟩

def ofUInt32 (type : BitVec 16) (bits : BitVec 32) : StunAttribute :=
  ⟨type, 4, .uint32 bits⟩

def ofUInt64 (type : BitVec 16) (bits : BitVec 64) : StunAttribute :=
  ⟨type, 8, .uint64 bits⟩

def ofByteString (type : BitVec 16) (bytes : List Octet) : StunAttribute :=
  ⟨type, bytes.length % 2 ^ 16, .byteString bytes⟩

def ofErrorCode (type : BitVec 16) (code : Nat) (reason : List Octet) : StunAttribute :=
  ⟨type, (4 + reason.length % 2 ^ 16) % 2 ^ 16,
    .errorCode (BitVec.ofNat 8 (code / 100)) (BitVec.ofNat 8 (code % 100)) reason⟩

def ofUInt16List (type : BitVec 16) (attrTypes : List (BitVec 16)) : StunAttribute :=
  ⟨type, attrTypes.length * 2 % 2 ^ 16, .uint16List attrTypes⟩

end StunAttribute

/-! ## Addresses hidden by the transaction -/

/-- The cookie and the transaction id as one number. -/
def addressMask (transactionId : List Octet) : BitVec 128 :=
  BitVec.ofNat 128 (readBigEndian (writeBigEndian 4 kStunMagicCookie.toNat ++ transactionId))

/-- Only messages with a short transaction id hide long addresses. -/
def getXoredIP (transactionId : List Octet) : IPAddress → IPAddress
  | .unspec => .unspec
  | .v4 address => .v4 (address ^^^ kStunMagicCookie)
  | .v6 address =>
    if transactionId.length = kStunTransactionIdLength then
      .v6 (address ^^^ addressMask transactionId)
    else .unspec

/-- The upper half of the cookie hides the port. -/
def xorPort (port : BitVec 16) : BitVec 16 :=
  port ^^^ BitVec.ofNat 16 (kStunMagicCookie.toNat / 2 ^ 16)

/-! ## Reading -/

/-- Padding is dropped if it is there; if there is too little, nothing is dropped. -/
def consumePadding (length : Nat) (buf : List Octet) : List Octet :=
  let remainder := length % 4
  if remainder > 0 then
    if 4 - remainder ≤ buf.length then buf.drop (4 - remainder) else buf
  else buf

/-- The value of an address attribute that was created with a length. -/
def readAddress (length : Nat) (buf : List Octet) : Option (SocketAddress × List Octet) := do
  let (_, buf) ← readNumber 1 buf
  let (stunFamily, buf) ← readNumber 1 buf
  let (port, buf) ← readNumber 2 buf
  if stunFamily = 1 then
    if length ≠ 8 then none
    else
      let (address, buf) ← readNumber 4 buf
      some (⟨.v4 (BitVec.ofNat 32 address), BitVec.ofNat 16 port⟩, buf)
  else if stunFamily = 2 then
    if length ≠ 20 then none
    else
      let (address, buf) ← readNumber 16 buf
      some (⟨.v6 (BitVec.ofNat 128 address), BitVec.ofNat 16 port⟩, buf)
  else none

def readXorAddress (transactionId : List Octet) (length : Nat) (buf : List Octet) :
    Option (SocketAddress × List Octet) := do
  let (address, buf) ← readAddress length buf
  some (⟨getXoredIP transactionId address.ip, xorPort address.port⟩, buf)

def readByteString (length : Nat) (buf : List Octet) : Option (List Octet × List Octet) := do
  let (bytes, buf) ← readBytes length buf
  some (bytes, consumePadding length buf)

/-- The class and the number of an error stand in the low eleven bits. -/
def readErrorCode (length : Nat) (buf : List Octet) :
    Option ((BitVec 8 × BitVec 8 × List Octet) × List Octet) := do
  if length < 4 then none
  else
    let (val, buf) ← readNumber 4 buf
    let (reason, buf) ← readBytes (length - 4) buf
    some ((BitVec.ofNat 8 (val / 2 ^ 8 % 8), BitVec.ofNat 8 (val % 2 ^ 8), reason),
      consumePadding length buf)

def readUInt16List (length : Nat) (buf : List Octet) :
    Option (List (BitVec 16) × List Octet) := do
  if length % 2 ≠ 0 then none
  else
    let (attrTypes, buf) ← readNumbers 2 (length / 2) buf
    some (attrTypes.map (BitVec.ofNat 16), consumePadding length buf)

/--
Read an attribute of a class, created for a type with the declared length.  The classes
of integers have a length of their own and do not look at the declared one.
-/
def readAttribute (transactionId : List Octet) (type : BitVec 16) (length : Nat)
    (valueType : StunAttributeValueType) (buf : List Octet) : Option (StunAttribute × List Octet) :=
  match valueType with
  | .unknown => none
  | .address => do
    let (address, buf) ← readAddress length buf
    some (⟨type, address.ip.ensuredLength, .address address⟩, buf)
  | .xorAddress => do
    let (address, buf) ← readXorAddress transactionId length buf
    some (⟨type, address.ip.ensuredLength, .xorAddress address⟩, buf)
  | .uint32 => do
    let (bits, buf) ← readNumber 4 buf
    some (⟨type, 4, .uint32 (BitVec.ofNat 32 bits)⟩, buf)
  | .uint64 => do
    let (bits, buf) ← readNumber 8 buf
    some (⟨type, 8, .uint64 (BitVec.ofNat 64 bits)⟩, buf)
  | .byteString => do
    let (bytes, buf) ← readByteString length buf
    some (⟨type, length, .byteString bytes⟩, buf)
  | .errorCode => do
    let ((errorClass, number, reason), buf) ← readErrorCode length buf
    some (⟨type, length, .errorCode errorClass number reason⟩, buf)
  | .uint16List => do
    let (attrTypes, buf) ← readUInt16List length buf
    some (⟨type, length, .uint16List attrTypes⟩, buf)

/-! ## Writing -/

/-- The attributes whose length is bounded, with the bound; all others have 65535. -/
def lengthValid (type : BitVec 16) (length : Nat) : Bool :=
  match type.toNat with
  | 0x0006 => length ≤ 508
  | 0x0008 => length == 20
  | 0x0014 => length ≤ 508
  | 0x0015 => length ≤ 508
  | 0x8022 => length ≤ 508
  | _ => length ≤ 65535

def writePadding (length : Nat) : List Octet :=
  List.replicate (paddingOf length) 0

/-- An address behind its family and port; there is no family without an address. -/
def writeAddress (ip : IPAddress) (port : BitVec 16) : Option (List Octet) :=
  match ip with
  | .unspec => none
  | .v4 address =>
    some (writeBigEndian 1 0 ++ writeBigEndian 1 1 ++ writeBigEndian 2 port.toNat ++
      writeBigEndian 4 address.toNat)
  | .v6 address =>
    some (writeBigEndian 1 0 ++ writeBigEndian 1 2 ++ writeBigEndian 2 port.toNat ++
      writeBigEndian 16 address.toNat)

/-- The value of an attribute as its class writes it. -/
def StunAttribute.writeValue (attr : StunAttribute) (transactionId : List Octet) :
    Option (List Octet) :=
  match attr.value with
  | .address address => writeAddress address.ip address.port
  | .xorAddress address =>
    -- the family that is written is that of the address itself
    match address.ip with
    | .unspec => none
    | ip => writeAddress (getXoredIP transactionId ip) (xorPort address.port)
  | .uint32 bits => some (writeBigEndian 4 bits.toNat)
  | .uint64 bits => some (writeBigEndian 8 bits.toNat)
  | .byteString bytes =>
    if lengthValid attr.type attr.length then
      some (bytes.take attr.length ++ writePadding attr.length)
    else none
  | .errorCode errorClass number reason =>
    some (writeBigEndian 4 (errorClass.toNat * 2 ^ 8 + number.toNat) ++ reason ++
      writePadding attr.length)
  | .uint16List attrTypes =>
    some (attrTypes.flatMap (fun attrType => writeBigEndian 2 attrType.toNat) ++
      writePadding attr.length)

end MaeRtc.Transport
