import MaeRtc.Transport.StunMessage

/-!
# Attributes that are written and read again

An attribute that fits its type is written as a header and a padded value, and a round of
the parser takes just these octets and gives the attribute back, whatever stands behind
them.  Lists of attributes follow: for the parser and for the walk of the validation.
-/

namespace MaeRtc.Transport

open MaeRtc.Base

/-! ## New attributes -/

/-- What the constructors of the attribute classes are given. -/
inductive NewValue where
  | address (address : SocketAddress)
  | xorAddress (address : SocketAddress)
  | uint32 (bits : BitVec 32)
  | uint64 (bits : BitVec 64)
  | byteString (bytes : List Octet)
  | errorCode (code : Nat) (reason : List Octet)
  | uint16List (attrTypes : List (BitVec 16))
  deriving DecidableEq, Repr

namespace NewValue

def valueType : NewValue → StunAttributeValueType
  | address _ => .address
  | xorAddress _ => .xorAddress
  | uint32 _ => .uint32
  | uint64 _ => .uint64
  | byteString _ => .byteString
  | errorCode _ _ => .errorCode
  | uint16List _ => .uint16List

/-- The attribute that a constructor makes. -/
def make (type : BitVec 16) : NewValue → StunAttribute
  | address addr => .ofAddress type addr
  | xorAddress addr => .ofXorAddress type addr
  | uint32 bits => .ofUInt32 type bits
  | uint64 bits => .ofUInt64 type bits
  | byteString bytes => .ofByteString type bytes
  | errorCode code reason => .ofErrorCode type code reason
  | uint16List attrTypes => .ofUInt16List type attrTypes

/-- The octets of the value without padding. -/
def size : NewValue → Nat
  | address addr => addr.ip.ensuredLength
  | xorAddress addr => addr.ip.ensuredLength
  | uint32 _ => 4
  | uint64 _ => 8
  | byteString bytes => bytes.length
  | errorCode _ reason => 4 + reason.length
  | uint16List attrTypes => attrTypes.length * 2

/-- Addresses are addresses, strings have a legal length, and error codes three digits. -/
def Legal (type : BitVec 16) : NewValue → Prop
  | address addr => addr.ip ≠ .unspec
  | xorAddress addr => addr.ip ≠ .unspec
  | byteString bytes => lengthValid type bytes.length = true
  | errorCode code _ => code ≤ 799
  | _ => True

instance decidableLegal (type : BitVec 16) : ∀ value, Decidable (Legal type value)
  | address _ => inferInstanceAs (Decidable (_ ≠ _))
  | xorAddress _ => inferInstanceAs (Decidable (_ ≠ _))
  | uint32 _ => isTrue trivial
  | uint64 _ => isTrue trivial
  | byteString _ => inferInstanceAs (Decidable (_ = true))
  | errorCode _ _ => inferInstanceAs (Decidable (_ ≤ _))
  | uint16List _ => isTrue trivial

@[simp] theorem make_type (type : BitVec 16) (value : NewValue) : (value.make type).type = type := by
  cases value <;> rfl

theorem make_valueType (type : BitVec 16) (value : NewValue) :
    (value.make type).value.valueType = value.valueType := by
  cases value <;> rfl

theorem make_length (type : BitVec 16) {value : NewValue} (fits : value.size < 2 ^ 16) :
    (value.make type).length = value.size := by
  cases value with
  | byteString bytes => exact Nat.mod_eq_of_lt fits
  | uint16List attrTypes => exact Nat.mod_eq_of_lt fits
  | errorCode code reason =>
    change (4 + reason.length % 2 ^ 16) % 2 ^ 16 = 4 + reason.length
    change 4 + reason.length < 2 ^ 16 at fits
    omega
  | _ => rfl

end NewValue

/-! ## One attribute -/

/-- The octets of an attribute: its header and a padded value that is read as the attribute. -/
structure Encodes (table : AttributeTable) (transactionId : List Octet) (attr : StunAttribute)
    (octets : List Octet) : Prop where
  small : attr.length < 2 ^ 16
  size : octets.length = 4 + paddedLength attr.length
  written : StunMessage.writeAttribute transactionId attr = some octets
  header : ∃ value, octets =
    writeBigEndian 2 attr.type.toNat ++ (writeBigEndian 2 attr.length ++ value)
  read : ∀ rest, ∃ item, readItem table transactionId (octets ++ rest) = some (item, rest) ∧
    item.attr = some attr

namespace Encodes

variable {table : AttributeTable} {transactionId octets : List Octet} {attr : StunAttribute}
  (coded : Encodes table transactionId attr octets) (front back : List Octet)
include coded

/-- The type can be read at the position of the attribute. -/
theorem typeAt : getBE16 (front ++ (octets ++ back)) front.length = attr.type.toNat := by
  obtain ⟨value, header⟩ := coded.header
  have split : front ++ (octets ++ back) = front ++ (writeBigEndian 2 attr.type.toNat ++
      (writeBigEndian 2 attr.length ++ (value ++ back))) := by
    rw [header]
    simp only [List.append_assoc]
  rw [getBE16, field_of_split split rfl (length_writeBigEndian 2 _)]
  exact readBigEndian_write_of_lt attr.type.isLt

/-- The length can be read behind the type. -/
theorem lengthAt : getBE16 (front ++ (octets ++ back)) (front.length + 2) = attr.length := by
  obtain ⟨value, header⟩ := coded.header
  have split : front ++ (octets ++ back) = (front ++ writeBigEndian 2 attr.type.toNat) ++
      (writeBigEndian 2 attr.length ++ (value ++ back)) := by
    rw [header]
    simp only [List.append_assoc]
  rw [getBE16, field_of_split split (by simp) (length_writeBigEndian 2 _)]
  exact readBigEndian_write_of_lt coded.small

end Encodes

/-- A padded value that a class writes for an attribute and reads as the attribute again. -/
structure ValueEncodes (transactionId : List Octet) (valueType : StunAttributeValueType)
    (attr : StunAttribute) (value : List Octet) : Prop where
  small : attr.length < 2 ^ 16
  size : value.length = paddedLength attr.length
  written : attr.writeValue transactionId = some value
  read : ∀ rest, readAttribute transactionId attr.type attr.length valueType (value ++ rest) =
    some (attr, rest)

theorem ValueEncodes.encodes {table : AttributeTable} {transactionId value : List Octet}
    {attr : StunAttribute}
    (coded : ValueEncodes transactionId (table.createdType attr.type) attr value) :
    Encodes table transactionId attr
      (writeBigEndian 2 attr.type.toNat ++ (writeBigEndian 2 attr.length ++ value)) := by
  refine ⟨coded.small, ?_, ?_, ⟨value, rfl⟩, ?_⟩
  · simp only [List.length_append, length_writeBigEndian, coded.size]
    omega
  · rw [StunMessage.writeAttribute, coded.written, Option.map_some, List.append_assoc]
  · intro rest
    have typeFits : attr.type.toNat < 256 ^ 2 := attr.type.isLt
    have known : table.createdType attr.type ≠ .unknown := by
      intro unknown
      have read := coded.read rest
      rw [unknown] at read
      cases read
    rw [List.append_assoc, List.append_assoc]
    simp only [readItem, readNumber_write typeFits,
      readNumber_write (show _ < 256 ^ 2 from coded.small), Option.bind_eq_bind,
      Option.bind_some, BitVec.ofNat_toNat, BitVec.setWidth_eq, if_neg known, coded.read rest]
    exact ⟨_, rfl, rfl⟩

theorem consumePadding_writePadding (length : Nat) (rest : List Octet) :
    consumePadding length (writePadding length ++ rest) = rest := by
  unfold consumePadding writePadding paddingOf
  dsimp only
  split_ifs with some none enough
  all_goals first
    | omega
    | exact List.drop_left' (by simp)
    | (simp only [List.length_append, List.length_replicate] at enough; omega)
    | rfl

/-! ## The classes -/

variable {type : BitVec 16}

section Classes

variable {transactionId rest : List Octet} {type : BitVec 16}

theorem readAddress_write {ip : IPAddress} (port : BitVec 16) (known : ip ≠ .unspec) :
    ∃ value, writeAddress ip port = some value ∧ value.length = ip.ensuredLength ∧
      ∀ rest, readAddress ip.ensuredLength (value ++ rest) = some (⟨ip, port⟩, rest) := by
  have portFits : port.toNat < 256 ^ 2 := port.isLt
  cases ip with
  | unspec => exact absurd rfl known
  | v4 address =>
    refine ⟨_, rfl, by simp [IPAddress.ensuredLength], ?_⟩
    intro rest
    have addressFits : address.toNat < 256 ^ 4 := address.isLt
    simp only [readAddress, List.append_assoc, readNumber_write portFits,
      readNumber_write addressFits, readNumber_write (show 0 < 256 ^ 1 by norm_num),
      readNumber_write (show 1 < 256 ^ 1 by norm_num), Option.bind_eq_bind, Option.bind_some,
      IPAddress.ensuredLength, ne_eq, not_true_eq_false, if_true, if_false, BitVec.ofNat_toNat,
      BitVec.setWidth_eq]
  | v6 address =>
    refine ⟨_, rfl, by simp [IPAddress.ensuredLength], ?_⟩
    intro rest
    have addressFits : address.toNat < 256 ^ 16 := address.isLt
    simp only [readAddress, List.append_assoc, readNumber_write portFits,
      readNumber_write addressFits, readNumber_write (show 0 < 256 ^ 1 by norm_num),
      readNumber_write (show 2 < 256 ^ 1 by norm_num), Option.bind_eq_bind, Option.bind_some,
      IPAddress.ensuredLength, ne_eq, not_true_eq_false, if_true, if_false, BitVec.ofNat_toNat,
      BitVec.setWidth_eq, OfNat.ofNat_ne_one]

theorem getXoredIP_getXoredIP (short : transactionId.length = kStunTransactionIdLength)
    (ip : IPAddress) : getXoredIP transactionId (getXoredIP transactionId ip) = ip := by
  cases ip with
  | unspec => rfl
  | v4 address => simp [getXoredIP]
  | v6 address => simp [getXoredIP, short]

theorem ensuredLength_getXoredIP (short : transactionId.length = kStunTransactionIdLength)
    (ip : IPAddress) : (getXoredIP transactionId ip).ensuredLength = ip.ensuredLength := by
  cases ip with
  | v6 address => simp [getXoredIP, short, IPAddress.ensuredLength]
  | _ => rfl

theorem xorPort_xorPort (port : BitVec 16) : xorPort (xorPort port) = port := by
  simp [xorPort]

theorem ensuredLength_lt (ip : IPAddress) : ip.ensuredLength < 2 ^ 16 := by
  cases ip <;> simp [IPAddress.ensuredLength]

theorem ensuredLength_padded (ip : IPAddress) :
    paddedLength ip.ensuredLength = ip.ensuredLength := by
  cases ip <;> simp [paddedLength, paddingOf, IPAddress.ensuredLength]

/-- Class and number of an error code of three digits are found in its 32 bits. -/
theorem errorCode_parts {errorClass : BitVec 8} (number : BitVec 8) (small : errorClass.toNat < 8) :
    errorClass.toNat * 2 ^ 8 + number.toNat < 256 ^ 4 ∧
      BitVec.ofNat 8 ((errorClass.toNat * 2 ^ 8 + number.toNat) / 2 ^ 8 % 8) = errorClass ∧
      BitVec.ofNat 8 ((errorClass.toNat * 2 ^ 8 + number.toNat) % 2 ^ 8) = number := by
  refine ⟨by omega, ?_, ?_⟩
  · apply BitVec.eq_of_toNat_eq
    rw [BitVec.toNat_ofNat]
    omega
  · apply BitVec.eq_of_toNat_eq
    rw [BitVec.toNat_ofNat]
    omega

theorem length_append_writePadding {length : Nat} {bytes : List Octet}
    (size : bytes.length = length) :
    (bytes ++ writePadding length).length = paddedLength length := by
  rw [List.length_append, size, writePadding, List.length_replicate, paddedLength]

theorem address_encodes (type : BitVec 16) {addr : SocketAddress} (known : addr.ip ≠ .unspec) :
    ∃ value, ValueEncodes transactionId .address (.ofAddress type addr) value := by
  obtain ⟨value, written, size, read⟩ := readAddress_write addr.port known
  refine ⟨value, ensuredLength_lt addr.ip, size.trans (ensuredLength_padded addr.ip).symm,
    written, ?_⟩
  · intro rest
    simp only [StunAttribute.ofAddress, readAttribute, read rest, Option.bind_eq_bind,
      Option.bind_some]

theorem xorAddress_encodes (type : BitVec 16) {addr : SocketAddress}
    (short : transactionId.length = kStunTransactionIdLength) (known : addr.ip ≠ .unspec) :
    ∃ value, ValueEncodes transactionId .xorAddress (.ofXorAddress type addr) value := by
  have hidden : getXoredIP transactionId addr.ip ≠ .unspec := by
    intro isNone
    have back := getXoredIP_getXoredIP short addr.ip
    rw [isNone] at back
    exact known back.symm
  obtain ⟨value, written, size, read⟩ := readAddress_write (xorPort addr.port) hidden
  rw [ensuredLength_getXoredIP short] at size read
  refine ⟨value, ensuredLength_lt addr.ip, size.trans (ensuredLength_padded addr.ip).symm, ?_, ?_⟩
  · rw [← written]
    unfold StunAttribute.writeValue StunAttribute.ofXorAddress
    cases ip : addr.ip with
    | unspec => exact absurd ip known
    | v4 address => simp only [ip]
    | v6 address => simp only [ip]
  · intro rest
    simp only [StunAttribute.ofXorAddress, readAttribute, readXorAddress, read rest,
      Option.bind_eq_bind, Option.bind_some, getXoredIP_getXoredIP short, xorPort_xorPort]

theorem uint32_encodes (type : BitVec 16) (bits : BitVec 32) :
    ValueEncodes transactionId .uint32 (.ofUInt32 type bits) (writeBigEndian 4 bits.toNat) := by
  have fits : bits.toNat < 256 ^ 4 := bits.isLt
  have whole : paddedLength 4 = 4 := by decide
  refine ⟨show 4 < 2 ^ 16 by decide, (length_writeBigEndian 4 _).trans whole.symm, rfl, ?_⟩
  intro rest
  simp only [StunAttribute.ofUInt32, readAttribute, readNumber_write fits, Option.bind_eq_bind,
    Option.bind_some, BitVec.ofNat_toNat, BitVec.setWidth_eq]

theorem uint64_encodes (type : BitVec 16) (bits : BitVec 64) :
    ValueEncodes transactionId .uint64 (.ofUInt64 type bits) (writeBigEndian 8 bits.toNat) := by
  have fits : bits.toNat < 256 ^ 8 := bits.isLt
  have whole : paddedLength 8 = 8 := by decide
  refine ⟨show 8 < 2 ^ 16 by decide, (length_writeBigEndian 8 _).trans whole.symm, rfl, ?_⟩
  intro rest
  simp only [StunAttribute.ofUInt64, readAttribute, readNumber_write fits, Option.bind_eq_bind,
    Option.bind_some, BitVec.ofNat_toNat, BitVec.setWidth_eq]

theorem byteString_encodes {bytes : List Octet} (fits : bytes.length < 2 ^ 16)
    (legal : lengthValid type bytes.length = true) :
    ValueEncodes transactionId .byteString (.ofByteString type bytes)
      (bytes ++ writePadding bytes.length) := by
  rw [StunAttribute.ofByteString, Nat.mod_eq_of_lt fits]
  refine ⟨fits, length_append_writePadding rfl, ?_, ?_⟩
  · simp only [StunAttribute.writeValue, if_pos legal, List.take_length]
  · intro rest
    simp only [readAttribute, readByteString, List.append_assoc, readBytes_append,
      Option.bind_eq_bind, Option.bind_some, consumePadding_writePadding]

theorem errorCode_encodes (type : BitVec 16) {code : Nat} {reason : List Octet} (legal : code ≤ 799)
    (fits : 4 + reason.length < 2 ^ 16) :
    ∃ value, ValueEncodes transactionId .errorCode (.ofErrorCode type code reason) value := by
  have length : (4 + reason.length % 2 ^ 16) % 2 ^ 16 = 4 + reason.length := by omega
  have small : (BitVec.ofNat 8 (code / 100)).toNat < 8 := by
    rw [BitVec.toNat_ofNat]
    omega
  obtain ⟨fitsFour, isClass, isNumber⟩ := errorCode_parts (BitVec.ofNat 8 (code % 100)) small
  rw [StunAttribute.ofErrorCode, length]
  refine ⟨_, fits, length_append_writePadding (by simp), rfl, ?_⟩
  intro rest
  simp only [readAttribute, readErrorCode, List.append_assoc, readNumber_write fitsFour,
    if_neg (show ¬ 4 + reason.length < 4 by omega), Nat.add_sub_cancel_left, readBytes_append,
    Option.bind_eq_bind, Option.bind_some, consumePadding_writePadding, isClass, isNumber]

theorem uint16List_encodes (type : BitVec 16) {attrTypes : List (BitVec 16)}
    (fits : attrTypes.length * 2 < 2 ^ 16) :
    ∃ value, ValueEncodes transactionId .uint16List (.ofUInt16List type attrTypes) value := by
  have small : ∀ number ∈ attrTypes.map BitVec.toNat, number < 256 ^ 2 := by
    intro number member
    obtain ⟨attrType, -, rfl⟩ := List.mem_map.mp member
    exact attrType.isLt
  have numbers : attrTypes.flatMap (fun attrType => writeBigEndian 2 attrType.toNat) =
      (attrTypes.map BitVec.toNat).flatMap (writeBigEndian 2) := by
    rw [List.flatMap_map]
  have back : (attrTypes.map BitVec.toNat).map (BitVec.ofNat 16) = attrTypes := by
    simp [Function.comp_def]
  rw [StunAttribute.ofUInt16List, Nat.mod_eq_of_lt fits]
  refine ⟨_, fits, length_append_writePadding ?_, rfl, ?_⟩
  · simp
  intro rest
  have read := readNumbers_write small (writePadding (attrTypes.length * 2) ++ rest)
  rw [List.length_map] at read
  simp only [readAttribute, readUInt16List, List.append_assoc, numbers, Nat.mul_mod_left,
    ne_eq, not_true_eq_false, if_false, Nat.mul_div_cancel _ (show 0 < 2 by norm_num), read,
    Option.bind_eq_bind, Option.bind_some, consumePadding_writePadding, back]

end Classes

/-- A legal value is encoded by the class that its type is read with. -/
theorem NewValue.encodes {table : AttributeTable} {transactionId : List Octet} {value : NewValue}
    (short : transactionId.length = kStunTransactionIdLength)
    (created : table.createdType type = value.valueType) (legal : value.Legal type)
    (fits : value.size < 2 ^ 16) :
    ∃ octets, Encodes table transactionId (value.make type) octets := by
  have coded : ∃ octets,
      ValueEncodes transactionId value.valueType (value.make type) octets := by
    cases value with
    | address addr => exact address_encodes type legal
    | xorAddress addr => exact xorAddress_encodes type short legal
    | uint32 bits => exact ⟨_, uint32_encodes type bits⟩
    | uint64 bits => exact ⟨_, uint64_encodes type bits⟩
    | byteString bytes => exact ⟨_, byteString_encodes fits legal⟩
    | errorCode code reason => exact errorCode_encodes type legal fits
    | uint16List attrTypes => exact uint16List_encodes type fits
  obtain ⟨octets, coded⟩ := coded
  have typed : ValueEncodes transactionId (table.createdType (value.make type).type)
      (value.make type) octets := by
    rw [value.make_type, created]
    exact coded
  exact ⟨_, typed.encodes⟩

/-! ## Lists of attributes -/

/-- The octets of attributes one after the other. -/
inductive EncodesAll (table : AttributeTable) (transactionId : List Octet) :
    List StunAttribute → List Octet → Prop
  | nil : EncodesAll table transactionId [] []
  | cons {attr : StunAttribute} {attrs : List StunAttribute} {octets others : List Octet}
      (front : Encodes table transactionId attr octets)
      (rest : EncodesAll table transactionId attrs others) :
      EncodesAll table transactionId (attr :: attrs) (octets ++ others)

namespace EncodesAll

variable {table : AttributeTable} {transactionId octets others : List Octet}
  {attrs more : List StunAttribute}

theorem append (front : EncodesAll table transactionId attrs octets)
    (back : EncodesAll table transactionId more others) :
    EncodesAll table transactionId (attrs ++ more) (octets ++ others) := by
  induction front with
  | nil => exact back
  | cons first rest ih =>
    rw [List.cons_append, List.append_assoc]
    exact .cons first ih

theorem snoc {attr : StunAttribute} (front : EncodesAll table transactionId attrs octets)
    (back : Encodes table transactionId attr others) :
    EncodesAll table transactionId (attrs ++ [attr]) (octets ++ others) := by
  have single : EncodesAll table transactionId [attr] (others ++ []) := .cons back .nil
  rw [List.append_nil] at single
  exact front.append single

variable (coded : EncodesAll table transactionId attrs octets)
include coded

theorem written : StunMessage.writeAttributes transactionId attrs = some octets := by
  induction coded with
  | nil => rfl
  | cons first rest ih =>
    simp only [StunMessage.writeAttributes, first.written, ih, Option.bind_eq_bind,
      Option.bind_some]

theorem length_le : attrs.length ≤ octets.length := by
  induction coded with
  | nil => exact Nat.le_refl _
  | cons first rest ih =>
    rw [List.length_append, List.length_cons, first.size]
    omega

/-- The parser gives the attributes back. -/
theorem readItems {fuel : Nat} (enough : octets.length ≤ fuel) :
    ∃ items, Transport.readItems table transactionId fuel octets = some items ∧
      items.filterMap (·.attr) = attrs := by
  induction coded generalizing fuel with
  | nil => exact ⟨[], by simp [Transport.readItems], rfl⟩
  | @cons attr attrs octets others first rest ih =>
    have size := first.size
    rw [List.length_append] at enough
    obtain ⟨fuel, rfl⟩ : ∃ less, fuel = less + 1 := ⟨fuel - 1, by omega⟩
    obtain ⟨item, read, isAttr⟩ := first.read others
    obtain ⟨items, readOthers, sameOthers⟩ := ih (show others.length ≤ fuel by omega)
    refine ⟨item :: items, ?_, ?_⟩
    · cases whole : octets ++ others with
      | nil =>
        rw [(List.append_eq_nil_iff.mp whole).1] at size
        simp only [List.length_nil] at size
        omega
      | cons octet tail =>
        rw [whole] at read
        simp only [Transport.readItems, read, readOthers, Option.bind_eq_bind, Option.bind_some]
    · rw [List.filterMap_cons_some isAttr, sameOthers]

/-- The walk of the validation passes by attributes of other types. -/
theorem findIntegrity {miAttrSize fuel : Nat} {front back : List Octet}
    (different : ∀ attr ∈ attrs, attr.type ≠ type) :
    Transport.findIntegrity type miAttrSize (front ++ (octets ++ back)) (fuel + attrs.length)
        front.length =
      Transport.findIntegrity type miAttrSize (front ++ (octets ++ back)) fuel
        (front.length + octets.length) := by
  induction coded generalizing front with
  | nil => rfl
  | @cons attr attrs octets others first rest ih =>
    obtain ⟨otherType, othersDiffer⟩ := List.forall_mem_cons.mp different
    have size := first.size
    have inside : front.length + 4 ≤ (front ++ (octets ++ others ++ back)).length := by
      simp only [List.length_append]
      omega
    have isOther : attr.type.toNat ≠ type.toNat := fun same =>
      otherType (BitVec.eq_of_toNat_eq same)
    have moved := @ih (front ++ octets) othersDiffer
    rw [List.length_append, List.append_assoc] at moved
    rw [List.length_append, List.length_cons, ← Nat.add_assoc, Transport.findIntegrity,
      if_pos inside, List.append_assoc octets, first.typeAt, first.lengthAt]
    rw [if_neg isOther, Nat.add_assoc front.length 4, ← size, moved, Nat.add_assoc]

end EncodesAll

end MaeRtc.Transport
