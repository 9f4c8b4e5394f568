import MaeRtc.Transport.StunMessage

/-!
# How the parser frames attributes

Attributes are meant to occupy their header and their declared length rounded up to a
multiple of four.  The classes of integers take as many octets as they need whatever is
declared, a skipped length is rounded up in 16 bits, and missing padding is not noticed.
A message that is accepted is framed as declared exactly if none of this happens.
-/

namespace MaeRtc.Transport

open MaeRtc.Base

/-! ## The framing that is meant -/

/-- An item of a body by its declared length; at the end the value may be cut off. -/
structure Declared where
  type : BitVec 16
  length : Nat
  value : List Octet
  deriving DecidableEq, Repr

/-- The item at the front of a body. -/
def declaredItem (body : List Octet) : Declared where
  type := BitVec.ofNat 16 (readBigEndian (body.take 2))
  length := readBigEndian ((body.drop 2).take 2)
  value := (body.drop 4).take (readBigEndian ((body.drop 2).take 2))

/-- Walk over a body by the declared lengths. -/
def declaredItems : Nat → List Octet → List Declared
  | 0, _ => []
  | fuel + 1, body =>
    if 4 ≤ body.length then
      declaredItem body ::
        declaredItems fuel (body.drop (4 + paddedLength (declaredItem body).length))
    else []

/-- The item consists of its header, a value of the declared length and the padding. -/
structure Item.Framed (item : Item) : Prop where
  octets : ∃ header value padding, item.octets = header ++ value ++ padding ∧
    header.length = 4 ∧ item.type = BitVec.ofNat 16 (readBigEndian (header.take 2)) ∧
    item.length = readBigEndian (header.drop 2) ∧
    value.length = item.length ∧ padding.length = paddingOf item.length
  attr : ∀ attr ∈ item.attr, attr.length = item.length

/-- The items tile a body, and they are those of the declared walk. -/
structure FramesBody (body : List Octet) (items : List Item) : Prop where
  tiles : body = items.flatMap (·.octets)
  framed : ∀ item ∈ items, item.Framed
  declared : items.map (fun item => (item.type, item.length)) =
    (declaredItems body.length body).map fun item => (item.type, item.length)

/--
Integers are declared with their size, a long address is only hidden in a message with the
magic cookie, and a skipped length can be rounded up.
-/
def Declared.Regular (table : AttributeTable) (HasCookie : Prop) (item : Declared) : Prop :=
  match table.createdType item.type with
  | .uint32 => item.length = 4
  | .uint64 => item.length = 8
  | .xorAddress => HasCookie ∨ item.value[1]? ≠ some 2
  | .unknown => item.length ≤ 65532
  | _ => True

instance decidableRegular (table : AttributeTable) (HasCookie : Prop) [Decidable HasCookie]
    (item : Declared) : Decidable (item.Regular table HasCookie) := by
  unfold Declared.Regular
  cases table.createdType item.type <;> infer_instance

/-! ## What one attribute takes -/

theorem paddedLength_mod (length : Nat) : paddedLength length % 4 = 0 := by
  unfold paddedLength paddingOf
  split_ifs <;> omega

theorem consumePadding_cases (length : Nat) (buf : List Octet) :
    ∃ padding, buf = padding ++ consumePadding length buf ∧
      (padding.length = paddingOf length ∨
        (padding = [] ∧ (consumePadding length buf).length < paddingOf length)) := by
  unfold consumePadding paddingOf
  dsimp only
  split_ifs with some none enough
  all_goals first
    | omega
    | exact ⟨buf.take _, (List.take_append_drop _ buf).symm, .inl (by simp; omega)⟩
    | exact ⟨[], rfl, .inr ⟨rfl, by omega⟩⟩
    | exact ⟨[], rfl, .inl rfl⟩

/-- What is taken for a value, and what the attribute says about it. -/
def Taken (transactionId : List Octet) (length : Nat) (consumed rest : List Octet)
    (attrLength : Nat) : StunAttributeValueType → Prop
  | .unknown => False
  | .address => consumed.length = length ∧ attrLength = length ∧ paddingOf length = 0
  | .xorAddress => consumed.length = length ∧ paddingOf length = 0 ∧
      (attrLength = length ↔
        transactionId.length = kStunTransactionIdLength ∨ consumed[1]? ≠ some 2)
  | .uint32 => consumed.length = 4 ∧ attrLength = 4
  | .uint64 => consumed.length = 8 ∧ attrLength = 8
  | .byteString | .errorCode | .uint16List => attrLength = length ∧
      ∃ value padding, consumed = value ++ padding ∧ value.length = length ∧
        (padding.length = paddingOf length ∨ (padding = [] ∧ rest.length < paddingOf length))

variable {length : Nat} {buf rest : List Octet}

theorem readAddress_taken {address : SocketAddress}
    (taken : readAddress length buf = some (address, rest)) :
    ∃ consumed, buf = consumed ++ rest ∧ consumed.length = length ∧
      ((∃ ip, address.ip = .v4 ip ∧ length = 8 ∧ consumed[1]? ≠ some 2) ∨
        ∃ ip, address.ip = .v6 ip ∧ length = 20 ∧ consumed[1]? = some 2) := by
  simp only [readAddress, Option.bind_eq_bind, Option.bind_eq_some_iff] at taken
  obtain ⟨⟨dummy, buf1⟩, first, ⟨family, buf2⟩, second, ⟨port, buf3⟩, third, taken⟩ := taken
  obtain ⟨a, rfl, aSize, -⟩ := readNumber_eq_some_iff.mp first
  obtain ⟨b, rfl, bSize, familyEq⟩ := readNumber_eq_some_iff.mp second
  obtain ⟨c, rfl, cSize, -⟩ := readNumber_eq_some_iff.mp third
  obtain ⟨octet, rfl⟩ := List.length_eq_one_iff.mp bSize
  have familyOctet : octet.toNat = family := by
    rw [← familyEq]
    simp [readBigEndian]
  have familyAt (d : List Octet) : (a ++ [octet] ++ c ++ d)[1]? = some octet := by
    simp [aSize]
  dsimp only at taken
  split_ifs at taken with four short six long
  · simp only [Option.bind_eq_some_iff] at taken
    obtain ⟨⟨ip, buf4⟩, fourth, ⟨⟩⟩ := taken
    obtain ⟨d, rfl, dSize, -⟩ := readNumber_eq_some_iff.mp fourth
    refine ⟨a ++ [octet] ++ c ++ d, by simp, ?_, .inl ⟨_, rfl, ?_, ?_⟩⟩
    · simp
      omega
    · omega
    · rw [familyAt]
      intro isTwo
      have : octet = 2 := Option.some.inj isTwo
      subst this
      simp at familyOctet
      omega
  · simp only [Option.bind_eq_some_iff] at taken
    obtain ⟨⟨ip, buf4⟩, fourth, ⟨⟩⟩ := taken
    obtain ⟨d, rfl, dSize, -⟩ := readNumber_eq_some_iff.mp fourth
    refine ⟨a ++ [octet] ++ c ++ d, by simp, ?_, .inr ⟨_, rfl, ?_, ?_⟩⟩
    · simp
      omega
    · omega
    · rw [familyAt]
      congr 1
      apply BitVec.eq_of_toNat_eq
      simp [familyOctet, six]

variable {transactionId : List Octet}

theorem readAttribute_taken {type : BitVec 16} {valueType : StunAttributeValueType}
    {attr : StunAttribute}
    (taken : readAttribute transactionId type length valueType buf = some (attr, rest)) :
    ∃ consumed, buf = consumed ++ rest ∧
      Taken transactionId length consumed rest attr.length valueType := by
  cases valueType with
  | unknown => cases taken
  | address =>
    simp only [readAttribute, Option.bind_eq_bind, Option.bind_eq_some_iff] at taken
    obtain ⟨⟨address, rest'⟩, addressRead, ⟨⟩⟩ := taken
    obtain ⟨consumed, split, size, ⟨ip, isShort, short, -⟩ | ⟨ip, isLong, long, -⟩⟩ :=
      readAddress_taken addressRead
    · refine ⟨consumed, split, size, ?_, by simp [paddingOf, short]⟩
      simp [isShort, short, IPAddress.ensuredLength]
    · refine ⟨consumed, split, size, ?_, by simp [paddingOf, long]⟩
      simp [isLong, long, IPAddress.ensuredLength]
  | xorAddress =>
    simp only [readAttribute, readXorAddress, Option.bind_eq_bind, Option.bind_eq_some_iff] at taken
    obtain ⟨⟨hidden, rest'⟩, ⟨⟨address, rest''⟩, addressRead, ⟨⟩⟩, ⟨⟩⟩ := taken
    obtain ⟨consumed, split, size, ⟨ip, isShort, short, family⟩ | ⟨ip, isLong, long, family⟩⟩ :=
      readAddress_taken addressRead
    · refine ⟨consumed, split, size, by simp [paddingOf, short], ?_⟩
      rw [isShort]
      exact iff_of_true short.symm (.inr family)
    · refine ⟨consumed, split, size, by simp [paddingOf, long], ?_⟩
      by_cases plain : transactionId.length = kStunTransactionIdLength
      · simp [isLong, long, getXoredIP, IPAddress.ensuredLength, plain]
      · simp [isLong, long, getXoredIP, IPAddress.ensuredLength, plain, family]
  | uint32 | uint64 =>
    simp only [readAttribute, Option.bind_eq_bind, Option.bind_eq_some_iff] at taken
    obtain ⟨⟨bits, rest'⟩, bitsRead, ⟨⟩⟩ := taken
    obtain ⟨consumed, split, size, -⟩ := readNumber_eq_some_iff.mp bitsRead
    exact ⟨consumed, split, size, rfl⟩
  | byteString =>
    simp only [readAttribute, readByteString, Option.bind_eq_bind, Option.bind_eq_some_iff] at taken
    obtain ⟨⟨bytes, rest'⟩, ⟨⟨value, rest''⟩, valueRead, ⟨⟩⟩, ⟨⟩⟩ := taken
    obtain ⟨rfl, size⟩ := readBytes_eq_some_iff.mp valueRead
    obtain ⟨padding, split, kind⟩ := consumePadding_cases length rest''
    refine ⟨value ++ padding, ?_, rfl, value, padding, rfl, size, kind⟩
    rw [List.append_assoc, ← split]
  | errorCode =>
    simp only [readAttribute, readErrorCode, Option.bind_eq_bind, Option.bind_eq_some_iff] at taken
    obtain ⟨⟨error, rest'⟩, errorRead, ⟨⟩⟩ := taken
    split_ifs at errorRead with short
    simp only [Option.bind_eq_some_iff] at errorRead
    obtain ⟨⟨val, buf1⟩, valRead, ⟨reason, buf2⟩, reasonRead, ⟨⟩⟩ := errorRead
    obtain ⟨number, rfl, numberSize, -⟩ := readNumber_eq_some_iff.mp valRead
    obtain ⟨rfl, reasonSize⟩ := readBytes_eq_some_iff.mp reasonRead
    obtain ⟨padding, split, kind⟩ := consumePadding_cases length buf2
    refine ⟨number ++ reason ++ padding, ?_, rfl, number ++ reason, padding, rfl, ?_, kind⟩
    · rw [List.append_assoc, List.append_assoc, ← split]
    · rw [List.length_append, numberSize, reasonSize]
      omega
  | uint16List =>
    simp only [readAttribute, readUInt16List, Option.bind_eq_bind, Option.bind_eq_some_iff] at taken
    obtain ⟨⟨types, rest'⟩, typesRead, ⟨⟩⟩ := taken
    split_ifs at typesRead with odd
    simp only [Option.bind_eq_some_iff] at typesRead
    obtain ⟨⟨numbers, buf1⟩, numbersRead, ⟨⟩⟩ := typesRead
    obtain ⟨value, rfl, size, -⟩ := readNumbers_length numbersRead
    obtain ⟨padding, split, kind⟩ := consumePadding_cases length buf1
    refine ⟨value ++ padding, ?_, rfl, value, padding, rfl, ?_, kind⟩
    · rw [List.append_assoc, ← split]
    · omega

/-- In a buffer of whole words a value is taken with its padding, whatever its class. -/
theorem Taken.length_consumed {consumed : List Octet} {attrLength : Nat}
    {valueType : StunAttributeValueType}
    (took : Taken transactionId length consumed rest attrLength valueType)
    (whole : (consumed.length + rest.length) % 4 = 0) :
    valueType = .uint32 ∧ consumed.length = 4 ∨ valueType = .uint64 ∧ consumed.length = 8 ∨
      valueType ≠ .uint32 ∧ valueType ≠ .uint64 ∧ consumed.length = paddedLength length := by
  -- the classes that pad their value
  have padded (took : attrLength = length ∧ ∃ value padding, consumed = value ++ padding ∧
      value.length = length ∧ (padding.length = paddingOf length ∨
        (padding = [] ∧ rest.length < paddingOf length))) :
      consumed.length = paddedLength length := by
    obtain ⟨-, value, padding, rfl, valueSize, paddingSize | ⟨rfl, short⟩⟩ := took
    · rw [List.length_append, valueSize, paddingSize, paddedLength]
    · exfalso
      unfold paddingOf at short
      simp only [List.append_nil] at whole
      split_ifs at short <;> omega
  cases valueType with
  | unknown => exact took.elim
  | uint32 => exact .inl ⟨rfl, took.1⟩
  | uint64 => exact .inr (.inl ⟨rfl, took.1⟩)
  | address =>
    refine .inr (.inr ⟨by simp, by simp, ?_⟩)
    rw [took.1, paddedLength, took.2.2, Nat.add_zero]
  | xorAddress =>
    refine .inr (.inr ⟨by simp, by simp, ?_⟩)
    rw [took.1, paddedLength, took.2.1, Nat.add_zero]
  | _ => exact .inr (.inr ⟨by simp, by simp, padded took⟩)

/-- One round: what is taken and what is left make up the buffer. -/
theorem readItem_taken {table : AttributeTable} {item : Item}
    (taken : readItem table transactionId buf = some (item, rest)) :
    ∃ header consumed, buf = header ++ consumed ++ rest ∧ header.length = 4 ∧
      item.octets = header ++ consumed ∧
      item.type = BitVec.ofNat 16 (readBigEndian (header.take 2)) ∧
      item.length = readBigEndian (header.drop 2) ∧
      ((table.createdType item.type = .unknown ∧ item.attr = none ∧
          consumed.length = paddedLength item.length % 2 ^ 16) ∨
        ∃ attr, item.attr = some attr ∧
          Taken transactionId item.length consumed rest attr.length
            (table.createdType item.type)) := by
  simp only [readItem, Option.bind_eq_bind, Option.bind_eq_some_iff] at taken
  obtain ⟨⟨attrType, afterType⟩, typeRead, ⟨attrLength, afterLength⟩, lengthRead, taken⟩ := taken
  obtain ⟨typeOctets, rfl, typeSize, rfl⟩ := readNumber_eq_some_iff.mp typeRead
  obtain ⟨lengthOctets, rfl, lengthSize, rfl⟩ := readNumber_eq_some_iff.mp lengthRead
  have headerSize : (typeOctets ++ lengthOctets).length = 4 := by simp [typeSize, lengthSize]
  have headerType : (typeOctets ++ lengthOctets).take 2 = typeOctets := by
    rw [← typeSize, List.take_left]
  have headerLength : (typeOctets ++ lengthOctets).drop 2 = lengthOctets := by
    rw [← typeSize, List.drop_left]
  have octets (consumed rest : List Octet) :
      (typeOctets ++ (lengthOctets ++ (consumed ++ rest))).take
        ((typeOctets ++ (lengthOctets ++ (consumed ++ rest))).length - rest.length) =
      typeOctets ++ lengthOctets ++ consumed := by
    have whole : typeOctets ++ (lengthOctets ++ (consumed ++ rest)) =
        (typeOctets ++ lengthOctets ++ consumed) ++ rest := by simp
    rw [whole, List.length_append, Nat.add_sub_cancel, List.take_left]
  split_ifs at taken with skipped
  · simp only [Option.bind_eq_some_iff] at taken
    obtain ⟨⟨consumed, rest'⟩, consumedRead, ⟨⟩⟩ := taken
    obtain ⟨rfl, size⟩ := readBytes_eq_some_iff.mp consumedRead
    refine ⟨typeOctets ++ lengthOctets, consumed, by simp, headerSize, octets _ _, ?_, ?_,
      .inl ⟨skipped, rfl, size⟩⟩
    · rw [headerType]
    · rw [headerLength]
  · simp only [Option.bind_eq_some_iff] at taken
    obtain ⟨⟨attr, rest'⟩, attrRead, ⟨⟩⟩ := taken
    obtain ⟨consumed, rfl, took⟩ := readAttribute_taken attrRead
    refine ⟨typeOctets ++ lengthOctets, consumed, by simp, headerSize, octets _ _, ?_, ?_,
      .inr ⟨attr, rfl, took⟩⟩
    · rw [headerType]
    · rw [headerLength]

/-! ## One round against the declared framing -/

section Round

variable {table : AttributeTable} {transactionId buf rest : List Octet} {item : Item}

/-- A round looks at the header of the declared item. -/
theorem declaredItem_of_taken (taken : readItem table transactionId buf = some (item, rest)) :
    (declaredItem buf).type = item.type ∧ (declaredItem buf).length = item.length ∧
      4 ≤ buf.length := by
  obtain ⟨header, consumed, rfl, headerSize, -, typeEq, lengthEq, -⟩ := readItem_taken taken
  have front : (header ++ consumed ++ rest).take 2 = header.take 2 := by
    rw [List.append_assoc, List.take_append_of_le_length (by omega)]
  have back : ((header ++ consumed ++ rest).drop 2).take 2 = header.drop 2 := by
    rw [List.append_assoc, List.drop_append_of_le_length (by omega)]
    exact List.take_left' (by simp [headerSize])
  refine ⟨?_, ?_, ?_⟩
  · rw [typeEq, declaredItem, front]
  · rw [lengthEq, declaredItem, back]
  · simp only [List.length_append]
    omega

theorem length_of_framed (framed : item.Framed) :
    item.octets.length = 4 + paddedLength item.length := by
  obtain ⟨header, value, padding, octets, headerSize, -, -, valueSize, paddingSize⟩ := framed.octets
  rw [octets, List.length_append, List.length_append, headerSize, valueSize, paddingSize,
    paddedLength]
  omega

/-- The octets behind a header, as far as the declared length goes. -/
theorem declaredItem_value {header consumed : List Octet} (headerSize : header.length = 4)
    (size : consumed.length = (declaredItem (header ++ consumed ++ rest)).length) :
    (declaredItem (header ++ consumed ++ rest)).value = consumed := by
  change ((header ++ consumed ++ rest).drop 4).take
    (declaredItem (header ++ consumed ++ rest)).length = consumed
  rw [List.append_assoc, ← headerSize, List.drop_left]
  exact List.take_left' (size.trans (by rw [List.append_assoc]))

variable (taken : readItem table transactionId buf = some (item, rest))
include taken

theorem regular_of_framed (framed : item.Framed) :
    (declaredItem buf).Regular table (transactionId.length = kStunTransactionIdLength) := by
  obtain ⟨typeEq, lengthEq, -⟩ := declaredItem_of_taken taken
  obtain ⟨header, consumed, rfl, headerSize, octets, -, -, took⟩ := readItem_taken taken
  have size := length_of_framed framed
  rw [octets, List.length_append, headerSize] at size
  unfold Declared.Regular
  rw [typeEq, lengthEq]
  rcases took with ⟨skipped, -, consumedSize⟩ | ⟨attr, isAttr, took⟩
  · rw [skipped]
    have whole := paddedLength_mod item.length
    unfold paddedLength at *
    omega
  · have same := framed.attr attr isAttr
    generalize table.createdType item.type = valueType at took ⊢
    cases valueType with
    | unknown => exact took.elim
    | uint32 => exact same.symm.trans took.2
    | uint64 => exact same.symm.trans took.2
    | xorAddress =>
      rw [declaredItem_value headerSize (took.1.trans lengthEq.symm)]
      exact took.2.2.mp same
    | _ => trivial

theorem framed_of_regular
    (regular : (declaredItem buf).Regular table (transactionId.length = kStunTransactionIdLength))
    (whole : buf.length % 4 = 0) : item.Framed := by
  obtain ⟨typeEq, lengthEq, -⟩ := declaredItem_of_taken taken
  obtain ⟨header, consumed, rfl, headerSize, octets, itemType, itemLength, took⟩ :=
    readItem_taken taken
  -- enough to find the value and the padding in what was taken
  have framed (consumedSize : consumed.length = paddedLength item.length)
      (same : ∀ attr ∈ item.attr, attr.length = item.length) : item.Framed := by
    refine ⟨⟨header, consumed.take item.length, consumed.drop item.length, ?_, headerSize,
      itemType, itemLength, ?_, ?_⟩, same⟩
    · rw [octets, List.append_assoc, List.take_append_drop]
    · rw [List.length_take, consumedSize, paddedLength]
      omega
    · rw [List.length_drop, consumedSize, paddedLength]
      omega
  unfold Declared.Regular at regular
  rw [typeEq, lengthEq] at regular
  simp only [List.length_append] at whole
  rcases took with ⟨skipped, isNone, consumedSize⟩ | ⟨attr, isAttr, took⟩
  · rw [skipped] at regular
    have fits : paddedLength item.length < 2 ^ 16 := by
      unfold paddedLength paddingOf
      split_ifs <;> omega
    refine framed (consumedSize.trans (Nat.mod_eq_of_lt fits)) ?_
    rw [isNone]
    exact nofun
  · have forAttr (same : attr.length = item.length) :
        ∀ attr ∈ item.attr, attr.length = item.length := by
      intro other member
      rw [isAttr] at member
      exact Option.some.inj member ▸ same
    have size := took.length_consumed (by omega)
    generalize table.createdType item.type = valueType at took regular size
    cases valueType with
    | unknown => exact took.elim
    | xorAddress =>
      rw [declaredItem_value headerSize (took.1.trans lengthEq.symm)] at regular
      exact framed (by simpa using size) (forAttr (took.2.2.mpr regular))
    | uint32 =>
      exact framed (by rw [took.1, regular]; rfl) (forAttr (took.2.trans regular.symm))
    | uint64 =>
      exact framed (by rw [took.1, regular]; rfl) (forAttr (took.2.trans regular.symm))
    | address => exact framed (by simpa using size) (forAttr took.2.1)
    | _ => exact framed (by simpa using size) (forAttr took.1)

end Round

/-! ## All rounds -/

section Rounds

variable {table : AttributeTable} {transactionId : List Octet}
  {items : List Item} {body : List Octet}

/-- Rule for the rounds: the body is used up, or one round is followed by the others. -/
theorem readItems_rule (Holds : Nat → List Octet → List Item → Prop)
    (done : ∀ fuel, Holds fuel [] []) (round : ∀ {fuel body item rest later},
      readItem table transactionId body = some (item, rest) → Holds fuel rest later →
        Holds (fuel + 1) body (item :: later)) {fuel : Nat}
    (taken : readItems table transactionId fuel body = some items) : Holds fuel body items := by
  induction fuel generalizing body items with
  | zero =>
    cases body with
    | nil =>
      cases taken
      exact done 0
    | cons octet others => cases taken
  | succ fuel ih =>
    cases body with
    | nil =>
      cases taken
      exact done (fuel + 1)
    | cons octet others =>
      simp only [readItems, Option.bind_eq_bind, Option.bind_eq_some_iff] at taken
      obtain ⟨⟨item, rest⟩, first, later, more, ⟨⟩⟩ := taken
      exact round first (ih more)

/-- The items are framed as declared exactly if what is declared is regular. -/
def FramedAsDeclared (table : AttributeTable) (long : Prop) (fuel : Nat) (body : List Octet)
    (items : List Item) : Prop :=
  ((∀ item ∈ items, item.Framed) ↔
      body.length % 4 = 0 ∧ ∀ item ∈ declaredItems fuel body, item.Regular table long) ∧
    ((∀ item ∈ items, item.Framed) → items.map (fun item => (item.type, item.length)) =
      (declaredItems fuel body).map fun item => (item.type, item.length))

variable {fuel : Nat} (taken : readItems table transactionId fuel body = some items)
include taken

/-- The items make up the body, however they are framed. -/
theorem readItems_tiles : body = items.flatMap (·.octets) := by
  refine readItems_rule (fun _ body items => body = items.flatMap (·.octets)) (fun _ => rfl) ?_
    taken
  intro fuel body item rest later first more
  obtain ⟨header, consumed, rfl, -, octets, -⟩ := readItem_taken first
  rw [List.flatMap_cons, octets, ← more]

/-- The rounds agree with the declared walk. -/
theorem readItems_framedAsDeclared : FramedAsDeclared table
    (transactionId.length = kStunTransactionIdLength) fuel body items := by
  refine readItems_rule (FramedAsDeclared table _) ?_ ?_ taken
  · intro fuel
    cases fuel <;> simp [FramedAsDeclared, declaredItems]
  · intro fuel body item rest later first rounds
    obtain ⟨typeEq, lengthEq, long⟩ := declaredItem_of_taken first
    obtain ⟨header, consumed, split, headerSize, octets, -⟩ := readItem_taken first
    rw [FramedAsDeclared, declaredItems, if_pos long]
    -- a framed item ends where the declared walk goes on
    have goesOn (framed : item.Framed) :
        body.drop (4 + paddedLength (declaredItem body).length) = rest := by
      rw [lengthEq, ← length_of_framed framed, split, octets, List.drop_left]
    have sizes (framed : item.Framed) :
        body.length = 4 + paddedLength item.length + rest.length := by
      rw [← length_of_framed framed, split, octets, List.length_append]
    have aligned := paddedLength_mod item.length
    simp only [List.forall_mem_cons, List.map_cons]
    refine ⟨⟨?_, ?_⟩, ?_⟩
    · rintro ⟨framed, laterFramed⟩
      obtain ⟨whole, regular⟩ := rounds.1.mp laterFramed
      rw [goesOn framed]
      refine ⟨?_, regular_of_framed first framed, regular⟩
      rw [sizes framed]
      omega
    · rintro ⟨whole, regular, laterRegular⟩
      have framed := framed_of_regular first regular whole
      rw [goesOn framed] at laterRegular
      rw [sizes framed] at whole
      exact ⟨framed, rounds.1.mpr ⟨by omega, laterRegular⟩⟩
    · rintro ⟨framed, laterFramed⟩
      rw [goesOn framed, rounds.2 laterFramed, typeEq, lengthEq]

end Rounds

namespace StunMessage

/-- The parts of an accepted message: a header of 20 octets and the items of the rest. -/
theorem readWithItems_parts {table : AttributeTable} {bytes : List Octet} {message : StunMessage}
    {items : List Item} (accepted : readWithItems table bytes = some (message, items)) :
    message.buffer = bytes ∧ message.length = (bytes.drop kStunHeaderSize).length ∧
      kStunHeaderSize ≤ bytes.length ∧
      (message.transactionId.length = kStunTransactionIdLength ↔
        getBE32 bytes 4 = kStunMagicCookie.toNat) ∧
      message.attrs = items.filterMap (·.attr) ∧
      readItems table message.transactionId (bytes.drop kStunHeaderSize).length
        (bytes.drop kStunHeaderSize) = some items := by
  simp only [readWithItems, Option.bind_eq_bind, Option.bind_eq_some_iff] at accepted
  obtain ⟨⟨type, buf1⟩, typeRead, accepted⟩ := accepted
  split_ifs at accepted with notStun
  simp only [Option.bind_eq_some_iff] at accepted
  obtain ⟨⟨length, buf2⟩, lengthRead, ⟨cookie, buf3⟩, cookieRead, ⟨shortId, body⟩, idRead,
    accepted⟩ := accepted
  obtain ⟨typeOctets, rfl, typeSize, -⟩ := readNumber_eq_some_iff.mp typeRead
  obtain ⟨lengthOctets, rfl, lengthSize, -⟩ := readNumber_eq_some_iff.mp lengthRead
  obtain ⟨rfl, cookieSize⟩ := readBytes_eq_some_iff.mp cookieRead
  obtain ⟨rfl, idSize⟩ := readBytes_eq_some_iff.mp idRead
  have behind : (typeOctets ++ (lengthOctets ++ (cookie ++ (shortId ++ body)))).drop
      kStunHeaderSize = body := by
    have whole : typeOctets ++ (lengthOctets ++ (cookie ++ (shortId ++ body))) =
        (typeOctets ++ lengthOctets ++ cookie ++ shortId) ++ body := by simp
    rw [whole]
    apply List.drop_left'
    simp [typeSize, lengthSize, cookieSize, idSize, kStunHeaderSize, kStunTransactionIdLength]
  rw [behind]
  have long : kStunHeaderSize ≤
      (typeOctets ++ (lengthOctets ++ (cookie ++ (shortId ++ body)))).length := by
    simp only [List.length_append, idSize, kStunHeaderSize, kStunTransactionIdLength]
    omega
  by_cases mismatch : length ≠ body.length
  · rw [if_pos mismatch] at accepted
    cases accepted
  · rw [if_neg mismatch, Option.bind_eq_some_iff] at accepted
    obtain ⟨read, itemsRead, ⟨⟩⟩ := accepted
    have isCookie : getBE32 (typeOctets ++ (lengthOctets ++ (cookie ++ (shortId ++ body)))) 4 =
        readBigEndian cookie := by
      rw [getBE32, field_of_split (List.append_assoc typeOctets _ _).symm (by simp [typeSize,
        lengthSize]) cookieSize]
    refine ⟨rfl, not_not.mp mismatch, long, ?_, rfl, itemsRead⟩
    rw [isCookie]
    dsimp only
    split_ifs with legacy
    · simp [legacy, cookieSize, idSize]
    · simp [not_not.mp legacy, idSize]

/--
Every message that is accepted: its attributes are framed as declared exactly if its
body has whole words and everything in it, by the declared lengths, is regular.
-/
theorem framesBody_iff {table : AttributeTable} {bytes : List Octet} {message : StunMessage}
    {items : List Item} (accepted : readWithItems table bytes = some (message, items)) :
    message.attrs = items.filterMap (·.attr) ∧
      (FramesBody (bytes.drop kStunHeaderSize) items ↔ (bytes.drop kStunHeaderSize).length % 4 = 0 ∧
          ∀ item ∈ declaredItems (bytes.drop kStunHeaderSize).length
              (bytes.drop kStunHeaderSize),
            item.Regular table (getBE32 bytes 4 = kStunMagicCookie.toNat)) := by
  obtain ⟨-, -, -, cookie, attrs, itemsRead⟩ := readWithItems_parts accepted
  obtain ⟨framedIff, sameWalk⟩ := readItems_framedAsDeclared itemsRead
  rw [cookie] at framedIff
  refine ⟨attrs, ?_, ?_⟩
  · intro frames
    exact framedIff.mp frames.framed
  · intro regular
    have framed := framedIff.mpr regular
    exact ⟨readItems_tiles itemsRead, framed, sameWalk framed⟩

/-- A binding request with a transaction id of zeros and the given body. -/
def requestOf (body : List Octet) : List Octet :=
  writeBigEndian 2 1 ++ writeBigEndian 2 body.length ++
    writeBigEndian 4 kStunMagicCookie.toNat ++ List.replicate 12 0 ++ body

/-- What the parser makes of such a request. -/
def parsedRequest (body : List Octet) (items : List Item) : StunMessage where
  type := 1
  length := body.length
  transactionId := List.replicate 12 0
  attrs := items.filterMap (·.attr)
  buffer := requestOf body
  integrity := .notSet

/-- A user name of one octet with its padding, and a fingerprint. -/
theorem framesBody_username :
    let body : List Octet := [0, 6, 0, 1, 0x61, 0, 0, 0, 0x80, 0x28, 0, 4, 0, 0, 0, 7]
    let items : List Item := [⟨6, 1, some (.ofByteString 6 [0x61]), body.take 8⟩,
      ⟨STUN_ATTR_FINGERPRINT, 4, some (.ofUInt32 STUN_ATTR_FINGERPRINT 7), body.drop 8⟩]
    readWithItems stunTable (requestOf body) = some (parsedRequest body items, items) ∧
      FramesBody ((requestOf body).drop kStunHeaderSize) items := by
  intro body items
  have accepted : readWithItems stunTable (requestOf body) =
      some (parsedRequest body items, items) := by decide +kernel
  exact ⟨accepted, (framesBody_iff accepted).2.mpr (by decide +kernel)⟩

/--
A fingerprint that is declared with eight octets: the parser takes four of them and goes
on inside of the value, where it finds a user name.
-/
theorem framesBody_fails_fingerprint :
    let body : List Octet := [0x80, 0x28, 0, 8, 0, 0, 0, 0, 0, 6, 0, 0]
    let items : List Item :=
      [⟨STUN_ATTR_FINGERPRINT, 8, some (.ofUInt32 STUN_ATTR_FINGERPRINT 0), body.take 8⟩,
        ⟨6, 0, some (.ofByteString 6 []), body.drop 8⟩]
    readWithItems stunTable (requestOf body) = some (parsedRequest body items, items) ∧
      (declaredItems body.length body).map (·.type) = [STUN_ATTR_FINGERPRINT] ∧
      ¬ FramesBody ((requestOf body).drop kStunHeaderSize) items := by
  intro body items
  refine ⟨by decide +kernel, by decide +kernel, ?_⟩
  intro frames
  have same := frames.declared
  revert same
  decide +kernel

end StunMessage

end MaeRtc.Transport
