import MaeRtc.Transport.AttributeFraming

/-!
# Attributes outside of the digest

The digest of a message covers what comes before it, and attributes that follow it are
tolerated.  The parser keeps them like all others, so that the attributes of a message
whose integrity was verified are those that were covered only if nothing visible follows.
-/

namespace MaeRtc.Transport

open MaeRtc.Base

/-! ## The walk of the parser, by types and lengths -/

/-- The octets that are taken for the value of a type with a declared length. -/
def AttributeTable.takenLength (table : AttributeTable) (type : BitVec 16) (length : Nat) : Nat :=
  match table.createdType type with
  | .uint32 => 4
  | .uint64 => 8
  | .unknown => paddedLength length % 2 ^ 16
  | _ => paddedLength length

/-- The types in a body with the octets that are taken for each of them. -/
def takenItems (table : AttributeTable) : Nat → List Octet → List (BitVec 16 × Nat)
  | 0, _ => []
  | fuel + 1, body =>
    if 4 ≤ body.length then
      let item := declaredItem body
      let size := 4 + table.takenLength item.type item.length
      (item.type, size) :: takenItems table fuel (body.drop size)
    else []

/-- Attributes that are visible and are to be covered by the digest. -/
def AttributeTable.Protected (table : AttributeTable) (type : BitVec 16) : Prop :=
  table.createdType type ≠ .unknown ∧ type ≠ STUN_ATTR_MESSAGE_INTEGRITY ∧
    type ≠ STUN_ATTR_GOOG_MESSAGE_INTEGRITY_32 ∧ type ≠ STUN_ATTR_FINGERPRINT

instance decidableProtected (table : AttributeTable) (type : BitVec 16) :
    Decidable (table.Protected type) :=
  inferInstanceAs (Decidable (_ ∧ _))

/-- No attribute that is to be protected ends behind a limit. -/
def EndWithin (table : AttributeTable) (limit : Nat) : Nat → List (BitVec 16 × Nat) → Prop
  | _, [] => True
  | start, (type, size) :: rest =>
    (table.Protected type → start + size ≤ limit) ∧ EndWithin table limit (start + size) rest

instance decidableEndWithin (table : AttributeTable) (limit : Nat) :
    ∀ start items, Decidable (EndWithin table limit start items)
  | _, [] => isTrue trivial
  | start, (_, size) :: rest =>
    have := decidableEndWithin table limit (start + size) rest
    inferInstanceAs (Decidable (_ ∧ _))

/-- The offset of the first item of a type, by the declared lengths. -/
def declaredOffset (type : BitVec 16) : Nat → List Octet → Nat → Option Nat
  | 0, _, _ => none
  | fuel + 1, body, offset =>
    if 4 ≤ body.length then
      if (declaredItem body).type = type then some offset
      else declaredOffset type fuel
        (body.drop (4 + paddedLength (declaredItem body).length))
        (offset + 4 + paddedLength (declaredItem body).length)
    else none

/-! ## Items of the parser -/

variable {type : BitVec 16}

section Items

variable {table : AttributeTable} {transactionId : List Octet} {buf rest : List Octet}

theorem readAttribute_type {length : Nat} {valueType : StunAttributeValueType}
    {attr : StunAttribute}
    (taken : readAttribute transactionId type length valueType buf = some (attr, rest)) :
    attr.type = type := by
  cases valueType with
  | unknown => cases taken
  | _ =>
    simp only [readAttribute, Option.bind_eq_bind, Option.bind_eq_some_iff] at taken
    obtain ⟨_, _, ⟨⟩⟩ := taken
    rfl

section

variable {item : Item} (taken : readItem table transactionId buf = some (item, rest))
include taken

/-- A round keeps an attribute exactly if its type has a class. -/
theorem readItem_attr :
    (item.attr.isSome = true ↔ table.createdType item.type ≠ .unknown) ∧
      ∀ attr ∈ item.attr, attr.type = item.type := by
  simp only [readItem, Option.bind_eq_bind, Option.bind_eq_some_iff] at taken
  obtain ⟨⟨attrType, afterType⟩, -, ⟨attrLength, afterLength⟩, -, taken⟩ := taken
  split_ifs at taken with skipped
  · simp only [Option.bind_eq_some_iff] at taken
    obtain ⟨_, -, ⟨⟩⟩ := taken
    refine ⟨iff_of_false (by simp) (not_not.mpr skipped), ?_⟩
    rintro _ ⟨⟩
  · simp only [Option.bind_eq_some_iff] at taken
    obtain ⟨⟨attr, _⟩, attrRead, ⟨⟩⟩ := taken
    refine ⟨iff_of_true rfl skipped, ?_⟩
    intro other member
    cases member
    exact readAttribute_type attrRead

/-- In a buffer of whole words a round takes what the type and the length say. -/
theorem readItem_size (whole : buf.length % 4 = 0) :
    item.octets.length = 4 + table.takenLength item.type item.length := by
  obtain ⟨header, consumed, rfl, headerSize, octets, -, -, took⟩ := readItem_taken taken
  simp only [List.length_append] at whole
  rw [octets, List.length_append, headerSize]
  congr 1
  unfold AttributeTable.takenLength
  rcases took with ⟨skipped, -, size⟩ | ⟨attr, -, took⟩
  · rw [skipped]
    exact size
  · cases created : table.createdType item.type with
    | unknown =>
      rw [created] at took
      exact took.elim
    | _ => simpa [created] using took.length_consumed (by omega)

end

variable {fuel : Nat} {body : List Octet} {items : List Item}
  (taken : readItems table transactionId fuel body = some items)
include taken

/-- In a body of whole words the rounds take what the types and the lengths say. -/
theorem readItems_takenItems (whole : body.length % 4 = 0) :
    items.map (fun item => (item.type, item.octets.length)) = takenItems table fuel body := by
  refine readItems_rule (fun fuel body items => body.length % 4 = 0 →
    items.map (fun item => (item.type, item.octets.length)) = takenItems table fuel body)
    ?_ ?_ taken whole
  · intro fuel _
    cases fuel <;> simp [takenItems]
  · intro fuel body item rest later first rounds whole
    obtain ⟨typeEq, lengthEq, long⟩ := declaredItem_of_taken first
    have size := readItem_size first whole
    obtain ⟨header, consumed, split, headerSize, octets, -⟩ := readItem_taken first
    have parts : body = item.octets ++ rest := by rw [split, octets]
    have behind : body.drop item.octets.length = rest := by
      rw [parts, List.drop_left]
    have aligned : item.octets.length % 4 = 0 := by
      rw [size, AttributeTable.takenLength]
      have padded := paddedLength_mod item.length
      split <;> omega
    have wholeRest : rest.length % 4 = 0 := by
      rw [parts, List.length_append] at whole
      omega
    rw [takenItems, if_pos long]
    dsimp only
    rw [typeEq, lengthEq, ← size, behind, ← rounds wholeRest, List.map_cons]

/-- All items keep an attribute exactly if their type has a class. -/
theorem readItems_attr :
    ∀ item ∈ items, (item.attr.isSome = true ↔ table.createdType item.type ≠ .unknown) ∧
      ∀ attr ∈ item.attr, attr.type = item.type := by
  refine readItems_rule (fun _ _ items => ∀ item ∈ items,
    (item.attr.isSome = true ↔ table.createdType item.type ≠ .unknown) ∧
      ∀ attr ∈ item.attr, attr.type = item.type)
    (fun _ _ member => absurd member List.not_mem_nil) ?_ taken
  intro fuel body item rest later first rounds
  exact List.forall_mem_cons.mpr ⟨readItem_attr first, rounds⟩

end Items

/-! ## What was covered -/

/-- Attributes behind which a digest and a checksum may stand. -/
def integrityTypes : List (BitVec 16) :=
  [STUN_ATTR_MESSAGE_INTEGRITY, STUN_ATTR_GOOG_MESSAGE_INTEGRITY_32, STUN_ATTR_FINGERPRINT]

/--
Every visible attribute apart from the digests and the checksum was read from the first
octets of the message, up to a limit.
-/
def ReadBefore (limit start : Nat) (items : List Item) : Prop :=
  ∀ before item after, items = before ++ item :: after →
    ∀ attr ∈ item.attr, attr.type ∉ integrityTypes →
      start + (before.flatMap (·.octets)).length + item.octets.length ≤ limit

variable {items : List Item}

theorem readBefore_cons_iff {limit start : Nat} {item : Item} :
    ReadBefore limit start (item :: items) ↔
      (∀ attr ∈ item.attr, attr.type ∉ integrityTypes → start + item.octets.length ≤ limit) ∧
      ReadBefore limit (start + item.octets.length) items := by
  constructor
  · intro all
    refine ⟨fun attr member visible => by simpa using all [] item items rfl attr member visible, ?_⟩
    rintro before other after rfl attr member visible
    have bound := all (item :: before) other after rfl attr member visible
    rw [List.flatMap_cons, List.length_append] at bound
    omega
  · rintro ⟨front, others⟩ before other after split attr member visible
    cases before with
    | nil =>
      obtain ⟨rfl, rfl⟩ := List.cons.inj split
      simpa using front attr member visible
    | cons first before =>
      obtain ⟨rfl, rfl⟩ := List.cons.inj split
      have bound := others before other after rfl attr member visible
      rw [List.flatMap_cons, List.length_append]
      omega

variable {table : AttributeTable}

theorem readBefore_iff_endWithin {limit start : Nat}
    (attrs : ∀ item ∈ items, (item.attr.isSome = true ↔ table.createdType item.type ≠ .unknown) ∧
        ∀ attr ∈ item.attr, attr.type = item.type) :
    ReadBefore limit start items ↔
      EndWithin table limit start
        (items.map fun item => (item.type, item.octets.length)) := by
  induction items generalizing start with
  | nil =>
    refine iff_of_true ?_ trivial
    intro before item after split
    exact absurd split (by simp)
  | cons item items ih =>
    obtain ⟨⟨kept, sameType⟩, others⟩ := List.forall_mem_cons.mp attrs
    rw [readBefore_cons_iff, ih others]
    refine and_congr_left fun _ => ?_
    constructor
    · rintro bound ⟨known, notIntegrity, notIntegrity32, notFingerprint⟩
      obtain ⟨attr, isAttr⟩ := Option.isSome_iff_exists.mp (kept.mpr known)
      refine bound attr isAttr ?_
      rw [sameType attr isAttr]
      simp [integrityTypes, notIntegrity, notIntegrity32, notFingerprint]
    · intro bound attr isAttr visible
      rw [sameType attr isAttr] at visible
      simp only [integrityTypes, List.mem_cons, List.not_mem_nil, or_false, not_or] at visible
      exact bound ⟨kept.mp (Option.isSome_of_mem isAttr), visible⟩

/-! ## Where the digest stands -/

/-- The type of the digest that a body is checked with. -/
def checkedType (table : AttributeTable) (body : List Octet) : BitVec 16 :=
  if STUN_ATTR_MESSAGE_INTEGRITY ∈ (takenItems table body.length body).map (·.1) then
    STUN_ATTR_MESSAGE_INTEGRITY
  else STUN_ATTR_GOOG_MESSAGE_INTEGRITY_32

theorem getBE16_eq_iff (data : List Octet) (position : Nat) (type : BitVec 16) :
    getBE16 data position = type.toNat ↔ (declaredItem (data.drop position)).type = type := by
  have small : getBE16 data position < 2 ^ 16 := by
    calc getBE16 data position < 256 ^ (field data position 2).length := readBigEndian_lt _
      _ ≤ 256 ^ 2 := Nat.pow_le_pow_right (by norm_num) (List.length_take_le 2 _)
      _ = 2 ^ 16 := by norm_num
  rw [← BitVec.toNat_inj]
  change _ ↔ (BitVec.ofNat 16 (getBE16 data position)).toNat = type.toNat
  rw [BitVec.toNat_ofNat, Nat.mod_eq_of_lt small]

/-- The walk of the validation goes by the declared lengths. -/
theorem declaredOffset_of_findIntegrity {size fuel position found : Nat}
    {data : List Octet} (finds : findIntegrity type size data fuel position = some found) :
    declaredOffset type fuel (data.drop position) position = some found := by
  induction fuel generalizing position with
  | zero => cases finds
  | succ fuel ih =>
    unfold findIntegrity at finds
    unfold declaredOffset
    split_ifs at finds with fits isType
    · have long : 4 ≤ (data.drop position).length := by
        rw [List.length_drop]
        omega
      rw [if_pos long, if_pos ((getBE16_eq_iff data position type).mp isType)]
      dsimp only at finds
      split_ifs at finds
      exact finds
    · have long : 4 ≤ (data.drop position).length := by
        rw [List.length_drop]
        omega
      have declared : (declaredItem (data.drop position)).length =
          getBE16 data (position + 2) := by
        rw [declaredItem, getBE16, List.drop_drop]
        rfl
      rw [if_pos long, if_neg (mt (getBE16_eq_iff data position type).mpr isType), declared,
        List.drop_drop, ← Nat.add_assoc]
      exact ih finds

namespace StunMessage

/-- Where the digest stands that a message was checked with. -/
def verifiedPosition (message : StunMessage) : Option Nat :=
  message.integrityAttribute.bind fun (miAttrType, miAttrSize) =>
    integrityPosition miAttrType miAttrSize message.buffer

/--
Of what the parser takes for attributes, nothing that is to be protected ends behind the
first digest of the declared walk.
-/
def NothingBehind (table : AttributeTable) (bytes : List Octet) : Prop :=
  let body := bytes.drop kStunHeaderSize
  ∀ offset ∈ declaredOffset (checkedType table body) bytes.length body kStunHeaderSize,
    EndWithin table offset kStunHeaderSize (takenItems table body.length body)

instance decidableNothingBehind (table : AttributeTable) (bytes : List Octet) :
    Decidable (NothingBehind table bytes) :=
  inferInstanceAs (Decidable (∀ offset ∈ declaredOffset _ _ _ _, _))

variable {message : StunMessage}

/-- An attribute of a type with a class is visible exactly if the parser took the type. -/
theorem getAttribute_isSome_iff
    (known : table.createdType type ≠ .unknown) (attrs : message.attrs = items.filterMap (·.attr))
    (kept : ∀ item ∈ items, (item.attr.isSome = true ↔ table.createdType item.type ≠ .unknown) ∧
        ∀ attr ∈ item.attr, attr.type = item.type) :
    (message.getAttribute type).isSome = true ↔
      type ∈ (items.map fun item => (item.type, item.octets.length)).map (·.1) := by
  rw [getAttribute, attrs, List.find?_isSome, List.map_map, List.mem_map]
  constructor
  · rintro ⟨attr, member, isType⟩
    obtain ⟨item, itemMember, isAttr⟩ := List.mem_filterMap.mp member
    exact ⟨item, itemMember, ((kept item itemMember).2 attr isAttr).symm.trans (eq_of_beq isType)⟩
  · rintro ⟨item, member, rfl⟩
    obtain ⟨attr, isAttr⟩ := Option.isSome_iff_exists.mp ((kept item member).1.mpr known)
    refine ⟨attr, List.mem_filterMap.mpr ⟨item, member, isAttr⟩, ?_⟩
    exact beq_iff_eq.mpr ((kept item member).2 attr isAttr)

/-- A message is checked with the type of digest that its octets tell. -/
theorem integrityAttribute_type {bytes : List Octet}
    {size : Nat} (accepted : readWithItems table bytes = some (message, items))
    (whole : (bytes.drop kStunHeaderSize).length % 4 = 0)
    (checked : message.integrityAttribute = some (type, size)) :
    type = checkedType table (bytes.drop kStunHeaderSize) := by
  obtain ⟨-, -, -, -, attrs, itemsRead⟩ := readWithItems_parts accepted
  have known : table.createdType STUN_ATTR_MESSAGE_INTEGRITY ≠ .unknown := by
    simp [AttributeTable.createdType, table.integrity]
  have visible := getAttribute_isSome_iff known attrs (readItems_attr itemsRead)
  rw [readItems_takenItems itemsRead whole] at visible
  unfold integrityAttribute at checked
  unfold checkedType
  split_ifs at checked with long short
  · rw [if_pos (visible.mp long)]
    exact (Prod.mk.inj (Option.some.inj checked)).1.symm
  · rw [if_neg (mt visible.mpr long)]
    exact (Prod.mk.inj (Option.some.inj checked)).1.symm

/-- What a successful validation has found. -/
theorem position_of_integrityOk {hmac : Hmac} {password : List Octet}
    (verified : message.validateMessageIntegrity hmac password = .integrityOk) :
    ∃ type size limit, message.integrityAttribute = some (type, size) ∧
      integrityPosition type size message.buffer = some limit := by
  unfold validateMessageIntegrity at verified
  split at verified
  case h_1 type size checked =>
    refine ⟨type, size, ?_⟩
    split_ifs at verified with valid
    unfold validateMessageIntegrityOfType at valid
    split at valid
    · cases valid
    · exact ⟨_, checked, ‹_›⟩
  case h_2 => cases verified

/--
Every message that is accepted and whose integrity is then verified, for any digest: the
visible attributes were read from the octets that the digest covers exactly if nothing
that is to be protected stands behind it.
-/
theorem readBefore_iff_nothingBehind {table : AttributeTable} {hmac : Hmac}
    {bytes password : List Octet} {message : StunMessage} {items : List Item}
    (accepted : readWithItems table bytes = some (message, items))
    (verified : message.validateMessageIntegrity hmac password = .integrityOk) :
    (∃ limit, message.verifiedPosition = some limit ∧ ReadBefore limit kStunHeaderSize items) ↔
      NothingBehind table bytes := by
  obtain ⟨buffer, -, long, -, -, itemsRead⟩ := readWithItems_parts accepted
  obtain ⟨type, size, limit, checked, found⟩ := position_of_integrityOk verified
  have position : message.verifiedPosition = some limit := by
    rw [verifiedPosition, checked]
    exact found
  rw [buffer, integrityPosition] at found
  split_ifs at found with irregular mismatch
  have whole : (bytes.drop kStunHeaderSize).length % 4 = 0 := by
    rw [List.length_drop]
    unfold kStunHeaderSize at *
    omega
  have offset := declaredOffset_of_findIntegrity found
  rw [integrityAttribute_type accepted whole checked] at offset
  have before : ReadBefore limit kStunHeaderSize items ↔ _ :=
    readBefore_iff_endWithin (readItems_attr itemsRead)
  rw [readItems_takenItems itemsRead whole] at before
  unfold NothingBehind
  dsimp only
  rw [position, offset]
  constructor
  · rintro ⟨other, same, read⟩ found foundSame
    obtain rfl := Option.some.inj same
    obtain rfl := Option.some.inj foundSame
    exact before.mp read
  · intro nothing
    exact ⟨limit, rfl, before.mpr (nothing limit rfl)⟩

/-- A digest that adds up all octets, for examples. -/
def sumHmac : Hmac := fun key octets => Vector.replicate 20 ((key ++ octets).foldl (· + ·) 0)

/-- A digest of equal octets. -/
def digestItem (octet : Octet) : Item :=
  ⟨STUN_ATTR_MESSAGE_INTEGRITY, 20,
    some (.ofByteString STUN_ATTR_MESSAGE_INTEGRITY (List.replicate 20 octet)),
    [0, 8, 0, 20] ++ List.replicate 20 octet⟩

def usernameItem : Item :=
  ⟨6, 4, some (.ofByteString 6 [0x61, 0x62, 0x63, 0x64]), [0, 6, 0, 4, 0x61, 0x62, 0x63, 0x64]⟩

def fingerprintItem : Item :=
  ⟨STUN_ATTR_FINGERPRINT, 4, some (.ofUInt32 STUN_ATTR_FINGERPRINT 7),
    [0x80, 0x28, 0, 4, 0, 0, 0, 7]⟩

/-- A request with a user name before the digest, and a fingerprint behind it. -/
theorem readBefore_username :
    let items := [usernameItem, digestItem 0xCF, fingerprintItem]
    let body := items.flatMap (·.octets)
    let message := parsedRequest body items
    readWithItems stunTable (requestOf body) = some (message, items) ∧
      message.validateMessageIntegrity sumHmac [1] = .integrityOk ∧
      ∃ limit, message.verifiedPosition = some limit ∧ ReadBefore limit kStunHeaderSize items := by
  intro items body message
  have accepted : readWithItems stunTable (requestOf body) = some (message, items) := by
    decide +kernel
  have verified : message.validateMessageIntegrity sumHmac [1] = .integrityOk := by
    decide +kernel
  exact ⟨accepted, verified,
    (readBefore_iff_nothingBehind accepted verified).mpr (by decide +kernel)⟩

/--
A user name is put behind the digest of a valid request, and only the length in the header
is adjusted: the integrity is still verified, and the user name is visible.
-/
theorem readBefore_fails_lateUsername :
    let original := parsedRequest (digestItem 0x33).octets [digestItem 0x33]
    let items := [digestItem 0x33, usernameItem]
    let body := items.flatMap (·.octets)
    let message := parsedRequest body items
    readWithItems stunTable (requestOf (digestItem 0x33).octets) =
        some (original, [digestItem 0x33]) ∧
      original.validateMessageIntegrity sumHmac [1] = .integrityOk ∧
      original.getAttribute 6 = none ∧
      readWithItems stunTable (requestOf body) = some (message, items) ∧
      message.validateMessageIntegrity sumHmac [1] = .integrityOk ∧
      message.getAttribute 6 = usernameItem.attr ∧
      ¬ ∃ limit, message.verifiedPosition = some limit ∧
        ReadBefore limit kStunHeaderSize items := by
  intro original items body message
  refine ⟨by decide +kernel, by decide +kernel, by decide +kernel, by decide +kernel,
    by decide +kernel, by decide +kernel, ?_⟩
  rintro ⟨limit, position, before⟩
  have isFront : message.verifiedPosition = some kStunHeaderSize := by decide +kernel
  obtain rfl := Option.some.inj (isFront.symm.trans position)
  have bound := before [digestItem 0x33] usernameItem [] rfl _ rfl (by decide)
  revert bound
  decide

end StunMessage

end MaeRtc.Transport
