import MaeRtc.Base.BigEndian

/-!
# Reading octets one after the other

A reader takes octets from the front of a buffer and hands on the rest, or fails if there
are not enough of them.  Each function is described by one equivalence: what was taken
and the rest make up the buffer.
-/

namespace MaeRtc.Base

def readBytes (count : Nat) (buf : List Octet) : Option (List Octet × List Octet) :=
  if count ≤ buf.length then some (buf.take count, buf.drop count) else none

def readNumber (count : Nat) (buf : List Octet) : Option (Nat × List Octet) :=
  (readBytes count buf).map fun (bytes, rest) => (readBigEndian bytes, rest)

/-- Some numbers of the same width. -/
def readNumbers (width : Nat) : Nat → List Octet → Option (List Nat × List Octet)
  | 0, buf => some ([], buf)
  | count + 1, buf => do
    let (number, buf) ← readNumber width buf
    let (numbers, buf) ← readNumbers width count buf
    some (number :: numbers, buf)

variable {count : Nat} {buf rest : List Octet}

theorem readBytes_eq_some_iff {bytes : List Octet} :
    readBytes count buf = some (bytes, rest) ↔ buf = bytes ++ rest ∧ bytes.length = count := by
  unfold readBytes
  constructor
  · intro taken
    split_ifs at taken with enough
    cases taken
    exact ⟨(List.take_append_drop count buf).symm, List.length_take_of_le enough⟩
  · rintro ⟨rfl, rfl⟩
    rw [if_pos (by simp), List.take_left, List.drop_left]

theorem readBytes_append {bytes : List Octet} (size : bytes.length = count)
    (rest : List Octet) : readBytes count (bytes ++ rest) = some (bytes, rest) :=
  readBytes_eq_some_iff.mpr ⟨rfl, size⟩

theorem readNumber_eq_some_iff {number : Nat} :
    readNumber count buf = some (number, rest) ↔
      ∃ bytes, buf = bytes ++ rest ∧ bytes.length = count ∧ readBigEndian bytes = number := by
  unfold readNumber
  rw [Option.map_eq_some_iff]
  constructor
  · rintro ⟨⟨bytes, rest'⟩, taken, ⟨⟩⟩
    obtain ⟨split, size⟩ := readBytes_eq_some_iff.mp taken
    exact ⟨bytes, split, size, rfl⟩
  · rintro ⟨bytes, split, size, rfl⟩
    exact ⟨(bytes, rest), readBytes_eq_some_iff.mpr ⟨split, size⟩, rfl⟩

/-- A number that was written is read again. -/
theorem readNumber_write {number : Nat} (fits : number < 256 ^ count) (rest : List Octet) :
    readNumber count (writeBigEndian count number ++ rest) = some (number, rest) :=
  readNumber_eq_some_iff.mpr
    ⟨_, rfl, length_writeBigEndian count number, readBigEndian_write_of_lt fits⟩

theorem readBigEndian_lt (octets : List Octet) : readBigEndian octets < 256 ^ octets.length := by
  induction octets with
  | nil => simp [readBigEndian]
  | cons octet rest ih =>
    rw [readBigEndian_cons, List.length_cons, Nat.pow_succ]
    have small : octet.toNat ≤ 255 := Nat.le_of_lt_succ octet.isLt
    have scaled : octet.toNat * 256 ^ rest.length ≤ 255 * 256 ^ rest.length :=
      Nat.mul_le_mul_right _ small
    omega

theorem readNumbers_length {width : Nat} {numbers : List Nat}
    (taken : readNumbers width count buf = some (numbers, rest)) :
    ∃ bytes, buf = bytes ++ rest ∧ bytes.length = count * width ∧ numbers.length = count := by
  induction count generalizing buf numbers with
  | zero =>
    cases taken
    exact ⟨[], rfl, by simp, rfl⟩
  | succ count ih =>
    simp only [readNumbers, Option.bind_eq_bind, Option.bind_eq_some_iff] at taken
    obtain ⟨⟨number, middle⟩, first, ⟨others, last⟩, more, ⟨⟩⟩ := taken
    obtain ⟨head, rfl, headSize, -⟩ := readNumber_eq_some_iff.mp first
    obtain ⟨tail, rfl, tailSize, othersSize⟩ := ih more
    refine ⟨head ++ tail, by simp, ?_, by simp [othersSize]⟩
    rw [List.length_append, headSize, tailSize, Nat.succ_mul]
    omega

/-- Numbers that were written one after the other are read again. -/
theorem readNumbers_write {width : Nat} {numbers : List Nat}
    (fit : ∀ number ∈ numbers, number < 256 ^ width) (rest : List Octet) :
    readNumbers width numbers.length (numbers.flatMap (writeBigEndian width) ++ rest) =
      some (numbers, rest) := by
  induction numbers with
  | nil => rfl
  | cons number others ih =>
    obtain ⟨fits, othersFit⟩ := List.forall_mem_cons.mp fit
    rw [List.length_cons, readNumbers, List.flatMap_cons, List.append_assoc, readNumber_write fits]
    simp only [Option.bind_eq_bind, Option.bind_some, ih othersFit]

end MaeRtc.Base
