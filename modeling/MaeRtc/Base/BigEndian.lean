import Mathlib

/-!
# Numbers in network byte order

`ByteWriter` and `ByteReader` of `byte_io.h`.  A buffer is a list of octets, and the field
of a buffer is the part of given length at an offset.
-/

namespace MaeRtc.Base

abbrev Octet := BitVec 8

/-- The low octets of a number, the highest of them first. -/
def writeBigEndian : Nat → Nat → List Octet
  | 0, _ => []
  | count + 1, value => BitVec.ofNat 8 (value / 256 ^ count) :: writeBigEndian count value

def readBigEndian (octets : List Octet) : Nat :=
  octets.foldl (fun value octet => value * 256 + octet.toNat) 0

/-- The octets of a buffer from an offset on. -/
def field (buffer : List Octet) (offset count : Nat) : List Octet :=
  (buffer.drop offset).take count

@[simp] theorem length_writeBigEndian (count value : Nat) :
    (writeBigEndian count value).length = count := by
  induction count with
  | zero => rfl
  | succ count ih => simp [writeBigEndian, ih]

theorem foldl_read_eq (octets : List Octet) (start : Nat) :
    octets.foldl (fun value octet => value * 256 + octet.toNat) start =
      start * 256 ^ octets.length + readBigEndian octets := by
  induction octets generalizing start with
  | nil => simp [readBigEndian]
  | cons octet rest ih =>
    have unfolded : readBigEndian (octet :: rest) =
        (0 * 256 + octet.toNat) * 256 ^ rest.length + readBigEndian rest := ih _
    rw [List.foldl_cons, ih, unfolded, List.length_cons, Nat.pow_succ]
    ring

theorem readBigEndian_cons (octet : Octet) (rest : List Octet) :
    readBigEndian (octet :: rest) = octet.toNat * 256 ^ rest.length + readBigEndian rest := by
  rw [readBigEndian, List.foldl_cons, foldl_read_eq]
  simp

/-- Reading what was written gives the number, as far as the octets hold it. -/
theorem readBigEndian_write (count value : Nat) :
    readBigEndian (writeBigEndian count value) = value % 256 ^ count := by
  induction count with
  | zero => simp [writeBigEndian, readBigEndian, Nat.mod_one]
  | succ count ih =>
    rw [writeBigEndian, readBigEndian_cons, ih, length_writeBigEndian, BitVec.toNat_ofNat,
      Nat.pow_succ 256, Nat.mod_mul, show 2 ^ 8 = 256 from rfl]
    ring

theorem readBigEndian_write_of_lt {count value : Nat} (fits : value < 256 ^ count) :
    readBigEndian (writeBigEndian count value) = value := by
  rw [readBigEndian_write, Nat.mod_eq_of_lt fits]

/-- The field behind a front of the buffer. -/
theorem field_of_split {buffer front middle back : List Octet} {offset count : Nat}
    (split : buffer = front ++ (middle ++ back)) (position : front.length = offset)
    (size : middle.length = count) : field buffer offset count = middle := by
  subst split position size
  simp [field]

end MaeRtc.Base
