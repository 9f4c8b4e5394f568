import MaeRtc.Base.SeqNumUnwrapper

/-!
# Sequence numbers of the data channel transport

The wrapping numbers of `internal_types.h` and the arithmetic of
`UnwrappedSequenceNumber`.  An unwrapped number is an integer; it is only ever
narrowed where the source narrows it.
-/

namespace MaeRtc.DcSctp

/-- Transmission sequence number. -/
abbrev Tsn := BitVec 32

/-- Stream sequence number, one for each ordered message of a stream. -/
abbrev Ssn := BitVec 16

/-- Message identifier. -/
abbrev Mid := BitVec 32

/-- Fragment sequence number. -/
abbrev Fsn := BitVec 32

/-- Stream identifier. -/
abbrev StreamId := UInt16

instance : Std.LawfulEqOrd (Lex (Bool × StreamId)) where
  eq_of_compare {one two} same := by
    rw [Prod.Lex.compare_def] at same
    simp only [compareLex, compareOn, Ordering.then_eq_eq, Std.compare_eq_iff_eq] at same
    exact Prod.ext same.1 same.2

/-- Payload protocol identifier. -/
abbrev Ppid := BitVec 32

namespace Unwrapped

/-- The wrapped value an unwrapped number represents. -/
def wrap (w : Nat) (value : Int) : BitVec w :=
  BitVec.ofInt w (value.tmod (2 ^ w))

/-- The absolute difference, narrowed to the wrapped type. -/
def difference (w : Nat) (lhs rhs : Int) : BitVec w :=
  BitVec.ofInt w (if lhs > rhs then lhs - rhs else rhs - lhs)

end Unwrapped

end MaeRtc.DcSctp
