import MaeRtc.DcSctp.SequenceNumbers

/-!
# Data of the data channel transport

A fragment of a message, as `data.h` has it, and the small types of
`public/types.h` that describe how it is sent.
-/

namespace MaeRtc.DcSctp

/-- A fragment of a message, without the TSN it is sent under. -/
structure Data where
  streamId : StreamId
  ssn : Ssn
  messageId : Mid
  fsn : Fsn
  ppid : Ppid
  payload : List UInt8
  isBeginning : Bool
  isEnd : Bool
  isUnordered : Bool
  deriving DecidableEq

def Data.size (data : Data) : Nat :=
  data.payload.length

/-- A message of the user. -/
structure DcSctpMessage where
  streamId : StreamId
  ppid : Ppid
  payload : List UInt8
  deriving DecidableEq

/-- A point in time, in milliseconds. -/
abbrev TimeMs := Int

def TimeMs.infiniteFuture : TimeMs := 2 ^ 63 - 1

/-- How often a fragment may be sent again. -/
abbrev MaxRetransmits := BitVec 16

def MaxRetransmits.noLimit : MaxRetransmits := BitVec.allOnes 16

/-- The identifier of a message whose life the user follows; zero is none. -/
abbrev LifecycleId := BitVec 64

/-- The next number that is divisible by four. -/
def roundUpTo4 (value : Nat) : Nat :=
  (value + 3) / 4 * 4

end MaeRtc.DcSctp
