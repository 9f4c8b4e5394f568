import Mathlib

/-!
# Timers

`Timer` of `timer.cc`.  A timer that expires is started again as long as its
number of restarts allows it; an expiry that was scheduled before the timer was
stopped or started again carries an old generation and is not taken for one.
How long the timer waits is handed to the user's timeouts and left out, except
for the duration itself, which decides whether an expiry reschedules it.
-/

namespace MaeRtc.DcSctp

/-- A duration in milliseconds. -/
abbrev DurationMs := Nat

structure Timer where
  maxRestarts : Option Int
  duration : DurationMs
  isRunning : Bool := false
  generation : BitVec 32 := 0
  expirationCount : Nat := 0
  deriving DecidableEq

namespace Timer

def setDuration (duration : DurationMs) (timer : Timer) : Timer :=
  { timer with duration := duration }

def start (timer : Timer) : Timer :=
  { timer with
    isRunning := true
    generation := timer.generation + 1
    expirationCount := 0 }

def stop (timer : Timer) : Timer :=
  if timer.isRunning then { timer with isRunning := false, expirationCount := 0 } else timer

/-- Whether an expiry is one of the timer as it was last started. -/
def isDue (generation : BitVec 32) (timer : Timer) : Bool :=
  timer.isRunning && generation == timer.generation

/-- Whether the timer goes on after one more expiry. -/
def mayRestart (timer : Timer) : Bool :=
  match timer.maxRestarts with
  | none => true
  | some restarts => decide (((timer.expirationCount + 1 : Nat) : Int) ≤ restarts)

/-- The part of `Trigger` before the expiry handler is called. -/
def expire (timer : Timer) : Timer :=
  if timer.mayRestart then
    { timer with
      generation := timer.generation + 1
      expirationCount := timer.expirationCount + 1 }
  else
    { timer with isRunning := false, expirationCount := timer.expirationCount + 1 }

/-- The part of `Trigger` after the expiry handler, which may ask for a new duration. -/
def reschedule (newDuration : Option DurationMs) (timer : Timer) : Timer :=
  match newDuration with
  | none => timer
  | some duration =>
    if duration = timer.duration then timer
    else
      { timer with
        duration := duration
        generation := if timer.isRunning then timer.generation + 1 else timer.generation }

@[simp] theorem isRunning_setDuration (duration : DurationMs) (timer : Timer) :
    (timer.setDuration duration).isRunning = timer.isRunning :=
  rfl

@[simp] theorem isRunning_start (timer : Timer) : timer.start.isRunning = true :=
  rfl

@[simp] theorem isRunning_stop (timer : Timer) : timer.stop.isRunning = false := by
  unfold stop
  cases running : timer.isRunning with
  | false => simpa using running
  | true => simp

theorem stop_eq_self {timer : Timer} (idle : timer.isRunning = false) : timer.stop = timer := by
  unfold stop
  simp [idle]

@[simp] theorem isRunning_reschedule (newDuration : Option DurationMs) (timer : Timer) :
    (timer.reschedule newDuration).isRunning = timer.isRunning := by
  cases newDuration with
  | none => rfl
  | some duration =>
    by_cases same : duration = timer.duration
    · simp [reschedule, same]
    · simp [reschedule, same]

end Timer

end MaeRtc.DcSctp
