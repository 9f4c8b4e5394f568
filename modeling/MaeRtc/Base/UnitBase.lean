import Mathlib

/-!
# Quantities with infinities

`UnitBase` of `rtc_base/units`, the common representation of `Timestamp` and `TimeDelta`.
The two extreme values of the stored integer stand for the infinities; here they are values
of their own, and the finite values are integers.
-/

namespace MaeRtc.Base

inductive UnitBase where
  | minusInfinity
  | finite (value : Int)
  | plusInfinity
  deriving DecidableEq, Repr

abbrev Timestamp := UnitBase
abbrev TimeDelta := UnitBase

namespace UnitBase

def zero : UnitBase := finite 0

def isFinite : UnitBase → Bool
  | finite _ => true
  | _ => false

def isInfinite (self : UnitBase) : Bool :=
  !self.isFinite

/-- `operator<` -/
def lt : UnitBase → UnitBase → Bool
  | minusInfinity, minusInfinity => false
  | minusInfinity, _ => true
  | finite _, minusInfinity => false
  | finite one, finite two => decide (one < two)
  | finite _, plusInfinity => true
  | plusInfinity, _ => false

/-- `operator<=` -/
def le (one two : UnitBase) : Bool :=
  !two.lt one

/-- `std::max`, which returns its first argument if the values are equal. -/
def max (one two : UnitBase) : UnitBase :=
  if one.lt two then two else one

def add : UnitBase → UnitBase → UnitBase
  | plusInfinity, _ => plusInfinity
  | _, plusInfinity => plusInfinity
  | minusInfinity, _ => minusInfinity
  | _, minusInfinity => minusInfinity
  | finite one, finite two => finite (one + two)

def sub : UnitBase → UnitBase → UnitBase
  | plusInfinity, _ => plusInfinity
  | _, minusInfinity => plusInfinity
  | minusInfinity, _ => minusInfinity
  | _, plusInfinity => minusInfinity
  | finite one, finite two => finite (one - two)

/-- `RoundDownTo` a positive resolution; the division truncates. -/
def roundDownTo (resolution : Int) : UnitBase → UnitBase
  | finite value => finite (value.tdiv resolution * resolution)
  | infinite => infinite

end UnitBase

end MaeRtc.Base
