import Mathlib

/-!
# Division with rounding

Quotients are rounded to the nearest integer, with ties away from zero above
zero and towards zero below it.
-/

namespace MaeRtc.Base

/-- The quotient rounded to the nearest integer. -/
def divideRoundToNearest (dividend divisor : Int) : Int :=
  let quotient := dividend.tdiv divisor
  let remainder := dividend.tmod divisor
  if dividend < 0 then
    if -remainder > divisor / 2 then quotient - 1 else quotient
  else
    if remainder > (divisor - 1) / 2 then quotient + 1 else quotient

end MaeRtc.Base
