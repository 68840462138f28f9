import TurtleScript.Binary64.Rounding
import TurtleScript.Decimal.Basic

/-!
# From decimals to double precision

A decimal is rounded once, from its exact value: to the nearest magnitude, a tie going to the even
rung. Its digits may be any number and its exponent any size.

A huge exponent would make a huge power of ten. Two tests in front of the rounding keep that from
happening. From `10 ^ 309` on everything is infinity. And since `8 ≤ 10`, a decimal of `b`
bits with exponent `e < 0` is below `2 ^ (b + 3 * e)`; at `2 ^ -1075` or less, half the smallest
positive magnitude, it is zero. What is left has an exponent no larger than its digits explain.
-/

namespace TurtleScript

open Binary64

namespace Decimal

/-- The magnitude nearest to a decimal. -/
def exactMagnitude (d : Decimal) : Magnitude :=
  .nearest (d.numerator * 2 ^ oneExponent) d.denominator

/-- Whether a positive decimal is clearly past the largest finite magnitude. -/
def isHuge (d : Decimal) : Bool := 309 ≤ d.exponent

/-- Whether a positive decimal is clearly at most half the smallest positive magnitude. -/
def isTiny (d : Decimal) : Bool := 3 * d.exponent + d.significand.log2 + 1 ≤ -1075

/-- The magnitude nearest to a decimal, found without forming huge powers. -/
def magnitude (d : Decimal) : Magnitude :=
  if d.significand = 0 then .zero
  else if d.isHuge then .infinite
  else if d.isTiny then .zero
  else d.exactMagnitude

end Decimal

end TurtleScript
