import TurtleScript.Decimal.Shortest

/-!
# Numbers as text

A number is written with the fewest digits that read back as that number. Drawings, messages and
answers write it positionally, however long that gets, and without a point if it is whole. The log
keeps its lines short: it goes over to scientific notation from `10 ^ 16` on and below `10 ^ -4`,
and shows by `.0` that a whole number is not a count.
-/

namespace TurtleScript

namespace Binary64

/-- Write a number, given how to write the decimal of a finite magnitude. -/
def textWith (write : Decimal → List Char) : Binary64 → String
  | nan => "NaN"
  | signed negative m =>
    String.ofList <| (if negative then ['-'] else []) ++
      if m.isInfinite then ['i', 'n', 'f'] else write m.shortest

/-- The number in positional notation. -/
def text (x : Binary64) : String := textWith Decimal.positional x

/-- The first power of ten that the log writes in scientific notation. -/
def logLimit : Int := 16

/-- The last power of ten that the log writes positionally below one. -/
def logFloor : Int := -4

/-- A decimal as the log writes it. Zero is written positionally. -/
def logDecimal (d : Decimal) : List Char :=
  if d.significand ≠ 0 ∧ (logLimit ≤ d.order ∨ d.order < logFloor) then d.scientific
  else d.positional ++ if 0 ≤ d.exponent then ['.', '0'] else []

/-- The number as the log writes it. -/
def logText (x : Binary64) : String := textWith logDecimal x

end Binary64

end TurtleScript
