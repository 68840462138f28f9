import TurtleScript.Binary64.Basic
import TurtleScript.Decimal.Basic

/-!
# The shortest decimal of a magnitude

A magnitude is written with the fewest digits that round back to it. The decimals that round back
are those between the midpoints to its two neighbours, and a midpoint itself counts when the rung is
even, since ties round to even.

Everything is scaled by `10 ^ 1074`, which makes every magnitude a whole number: a unit becomes
`5 ^ 1074`. The decimals with at least a given power of ten then form a grid of whole numbers, and
a coarser grid means fewer digits. So the grids are tried from the coarsest down. On each of them
only the two points around the magnitude matter: if any point rounds back, one of these does. When
both do, the nearer one is taken, and the upper one from exactly half way. The finest grid consists
of all whole numbers and always has a hit, so the search needs no further case.
-/

namespace TurtleScript

namespace Binary64

/-- The power of ten that makes every magnitude a whole number. -/
def scaleExponent : Nat := 1074

/-- The size of a unit in the scaled whole numbers. -/
def scaledUnit : Nat := 5 ^ scaleExponent

/-- The scaled whole numbers that round to one rung. -/
structure Neighbourhood where
  /-- Twice the lower midpoint. -/
  low : Nat
  /-- Twice the upper midpoint. -/
  high : Nat
  /-- Whether the midpoints themselves belong to it. -/
  closed : Bool

/-- Whether a scaled whole number is in a neighbourhood. -/
def Neighbourhood.contains (h : Neighbourhood) (n : Nat) : Bool :=
  if h.closed then h.low ≤ 2 * n && 2 * n ≤ h.high else h.low < 2 * n && 2 * n < h.high

namespace Magnitude

/-- A finite magnitude as a scaled whole number. -/
def scaled (m : Magnitude) : Nat := m.units * scaledUnit

/-- The scaled whole numbers that round to a finite magnitude other than zero. -/
def neighbourhood (m : Magnitude) : Neighbourhood where
  low := (unitsAt (m.rung - 1) + m.units) * scaledUnit
  high := (m.units + unitsAt (m.rung + 1)) * scaledUnit
  closed := m.rung % 2 = 0

end Magnitude

/-- The best multiple of `step` for `n` in a neighbourhood of `n`, as a number of steps. -/
def nearestOnGrid? (h : Neighbourhood) (n step : Nat) : Option Nat :=
  let below := n / step
  let isBelow := h.contains (below * step)
  let isAbove := h.contains ((below + 1) * step)
  if isBelow && (!isAbove || 2 * (n % step) < step) then some below
  else if isAbove then some (below + 1)
  else none

/-- The first hit on the grids of the powers of ten from the given exponent down. -/
def coarsestHit (h : Neighbourhood) (n : Nat) : Nat → Decimal
  | 0 => ⟨n, -scaleExponent⟩
  | k + 1 =>
    match nearestOnGrid? h n (10 ^ (k + 1)) with
    | some steps => ⟨steps, k + 1 - scaleExponent⟩
    | none => coarsestHit h n k

/-- An exponent whose power of ten is above a number: since `2 ^ 93 < 10 ^ 28`, a number of `b` bits
is below ten to the `28 * b / 93`, rounded up. -/
def coarsestExponent (n : Nat) : Nat := 28 * (n.log2 + 1) / 93 + 1

/-- The decimal of fewest digits that rounds to a finite magnitude, and of those the nearest. -/
def Magnitude.shortest (m : Magnitude) : Decimal :=
  if m.rung = 0 then ⟨0, 0⟩
  else coarsestHit m.neighbourhood m.scaled (coarsestExponent m.neighbourhood.high)

end Binary64

end TurtleScript
