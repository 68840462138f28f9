import TurtleScript.Decimal.Printer

/-!
# Points

A position on the drawing surface, in screen coordinates: x grows to the right and y downwards.
-/

namespace TurtleScript

/-- A position on the drawing surface. -/
structure Point where
  /-- How far to the right. -/
  x : Binary64
  /-- How far down. -/
  y : Binary64
  deriving DecidableEq

namespace Point

/-- Where every turtle starts. -/
def origin : Point := ⟨.zero, .zero⟩

/-- Equal in both coordinates, as numbers compare. -/
def same (p q : Point) : Bool := p.x.same q.x && p.y.same q.y

/-- A point as it is written: both coordinates in brackets. -/
def text (p : Point) : String := "(" ++ p.x.text ++ ", " ++ p.y.text ++ ")"

end Point

end TurtleScript
