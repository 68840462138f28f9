import TurtleScript.Binary64.Arithmetic
import TurtleScript.Point

/-!
# The view of a scene

The part of the drawing surface that is shown: a rectangle, kept centred on the origin. It starts
as a square and only ever grows, by as much as it takes to bring a point into view.
-/

namespace TurtleScript

/-- A rectangle with sides along the axes. -/
structure View where
  /-- The left side. -/
  x : Binary64
  /-- The upper side. -/
  y : Binary64
  /-- From the left side to the right one. -/
  width : Binary64
  /-- From the upper side to the lower one. -/
  height : Binary64
  deriving DecidableEq

namespace View

/-- The view centred on the origin that reaches a given distance to each side. -/
def centred (halfWidth halfHeight : Binary64) : View where
  x := -halfWidth
  y := -halfHeight
  width := halfWidth.double
  height := halfHeight.double

/-- The view of an empty scene: a hundred to each side. -/
def initial : View := centred (.ofNat 100) (.ofNat 100)

/-- Whether a point lies in a view, its sides included. -/
def contains (v : View) (p : Point) : Bool :=
  v.x.le p.x && p.x.le (v.x + v.width) && v.y.le p.y && p.y.le (v.y + v.height)

/-- The view that reaches as far as before and as far as a point. A coordinate that is NaN asks for
nothing. -/
def grownTo (v : View) (p : Point) : View :=
  centred (v.width.half.max p.x.abs) (v.height.half.max p.y.abs)

/-- The view after a point has been brought into it. -/
def shown (v : View) (p : Point) : View := if v.contains p then v else v.grownTo p

end View

end TurtleScript
