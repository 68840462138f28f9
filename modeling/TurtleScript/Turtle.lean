import TurtleScript.Binary64.Angle
import TurtleScript.Colour
import TurtleScript.Point

/-!
# Turtles

A turtle is a drawing agent: it has a heading, a position and a pen. It changes by following orders,
and an order that moves it with the pen down draws a segment.

Headings are in radians, in a left-handed system: a growing angle turns towards growing y. They are
never brought back into one full turn.
-/

namespace TurtleScript

/-- A drawing agent. -/
structure Turtle where
  /-- The direction, in radians. -/
  heading : Binary64
  /-- Where it stands. -/
  position : Point
  /-- Whether it draws when it moves. -/
  penDown : Bool
  /-- What it draws with. -/
  colour : Colour
  deriving DecidableEq

/-- A straight line that has been drawn. -/
structure Segment where
  /-- Where it starts. -/
  start : Point
  /-- Where it ends. -/
  stop : Point
  /-- The colour of the pen. -/
  colour : Colour
  deriving DecidableEq

/-- Something that a turtle can be told to do. -/
inductive Order where
  /-- Turn counter-clockwise on the screen. -/
  | turnLeft (degrees : Binary64)
  /-- Turn clockwise on the screen. -/
  | turnRight (degrees : Binary64)
  /-- Move along the heading. -/
  | move (distance : Binary64)
  /-- Put the pen down, or lift it. -/
  | setPen (down : Bool)
  /-- Take another pen. -/
  | setColour (colour : Colour)
  deriving DecidableEq

namespace Turtle

/-- The heading of a new turtle in degrees: up on the screen. -/
def initialDegrees : Binary64 := -.ofNat 90

/-- A new turtle. -/
def fresh : Turtle where
  heading := initialDegrees.radians
  position := .origin
  penDown := true
  colour := .initial

/-- The point at a distance along the heading. The product is rounded, and then the sum. -/
def ahead (t : Turtle) (distance : Binary64) : Point where
  x := t.position.x + distance * t.heading.cos
  y := t.position.y + distance * t.heading.sin

/-- The turtle after it has followed an order. -/
def follow (t : Turtle) : Order → Turtle
  | .turnLeft degrees => { t with heading := t.heading - degrees.radians }
  | .turnRight degrees => { t with heading := t.heading + degrees.radians }
  | .move distance => { t with position := t.ahead distance }
  | .setPen down => { t with penDown := down }
  | .setColour colour => { t with colour := colour }

/-- The line that a turtle draws while it follows an order, if it draws one. -/
def drawing (t : Turtle) : Order → Option Segment
  | .move distance =>
    if t.penDown then some ⟨t.position, t.ahead distance, t.colour⟩ else none
  | _ => none

/-- Equal in every part, as numbers compare. -/
def same (t u : Turtle) : Bool :=
  t.heading.same u.heading && t.position.same u.position && t.penDown == u.penDown &&
    t.colour == u.colour

/-- Turning left is turning right by the opposite angle. -/
theorem follow_turnLeft (t : Turtle) (degrees : Binary64) :
    t.follow (.turnLeft degrees) = t.follow (.turnRight (-degrees)) := by
  simp only [follow, Binary64.sub_eq_add_neg, Binary64.radians_neg]

end Turtle

end TurtleScript
