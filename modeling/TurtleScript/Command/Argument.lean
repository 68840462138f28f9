import TurtleScript.Command.Error
import TurtleScript.Decimal.Numeral
import TurtleScript.Decimal.Printer

/-!
# Arguments

Every argument of a command is one word, read according to the kind of argument that the command
takes in that place. Reading looks neither at the command nor at the turtles there are. Writing an
argument gives a word that reads back as the same argument.
-/

namespace TurtleScript

/-- What an argument says. -/
inductive ArgumentKind where
  | name
  | distance
  | degrees
  | penState
  | colour
  deriving DecidableEq

/-- An argument that has been read. -/
inductive Argument where
  /-- The name of a turtle, whether or not there is one. -/
  | name (name : String)
  /-- How far to move: above zero, if it has been read from a word. -/
  | distance (distance : Binary64)
  /-- How far to turn. -/
  | degrees (degrees : Binary64)
  /-- Whether the pen is to be down. -/
  | penState (down : Bool)
  /-- A colour of the palette. -/
  | colour (colour : Colour)
  deriving DecidableEq

/-- What kind of argument something is. -/
def Argument.kind : Argument → ArgumentKind
  | name _ => .name
  | distance _ => .distance
  | degrees _ => .degrees
  | penState _ => .penState
  | colour _ => .colour

/-- A distance is a number above zero. -/
def readDistance (token : String) : Except ParseError Binary64 :=
  match Binary64.ofText? token with
  | none => .error (.notADistance token)
  | some d => if d.isPositive then .ok d else .error (.nonPositiveDistance token)

/-- An angle is any number. -/
def readDegrees (token : String) : Except ParseError Binary64 :=
  match Binary64.ofText? token with
  | none => .error (.notAnAngle token)
  | some d => .ok d

/-- The pen is `up` or `down`. -/
def readPenState (token : String) : Except ParseError Bool :=
  if token = "up" then .ok false
  else if token = "down" then .ok true
  else .error (.notAPenState token)

/-- A colour is a name of the palette. -/
def readColour (token : String) : Except ParseError Colour :=
  match Colour.ofName? token with
  | none => .error (.notAColour token)
  | some c => .ok c

/-- Read a word as an argument of a kind. Every word is a name. -/
def ArgumentKind.read (token : String) : ArgumentKind → Except ParseError Argument
  | .name => .ok (.name token)
  | .distance => (readDistance token).map .distance
  | .degrees => (readDegrees token).map .degrees
  | .penState => (readPenState token).map .penState
  | .colour => (readColour token).map .colour

/-- The word that says whether the pen is down. -/
def penWord (down : Bool) : String := if down then "down" else "up"

/-- The word of an argument. -/
def Argument.text : Argument → String
  | .name n => n
  | .distance d => d.text
  | .degrees a => a.text
  | .penState down => penWord down
  | .colour c => c.name

/-- What is read as a kind is of that kind. -/
theorem ArgumentKind.kind_of_read {token : String} {k : ArgumentKind} {a : Argument}
    (h : k.read token = .ok a) : a.kind = k := by
  cases k with
  | name => cases h; rfl
  | distance =>
    cases hr : readDistance token <;> simp_all [read, Except.map]
    subst h
    rfl
  | degrees =>
    cases hr : readDegrees token <;> simp_all [read, Except.map]
    subst h
    rfl
  | penState =>
    cases hr : readPenState token <;> simp_all [read, Except.map]
    subst h
    rfl
  | colour =>
    cases hr : readColour token <;> simp_all [read, Except.map]
    subst h
    rfl

end TurtleScript
