/-!
# Pen colours

The palette is closed: a colour is one of four, and each has one name, spelled exactly.
-/

namespace TurtleScript

/-- A colour that a turtle can draw with. -/
inductive Colour where
  | red
  | green
  | blue
  | black
  deriving DecidableEq

namespace Colour

/-- The palette, in the order in which it is listed to the user. -/
def palette : List Colour := [red, green, blue, black]

/-- The colour of a new turtle. -/
def initial : Colour := blue

/-- The name of a colour. -/
def name : Colour → String
  | red => "red"
  | green => "green"
  | blue => "blue"
  | black => "black"

/-- The colour of a name. -/
def ofName? (name : String) : Option Colour := palette.find? fun c ↦ c.name = name

/-- The names of the palette, as messages list them. -/
def knownNames : String := ", ".intercalate (palette.map name)

@[simp] theorem ofName?_name (c : Colour) : ofName? c.name = some c := by cases c <;> decide

theorem name_of_ofName? {s : String} {c : Colour} (h : ofName? s = some c) : c.name = s := by
  simpa using List.find?_some h

end Colour

end TurtleScript
