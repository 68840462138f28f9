import TurtleScript.Drawing.View
import TurtleScript.Turtle

/-!
# Canvases

A canvas receives segments one by one, in the order in which they are drawn. There are four kinds.
One keeps the segments; one keeps them with a view of them; one writes a line of text for each; and
one writes to a device that takes nothing. None of them answers, so no drawing depends on the
canvas.
-/

namespace TurtleScript

/-- A segment as a line of text, without the newline. -/
def Segment.text (s : Segment) : String :=
  "line " ++ s.start.text ++ " -> " ++ s.stop.text ++ " " ++ s.colour.name

/-- Segments with a view in which they can be seen. -/
structure Scene where
  /-- The segments, in the order in which they were drawn. -/
  segments : Array Segment
  /-- The part of the drawing surface that is shown. -/
  view : View

namespace Scene

/-- Nothing drawn yet. -/
def empty : Scene := ⟨#[], .initial⟩

/-- Add a segment, with first its start and then its end brought into view. -/
def draw (scene : Scene) (s : Segment) : Scene where
  segments := scene.segments.push s
  view := (scene.view.shown s.start).shown s.stop

@[simp] theorem segments_empty : empty.segments = #[] := rfl

@[simp] theorem view_empty : empty.view = .initial := rfl

@[simp] theorem segments_draw (scene : Scene) (s : Segment) :
    (scene.draw s).segments = scene.segments.push s := rfl

@[simp] theorem view_draw (scene : Scene) (s : Segment) :
    (scene.draw s).view = (scene.view.shown s.start).shown s.stop := rfl

end Scene

/-- Something that segments are drawn on. -/
inductive Canvas where
  /-- Keeps the segments. -/
  | memory (segments : Array Segment)
  /-- Keeps them in view. -/
  | scene (scene : Scene)
  /-- Writes a line of text for each. -/
  | text (written : String)
  /-- Writes to a device that takes nothing, and lets that pass. -/
  | broken

namespace Canvas

/-- Draw a segment. -/
def draw (canvas : Canvas) (s : Segment) : Canvas :=
  match canvas with
  | .memory segments => .memory (segments.push s)
  | .scene shown => .scene (shown.draw s)
  | .text written => .text (written ++ s.text ++ "\n")
  | .broken => .broken

/-- Draw some segments, in order. -/
def drawAll (canvas : Canvas) (segments : List Segment) : Canvas := segments.foldl draw canvas

@[simp] theorem drawAll_nil (canvas : Canvas) : canvas.drawAll [] = canvas := rfl

@[simp] theorem drawAll_cons (canvas : Canvas) (s : Segment) (segments : List Segment) :
    canvas.drawAll (s :: segments) = (canvas.draw s).drawAll segments := rfl

theorem drawAll_append (canvas : Canvas) (a b : List Segment) :
    canvas.drawAll (a ++ b) = (canvas.drawAll a).drawAll b := List.foldl_append

end Canvas

end TurtleScript
