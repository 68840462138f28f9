import TurtleScript.Command.Operation
import TurtleScript.Registry.Basic

/-!
# Actions and the journal

An action adds a turtle or gives an order to one. It fails if the name is taken, or if nobody has
it, and then nothing has happened. An action that succeeds leaves one record: what was changed, and
the new value. The records are a complete journal: replaying them from the empty registry rebuilds
the registry, without doing any of the arithmetic again.
-/

namespace TurtleScript

/-- What an action has changed. -/
inductive Change where
  /-- There is a new turtle. -/
  | created (name : String)
  /-- It has turned left, to this heading. -/
  | turnedLeft (name : String) (heading : Binary64)
  /-- It has turned right, to this heading. -/
  | turnedRight (name : String) (heading : Binary64)
  /-- It has moved, with its pen up or down. -/
  | moved (name : String) (start stop : Point) (penDown : Bool)
  /-- Its pen is now up or down. -/
  | pen (name : String) (down : Bool)
  /-- It now draws in this colour. -/
  | colour (name : String) (colour : Colour)
  deriving DecidableEq

/-- What comes of an action that succeeds. -/
structure Deed where
  /-- The turtles after it. -/
  registry : Registry
  /-- What was changed. -/
  change : Change
  /-- What was drawn. -/
  drawn : Option Segment

/-- What a turtle records of an order it follows. -/
def Turtle.record (t : Turtle) (name : String) (order : Order) : Change :=
  match order with
  | .turnLeft _ => .turnedLeft name (t.follow order).heading
  | .turnRight _ => .turnedRight name (t.follow order).heading
  | .move _ => .moved name t.position (t.follow order).position t.penDown
  | .setPen down => .pen name down
  | .setColour c => .colour name c

namespace Registry

/-- Do something to the turtles. -/
def perform (r : Registry) : Action → Except TurtleError Deed
  | .create name =>
    match r.get? name with
    | some _ => .error (.alreadyExists name)
    | none => .ok ⟨r.put name .fresh, .created name, none⟩
  | .order name order =>
    match r.get? name with
    | none => .error (.doesNotExist name)
    | some t => .ok ⟨r.put name (t.follow order), t.record name order, t.drawing order⟩

/-- Change one turtle, if there is one of that name. -/
def update (r : Registry) (name : String) (f : Turtle → Turtle) : Registry :=
  match r.get? name with
  | none => r
  | some t => r.put name (f t)

/-- Make a recorded change once more. -/
def replay (r : Registry) : Change → Registry
  | .created name => r.put name .fresh
  | .turnedLeft name heading => r.update name fun t ↦ { t with heading }
  | .turnedRight name heading => r.update name fun t ↦ { t with heading }
  | .moved name _ stop _ => r.update name fun t ↦ { t with position := stop }
  | .pen name down => r.update name fun t ↦ { t with penDown := down }
  | .colour name c => r.update name fun t ↦ { t with colour := c }

/-- The record of an action says all that it has changed. -/
theorem replay_change {r : Registry} {a : Action} {d : Deed} (h : r.perform a = .ok d) :
    r.replay d.change = d.registry := by
  cases a with
  | create name =>
    rw [perform] at h
    split at h <;> cases h
    rfl
  | order name order =>
    rw [perform] at h
    split at h
    · cases h
    · rename_i t ht
      cases h
      cases order <;> simp [replay, update, Turtle.record, ht, Turtle.follow]

end Registry

end TurtleScript
