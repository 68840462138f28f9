import TurtleScript.Registry.Journal

/-!
# An action concerns one turtle

What comes of an action is decided by the turtle of its name: whether it fails and how, what becomes
of that turtle, what is recorded and what is drawn (`Action.work`). The registry only looks the
turtle up before and stores it after (`perform_eq`). So two registries that agree on one name
do the same for every action on that name, and no action reaches another name.
-/

namespace TurtleScript

/-- What an action makes of the turtle of its name. -/
structure Work where
  /-- The turtle afterwards. -/
  turtle : Turtle
  /-- What is recorded. -/
  change : Change
  /-- What is drawn. -/
  drawn : Option Segment

/-- What an action does, given the turtle of its name if there is one. -/
def Action.work : Action → Option Turtle → Except TurtleError Work
  | .create n, none => .ok ⟨.fresh, .created n, none⟩
  | .create n, some _ => .error (.alreadyExists n)
  | .order n _, none => .error (.doesNotExist n)
  | .order n o, some t => .ok ⟨t.follow o, t.record n o, t.drawing o⟩

namespace Registry

/-- **Locality.** The rest of the registry takes no part in an action. -/
theorem perform_eq (r : Registry) (a : Action) :
    r.perform a = (a.work (r.get? a.name)).map fun w ↦
      ⟨r.put a.name w.turtle, w.change, w.drawn⟩ := by
  cases a with
  | create n => cases h : r.get? n <;> simp [perform, Action.name, Action.work, Except.map, h]
  | order n order => cases h : r.get? n <;> simp [perform, Action.name, Action.work, Except.map, h]

end Registry

end TurtleScript
