import TurtleScript.Proofs.Drawing.Canvas
import TurtleScript.Proofs.Session.Interpreter

/-!
# Canvas and console only watch

An interpreter is watched while it takes its steps: after each of them there is what the step has
returned, the session, and what the console has kept (`Interpreter.sights`). None of this depends on
the canvas, not even on one that fails at every segment, and a console that takes no notice of a
shutdown differs from one that keeps everything in just these entries (`canvas_and_console_watch`).

Canvases keep the same segments, each in its own way. What the text canvas has written is one line
for each of them.
-/

namespace TurtleScript

/-! ## What can be seen of an interpreter -/

/-- What a step returns, if it returns something. -/
def Session.result? (s : Session) : Step → Option (Except CommandError Unit)
  | .execute x => some ((s.execute x).map fun _ ↦ ())
  | _ => none

/-- What can be seen of an interpreter after a step, without its canvas. -/
structure Sight where
  /-- What the step has returned. -/
  result : Option (Except CommandError Unit)
  /-- All turtles, and whether the command to stop has been given. -/
  session : Session
  /-- What the console has kept. -/
  entries : List Feedback

/-- The sight of a console that has kept no shutdowns. -/
def Sight.withoutShutdowns (sight : Sight) : Sight :=
  { sight with entries := Feedback.withoutShutdowns sight.entries }

namespace Interpreter

/-- What can be seen after each of some steps. -/
def sights (i : Interpreter) (files : Files) : List Step → List Sight
  | [] => []
  | step :: steps =>
    ⟨i.session.result? step, (i.take files step).session,
        (i.take files step).console.entries.toList⟩ ::
      (i.take files step).sights files steps

theorem take_eq (i : Interpreter) (files : Files) (step : Step) :
    i.take files step =
      ⟨(i.session.take files step).session, i.canvas.drawAll (i.session.take files step).drawn,
        i.console.tellAll (i.session.take files step).feedback⟩ :=
  receiveReply_eq i _

/-- **The canvas is not seen.** -/
theorem sights_canvas (s : Session) (canvas canvas' : Canvas) (console : Console) (files : Files)
    (steps : List Step) :
    (Interpreter.mk s canvas console).sights files steps =
      (Interpreter.mk s canvas' console).sights files steps := by
  induction steps generalizing s canvas canvas' console with
  | nil => rfl
  | cons step steps ih =>
    rw [sights, sights, take_eq, take_eq]
    exact congrArg _ (ih _ _ _ _)

/-- **Of the console only the shutdowns are seen.** -/
theorem sights_plain (s : Session) (canvas : Canvas) (kept : Array Feedback) (files : Files)
    (steps : List Step) :
    (Interpreter.mk s canvas (.plain (Feedback.withoutShutdowns kept.toList).toArray)).sights files
        steps =
      ((Interpreter.mk s canvas (.memory kept)).sights files steps).map
        Sight.withoutShutdowns := by
  induction steps generalizing s canvas kept with
  | nil => rfl
  | cons step steps ih =>
    have hkept : ∀ feedback : List Feedback,
        (Feedback.withoutShutdowns kept.toList).toArray ++
            (Feedback.withoutShutdowns feedback).toArray =
          (Feedback.withoutShutdowns (kept ++ feedback.toArray).toList).toArray := by
      intro feedback
      simp [Feedback.withoutShutdowns]
    rw [sights, sights, take_eq, take_eq, Console.tellAll_plain, Console.tellAll_memory, hkept,
      List.map_cons, ← ih]
    rfl

/-- **Canvas and console only watch.** New interpreters that take the same steps look the same after
each of them whatever they draw on, be it a memory, a scene, a text or a device that takes nothing.
All canvases have been given the same segments in the same order. A console that takes no notice of
a shutdown has kept what any other has but for the shutdowns, and nothing else has changed. -/
theorem canvas_and_console_watch (files : Files) (steps : List Step) :
    (∀ (canvas canvas' : Canvas) (console : Console),
      (start canvas console).sights files steps = (start canvas' console).sights files steps) ∧
    (∃ segments : List Segment, ∀ console : Console,
      let drawing := fun canvas ↦ ((start canvas console).takeAll files steps).canvas
      drawing (.memory #[]) = .memory segments.toArray ∧
        (∃ shown, drawing (.scene .empty) = .scene shown ∧
          shown.segments = segments.toArray) ∧
        drawing (.text "") = .text (String.join (segments.map fun s ↦
          "line " ++ s.start.text ++ " -> " ++ s.stop.text ++ " " ++ s.colour.name ++ "\n")) ∧
        drawing .broken = .broken) ∧
    ∀ canvas : Canvas,
      (start canvas (.plain #[])).sights files steps =
          ((start canvas (.memory #[])).sights files steps).map Sight.withoutShutdowns ∧
        ((start canvas (.plain #[])).takeAll files steps).canvas =
          ((start canvas (.memory #[])).takeAll files steps).canvas := by
  refine ⟨fun canvas canvas' console ↦ sights_canvas _ _ _ _ _ _, ?_, fun canvas ↦ ⟨?_, ?_⟩⟩
  · refine ⟨(Session.start.takeAll files steps).drawn, fun console ↦ ?_⟩
    simp only [takeAll_eq, start]
    refine ⟨?_, ⟨_, Canvas.drawAll_scene _ _, ?_⟩, ?_, Canvas.drawAll_broken _⟩
    · rw [Canvas.drawAll_memory, Array.empty_append]
    · rw [Scene.segments_foldl_draw, Scene.segments_empty, Array.empty_append]
    · rw [Canvas.drawAll_text, String.empty_append]
      rfl
  · exact sights_plain _ _ #[] _ _
  · rw [takeAll_eq, takeAll_eq]
    rfl

end Interpreter

end TurtleScript
