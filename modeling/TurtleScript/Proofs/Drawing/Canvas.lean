import TurtleScript.Drawing.Canvas

/-!
# What canvases keep

A canvas keeps each segment that is drawn on it in its own way: as it is, as a line of text, or not
at all. A scene also brings both ends of each segment into view.
-/

namespace TurtleScript

/-- The two ends, in the order in which they are brought into view. -/
def Segment.ends (s : Segment) : List Point := [s.start, s.stop]

namespace Canvas

theorem drawAll_memory (kept : Array Segment) (segments : List Segment) :
    (memory kept).drawAll segments = memory (kept ++ segments.toArray) := by
  induction segments generalizing kept with
  | nil => simp
  | cons s segments ih =>
    rw [drawAll_cons, draw, ih]
    simp

theorem drawAll_scene (shown : Scene) (segments : List Segment) :
    (scene shown).drawAll segments = scene (segments.foldl Scene.draw shown) := by
  induction segments generalizing shown with
  | nil => rfl
  | cons s segments ih => rw [drawAll_cons, draw, ih, List.foldl_cons]

theorem drawAll_text (written : String) (segments : List Segment) :
    (text written).drawAll segments =
      text (written ++ String.join (segments.map fun s ↦ s.text ++ "\n")) := by
  induction segments generalizing written with
  | nil => simp
  | cons s segments ih =>
    rw [drawAll_cons, draw, ih, List.map_cons, String.join_cons, String.append_assoc,
      String.append_assoc, String.append_assoc]

theorem drawAll_broken (segments : List Segment) : broken.drawAll segments = broken := by
  induction segments with
  | nil => rfl
  | cons s segments ih => rw [drawAll_cons, draw, ih]

end Canvas

/-- A scene keeps the segments as a memory does. -/
theorem Scene.segments_foldl_draw (shown : Scene) (segments : List Segment) :
    (segments.foldl draw shown).segments = shown.segments ++ segments.toArray := by
  induction segments generalizing shown with
  | nil => simp
  | cons s segments ih =>
    rw [List.foldl_cons, ih, segments_draw]
    simp

/-- The view of a scene has been brought to show the ends of all segments, in order. -/
theorem Scene.view_foldl_draw (shown : Scene) (segments : List Segment) :
    (segments.foldl draw shown).view =
      (segments.flatMap Segment.ends).foldl View.shown shown.view := by
  induction segments generalizing shown with
  | nil => rfl
  | cons s segments ih =>
    rw [List.foldl_cons, ih, List.flatMap_cons, List.foldl_append, view_draw]
    rfl

end TurtleScript
