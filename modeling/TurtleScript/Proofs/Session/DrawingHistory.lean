import TurtleScript.Proofs.Session.Interpreter
import TurtleScript.Proofs.Session.Past

/-!
# The past decides what is drawn

Whether a line draws, and in which colour, can be told from its words and those of the lines before
it, without running anything (`DrawsAfter`). Lines that fail need not be told apart from others: a
turtle that is created twice keeps the past of the first creation, and what is said of a turtle
before it is created is said too early.
-/

namespace TurtleScript

/-- A line with the words `ws` draws with a colour after a past. It is to move a turtle that has
been created, by a distance, and the pen and the colour are what was last said of them since. -/
def DrawsAfter (past : List (List String)) (ws : List String) (c : Colour) : Prop :=
  ∃ n token d since, ws = ["move", n, token] ∧ readDistance token = .ok d ∧ Since n past since ∧
    lastSaid (penSaid n) true since = true ∧ lastSaid (colourSaid n) .blue since = c

/-! ## One line -/

/-- Only moving draws, and only with the pen down. -/
theorem Turtle.drawing_eq_some {t : Turtle} {order : Order} {seg : Segment}
    (h : t.drawing order = some seg) :
    (∃ d, order = .move d) ∧ t.penDown = true ∧ seg.colour = t.colour := by
  cases order with
  | move d =>
    rw [drawing] at h
    split at h
    next hpen =>
      rw [← Option.some.inj h]
      exact ⟨⟨d, rfl⟩, hpen, rfl⟩
    next => cases h
  | _ => cases h

/-- A piece of work that draws is a move of a turtle. -/
theorem Action.eq_move_of_work {a : Action} {t? : Option Turtle} {w : Work} {seg : Segment}
    (hd : a.work t? = .ok w) (hdrawn : w.drawn = some seg) :
    ∃ n d t, a = .order n (.move d) ∧ t? = some t ∧ t.penDown = true ∧ seg.colour = t.colour := by
  cases a with
  | create n =>
    cases t? with
    | none =>
      rw [work, Except.ok.injEq] at hd
      rw [← hd] at hdrawn
      cases hdrawn
    | some t => cases hd
  | order n o =>
    cases t? with
    | none => cases hd
    | some t =>
      cases hd
      obtain ⟨⟨d, rfl⟩, hpen, hcolour⟩ := Turtle.drawing_eq_some hdrawn
      exact ⟨n, d, t, rfl, rfl, hpen, hcolour⟩

namespace Session

section

variable {s : Session} {past : List (List String)} {text : String} {number : Option Nat}

/-- A line that draws does so because of the past. -/
theorem drawsAfter_of_drawn (h : ∀ n, Remembers n past (s.registry.get? n)) {seg : Segment}
    (hdrawn : (s.process text number).drawn = [seg]) :
    DrawsAfter past (Text.words text) seg.colour := by
  rcases s.drawn_process_cases text number with hnone | ⟨a, w, seg', hw, hd, hwork, hsome⟩
  · rw [hnone] at hdrawn
    cases hdrawn
  · rw [hsome, List.singleton_inj] at hdrawn
    rw [← hdrawn]
    obtain ⟨n, d, t, rfl, hget, hpen, hcolour⟩ := Action.eq_move_of_work hd hwork
    have hpast := h n
    rw [show s.registry.get? n = some t from hget] at hpast
    generalize Text.words text = ws at hw
    cases hw with
    | move n htoken =>
      cases hpast with
      | present hsince hpen' hcolour' =>
        exact ⟨n, _, d, _, rfl, htoken, hsince, hpen' ▸ hpen, (hcolour.trans hcolour').symm⟩

/-- A line that is to draw because of the past does draw. -/
theorem drawn_of_drawsAfter (h : ∀ n, Remembers n past (s.registry.get? n)) {c : Colour}
    (hdraws : DrawsAfter past (Text.words text) c) :
    ∃ seg, (s.process text number).drawn = [seg] ∧ seg.colour = c := by
  obtain ⟨n, token, d, since, hws, htoken, hsince, hpen, hcolour⟩ := hdraws
  have hpast := h n
  cases hget : s.registry.get? n with
  | none =>
    rw [hget] at hpast
    cases hpast with
    | absent hnone => exact absurd hsince.mem hnone
  | some t =>
    rw [hget] at hpast
    cases hpast with
    | present hsince' hpen' hcolour' =>
      obtain rfl := hsince.unique hsince'
      have hwork : (Action.order n (.move d)).work (s.registry.get? n) =
          .ok ⟨t.follow (.move d), t.record n (.move d), t.drawing (.move d)⟩ := by
        rw [hget, Action.work]
      have hdrawing : t.drawing (.move d) = some ⟨t.position, t.ahead d, t.colour⟩ :=
        if_pos (hpen'.trans hpen)
      refine ⟨⟨t.position, t.ahead d, t.colour⟩, ?_, hcolour'.trans hcolour⟩
      rw [process_of_done (hws ▸ .move n htoken) hwork, accept_drawn, hdrawing, Option.toList_some]

end

/-! ## A run -/

/-- **The past decides what is drawn.** In a new session a line draws at most one segment. It draws
one of some colour just when it does so after the words of the lines before it, and the canvas
receives the segments in the order of the lines. -/
theorem drawing_history (lines : List Line) :
    (∀ r ∈ start.replies lines, r.drawn = [] ∨ ∃ seg, r.drawn = [seg]) ∧
      (∀ k c, (∃ r seg, (start.replies lines)[k]? = some r ∧ r.drawn = [seg] ∧ seg.colour = c) ↔
        ∃ line, lines[k]? = some line ∧
          DrawsAfter ((lines.take k).map Line.words) line.words c) ∧
      ∀ canvas console files,
        ((Interpreter.start canvas console).takeAll files
          (lines.map Interpreter.lineStep)).canvas =
          canvas.drawAll ((start.replies lines).flatMap Reply.drawn) := by
  have hpast : ∀ k n, Remembers n ((lines.take k).map Line.words)
      ((start.processAll (lines.take k)).session.registry.get? n) :=
    fun k n ↦ remembers_processAll n (lines.take k)
  refine ⟨fun r hr ↦ ?_, fun k c ↦ ⟨?_, ?_⟩, fun canvas console files ↦ ?_⟩
  · obtain ⟨k, hk⟩ := List.mem_iff_getElem?.mp hr
    rw [getElem?_replies, Option.map_eq_some_iff] at hk
    obtain ⟨line, -, rfl⟩ := hk
    exact (drawn_process_cases _ line.1 line.2).imp_right fun ⟨_, _, seg, _, _, _, hseg⟩ ↦
      ⟨seg, hseg⟩
  · rintro ⟨r, seg, hr, hdrawn, rfl⟩
    rw [getElem?_replies, Option.map_eq_some_iff] at hr
    obtain ⟨line, hline, rfl⟩ := hr
    exact ⟨line, hline, drawsAfter_of_drawn (hpast k) hdrawn⟩
  · rintro ⟨line, hline, hdraws⟩
    obtain ⟨seg, hdrawn, hcolour⟩ := drawn_of_drawsAfter (hpast k) hdraws
    refine ⟨_, seg, ?_, hdrawn, hcolour⟩
    rw [getElem?_replies, hline, Option.map_some]
  · rw [Interpreter.takeAll_lines, Interpreter.start, Reply.drawn, events_processAll,
      List.filterMap_flatMap]
    rfl

end Session

end TurtleScript
