import Mathlib.Data.List.Induction
import TurtleScript.Proofs.Session.Independence

/-!
# Trajectories are continuous

The moves of a turtle, picked out of all lines of a session, lead without a break from the origin
to where it stands (`trajectories`). Nothing but a move changes its position, and nothing but a turn
its heading. A move with the pen down draws the way of the turtle, in its colour, and a move with
the pen up draws nothing. So if the pen has never been up in moving, the segments of the turtle,
picked out of the drawing of all turtles, are its way.

What a line makes of a turtle is said once (`Effect`): nothing, or the line creates it, or it has
followed an order. The invariant of a run (`Trajectory`) is kept in each of these cases.
-/

namespace TurtleScript

/-! ## Ways -/

/-- Some steps, each with its start and its end, lead from one point to another. Each starts where
the one before it has ended. -/
inductive Leads : Point → List (Point × Point) → Point → Prop where
  | nil (p : Point) : Leads p [] p
  | cons (p : Point) {q r : Point} {way : List (Point × Point)} (h : Leads q way r) :
    Leads p ((p, q) :: way) r

theorem Leads.concat {p q : Point} {way : List (Point × Point)} (h : Leads p way q) (r : Point) :
    Leads p (way ++ [(q, r)]) r := by
  induction h with
  | nil p => exact .cons p (.nil r)
  | cons p _ ih => exact .cons p ih

/-- Where a turtle stands, or where it would be created. -/
def standing : Option Turtle → Point
  | none => .origin
  | some t => t.position

/-- The way of a segment. -/
def Segment.way (s : Segment) : Point × Point := (s.start, s.stop)

/-- What a turtle has been before and after a move, and what has been drawn meanwhile. -/
structure Leg where
  /-- The turtle before the move. -/
  before : Turtle
  /-- The turtle after the move. -/
  after : Turtle
  /-- What has been drawn. -/
  drawn : List Segment

namespace Leg

/-- From where to where the turtle has moved. -/
def way (leg : Leg) : Point × Point := (leg.before.position, leg.after.position)

/-- The segment that goes with a move. -/
def segment (leg : Leg) : Segment :=
  ⟨leg.before.position, leg.after.position, leg.before.colour⟩

/-- The segment has been drawn if the pen was down, and else nothing. -/
def IsDrawn (leg : Leg) : Prop :=
  leg.drawn = if leg.before.penDown then [leg.segment] else []

end Leg

/-! ## Lines that have been taken -/

/-- A line and the session that takes it. -/
structure Taken where
  /-- The line. -/
  line : Line
  /-- The session before it. -/
  before : Session

/-- The lines of a session, each with what the lines before it have left. -/
def Session.taken (s : Session) : List Line → List Taken
  | [] => []
  | line :: lines => ⟨line, s⟩ :: (s.process line.1 line.2).session.taken lines

namespace Taken

variable (x : Taken)

/-- What comes of the line. -/
def reply : Reply := x.before.process x.line.1 x.line.2

/-- What the line draws. -/
def drawn : List Segment := x.reply.drawn

/-- The line is a command to a turtle, and it is echoed as carried out. -/
def CarriesOut (command n : String) : Prop :=
  x.line.words.take 2 = [command, n] ∧ x.reply.feedback = [.echo (Text.trim x.line.1)]

instance (command n : String) : Decidable (x.CarriesOut command n) :=
  inferInstanceAs (Decidable (_ ∧ _))

/-- A turtle before and after the line, with what the line has drawn. -/
def leg? (n : String) : Option Leg :=
  match x.before.registry.get? n, x.reply.session.registry.get? n with
  | some before, some after => some ⟨before, after, x.drawn⟩
  | _, _ => none

end Taken

/-! ## What a line makes of a turtle -/

/-- The word of the command for an order. -/
def Order.command : Order → String
  | .turnLeft _ => "left"
  | .turnRight _ => "right"
  | .move _ => "move"
  | .setPen _ => "pen"
  | .setColour _ => "colour"

theorem Asks.take_two_quit {ws : List String} (h : Asks ws .quit) : ws.take 2 = ["quit"] := by
  cases h
  rfl

theorem Asks.take_two_create {ws : List String} {n : String} (h : Asks ws (.act (.create n))) :
    ws.take 2 = ["turtle", n] := by
  cases h
  rfl

theorem Asks.take_two_order {ws : List String} {n : String} {o : Order}
    (h : Asks ws (.act (.order n o))) : ws.take 2 = [o.command, n] := by
  cases h <;> rfl

/-- What a line makes of the turtle of a name. -/
inductive Effect (n : String) (x : Taken) : Prop where
  /-- Nothing. -/
  | untouched (hdone : ∀ command, ¬x.CarriesOut command n)
    (hget : x.reply.session.registry.get? n = x.before.registry.get? n)
    (hdrawn : x.line.concerns n = true → x.drawn = [])
  /-- It is created. -/
  | created (hdone : ∀ command, x.CarriesOut command n → command = "turtle")
    (hbefore : x.before.registry.get? n = none)
    (hafter : x.reply.session.registry.get? n = some .fresh) (hdrawn : x.drawn = [])
  /-- It has followed an order. -/
  | ordered (o : Order) (t : Turtle)
    (hdone : ∀ command, x.CarriesOut command n ↔ command = o.command)
    (hconcerns : x.line.concerns n = true) (hbefore : x.before.registry.get? n = some t)
    (hafter : x.reply.session.registry.get? n = some (t.follow o))
    (hdrawn : x.drawn = (t.drawing o).toList)

namespace Taken

variable {n : String} {x : Taken}

theorem CarriesOut.concerns {command : String} (h : x.CarriesOut command n) :
    x.line.concerns n = true := by
  have hone : (x.line.words.take 2)[1]? = some n := by rw [h.1]; rfl
  rw [List.getElem?_take_of_lt (by decide)] at hone
  exact Line.concerns_iff.mpr hone

/-- A line that has failed has not been carried out. -/
theorem not_carriesOut_of_refused {e : CommandError}
    (h : x.reply = x.before.refuse x.line.1 x.line.2 e) (command : String) :
    ¬x.CarriesOut command n := by
  rintro ⟨-, hecho⟩
  rw [h, Session.refuse_feedback] at hecho
  cases hecho

/-- An action on a turtle that has been done. -/
theorem effect_of_done {a : Action} {w : Work} (hw : Asks x.line.words (.act a))
    (hd : a.work (x.before.registry.get? a.name) = .ok w)
    (hr : x.reply = x.before.accept x.line.1 a.name w) : Effect a.name x := by
  have hecho : x.reply.feedback = [.echo (Text.trim x.line.1)] := by
    rw [hr, Session.accept_feedback]
  have hafter : x.reply.session.registry.get? a.name = some w.turtle := by
    rw [hr, Session.accept_session, Registry.get?_put_self]
  have hdrawn : x.drawn = w.drawn.toList := by
    rw [drawn, hr, Session.accept_drawn]
  cases hbefore : x.before.registry.get? a.name with
  | none =>
    rw [hbefore] at hd
    cases a with
    | order n o => cases hd
    | create n =>
      rw [Action.work, Except.ok.injEq] at hd
      subst hd
      refine .created ?_ hbefore hafter hdrawn
      rintro command ⟨hwords, -⟩
      rw [hw.take_two_create] at hwords
      exact (List.cons.inj hwords).1.symm
  | some t =>
    rw [hbefore] at hd
    cases a with
    | create n => cases hd
    | order n o =>
      rw [Action.work, Except.ok.injEq] at hd
      subst hd
      refine .ordered o t ?_ (Line.concerns_iff.mpr hw.getElem?_one) hbefore hafter hdrawn
      intro command
      rw [CarriesOut, hw.take_two_order, and_iff_left hecho]
      constructor
      · intro hwords
        exact (List.cons.inj hwords).1.symm
      · rintro rfl
        rfl

/-- **Every line has one of the effects.** -/
theorem effect (n : String) (x : Taken) : Effect n x := by
  have huntouched : x.reply.session = x.before → x.drawn = [] →
      (∀ command, ¬x.CarriesOut command n) → Effect n x := by
    intro hsession hdrawn hdone
    exact .untouched hdone (by rw [hsession]) fun _ ↦ hdrawn
  cases x.before.lineCase x.line.1 x.line.2 with
  | blank hw hr =>
    apply huntouched (congrArg Reply.session hr) (congrArg Reply.drawn hr)
    rintro command ⟨hwords, -⟩
    rw [Line.words, hw] at hwords
    cases hwords
  | malformed e hw hr =>
    exact huntouched (congrArg Reply.session hr) (congrArg Reply.drawn hr)
      (not_carriesOut_of_refused hr)
  | quit hw hr =>
    refine .untouched ?_ (by rw [reply, hr]; rfl) fun _ ↦ congrArg Reply.drawn hr
    rintro command ⟨hwords, -⟩
    rw [Line.words, hw.take_two_quit] at hwords
    cases hwords
  | failed a e hw he hr =>
    exact huntouched (congrArg Reply.session hr) (congrArg Reply.drawn hr)
      (not_carriesOut_of_refused hr)
  | done a w hw hd hr =>
    by_cases hn : a.name = n
    · rw [← hn]
      exact effect_of_done hw hd hr
    · -- The line is about another turtle.
      have hconcerns : ¬x.line.concerns n = true := by
        rw [Line.concerns_iff]
        intro hone
        exact hn (Option.some.inj (hw.getElem?_one.symm.trans hone))
      refine .untouched (fun command h ↦ hconcerns h.concerns) ?_ fun h ↦ absurd h hconcerns
      rw [reply, hr, Session.accept_session, Registry.get?_put_of_ne _ _ hn]

end Taken

/-! ## The invariant -/

/-- The segments that the lines about a name have drawn. -/
def segmentsOf (n : String) (xs : List Taken) : List Segment :=
  (xs.filter fun x ↦ x.line.concerns n).flatMap Taken.drawn

/-- The moves of a turtle among some lines, given the turtle that the lines have left. -/
structure Trajectory (n : String) (xs : List Taken) (t? : Option Turtle) (legs : List Leg) :
    Prop where
  /-- They are the lines that are echoed as moves of the turtle. -/
  moves : (xs.filter fun x ↦ x.CarriesOut "move" n).map (·.leg? n) = legs.map some
  /-- They lead from the origin to where the turtle stands. -/
  leads : Leads .origin (legs.map Leg.way) (standing t?)
  /-- Without a turtle there are none. -/
  absent : t? = none → legs = []
  /-- They have drawn what the pen has drawn. -/
  drawn : ∀ leg ∈ legs, leg.IsDrawn
  /-- Nothing else has been drawn. -/
  segments : segmentsOf n xs = legs.flatMap Leg.drawn

theorem Turtle.position_follow (t : Turtle) {o : Order} (h : "move" ≠ o.command) :
    (t.follow o).position = t.position := by
  cases o with
  | move d => exact absurd rfl h
  | _ => rfl

theorem Turtle.heading_follow (t : Turtle) {o : Order} (hleft : "left" ≠ o.command)
    (hright : "right" ≠ o.command) : (t.follow o).heading = t.heading := by
  cases o with
  | turnLeft a => exact absurd rfl hleft
  | turnRight a => exact absurd rfl hright
  | _ => rfl

theorem Turtle.drawing_of_command (t : Turtle) {o : Order} (h : "move" ≠ o.command) :
    t.drawing o = none := by
  cases o with
  | move d => exact absurd rfl h
  | _ => rfl

theorem segmentsOf_concat (n : String) (xs : List Taken) (x : Taken) :
    segmentsOf n (xs ++ [x]) = segmentsOf n xs ++ if x.line.concerns n then x.drawn else [] := by
  rw [segmentsOf, List.filter_append, List.flatMap_append, ← segmentsOf]
  split
  next h => simp [h]
  next h => simp [h]

namespace Trajectory

variable {n : String} {xs : List Taken} {x : Taken} {t? : Option Turtle} {legs : List Leg}

theorem nil (n : String) : Trajectory n [] none [] := by
  refine ⟨rfl, .nil _, fun _ ↦ rfl, ?_, rfl⟩
  intro leg hleg
  cases hleg

/-- A line after which the turtle stands where it stood. -/
theorem stay (h : Trajectory n xs (x.before.registry.get? n) legs)
    (hmove : ¬x.CarriesOut "move" n) (hdrawn : x.line.concerns n = true → x.drawn = [])
    (hstanding : standing t? = standing (x.before.registry.get? n))
    (habsent : t? = none → x.before.registry.get? n = none) :
    Trajectory n (xs ++ [x]) t? legs := by
  refine ⟨?_, ?_, fun hnone ↦ h.absent (habsent hnone), h.drawn, ?_⟩
  · rw [List.filter_append, List.filter_cons_of_neg (by simpa using hmove), List.filter_nil,
      List.append_nil, h.moves]
  · rw [hstanding]
    exact h.leads
  · rw [segmentsOf_concat, h.segments]
    split
    next hconcerns => rw [hdrawn hconcerns, List.append_nil]
    next => rw [List.append_nil]

/-- One move more. -/
theorem move {t : Turtle} {d : Binary64} (h : Trajectory n xs (some t) legs)
    (hmove : x.CarriesOut "move" n) (hbefore : x.before.registry.get? n = some t)
    (hafter : x.reply.session.registry.get? n = some (t.follow (.move d)))
    (hdrawn : x.drawn = (t.drawing (.move d)).toList) :
    Trajectory n (xs ++ [x]) (some (t.follow (.move d)))
      (legs ++ [⟨t, t.follow (.move d), x.drawn⟩]) := by
  have hleg : x.leg? n = some ⟨t, t.follow (.move d), x.drawn⟩ := by
    simp only [Taken.leg?, hbefore, hafter]
  refine ⟨?_, ?_, ?_, ?_, ?_⟩
  · rw [List.filter_append, List.filter_cons_of_pos (by simpa using hmove), List.filter_nil,
      List.map_append, List.map_append, h.moves, List.map_singleton, List.map_singleton, hleg]
  · rw [List.map_append]
    exact h.leads.concat (t.ahead d)
  · intro hnone
    cases hnone
  · rw [List.forall_mem_append, List.forall_mem_singleton]
    refine ⟨h.drawn, ?_⟩
    rw [Leg.IsDrawn, hdrawn, Turtle.drawing]
    split <;> rfl
  · rw [segmentsOf_concat, h.segments, if_pos hmove.concerns, List.flatMap_append]
    simp

/-- **The step.** Every line goes on with the trajectory, or leaves it alone. -/
theorem step (x : Taken) (h : Trajectory n xs (x.before.registry.get? n) legs) :
    ∃ legs', Trajectory n (xs ++ [x]) (x.reply.session.registry.get? n) legs' := by
  cases x.effect n with
  | untouched hdone hget hdrawn =>
    rw [hget]
    exact ⟨legs, h.stay (hdone "move") hdrawn rfl id⟩
  | created hdone hbefore hafter hdrawn =>
    have hmove : ¬x.CarriesOut "move" n := by
      intro hmove
      exact absurd (hdone "move" hmove) (by decide)
    refine ⟨legs, h.stay hmove (fun _ ↦ hdrawn) ?_ fun _ ↦ hbefore⟩
    rw [hbefore, hafter]
    rfl
  | ordered o t hdone hconcerns hbefore hafter hdrawn =>
    by_cases hcommand : "move" = o.command
    · obtain ⟨d, rfl⟩ : ∃ d, o = .move d := by
        cases o with
        | move d => exact ⟨d, rfl⟩
        | _ => simp [Order.command] at hcommand
      rw [hbefore] at h
      rw [hafter]
      exact ⟨_, h.move ((hdone "move").mpr hcommand) hbefore hafter hdrawn⟩
    · have hmove : ¬x.CarriesOut "move" n := mt (hdone "move").mp hcommand
      refine ⟨legs, h.stay hmove (fun _ ↦ ?_) ?_ ?_⟩
      · rw [hdrawn, t.drawing_of_command hcommand, Option.toList_none]
      · rw [hbefore, hafter]
        exact t.position_follow hcommand
      · intro hnone
        rw [hafter] at hnone
        cases hnone

end Trajectory

/-! ## A run -/

namespace Session

theorem taken_concat (s : Session) (lines : List Line) (line : Line) :
    s.taken (lines ++ [line]) = s.taken lines ++ [⟨line, (s.processAll lines).session⟩] := by
  induction lines generalizing s with
  | nil => rfl
  | cons first lines ih =>
    rw [List.cons_append, taken, ih, taken, processAll_cons, Reply.session_andThen,
      List.cons_append]

/-- All that is drawn is drawn by lines. -/
theorem drawn_processAll (s : Session) (lines : List Line) :
    (s.processAll lines).drawn = (s.taken lines).flatMap Taken.drawn := by
  induction lines generalizing s with
  | nil => rfl
  | cons line lines ih =>
    rw [processAll_cons, Reply.drawn_andThen, ih, taken, List.flatMap_cons]
    rfl

/-- **The run.** -/
theorem exists_trajectory (lines : List Line) (n : String) :
    ∃ legs, Trajectory n (start.taken lines)
      ((start.processAll lines).session.registry.get? n) legs := by
  -- The lines go on at their end, so the last one is taken off.
  induction lines using List.reverseRecOn with
  | nil =>
    have hnone : (start.processAll []).session.registry.get? n = none := by
      rw [processAll_nil, idle_session, start, Registry.get?_empty]
    rw [hnone]
    exact ⟨[], .nil n⟩
  | append_singleton lines line ih =>
    obtain ⟨legs, hlegs⟩ := ih
    rw [taken_concat, processAll_concat, Reply.session_andThen]
    have hstep := Trajectory.step ⟨line, (start.processAll lines).session⟩ hlegs
    dsimp only [Taken.reply] at hstep
    exact hstep

/-- **Trajectories are continuous.** In a new session, the lines that are carried out as moves of a
turtle lead from the origin to where it stands, and each starts where the one before it has ended,
whether or not it has drawn. With its pen down a move draws just its way, in the colour that the
turtle has then, and with its pen up nothing. The segments drawn by lines about the turtle, picked
out of all that is drawn, are those of its moves; if the pen has been down in all of them, they are
as many as the moves and lead from the origin to where it stands as well. No other line than a move
of a turtle changes its position, and no other than a turn its heading. -/
theorem trajectories (lines : List Line) (n : String) :
    (∃ legs : List Leg,
        ((start.taken lines).filter fun x ↦ x.CarriesOut "move" n).map (·.leg? n) =
          legs.map some ∧
        Leads .origin (legs.map Leg.way)
          (standing ((start.processAll lines).session.registry.get? n)) ∧
        ((start.processAll lines).session.registry.get? n = none → legs = []) ∧
        (∀ leg ∈ legs, leg.IsDrawn) ∧
        segmentsOf n (start.taken lines) = legs.flatMap Leg.drawn ∧
        ((∀ leg ∈ legs, leg.before.penDown = true) →
          Leads .origin ((segmentsOf n (start.taken lines)).map Segment.way)
              (standing ((start.processAll lines).session.registry.get? n)) ∧
            (segmentsOf n (start.taken lines)).length = legs.length)) ∧
      (start.processAll lines).drawn = (start.taken lines).flatMap Taken.drawn ∧
      ∀ x ∈ start.taken lines, ∀ t, x.before.registry.get? n = some t →
        ∃ t', x.reply.session.registry.get? n = some t' ∧
          (¬x.CarriesOut "move" n → t'.position = t.position) ∧
          (¬x.CarriesOut "left" n → ¬x.CarriesOut "right" n → t'.heading = t.heading) := by
  obtain ⟨legs, h⟩ := exists_trajectory lines n
  refine ⟨⟨legs, h.moves, h.leads, h.absent, h.drawn, h.segments, ?_⟩, start.drawn_processAll lines,
    ?_⟩
  · intro hpen
    have hsegments : segmentsOf n (start.taken lines) = legs.map Leg.segment := by
      have hleg : ∀ leg ∈ legs, leg.drawn = [leg.segment] := by
        intro leg hmem
        rw [h.drawn leg hmem, if_pos (hpen leg hmem)]
      rw [h.segments, List.flatMap_congr hleg, List.map_eq_flatMap]
    rw [hsegments, List.map_map, List.length_map]
    exact ⟨h.leads, rfl⟩
  · intro x _ t hbefore
    cases x.effect n with
    | untouched hdone hget hdrawn => exact ⟨t, hget.trans hbefore, fun _ ↦ rfl, fun _ _ ↦ rfl⟩
    | created hdone hnone hafter hdrawn =>
      rw [hnone] at hbefore
      cases hbefore
    | ordered o u hdone hconcerns hu hafter hdrawn =>
      obtain rfl : u = t := Option.some.inj (hu.symm.trans hbefore)
      refine ⟨u.follow o, hafter, ?_, ?_⟩
      · intro hmove
        exact u.position_follow (mt (hdone "move").mpr hmove)
      · intro hleft hright
        exact u.heading_follow (mt (hdone "left").mpr hleft) (mt (hdone "right").mpr hright)

end Session

end TurtleScript
