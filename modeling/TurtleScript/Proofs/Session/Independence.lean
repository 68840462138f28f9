import TurtleScript.Proofs.Session.Lines

/-!
# Turtles do not interfere

A line is about a name if the name is its second word. What such a line does depends on the turtle
of that name only, and any other line leaves that turtle alone. So the lines about a name can
be taken out of a session: taken by themselves they do exactly what they did among the others, and
they leave the same turtle (`turtles_independent`). How the lines about different names are
interleaved makes no difference to the registry.

## The simulation

The two sessions run at different speeds: the one that takes all lines, and the one that takes only
the lines about a name. They need not agree on anything but the turtle of that name (`AgreeOn`). A
line about the name keeps them in agreement if both take it, and any other line if only the first
one does.
-/

namespace TurtleScript

/-! ## Lines about a name -/

/-- Whether the second word of a line is a name. -/
def Line.concerns (n : String) (line : Line) : Bool := line.words[1]? = some n

/-- The lines about a name, in order. -/
def linesAbout (n : String) (lines : List Line) : List Line := lines.filter (Line.concerns n)

theorem Line.concerns_iff {n : String} {line : Line} :
    line.concerns n = true ↔ line.words[1]? = some n := by
  rw [Line.concerns, decide_eq_true_iff]

/-- Sessions in which a name stands for the same turtle, or for none. -/
def AgreeOn (n : String) (s t : Session) : Prop := s.registry.get? n = t.registry.get? n

namespace Session

/-! ## One line -/

/-- **Others are left alone.** A line that is not about a name does not change its turtle. -/
theorem agreeOn_process {n : String} {line : Line} (h : ¬line.concerns n = true) (s : Session) :
    AgreeOn n (s.process line.1 line.2).session s := by
  rcases s.get?_process_cases line.1 line.2 n with ⟨hsame, -⟩ | ⟨a, w, hw, rfl, -⟩
  · exact hsame
  · exact absurd (Line.concerns_iff.mpr hw.getElem?_one) h

/-- **Only the own turtle counts.** Sessions that agree on the name of a line do the same with it,
and agree on it afterwards. -/
theorem process_congr {n : String} {line : Line} (h : line.concerns n = true) {s t : Session}
    (hst : AgreeOn n s t) :
    (s.process line.1 line.2).events = (t.process line.1 line.2).events ∧
      AgreeOn n (s.process line.1 line.2).session (t.process line.1 line.2).session := by
  have hname : ∀ {a : Action}, Asks line.words (.act a) → a.name = n := by
    intro a hw
    have hone := hw.getElem?_one
    rw [Line.concerns_iff.mp h] at hone
    exact (Option.some.inj hone).symm
  cases s.lineCase line.1 line.2 with
  | blank hw hr =>
    rw [hr, process_of_blank hw]
    exact ⟨rfl, hst⟩
  | malformed e hw hr =>
    rw [hr, process_of_malformed hw]
    exact ⟨rfl, hst⟩
  | quit hw hr =>
    rw [hr, process_of_quit hw]
    exact ⟨rfl, hst⟩
  | failed a e hw he hr =>
    have hget : s.registry.get? a.name = t.registry.get? a.name := by rw [hname hw]; exact hst
    rw [hr, process_of_failed hw (hget ▸ he)]
    exact ⟨rfl, hst⟩
  | done a w hw hd hr =>
    have hget : s.registry.get? a.name = t.registry.get? a.name := by rw [hname hw]; exact hst
    rw [hr, process_of_done hw (hget ▸ hd)]
    refine ⟨rfl, ?_⟩
    rw [AgreeOn, accept_session, accept_session, ← hname hw, Registry.get?_put_self,
      Registry.get?_put_self]

/-! ## Many lines -/

/-- The lines of a session with all that each of them does. -/
def transcript (s : Session) (lines : List Line) : List (Line × List Event) :=
  lines.zip ((s.replies lines).map Reply.events)

/-- The entries of a transcript for the lines about a name. -/
def entriesAbout (n : String) (entries : List (Line × List Event)) : List (Line × List Event) :=
  entries.filter fun entry ↦ entry.1.concerns n

theorem transcript_cons (s : Session) (line : Line) (lines : List Line) :
    s.transcript (line :: lines) = (line, (s.process line.1 line.2).events) ::
      (s.process line.1 line.2).session.transcript lines := rfl

/-- **The simulation.** The induction is on all lines, with any two sessions that agree on the
name. -/
theorem transcript_linesAbout {n : String} {s t : Session} (hst : AgreeOn n s t)
    (lines : List Line) :
    entriesAbout n (s.transcript lines) = t.transcript (linesAbout n lines) ∧
      AgreeOn n (s.processAll lines).session (t.processAll (linesAbout n lines)).session := by
  induction lines generalizing s t with
  | nil => exact ⟨rfl, hst⟩
  | cons line lines ih =>
    rw [transcript_cons, processAll_cons, Reply.session_andThen]
    by_cases h : line.concerns n = true
    · have hentry : ∀ events entries, entriesAbout n ((line, events) :: entries) =
          (line, events) :: entriesAbout n entries := fun _ _ ↦ List.filter_cons_of_pos h
      obtain ⟨hevents, hagree⟩ := process_congr h hst
      obtain ⟨htranscript, hlast⟩ := ih hagree
      rw [linesAbout, List.filter_cons_of_pos h, ← linesAbout, transcript_cons, processAll_cons,
        Reply.session_andThen, hentry, htranscript, hevents]
      exact ⟨rfl, hlast⟩
    · have hentry : ∀ events entries, entriesAbout n ((line, events) :: entries) =
          entriesAbout n entries := fun _ _ ↦ List.filter_cons_of_neg h
      obtain ⟨htranscript, hlast⟩ := ih ((agreeOn_process h s).trans hst)
      rw [linesAbout, List.filter_cons_of_neg h, ← linesAbout, hentry, htranscript]
      exact ⟨rfl, hlast⟩

/-- **Turtles do not interfere.** The lines about a name, taken alone, leave the same turtle and
each do the same as they do among all lines: the same feedback, the same segment or none, the same
notes. So lists with the same lines about every name leave the same registry. -/
theorem turtles_independent (lines : List Line) (n : String) :
    (start.processAll lines).session.registry.get? n =
        (start.processAll (linesAbout n lines)).session.registry.get? n ∧
      entriesAbout n (start.transcript lines) = start.transcript (linesAbout n lines) ∧
      ∀ others, (∀ m, linesAbout m lines = linesAbout m others) →
        (start.processAll lines).session.registry =
          (start.processAll others).session.registry := by
  have halone : ∀ (m : String) (lines : List Line), AgreeOn m (start.processAll lines).session
      (start.processAll (linesAbout m lines)).session :=
    fun m lines ↦ (transcript_linesAbout rfl lines).2
  refine ⟨halone n lines, (transcript_linesAbout rfl lines).1, fun others h ↦ ?_⟩
  refine Registry.ext_get? fun m ↦ ?_
  calc (start.processAll lines).session.registry.get? m
      = (start.processAll (linesAbout m lines)).session.registry.get? m := halone m lines
    _ = (start.processAll (linesAbout m others)).session.registry.get? m := by rw [h m]
    _ = (start.processAll others).session.registry.get? m := (halone m others).symm

/-- Two turtles, created in either order. -/
theorem turtles_independent_swapped :
    (∀ m, linesAbout m [("turtle a", none), ("turtle b", none), ("pen b up", some 3)] =
        linesAbout m [("turtle b", none), ("pen b up", some 3), ("turtle a", none)]) ∧
      (start.processAll
          [("turtle a", none), ("turtle b", none), ("pen b up", some 3)]).session.registry =
        (start.processAll
          [("turtle b", none), ("pen b up", some 3), ("turtle a", none)]).session.registry := by
  have ha : ∀ m, Line.concerns m ("turtle a", none) = decide ("a" = m) := fun m ↦ by
    simp [Line.concerns, Line.words, show Text.words "turtle a" = ["turtle", "a"] from by decide]
  have hb : ∀ m, Line.concerns m ("turtle b", none) = decide ("b" = m) := fun m ↦ by
    simp [Line.concerns, Line.words, show Text.words "turtle b" = ["turtle", "b"] from by decide]
  have hp : ∀ m, Line.concerns m ("pen b up", some 3) = decide ("b" = m) := fun m ↦ by
    simp [Line.concerns, Line.words, show Text.words "pen b up" = ["pen", "b", "up"] from by decide]
  have h : ∀ m, linesAbout m [("turtle a", none), ("turtle b", none), ("pen b up", some 3)] =
      linesAbout m [("turtle b", none), ("pen b up", some 3), ("turtle a", none)] := by
    intro m
    by_cases hma : "a" = m
    · subst hma
      simp [linesAbout, ha, hb, hp]
    · simp [linesAbout, List.filter_cons, ha, hb, hp, hma]
  exact ⟨h, (turtles_independent _ "a").2.2 _ h⟩

end Session

end TurtleScript
