import TurtleScript.Proofs.Program.FileOrInput
import TurtleScript.Proofs.Session.Turns

/-!
# Runs turn by turn

A run of the program takes the turns of its paths and then, if that is wanted, those of the lines
that are typed (`Options.turns`). Typed lines have turns up to the first that cannot be read. That
one ends the run if the run gets there, and nothing else does except the command to stop
(`Run.readable_ofOptions`). What a run does is what is done in the turns, and at the end of the
input a note of that (`Run.events_ofOptions`).
-/

namespace TurtleScript

/-! ## Typed lines -/

theorem Input.lineText?_eq_none_iff {line : Bytes} :
    lineText? line = none ↔ Utf8.strict? line = none := Option.map_eq_none_iff

namespace Turn

/-- The turns of typed lines: they come to an end before the first line that cannot be read. -/
def ofInput : List Bytes → List Turn
  | [] => []
  | bytes :: more =>
    match Input.lineText? bytes with
    | none => []
    | some text => .line text none :: ofInput more

theorem ofInput_cons_of_none {bytes : Bytes} (h : Input.lineText? bytes = none)
    (more : List Bytes) : ofInput (bytes :: more) = [] := by
  rw [ofInput, h]

theorem ofInput_cons_of_some {bytes : Bytes} {text : String}
    (h : Input.lineText? bytes = some text) (more : List Bytes) :
    ofInput (bytes :: more) = .line text none :: ofInput more := by
  rw [ofInput, h]

/-- A line that cannot be read cuts off all that follows. -/
theorem ofInput_append_of_none {bytes : Bytes} (h : Input.lineText? bytes = none)
    (before more : List Bytes) : ofInput (before ++ bytes :: more) = ofInput before := by
  induction before with
  | nil => exact ofInput_cons_of_none h more
  | cons first before ih =>
    rw [List.cons_append]
    cases hfirst : Input.lineText? first with
    | none => rw [ofInput_cons_of_none hfirst, ofInput_cons_of_none hfirst]
    | some text => rw [ofInput_cons_of_some hfirst, ofInput_cons_of_some hfirst, ih]

theorem mem_ofInput {turn : Turn} {lines : List Bytes} (h : turn ∈ ofInput lines) :
    ∃ bytes ∈ lines, ∃ text, Input.lineText? bytes = some text ∧ turn = .line text none := by
  induction lines with
  | nil => cases h
  | cons first lines ih =>
    cases hfirst : Input.lineText? first with
    | none =>
      rw [ofInput_cons_of_none hfirst] at h
      cases h
    | some text =>
      rw [ofInput_cons_of_some hfirst] at h
      rcases List.mem_cons.mp h with rfl | h
      · exact ⟨first, List.mem_cons_self, text, hfirst, rfl⟩
      · obtain ⟨bytes, hbytes, hturn⟩ := ih h
        exact ⟨bytes, List.mem_cons_of_mem _ hbytes, hturn⟩

theorem mem_ofInput_of_readable {lines : List Bytes}
    (hlines : ∀ bytes ∈ lines, Input.lineText? bytes ≠ none) {bytes : Bytes} {text : String}
    (hbytes : bytes ∈ lines) (htext : Input.lineText? bytes = some text) :
    .line text none ∈ ofInput lines := by
  induction lines with
  | nil => cases hbytes
  | cons first lines ih =>
    rw [List.forall_mem_cons] at hlines
    obtain ⟨typed, hfirst⟩ := Option.ne_none_iff_exists'.mp hlines.1
    rw [ofInput_cons_of_some hfirst]
    rcases List.mem_cons.mp hbytes with rfl | hbytes
    · rw [htext] at hfirst
      cases hfirst
      exact List.mem_cons_self
    · exact List.mem_cons_of_mem _ (ih hlines.2 hbytes)

end Turn

namespace Session

/-- What is done when the turns have come to an end: the end of the input is noted if there was
one. -/
def closeIf (s : Session) (closed : Bool) : Reply :=
  if closed && !s.finished then s.closeInput else s.idle

/-- **Typed lines are taken turn by turn.** -/
theorem runInput_eq_follow (s : Session) (lines : List Bytes) :
    (s.runInput lines).reply = (s.follow (Turn.ofInput lines)).andThen
        (fun t ↦ t.closeIf (lines.all fun bytes ↦ (Input.lineText? bytes).isSome)) ∧
      ((s.runInput lines).readable = true ↔
        (s.follow (Turn.ofInput lines)).session.finished = true ∨
          ∀ bytes ∈ lines, Input.lineText? bytes ≠ none) := by
  induction lines generalizing s with
  | nil =>
    rw [Turn.ofInput, follow, idle_andThen, closeIf, runInput]
    cases s.finished <;> simp
  | cons bytes lines ih =>
    by_cases h : s.finished = true
    · rw [runInput_of_finished h, follow_of_finished h, idle_andThen, closeIf]
      simp [h]
    · cases hbytes : Input.lineText? bytes with
      | none =>
        rw [runInput, if_neg h, takeInput?, Turn.ofInput_cons_of_none hbytes, hbytes]
        simp [follow, closeIf, hbytes, h]
      | some text =>
        obtain ⟨hreply, hreadable⟩ := ih (s.process text none).session
        rw [runInput_cons h hbytes, Turn.ofInput_cons_of_some hbytes, follow_cons h, takeTurn]
        constructor
        · rw [Reply.andThen_assoc, Reply.andThen, hreply]
          simp [Reply.andThen, hbytes]
        · rw [Reply.session_andThen, hreadable]
          simp [hbytes]

@[simp] theorem closeIf_session (s : Session) (closed : Bool) : (s.closeIf closed).session = s := by
  rw [closeIf]
  split <;> rfl

end Session

/-! ## Runs -/

/-- The turns of a run. -/
def Options.turns (o : Options) (files : Files) (input : Bytes) : List Turn :=
  Turn.ofPaths files o.paths ++ if o.interactive then Turn.ofInput (Utf8.lines input) else []

namespace Run

variable (o : Options) (files : Files) (input : Bytes)

/-- **A run takes its turns.** -/
theorem reply_ofOptions :
    Reply.mk (ofOptions o files input).session (ofOptions o files input).events =
      (Session.start.follow (o.turns files input)).andThen fun t ↦
        t.closeIf (o.interactive &&
          (Utf8.lines input).all fun bytes ↦ (Input.lineText? bytes).isSome) := by
  rw [ofOptions, Options.turns, Session.runFiles_eq_follow, Session.follow_append]
  by_cases h : o.interactive = true
  · simp only [h, if_true, Bool.true_and, Session.runInput_eq_follow]
    rw [Reply.andThen_assoc]
    rfl
  · simp [h, Session.closeIf, Session.follow, Reply.andThen, Session.idle]

theorem session_ofOptions :
    (ofOptions o files input).session =
      (Session.start.follow (o.turns files input)).session := by
  have h := congrArg Reply.session (reply_ofOptions o files input)
  simpa using h

/-- What a run does is what is done in its turns, and then the end of the input is noted. -/
theorem events_ofOptions :
    (ofOptions o files input).events =
      (Session.start.follow (o.turns files input)).events ++
        ((ofOptions o files input).session.closeIf (o.interactive &&
          (Utf8.lines input).all fun bytes ↦ (Input.lineText? bytes).isSome)).events := by
  have h := congrArg Reply.events (reply_ofOptions o files input)
  rw [session_ofOptions]
  exact h

/-- **Only a line that cannot be read makes a run fail**, if the run gets there. -/
theorem readable_ofOptions :
    (ofOptions o files input).readable = true ↔
      o.interactive = false ∨
        (Session.start.follow (o.turns files input)).session.finished = true ∨
          ∀ bytes ∈ Utf8.lines input, Input.lineText? bytes ≠ none := by
  rw [ofOptions, Options.turns, Session.runFiles_eq_follow, Session.follow_append]
  by_cases h : o.interactive = true
  · simp [h, Session.runInput_eq_follow]
  · simp [h]

end Run

end TurtleScript
