import TurtleScript.Proofs.Command.Requests
import TurtleScript.Proofs.Session.Interpreter

/-!
# Lines are atomic

A command line does exactly one of three things to an interpreter, whatever state it is in
(`exactly_one_line_effect`). A blank line is ignored. A failing line is refused: one message, and
nothing else. Any other line is carried out and then echoed; at most one segment is drawn, and the
console is asked to shut down exactly for the command to stop.

What the console keeps of a line stands behind what it has kept before: nothing, the one message, or
the line, with a shutdown in front if the console keeps those.
-/

namespace TurtleScript

namespace Interpreter

/-! ## The three effects of a line -/

section

variable (before after : Interpreter) (text : String)

/-- The line is blank, and nothing at all has happened. -/
structure Ignored : Prop where
  /-- There is nothing in the line but blanks. -/
  blank : ∀ c ∈ text.toList, Text.isBlank c = true
  /-- All turtles are as they were. -/
  registry : after.session.registry = before.session.registry
  /-- The command to stop has not been given. -/
  finished : after.session.finished = before.session.finished
  /-- Nothing is drawn. -/
  canvas : after.canvas = before.canvas
  /-- Nothing is said. -/
  console : after.console = before.console

/-- The line has failed: one message says so, and nothing else has happened. -/
structure Refused (number : Option Nat) : Prop where
  /-- All turtles are as they were. -/
  registry : after.session.registry = before.session.registry
  /-- The command to stop has not been given. -/
  finished : after.session.finished = before.session.finished
  /-- Nothing is drawn. -/
  canvas : after.canvas = before.canvas
  /-- The console is told of the error, and of the number of the line or else its text. It keeps this
  message behind what it has kept so far, and nothing else. -/
  console : ∃ (e : CommandError) (message : String),
    before.session.attempt (Text.trim text) = .error e ∧
    message = (match number with
      | some n => "Line " ++ toString n
      | none => "'" ++ Text.trim text ++ "'") ++ " : " ++ e.message ∧
    after.console = before.console.tell (.error message) ∧
    after.console.entries = before.console.entries.push (.error message)

/-- The line has been carried out, and nothing but that. -/
structure CarriedOut (invocation : Invocation) : Prop where
  /-- The line has been read as a command. -/
  read : Invocation.ofLine (Text.trim text) = .ok (some invocation)
  /-- The session is what carrying out the command makes of it. -/
  session : ∃ r, before.session.execute invocation = .ok r ∧ after.session = r.session
  /-- Only the command to stop ends the session. -/
  finished : after.session.finished =
    (before.session.finished || decide (invocation.operation = .quit))
  /-- At most one segment is drawn. -/
  canvas : after.canvas = before.canvas ∨ ∃ s, after.canvas = before.canvas.draw s
  /-- The console is told of the line, and before that of the command to stop. -/
  console : after.console = before.console.tellAll
    (if invocation.operation = .quit then [.shutdown, .echo (Text.trim text)]
      else [.echo (Text.trim text)])
  /-- A console with a memory keeps just this behind what it has kept so far. -/
  memory : ∀ kept, before.console = .memory kept → after.console = .memory (kept ++
    if invocation.operation = .quit then #[.shutdown, .echo (Text.trim text)]
      else #[.echo (Text.trim text)])
  /-- A console that takes no notice of a shutdown keeps just the line behind it. -/
  plain : ∀ kept, before.console = .plain kept →
    after.console = .plain (kept.push (.echo (Text.trim text)))

end

/-- One of three things is the case, and no other. -/
def ExactlyOne (p q r : Prop) : Prop := (p ∧ ¬q ∧ ¬r) ∨ (¬p ∧ q ∧ ¬r) ∨ (¬p ∧ ¬q ∧ r)

section

variable {i j : Interpreter} {text : String} {number : Option Nat}

theorem Ignored.attempt (h : Ignored i j text) :
    i.session.attempt (Text.trim text) = .ok none := by
  have hw : Text.words text = [] := Text.words_eq_nil_iff.mpr h.blank
  rw [Session.attempt, Invocation.ofLine, Text.words_trim, hw]
  rfl

theorem CarriedOut.attempt {invocation : Invocation} (h : CarriedOut i j text invocation) :
    ∃ r, i.session.attempt (Text.trim text) = .ok (some r) := by
  obtain ⟨r, hr, -⟩ := h.session
  exact ⟨r, by simp only [Session.attempt, h.read, hr, Except.map]⟩

/-- What has come of attempting the line tells the three effects apart. -/
theorem exactlyOne_of_or
    (h : Ignored i j text ∨ Refused i j text number ∨ ∃ x, CarriedOut i j text x) :
    ExactlyOne (Ignored i j text) (Refused i j text number) (∃ x, CarriedOut i j text x) := by
  have hignored : Ignored i j text → ¬Refused i j text number := by
    rintro hi ⟨-, -, -, e, -, he, -⟩
    rw [hi.attempt] at he
    cases he
  have hcarried : (∃ x, CarriedOut i j text x) →
      ¬Ignored i j text ∧ ¬Refused i j text number := by
    rintro ⟨x, hx⟩
    obtain ⟨r, hr⟩ := hx.attempt
    refine ⟨fun hi ↦ ?_, ?_⟩
    · rw [hi.attempt] at hr
      cases hr
    · rintro ⟨-, -, -, e, -, he, -⟩
      rw [hr] at he
      cases he
  rcases h with hi | hr | hx
  · exact Or.inl ⟨hi, hignored hi, fun hx ↦ (hcarried hx).1 hi⟩
  · exact Or.inr (Or.inl ⟨fun hi ↦ hignored hi hr, hr, fun hx ↦ (hcarried hx).2 hr⟩)
  · exact Or.inr (Or.inr ⟨(hcarried hx).1, (hcarried hx).2, hx⟩)

end

/-- A refused line has nothing but its message to show. -/
theorem refused_of_process {i : Interpreter} (files : Files) {text : String}
    {number : Option Nat} {e : CommandError}
    (he : i.session.process text number = i.session.refuse text number e)
    (hattempt : i.session.attempt (Text.trim text) = .error e) :
    Refused i (i.take files (.line text number)) text number := by
  rw [take_line, he]
  refine ⟨rfl, rfl, rfl, e, _, hattempt, ?_, rfl, i.console.entries_tell_error _⟩
  cases number <;> rfl

/-- What a console is told of a line that has been carried out is what it keeps of it, but for the
shutdown. -/
theorem CarriedOut.of_console {before after : Interpreter} {text : String} {x : Invocation}
    (hread : Invocation.ofLine (Text.trim text) = .ok (some x))
    (hsession : ∃ r, before.session.execute x = .ok r ∧ after.session = r.session)
    (hfinished : after.session.finished =
      (before.session.finished || decide (x.operation = .quit)))
    (hcanvas : after.canvas = before.canvas ∨ ∃ s, after.canvas = before.canvas.draw s)
    (hconsole : after.console = before.console.tellAll
      (if x.operation = .quit then [.shutdown, .echo (Text.trim text)]
        else [.echo (Text.trim text)])) :
    CarriedOut before after text x := by
  refine ⟨hread, hsession, hfinished, hcanvas, hconsole, fun kept hkept ↦ ?_, fun kept hkept ↦ ?_⟩
  · rw [hconsole, hkept, Console.tellAll_memory]
    split <;> rfl
  · rw [hconsole, hkept, Console.tellAll_plain]
    split <;> simp [Feedback.withoutShutdowns]

/-- **Lines are atomic.** In every state of an interpreter, reached by whatever steps, a command
line is ignored, refused or carried out: just one of the three. -/
theorem exactly_one_line_effect (i : Interpreter) (files : Files) (text : String)
    (number : Option Nat) :
    ExactlyOne (Ignored i (i.take files (.line text number)) text)
      (Refused i (i.take files (.line text number)) text number)
      (∃ invocation, CarriedOut i (i.take files (.line text number)) text invocation) := by
  have hread : Invocation.ofLine (Text.trim text) = Invocation.ofWords (Text.words text) := by
    rw [Invocation.ofLine, Text.words_trim]
  apply exactlyOne_of_or
  cases i.session.lineCase text number with
  | blank hw hr =>
    rw [take_line, hr]
    exact Or.inl ⟨Text.words_eq_nil_iff.mp hw, rfl, rfl, rfl, rfl⟩
  | malformed e hw hr =>
    -- It cannot be read.
    refine Or.inr (Or.inl (refused_of_process files hr ?_))
    rw [Session.attempt, hread, hw]
  | quit hw hr =>
    obtain ⟨x, hx, hq⟩ := Invocation.ofWords_of_asks hw
    have hop : x.operation = .quit := (Invocation.operation_eq_quit_iff hq).mpr rfl
    rw [take_line, hr]
    refine Or.inr (Or.inr ⟨x, .of_console (hread.trans hx) ⟨_, Session.execute_of_quit hq, rfl⟩ ?_
      (Or.inl rfl) ?_⟩)
    · simp [hop]
    · rw [if_pos hop]
      rfl
  | failed a e hw he hr =>
    -- It can be read, but the turtles do not allow it.
    obtain ⟨x, hx, hq⟩ := Invocation.ofWords_of_asks hw
    refine Or.inr (Or.inl (refused_of_process files hr ?_))
    rw [Session.attempt, hread, hx]
    simp only [Session.execute_of_act hq, he, Except.map]
  | done a w hw hd hr =>
    obtain ⟨x, hx, hq⟩ := Invocation.ofWords_of_asks hw
    have hop : x.operation ≠ .quit := fun h ↦ by
      cases (Invocation.operation_eq_quit_iff hq).mp h
    have hexecute := Session.execute_of_act (s := i.session) hq
    rw [hd] at hexecute
    rw [take_line, hr]
    refine Or.inr (Or.inr ⟨x, .of_console (hread.trans hx) ⟨_, hexecute, rfl⟩ ?_ ?_ ?_⟩)
    · simp [hop]
    · rw [Session.accept_drawn]
      cases w.drawn with
      | none => exact Or.inl rfl
      | some s => exact Or.inr ⟨s, rfl⟩
    · rw [if_neg hop, Session.accept_feedback]

end Interpreter

end TurtleScript
