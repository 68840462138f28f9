import TurtleScript.Proofs.Session.Lines
import TurtleScript.Session.Interpreter

/-!
# Canvas and console

The session decides everything before canvas and console are reached. Receiving a reply only passes
on its segments and its feedback, each in order (`receiveReply_eq`), and so does a whole run
of steps (`takeAll_eq`) or of lines (`takeAll_lines`). A console keeps what it is told behind what it
has kept so far, all of it or all but the shutdowns (`tellAll_memory`, `tellAll_plain`).
-/

namespace TurtleScript

/-- What the user is told, without the shutdowns. -/
def Feedback.withoutShutdowns (feedback : List Feedback) : List Feedback :=
  feedback.filter (· ≠ .shutdown)

namespace Console

/-- Give some feedback to a console, in order. -/
def tellAll (console : Console) (feedback : List Feedback) : Console := feedback.foldl tell console

theorem tellAll_append (console : Console) (a b : List Feedback) :
    console.tellAll (a ++ b) = (console.tellAll a).tellAll b := List.foldl_append

/-- A console with a memory keeps all that it is told behind what it has kept so far. -/
theorem tellAll_memory (entries : Array Feedback) (feedback : List Feedback) :
    (memory entries).tellAll feedback = memory (entries ++ feedback.toArray) := by
  induction feedback generalizing entries with
  | nil => simp [tellAll]
  | cons f feedback ih =>
    have htell : (memory entries).tellAll (f :: feedback)
        = (memory (entries.push f)).tellAll feedback := rfl
    rw [htell, ih]
    simp

/-- A console that takes no notice of a shutdown keeps all the rest. -/
theorem tellAll_plain (kept : Array Feedback) (feedback : List Feedback) :
    (plain kept).tellAll feedback =
      plain (kept ++ (Feedback.withoutShutdowns feedback).toArray) := by
  induction feedback generalizing kept with
  | nil => simp [tellAll, Feedback.withoutShutdowns]
  | cons f feedback ih =>
    have htell : (plain kept).tellAll (f :: feedback) =
        ((plain kept).tell f).tellAll feedback := rfl
    cases f <;> rw [htell, tell, ih] <;> simp [Feedback.withoutShutdowns]

/-- Every console keeps a message behind what it has kept so far. -/
theorem entries_tell_error (console : Console) (message : String) :
    (console.tell (.error message)).entries = console.entries.push (.error message) := by
  cases console <;> rfl

end Console

/-- A line as a step. -/
def Interpreter.lineStep (line : Line) : Step := .line line.1 line.2

namespace Session

/-! ## Steps -/

/-- Take some steps. -/
def takeAll (s : Session) (files : Files) : List Step → Reply
  | [] => s.idle
  | step :: steps => (s.take files step).andThen fun s ↦ s.takeAll files steps

variable (s : Session) (files : Files)

@[simp] theorem takeAll_nil : s.takeAll files [] = s.idle := rfl

@[simp] theorem takeAll_cons (step : Step) (steps : List Step) :
    s.takeAll files (step :: steps) =
      (s.take files step).andThen fun s ↦ s.takeAll files steps := rfl

theorem takeAll_append (a b : List Step) :
    s.takeAll files (a ++ b) = (s.takeAll files a).andThen fun s ↦ s.takeAll files b := by
  induction a generalizing s with
  | nil => rfl
  | cons step a ih =>
    rw [List.cons_append, takeAll_cons, takeAll_cons, Reply.andThen_assoc]
    simp only [ih]

theorem takeAll_lineSteps (lines : List Line) :
    s.takeAll files (lines.map Interpreter.lineStep) = s.processAll lines := by
  induction lines generalizing s with
  | nil => rfl
  | cons line lines ih =>
    rw [List.map_cons, takeAll_cons, processAll_cons]
    simp only [ih]
    rfl

end Session

namespace Interpreter

/-! ## Receiving -/

theorem foldl_receive (events : List Event) (i : Interpreter) :
    events.foldl receive i = ⟨i.session, i.canvas.drawAll (events.filterMap Event.segment?),
      i.console.tellAll (events.filterMap Event.feedback?)⟩ := by
  induction events generalizing i with
  | nil => rfl
  | cons event events ih =>
    rw [List.foldl_cons, ih]
    cases event <;> rfl

/-- **Canvas and console only receive.** The canvas gets the segments and the console the
feedback. -/
theorem receiveReply_eq (i : Interpreter) (r : Reply) :
    i.receiveReply r =
      ⟨r.session, i.canvas.drawAll r.drawn, i.console.tellAll r.feedback⟩ :=
  foldl_receive r.events _

theorem take_line (i : Interpreter) (files : Files) (text : String) (number : Option Nat) :
    i.take files (.line text number) =
      ⟨(i.session.process text number).session,
        i.canvas.drawAll (i.session.process text number).drawn,
        i.console.tellAll (i.session.process text number).feedback⟩ :=
  receiveReply_eq i _

theorem takeAll_cons (i : Interpreter) (files : Files) (step : Step) (steps : List Step) :
    i.takeAll files (step :: steps) = (i.take files step).takeAll files steps :=
  List.foldl_cons ..

/-- **A run of steps.** Canvas and console receive what the steps do, in their order. -/
theorem takeAll_eq (i : Interpreter) (files : Files) (steps : List Step) :
    i.takeAll files steps =
      ⟨(i.session.takeAll files steps).session,
        i.canvas.drawAll (i.session.takeAll files steps).drawn,
        i.console.tellAll (i.session.takeAll files steps).feedback⟩ := by
  induction steps generalizing i with
  | nil => rfl
  | cons step steps ih =>
    rw [takeAll_cons, ih, take, receiveReply_eq, Session.takeAll_cons, Reply.session_andThen,
      Reply.drawn_andThen, Reply.feedback_andThen, Canvas.drawAll_append, Console.tellAll_append]

/-- A run of steps from the start, with a console that keeps everything. -/
theorem takeAll_start (canvas : Canvas) (files : Files) (steps : List Step) :
    (start canvas (.memory #[])).takeAll files steps =
      ⟨(Session.start.takeAll files steps).session,
        canvas.drawAll (Session.start.takeAll files steps).drawn,
        .memory (Session.start.takeAll files steps).feedback.toArray⟩ := by
  rw [takeAll_eq, start, Console.tellAll_memory, Array.empty_append]

/-- A run of lines. -/
theorem takeAll_lines (i : Interpreter) (files : Files) (lines : List Line) :
    i.takeAll files (lines.map lineStep) =
      ⟨(i.session.processAll lines).session, i.canvas.drawAll (i.session.processAll lines).drawn,
        i.console.tellAll (i.session.processAll lines).feedback⟩ := by
  rw [takeAll_eq, Session.takeAll_lineSteps]

end Interpreter

end TurtleScript
