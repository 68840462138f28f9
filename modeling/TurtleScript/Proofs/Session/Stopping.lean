import TurtleScript.Proofs.Command.Requests
import TurtleScript.Proofs.Session.Concatenation
import TurtleScript.Proofs.Session.Interpreter

/-!
# Stopping

A session is given its commands one by one or in files. In both cases there is a row of single
commands that it takes (`Session.allCommands`), and taking those one by one does the same, apart
from what is said of files (`Session.sameAnswers_allCommands`). This is where reading ahead would
show: a line behind the command to stop is not in the row.

A session has stopped just if one of its commands is the command to stop, and each of these is
announced by one shutdown (`Session.finished_takeAll`, `Session.shutdowns_takeAll`). What has
stopped stays so.
-/

namespace TurtleScript

/-! ## Single commands -/

namespace Step

/-- The step hands over a single command. -/
def IsCommand : Step → Prop
  | line .. => True
  | execute _ => True
  | _ => False

/-- The step hands over the command to stop, as a line or as an invocation. -/
def IsQuit : Step → Prop
  | line text _ => Text.words text = ["quit"]
  | execute i => i.operation = .quit ∧ i.arguments = []
  | _ => False

instance : DecidablePred IsQuit
  | line .. => inferInstanceAs (Decidable (_ = _))
  | execute _ => inferInstanceAs (Decidable (_ ∧ _))
  | file _ => inferInstanceAs (Decidable False)
  | files _ => inferInstanceAs (Decidable False)

end Step

theorem SameAnswers.andThen_right {r : Reply} {next next' : Session → Reply}
    (h : SameAnswers (next r.session) (next' r.session)) :
    SameAnswers (r.andThen next) (r.andThen next') := by
  refine ⟨h.session, ?_, ?_⟩
  · rw [Reply.drawn_andThen, Reply.drawn_andThen, h.drawn]
  · rw [Reply.feedback_andThen, Reply.feedback_andThen, Feedback.answers_append,
      Feedback.answers_append, h.answers]

namespace Session

/-- The lines that are taken from some paths: all of them up to the command to stop, and none if
that has been given before. -/
def linesTaken (s : Session) (files : Files) (paths : List Bytes) : List Line :=
  if s.finished then []
  else upToQuit (paths.flatMap fun path ↦ numbered 1 (linesOf (files path)))

/-- The single commands that are taken in a step. -/
def commands (s : Session) (files : Files) : Step → List Step
  | .line text number => [.line text number]
  | .execute i => [.execute i]
  | .file path => (s.linesTaken files [path]).map Interpreter.lineStep
  | .files paths => (s.linesTaken files paths).map Interpreter.lineStep

/-- The single commands that are taken in some steps. -/
def allCommands (s : Session) (files : Files) : List Step → List Step
  | [] => []
  | step :: steps =>
    s.commands files step ++ (s.take files step).session.allCommands files steps

theorem isCommand_of_mem_commands {s : Session} {files : Files} {step c : Step}
    (hc : c ∈ s.commands files step) : c.IsCommand := by
  have hlines : ∀ lines : List Line, c ∈ lines.map Interpreter.lineStep → c.IsCommand := by
    intro lines h
    obtain ⟨line, -, rfl⟩ := List.mem_map.mp h
    trivial
  cases step with
  | line text number =>
    rw [List.mem_singleton.mp hc]
    trivial
  | execute i =>
    rw [List.mem_singleton.mp hc]
    trivial
  | file path => exact hlines _ hc
  | files paths => exact hlines _ hc

theorem isCommand_of_mem_allCommands {s : Session} {files : Files} {steps : List Step} {c : Step}
    (hc : c ∈ s.allCommands files steps) : c.IsCommand := by
  induction steps generalizing s with
  | nil => cases hc
  | cons step steps ih =>
    rcases List.mem_append.mp hc with hc | hc
    · exact isCommand_of_mem_commands hc
    · exact ih hc

/-! ## Taking the commands one by one -/

/-- Lines up to the command to stop may be taken in two parts. The second one is not reached if the
command is in the first. -/
theorem processAll_upToQuit_append {s : Session} (h : ¬s.finished = true) (a b : List Line) :
    s.processAll (upToQuit (a ++ b)) = (s.processAll (upToQuit a)).andThen fun s ↦
      s.processAll (if s.finished then [] else upToQuit b) := by
  induction a generalizing s with
  | nil =>
    rw [List.nil_append, upToQuit, processAll_nil, idle_andThen, if_neg h]
  | cons line a ih =>
    have hfinished : (s.process line.1 line.2).session.finished =
        (s.finished || decide (line.words = ["quit"])) := s.finished_process line.1 line.2
    rw [List.cons_append, upToQuit, upToQuit]
    by_cases hquit : line.words = ["quit"]
    · -- The command is here, and the second part is not reached.
      have hstops : (s.process line.1 line.2).session.finished = true := by
        rw [hfinished, decide_eq_true hquit, Bool.or_true]
      rw [if_pos hquit, if_pos hquit, eq_comm]
      apply andThen_of_idle
      rw [processAll_cons, Reply.session_andThen, processAll_nil, idle_session, if_pos hstops,
        processAll_nil]
    · have hgoes : ¬(s.process line.1 line.2).session.finished = true := by
        rw [hfinished, decide_eq_false hquit, Bool.or_false]
        exact h
      rw [if_neg hquit, if_neg hquit, processAll_cons, processAll_cons, Reply.andThen_assoc,
        Reply.andThen, ih hgoes]
      rfl

/-- **Paths are taken line by line.** -/
theorem sameAnswers_linesTaken (s : Session) (files : Files) (paths : List Bytes) :
    SameAnswers (s.runFiles files paths) (s.processAll (s.linesTaken files paths)) := by
  induction paths generalizing s with
  | nil =>
    rw [linesTaken, List.flatMap_nil, upToQuit, ite_self]
    exact .refl _
  | cons path paths ih =>
    by_cases h : s.finished = true
    · rw [runFiles_of_finished h, linesTaken, if_pos h]
      exact .refl _
    · have hfirst := sameAnswers_runFile h files path
      rw [runLines_eq_processAll h] at hfirst
      rw [runFiles_cons h, linesTaken, if_neg h, List.flatMap_cons, processAll_upToQuit_append h]
      exact hfirst.andThen ih

/-! ## Paths handed to a session that has stopped -/

/-- What the user is told when a path has been opened, or could not be. -/
def openingEntry (path : Bytes) : Opening → Feedback
  | .error failure => .error (unopenedText path failure)
  | .ok _ => .echo (readingText path)

theorem openingEntry_mem (path : Bytes) (opening : Opening) :
    openingEntry path opening ∈ openingEntries path opening := by
  cases opening with
  | error failure => cases failure <;> exact List.mem_cons_self
  | ok content => cases content <;> exact List.mem_cons_self

/-- No line is read from a path by a session that has stopped. -/
theorem runOpening_of_finished {s : Session} (h : s.finished = true) (path : Bytes)
    (opening : Opening) :
    (s.runOpening path opening).session = s ∧ (s.runOpening path opening).drawn = [] ∧
      (s.runOpening path opening).feedback = [openingEntry path opening] := by
  cases opening with
  | error failure => exact ⟨rfl, rfl, rfl⟩
  | ok content =>
    have hcontent : s.runContent path content = s.idle := by
      cases content with
      | file bytes => exact runLines_of_finished h 1 _
      | directory => exact if_pos h
    rw [runOpening, andThen_of_idle hcontent]
    exact ⟨rfl, rfl, rfl⟩

theorem sameAnswers_runFile_linesTaken (s : Session) (files : Files) (path : Bytes) :
    SameAnswers (s.runFile files path) (s.processAll (s.linesTaken files [path])) := by
  by_cases h : s.finished = true
  · obtain ⟨hsession, hdrawn, hfeedback⟩ := runOpening_of_finished h path (files path)
    have hentry : Feedback.answers [openingEntry path (files path)] = [] := by
      apply Feedback.answers_eq_nil
      intro f hf
      rw [List.mem_singleton.mp hf]
      exact isFileEntry_openingEntries path (files path) _ (openingEntry_mem path (files path))
    rw [linesTaken, if_pos h]
    refine ⟨hsession, hdrawn, ?_⟩
    rw [runFile, hfeedback, hentry]
    rfl
  · have hone : s.runFiles files [path] = s.runFile files path := by
      rw [runFiles_cons h]
      exact andThen_idle _
    rw [← hone]
    exact s.sameAnswers_linesTaken files [path]

/-! ## Steps are rows of commands -/

/-- A step does what its commands do. -/
theorem sameAnswers_commands (s : Session) (files : Files) (step : Step) :
    SameAnswers (s.take files step) (s.takeAll files (s.commands files step)) := by
  have hsingle : ∀ step : Step, s.takeAll files [step] = s.take files step := by
    intro step
    rw [takeAll_cons]
    exact andThen_idle _
  cases step with
  | line text number =>
    rw [commands, hsingle]
    exact .refl _
  | execute i =>
    rw [commands, hsingle]
    exact .refl _
  | file path =>
    rw [commands, takeAll_lineSteps]
    exact s.sameAnswers_runFile_linesTaken files path
  | files paths =>
    rw [commands, takeAll_lineSteps]
    exact s.sameAnswers_linesTaken files paths

/-- **Steps are one row of commands.** Taking it does what the steps do, apart from what is said of
files. -/
theorem sameAnswers_allCommands (s : Session) (files : Files) (steps : List Step) :
    SameAnswers (s.takeAll files steps) (s.takeAll files (s.allCommands files steps)) := by
  induction steps generalizing s with
  | nil => exact .refl _
  | cons step steps ih =>
    have hstep := s.sameAnswers_commands files step
    rw [takeAll_cons, allCommands, takeAll_append]
    refine (hstep.andThen fun s ↦ .refl _).trans ?_
    apply SameAnswers.andThen_right
    rw [← hstep.session]
    exact ih _

/-! ## Shutdowns -/

theorem shutdowns_process (s : Session) (text : String) (number : Option Nat) :
    (s.process text number).feedback.count .shutdown =
      if Text.words text = ["quit"] then 1 else 0 := by
  by_cases hquit : Text.words text = ["quit"]
  · rw [process_of_quit (Asks.quit_iff.mpr hquit), stop_feedback, if_pos hquit]
    rfl
  · rw [if_neg hquit]
    cases s.lineCase text number with
    | blank hw hr =>
      rw [hr]
      rfl
    | malformed e hw hr =>
      rw [hr]
      rfl
    | quit hw hr => exact absurd (Asks.quit_iff.mp hw) hquit
    | failed a e hw he hr =>
      rw [hr]
      rfl
    | done a w hw hd hr =>
      rw [hr, accept_feedback]
      rfl

/-- The invocation to stop stops a session and is announced. No other invocation says anything. -/
theorem take_execute (s : Session) (files : Files) (i : Invocation) :
    ((s.take files (.execute i)).session.finished = true ↔
        s.finished = true ∨ Step.IsQuit (.execute i)) ∧
      (s.take files (.execute i)).feedback.count .shutdown =
        if Step.IsQuit (.execute i) then 1 else 0 := by
  have hquit : Step.IsQuit (.execute i) ↔ i.request? = some .quit :=
    Invocation.request?_eq_quit_iff.symm
  by_cases h : i.request? = some .quit
  · have htake : s.take files (.execute i) =
        ⟨{ s with finished := true }, [.noted .quit, .told .shutdown]⟩ := by
      simp only [take, execute_of_quit h]
    rw [htake, if_pos (hquit.mpr h)]
    exact ⟨iff_of_true rfl (Or.inr (hquit.mpr h)), rfl⟩
  · have hsame : (s.take files (.execute i)).session.finished = s.finished ∧
        (s.take files (.execute i)).feedback = [] := by
      rw [take]
      cases hr : s.execute i with
      | error e => exact ⟨rfl, rfl⟩
      | ok r =>
        rcases execute_cases hr with ⟨hq, -⟩ | ⟨a, w, -, -, rfl⟩
        · exact absurd hq h
        · refine ⟨rfl, ?_⟩
          rw [Reply.feedback]
          cases w.drawn <;> rfl
    rw [hsame.1, hsame.2, if_neg (hquit.not.mpr h)]
    exact ⟨by simp [hquit, h], rfl⟩

theorem take_of_isCommand (s : Session) (files : Files) {c : Step} (hc : c.IsCommand) :
    ((s.take files c).session.finished = true ↔ s.finished = true ∨ c.IsQuit) ∧
      (s.take files c).feedback.count .shutdown = if c.IsQuit then 1 else 0 := by
  cases c with
  | line text number =>
    rw [take, finished_process, shutdowns_process, Bool.or_eq_true, decide_eq_true_iff]
    exact ⟨Iff.rfl, if_congr Iff.rfl rfl rfl⟩
  | execute i => exact s.take_execute files i
  | file path => exact hc.elim
  | files paths => exact hc.elim

theorem takeAll_of_isCommand (s : Session) (files : Files) {cs : List Step}
    (hcs : ∀ c ∈ cs, c.IsCommand) :
    ((s.takeAll files cs).session.finished = true ↔ s.finished = true ∨ ∃ c ∈ cs, c.IsQuit) ∧
      (s.takeAll files cs).feedback.count .shutdown = cs.countP fun c ↦ decide c.IsQuit := by
  induction cs generalizing s with
  | nil => simp
  | cons c cs ih =>
    obtain ⟨hfinished, hshutdowns⟩ := s.take_of_isCommand files (hcs c List.mem_cons_self)
    obtain ⟨ihfinished, ihshutdowns⟩ :=
      ih (s.take files c).session fun d hd ↦ hcs d (List.mem_cons_of_mem _ hd)
    rw [takeAll_cons, Reply.session_andThen, ihfinished, hfinished, Reply.feedback_andThen,
      List.count_append, hshutdowns, ihshutdowns, List.countP_cons]
    refine ⟨by simp [or_assoc], ?_⟩
    simp [Nat.add_comm]

end Session

theorem Feedback.count_shutdown_answers (feedback : List Feedback) :
    (answers feedback).count .shutdown = feedback.count .shutdown := by
  have hsingle : ∀ f : Feedback, (answers [f]).count .shutdown = [f].count .shutdown := by
    intro f
    cases f with
    | shutdown => rfl
    | echo text => by_cases h : (echo text).IsFileEntry <;> simp [answers, h, unnumbered]
    | error text =>
      by_cases h : (error text).IsFileEntry
      · simp [answers, h]
      · simp only [answers, unnumbered, h, not_false_iff, decide_true, List.filter_cons_of_pos,
          List.filter_nil, List.map_singleton]
        split <;> simp
  induction feedback with
  | nil => rfl
  | cons f feedback ih =>
    have hcons : f :: feedback = [f] ++ feedback := rfl
    rw [hcons, answers_append, List.count_append, List.count_append, ih, hsingle]

namespace Session

/-- **Stopping.** A session has stopped just if one of its commands is the command to stop. -/
theorem finished_takeAll (s : Session) (files : Files) (steps : List Step) :
    (s.takeAll files steps).session.finished = true ↔
      s.finished = true ∨ ∃ c ∈ s.allCommands files steps, c.IsQuit := by
  rw [(s.sameAnswers_allCommands files steps).session]
  exact (s.takeAll_of_isCommand files fun c ↦ isCommand_of_mem_allCommands).1

/-- **Shutdowns.** Each command to stop is announced once, and nothing else is. -/
theorem shutdowns_takeAll (s : Session) (files : Files) (steps : List Step) :
    (s.takeAll files steps).feedback.count .shutdown =
      (s.allCommands files steps).countP fun c ↦ decide c.IsQuit := by
  rw [← Feedback.count_shutdown_answers, (s.sameAnswers_allCommands files steps).answers,
    Feedback.count_shutdown_answers]
  exact (s.takeAll_of_isCommand files fun c ↦ isCommand_of_mem_allCommands).2

end Session

/-! ## Interpreters -/

namespace Interpreter

/-- A path that is handed to an interpreter that has stopped is opened, and that is all. -/
theorem take_file_of_finished {i : Interpreter} (h : i.session.finished = true) (files : Files)
    (path : Bytes) :
    i.take files (.file path) =
      { i with console := i.console.tell (Session.openingEntry path (files path)) } := by
  obtain ⟨hsession, hdrawn, hfeedback⟩ := Session.runOpening_of_finished h path (files path)
  rw [take, receiveReply_eq, Session.take, Session.runFile, hsession, hdrawn, hfeedback]
  rfl

end Interpreter

end TurtleScript
