import TurtleScript.Proofs.Session.Answers
import TurtleScript.Proofs.Text.FileLines

/-!
# Many files are one long file

A session that takes some files in order does what it would do with one file that holds them all,
one behind the other (`files_as_one`). Between two files nothing can go wrong: a last line without
a newline is completed, so no line of one file runs into a line of the next.

The lines of all files are also taken in one go, up to the command to stop. That a session
stops between files and that it stops between the lines of a file are then the same thing.
-/

namespace TurtleScript

/-! ## What files hold -/

/-- The lines that are read from a path, given what comes of opening it. -/
def linesOf : Opening → List Bytes
  | .ok (.file bytes) => Utf8.lines bytes
  | _ => []

theorem exists_of_mem_linesOf {opening : Opening} {line : Bytes} (h : line ∈ linesOf opening) :
    ∃ bytes, opening = .ok (.file bytes) ∧ line ∈ Utf8.lines bytes := by
  match opening with
  | .ok (.file bytes) => exact ⟨bytes, rfl, h⟩
  | .ok .directory => cases h
  | .error failure => cases h

/-- The contents of the files among some paths, one behind the other. A content that does not end
with a newline gets one, unless it is empty. -/
def joined (files : Files) (paths : List Bytes) : Bytes :=
  paths.flatMap fun path ↦
    match files path with
    | .ok (.file bytes) => Utf8.completed bytes
    | _ => []

/-- A line of a file as it is read. -/
def lineText (line : Bytes) : String := Text.trim (Utf8.lossy line)

/-- **No line runs into the next file.** The files joined have the lines of them all. -/
theorem map_lineText_joined (files : Files) (paths : List Bytes) :
    (Utf8.lines (joined files paths)).map lineText =
      (paths.flatMap fun path ↦ linesOf (files path)).map lineText := by
  induction paths with
  | nil => rfl
  | cons path paths ih =>
    rw [joined, List.flatMap_cons, ← joined, List.flatMap_cons, List.map_append, ← ih]
    match files path with
    | .ok (.file bytes) =>
      have hcompleted : (Utf8.lines (Utf8.completed bytes)).map lineText =
          (Utf8.lines bytes).map lineText := Utf8.map_trim_lines_completed bytes
      simp only [linesOf]
      rw [Utf8.lines_append (Utf8.complete_completed bytes), List.map_append, hcompleted]
    | .ok .directory => rfl
    | .error failure => rfl

/-! ## Lines up to the command to stop -/

/-- The lines of a file with their numbers. -/
def numbered (number : Nat) (lines : List Bytes) : List Line :=
  (lines.zipIdx number).map fun line ↦ (Utf8.lossy line.1, some line.2)

/-- Some lines up to the first that is the command to stop. -/
def upToQuit : List Line → List Line
  | [] => []
  | line :: lines => if line.words = ["quit"] then [line] else line :: upToQuit lines

theorem Asks.quit_iff {ws : List String} : Asks ws .quit ↔ ws = ["quit"] := by
  constructor
  · intro h
    cases h
    rfl
  · rintro rfl
    exact .quit

namespace Session

/-- A line stops a session just if it is the command to stop. -/
theorem finished_process (s : Session) (text : String) (number : Option Nat) :
    (s.process text number).session.finished =
      (s.finished || decide (Text.words text = ["quit"])) := by
  have hne : ∀ {a : Action}, Asks (Text.words text) (.act a) → Text.words text ≠ ["quit"] := by
    intro a hw h
    cases Invocation.asks_unique hw (Asks.quit_iff.mpr h)
  cases s.lineCase text number with
  | blank hw hr => simp [hr, hw]
  | malformed e hw hr =>
    have hquit : Text.words text ≠ ["quit"] := by
      intro h
      obtain ⟨i, hi, -⟩ := Invocation.ofWords_of_asks (Asks.quit_iff.mpr h)
      rw [hw] at hi
      cases hi
    simp [hr, hquit]
  | quit hw hr => simp [hr, Asks.quit_iff.mp hw]
  | failed a e hw he hr => simp [hr, hne hw]
  | done a w hw hd hr => simp [hr, hne hw]

theorem runLines_of_finished {s : Session} (h : s.finished = true) (number : Nat)
    (lines : List Bytes) : s.runLines number lines = s.idle := by
  cases lines with
  | nil => rfl
  | cons line lines => rw [runLines, if_pos h]

theorem runLines_cons {s : Session} (h : ¬s.finished = true) (number : Nat) (line : Bytes)
    (lines : List Bytes) :
    s.runLines number (line :: lines) =
      (s.process (Utf8.lossy line) (some number)).andThen
        fun s ↦ s.runLines (number + 1) lines := by
  rw [runLines, if_neg h]

/-- The lines of a file are taken up to the command to stop. -/
theorem runLines_eq_processAll {s : Session} (h : ¬s.finished = true) (number : Nat)
    (lines : List Bytes) :
    s.runLines number lines = s.processAll (upToQuit (numbered number lines)) := by
  induction lines generalizing s number with
  | nil => rfl
  | cons line lines ih =>
    have hnumbered : numbered number (line :: lines) =
        (Utf8.lossy line, some number) :: numbered (number + 1) lines := rfl
    have hfinished := s.finished_process (Utf8.lossy line) (some number)
    rw [runLines_cons h, hnumbered, upToQuit, Line.words]
    -- Both sides stop here, or neither does.
    by_cases hquit : Text.words (Utf8.lossy line) = ["quit"]
    · rw [if_pos hquit, processAll_cons, Reply.andThen, Reply.andThen, runLines_of_finished]
      · rfl
      · rw [hfinished, hquit]
        simp
    · rw [if_neg hquit, processAll_cons, Reply.andThen, Reply.andThen, ih]
      rw [hfinished, decide_eq_false hquit, Bool.or_false]
      exact h

theorem finished_runLines (s : Session) (number : Nat) (lines : List Bytes) :
    (s.runLines number lines).session.finished = true ↔
      s.finished = true ∨ ∃ line ∈ lines, Text.words (Utf8.lossy line) = ["quit"] := by
  induction lines generalizing s number with
  | nil => simp [runLines]
  | cons line lines ih =>
    by_cases h : s.finished = true
    · simp [runLines_of_finished h, h]
    · rw [runLines_cons h, Reply.session_andThen, ih, finished_process]
      simp [h]

/-- Lines that are taken in two parts are numbered on. -/
theorem runLines_append (s : Session) (number : Nat) (a b : List Bytes) :
    s.runLines number (a ++ b) =
      (s.runLines number a).andThen fun s ↦ s.runLines (number + a.length) b := by
  induction a generalizing s number with
  | nil => rfl
  | cons line a ih =>
    by_cases h : s.finished = true
    · rw [runLines_of_finished h, runLines_of_finished h, idle_andThen, runLines_of_finished h]
    · rw [List.cons_append, runLines_cons h, runLines_cons h, Reply.andThen_assoc]
      simp only [ih, List.length_cons, Nat.add_assoc, Nat.add_comm 1]

/-- Lines with the same trimmed text do the same, whatever their numbers. -/
theorem sameAnswers_runLines (s : Session) (number number' : Nat) {lines lines' : List Bytes}
    (h : lines.map lineText = lines'.map lineText) :
    SameAnswers (s.runLines number lines) (s.runLines number' lines') := by
  induction lines generalizing s number number' lines' with
  | nil =>
    rw [List.map_nil, eq_comm, List.map_eq_nil_iff] at h
    rw [h]
    exact .refl _
  | cons line lines ih =>
    obtain ⟨line', lines', rfl, hline, hlines⟩ := List.map_eq_cons_iff.mp h.symm
    by_cases hs : s.finished = true
    · rw [runLines_of_finished hs, runLines_of_finished hs]
      exact .refl _
    · rw [runLines_cons hs, runLines_cons hs]
      exact (SameAnswers.process s hline.symm number number').andThen
        fun s ↦ ih s _ _ hlines.symm

/-! ## One path -/

/-- What the user is told of a path that is opened, apart from its lines. -/
def openingEntries (path : Bytes) : Opening → List Feedback
  | .error .notFound => [.error ("No such file '" ++ Utf8.lossy path ++ "'")]
  | .error failure => [.error ("Could not read '" ++ Utf8.lossy path ++ "': " ++ failure.reason)]
  | .ok (.file _) => [.echo ("Reading file: '" ++ Utf8.lossy path ++ "'")]
  | .ok .directory =>
    [.echo ("Reading file: '" ++ Utf8.lossy path ++ "'"),
      .error ("Could not read '" ++ Utf8.lossy path ++ "': " ++ directoryReason)]

theorem isFileEntry_openingEntries (path : Bytes) (opening : Opening) :
    ∀ f ∈ openingEntries path opening, f.IsFileEntry := by
  have hstarts : ∀ a b : String, a.toList <+: (a ++ b).toList := fun a b ↦ by
    rw [String.toList_append]
    exact List.prefix_append _ _
  have hecho : (Feedback.echo ("Reading file: '" ++ Utf8.lossy path ++ "'")).IsFileEntry := by
    rw [String.append_assoc]
    exact hstarts _ _
  have hunopened : (Feedback.error ("No such file '" ++ Utf8.lossy path ++ "'")).IsFileEntry := by
    rw [String.append_assoc]
    exact Or.inl (hstarts _ _)
  have hunread : ∀ reason, (Feedback.error
      ("Could not read '" ++ Utf8.lossy path ++ "': " ++ reason)).IsFileEntry := fun reason ↦ by
    rw [String.append_assoc, String.append_assoc]
    exact Or.inr (hstarts _ _)
  cases opening with
  | error failure => cases failure <;> simp [openingEntries, hunopened, hunread]
  | ok content => cases content <;> simp [openingEntries, hecho, hunread]

/-- A path that is not a file adds no more than its entries. -/
theorem runOpening_eq {s : Session} (h : ¬s.finished = true) (path : Bytes) (opening : Opening) :
    (s.runOpening path opening).session = (s.runLines 1 (linesOf opening)).session ∧
      (s.runOpening path opening).drawn = (s.runLines 1 (linesOf opening)).drawn ∧
      (s.runOpening path opening).feedback =
        openingEntries path opening ++ (s.runLines 1 (linesOf opening)).feedback := by
  cases opening with
  | error failure => cases failure <;> exact ⟨rfl, rfl, rfl⟩
  | ok content =>
    cases content with
    | file bytes => exact ⟨rfl, rfl, rfl⟩
    | directory =>
      simp only [runOpening, runContent, if_neg h, Reply.andThen]
      exact ⟨rfl, rfl, rfl⟩

/-- What a path adds to the answers is what its lines add. -/
theorem sameAnswers_runFile {s : Session} (h : ¬s.finished = true) (files : Files)
    (path : Bytes) :
    SameAnswers (s.runFile files path) (s.runLines 1 (linesOf (files path))) := by
  obtain ⟨hsession, hdrawn, hfeedback⟩ := runOpening_eq h path (files path)
  refine ⟨hsession, hdrawn, ?_⟩
  rw [runFile, hfeedback, Feedback.answers_append,
    Feedback.answers_eq_nil (isFileEntry_openingEntries path (files path)), List.nil_append]

/-! ## Many paths -/

theorem runFiles_of_finished {s : Session} (h : s.finished = true) (files : Files)
    (paths : List Bytes) : s.runFiles files paths = s.idle := by
  cases paths with
  | nil => rfl
  | cons path paths => rw [runFiles, if_pos h]

theorem runFiles_cons {s : Session} (h : ¬s.finished = true) (files : Files) (path : Bytes)
    (paths : List Bytes) :
    s.runFiles files (path :: paths) =
      (s.runFile files path).andThen fun s ↦ s.runFiles files paths := by
  rw [runFiles, if_neg h]

theorem runFiles_append (s : Session) (files : Files) (a b : List Bytes) :
    s.runFiles files (a ++ b) =
      (s.runFiles files a).andThen fun s ↦ s.runFiles files b := by
  induction a generalizing s with
  | nil => rfl
  | cons path a ih =>
    by_cases h : s.finished = true
    · rw [runFiles_of_finished h, runFiles_of_finished h, idle_andThen, runFiles_of_finished h]
    · rw [List.cons_append, runFiles_cons h, runFiles_cons h, Reply.andThen_assoc]
      simp only [ih]

/-- **Many files are one row of lines.** -/
theorem sameAnswers_runFiles (s : Session) (files : Files) (paths : List Bytes) (number : Nat) :
    SameAnswers (s.runFiles files paths)
      (s.runLines number (paths.flatMap fun path ↦ linesOf (files path))) := by
  induction paths generalizing s number with
  | nil => exact .refl _
  | cons path paths ih =>
    by_cases h : s.finished = true
    · rw [runFiles_of_finished h, runLines_of_finished h]
      exact .refl _
    · rw [runFiles_cons h, List.flatMap_cons, runLines_append]
      -- In one row the lines of this path have other numbers.
      have hfirst : SameAnswers (s.runFile files path)
          (s.runLines number (linesOf (files path))) :=
        (sameAnswers_runFile h files path).trans (sameAnswers_runLines s 1 number rfl)
      exact hfirst.andThen fun s ↦ ih s _

/-- What one more path adds. -/
theorem runFiles_concat (s : Session) (files : Files) (before : List Bytes) (path : Bytes) :
    ((s.runFiles files before).session.finished = true ∧
        s.runFiles files (before ++ [path]) = s.runFiles files before) ∨
      ((s.runFiles files before).session.finished = false ∧
        (s.runFiles files (before ++ [path])).feedback =
          (s.runFiles files before).feedback ++ openingEntries path (files path) ++
            ((s.runFiles files before).session.processAll
              (upToQuit (numbered 1 (linesOf (files path))))).feedback) := by
  by_cases h : (s.runFiles files before).session.finished = true
  · refine Or.inl ⟨h, ?_⟩
    rw [runFiles_append, Reply.andThen, runFiles_of_finished h, idle_events, List.append_nil]
    rfl
  · refine Or.inr ⟨by simpa using h, ?_⟩
    obtain ⟨-, -, hfeedback⟩ := runOpening_eq h path (files path)
    rw [runFiles_append, Reply.feedback_andThen, runFiles_cons h, Reply.feedback_andThen, runFile,
      hfeedback, runLines_eq_processAll h, runFiles, idle_feedback, List.append_nil,
      List.append_assoc]

/-- **Many files are one long file.** A new session that takes some paths does what it does with one
file that holds all the files among them: it ends up the same, it draws the same, and it gives the
same answers. Every path adds its entries and the answers to its lines, and nothing once the
command to stop has been carried out. No line can pass for an entry, so no answer is left out. -/
theorem files_as_one (files : Files) (paths : List Bytes) (whole : Bytes) :
    SameAnswers (start.runFiles files paths)
        (start.runFile (fun _ ↦ .ok (.file (joined files paths))) whole) ∧
      (∀ before path,
        ((start.runFiles files before).session.finished = true ∧
            start.runFiles files (before ++ [path]) = start.runFiles files before) ∨
          ((start.runFiles files before).session.finished = false ∧
            (start.runFiles files (before ++ [path])).feedback =
              (start.runFiles files before).feedback ++ openingEntries path (files path) ++
                ((start.runFiles files before).session.processAll
                  (upToQuit (numbered 1 (linesOf (files path))))).feedback)) ∧
      ((start.runFiles files paths).session.finished = true ↔
        ∃ path ∈ paths, ∃ line ∈ linesOf (files path), Text.words (Utf8.lossy line) = ["quit"]) ∧
      ∀ (s : Session) (text : String) (n : Nat),
        ∀ f ∈ (s.process text (some n)).feedback, ¬f.IsFileEntry := by
  have hflat := sameAnswers_runFiles start files paths 1
  have hstart : ¬start.finished = true := by decide
  refine ⟨?_, runFiles_concat start files, ?_, not_isFileEntry_of_mem_process⟩
  · have hone := sameAnswers_runFile hstart (fun _ ↦ .ok (.file (joined files paths))) whole
    have hlines := sameAnswers_runLines start 1 1 (map_lineText_joined files paths)
    exact hflat.trans (hone.trans hlines).symm
  · rw [hflat.session, finished_runLines]
    simp only [List.mem_flatMap]
    constructor
    · rintro (h | ⟨line, ⟨path, hpath, hline⟩, hquit⟩)
      · exact absurd h hstart
      · exact ⟨path, hpath, line, hline, hquit⟩
    · rintro ⟨path, hpath, line, hline, hquit⟩
      exact Or.inr ⟨line, ⟨path, hpath, hline⟩, hquit⟩

end Session

end TurtleScript
