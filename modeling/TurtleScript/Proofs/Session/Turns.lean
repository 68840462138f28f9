import TurtleScript.Proofs.Session.Concatenation

/-!
# Turns

All that a run of the program takes is a row of turns: a path is opened, a line of a file is read, a
line is typed. The row is known before the run starts. Nothing that comes of a turn adds another
one or takes one away, and a session takes them all, up to the command to stop
(`Session.map_fst_account`).

So whatever goes wrong in a turn, the next one follows. `Session.account` tells what has come of
each of them, which is all that has happened (`Session.events_follow`).
-/

namespace TurtleScript

/-- Something that has its turn. -/
inductive Turn where
  /-- A path is opened. The lines of a file have turns of their own. -/
  | path (path : Bytes) (opening : Opening)
  /-- A line is read, with its number if it comes from a file. -/
  | line (text : String) (number : Option Nat)

namespace Turn

/-- The command to stop has its turn. -/
def IsQuit : Turn → Prop
  | path .. => False
  | line text _ => Text.words text = ["quit"]

instance : DecidablePred IsQuit
  | path .. => inferInstanceAs (Decidable False)
  | line .. => inferInstanceAs (Decidable (_ = _))

@[simp] theorem not_isQuit_path (name : Bytes) (opening : Opening) : ¬(path name opening).IsQuit :=
  id

@[simp] theorem isQuit_line {text : String} {number : Option Nat} :
    (line text number).IsQuit ↔ Text.words text = ["quit"] := Iff.rfl

/-- Some turns up to the first that is the command to stop. -/
def upToQuit : List Turn → List Turn
  | [] => []
  | turn :: turns => if turn.IsQuit then [turn] else turn :: upToQuit turns

/-- The turns of the lines of a file from a line number on. -/
def ofLines (number : Nat) (lines : List Bytes) : List Turn :=
  (numbered number lines).map fun line ↦ .line line.1 line.2

/-- The turns of a path, given what comes of opening it. -/
def ofPath (path : Bytes) (opening : Opening) : List Turn :=
  .path path opening :: ofLines 1 (linesOf opening)

/-- The turns of some paths. -/
def ofPaths (files : Files) (paths : List Bytes) : List Turn :=
  paths.flatMap fun path ↦ ofPath path (files path)

theorem mem_ofLines {turn : Turn} {number : Nat} {lines : List Bytes}
    (h : turn ∈ ofLines number lines) :
    ∃ line ∈ lines, ∃ k, turn = .line (Utf8.lossy line) (some k) := by
  rw [ofLines, numbered, List.map_map] at h
  obtain ⟨⟨line, k⟩, hmem, rfl⟩ := List.mem_map.mp h
  exact ⟨line, List.fst_mem_of_mem_zipIdx hmem, k, rfl⟩

theorem exists_isQuit_ofLines {number : Nat} {lines : List Bytes} :
    (∃ turn ∈ ofLines number lines, turn.IsQuit) ↔
      ∃ line ∈ lines, Text.words (Utf8.lossy line) = ["quit"] := by
  constructor
  · rintro ⟨turn, hmem, hquit⟩
    obtain ⟨line, hline, k, rfl⟩ := mem_ofLines hmem
    exact ⟨line, hline, hquit⟩
  · rintro ⟨line, hline, hquit⟩
    obtain ⟨k, hk, rfl⟩ := List.getElem_of_mem hline
    refine ⟨.line (Utf8.lossy lines[k]) (some (number + k)), ?_, hquit⟩
    rw [ofLines, numbered, List.map_map, List.mem_map]
    exact ⟨(lines[k], number + k), List.mk_add_mem_zipIdx_iff_getElem?.mpr (by simp), rfl⟩

theorem exists_isQuit_ofPaths {files : Files} {paths : List Bytes} :
    (∃ turn ∈ ofPaths files paths, turn.IsQuit) ↔
      ∃ path ∈ paths, ∃ line ∈ linesOf (files path), Text.words (Utf8.lossy line) = ["quit"] := by
  constructor
  · rintro ⟨turn, hmem, hquit⟩
    obtain ⟨path, hpath, hmem⟩ := List.mem_flatMap.mp hmem
    rcases List.mem_cons.mp hmem with rfl | hmem
    · cases hquit
    · exact ⟨path, hpath, exists_isQuit_ofLines.mp ⟨turn, hmem, hquit⟩⟩
  · rintro ⟨path, hpath, hline⟩
    obtain ⟨turn, hmem, hquit⟩ := exists_isQuit_ofLines.mpr hline
    exact ⟨turn, List.mem_flatMap.mpr ⟨path, hpath, List.mem_cons_of_mem _ hmem⟩, hquit⟩

end Turn

namespace Session

/-! ## Taking turns -/

/-- What happens when a path is opened, apart from its lines. -/
def openingEvents (path : Bytes) : Opening → List Event
  | .error failure =>
    [.noted (.cannotOpen path failure), .told (.error (unopenedText path failure))]
  | .ok (.file _) => [.told (.echo (readingText path))]
  | .ok .directory =>
    [.told (.echo (readingText path)), .noted (.cannotRead path),
      .told (.error (unreadableText path directoryReason))]

/-- Take one turn. -/
def takeTurn (s : Session) : Turn → Reply
  | .path path opening => ⟨s, openingEvents path opening⟩
  | .line text number => s.process text number

/-- Take some turns, up to the command to stop. -/
def follow (s : Session) : List Turn → Reply
  | [] => s.idle
  | turn :: turns =>
    if s.finished then s.idle else (s.takeTurn turn).andThen fun s ↦ s.follow turns

/-- The turns that are taken, with what comes of each. -/
def account (s : Session) : List Turn → List (Turn × Reply)
  | [] => []
  | turn :: turns =>
    if s.finished then []
    else (turn, s.takeTurn turn) :: (s.takeTurn turn).session.account turns

theorem finished_takeTurn (s : Session) (turn : Turn) :
    (s.takeTurn turn).session.finished = (s.finished || decide turn.IsQuit) := by
  cases turn with
  | path path opening => simp [takeTurn]
  | line text number => simp [takeTurn, finished_process]

theorem follow_of_finished {s : Session} (h : s.finished = true) (turns : List Turn) :
    s.follow turns = s.idle := by
  cases turns with
  | nil => rfl
  | cons turn turns => rw [follow, if_pos h]

theorem follow_cons {s : Session} (h : ¬s.finished = true) (turn : Turn) (turns : List Turn) :
    s.follow (turn :: turns) = (s.takeTurn turn).andThen fun s ↦ s.follow turns := by
  rw [follow, if_neg h]

theorem follow_append (s : Session) (a b : List Turn) :
    s.follow (a ++ b) = (s.follow a).andThen fun s ↦ s.follow b := by
  induction a generalizing s with
  | nil => rfl
  | cons turn a ih =>
    by_cases h : s.finished = true
    · rw [follow_of_finished h, follow_of_finished h, idle_andThen, follow_of_finished h]
    · rw [List.cons_append, follow_cons h, follow_cons h, Reply.andThen_assoc]
      simp only [ih]

theorem finished_follow (s : Session) (turns : List Turn) :
    (s.follow turns).session.finished = true ↔
      s.finished = true ∨ ∃ turn ∈ turns, turn.IsQuit := by
  induction turns generalizing s with
  | nil => simp [follow]
  | cons turn turns ih =>
    by_cases h : s.finished = true
    · simp [follow_of_finished h, h]
    · rw [follow_cons h, Reply.session_andThen, ih, finished_takeTurn]
      simp [h]

/-- What is done is what is done in the turns. -/
theorem events_follow (s : Session) (turns : List Turn) :
    (s.follow turns).events = (s.account turns).flatMap fun entry ↦ entry.2.events := by
  induction turns generalizing s with
  | nil => rfl
  | cons turn turns ih =>
    by_cases h : s.finished = true
    · rw [follow_of_finished h, account, if_pos h]
      rfl
    · rw [follow_cons h, account, if_neg h, Reply.events_andThen, ih, List.flatMap_cons]

/-- **Only the command to stop stops.** All turns are taken up to that, whatever comes of them. -/
theorem map_fst_account {s : Session} (h : ¬s.finished = true) (turns : List Turn) :
    (s.account turns).map Prod.fst = Turn.upToQuit turns := by
  induction turns generalizing s with
  | nil => rfl
  | cons turn turns ih =>
    have hfinished := s.finished_takeTurn turn
    rw [account, if_neg h, List.map_cons, Turn.upToQuit]
    by_cases hquit : turn.IsQuit
    · rw [decide_eq_true hquit, Bool.or_true] at hfinished
      rw [if_pos hquit]
      cases turns with
      | nil => rfl
      | cons next turns => rw [account, if_pos hfinished, List.map_nil]
    · rw [decide_eq_false hquit, Bool.or_false] at hfinished
      rw [if_neg hquit, ih (by rwa [hfinished])]

/-- What comes of a turn depends on nothing but the turn and the session before it. -/
theorem of_mem_account {s : Session} {turns : List Turn} {entry : Turn × Reply}
    (h : entry ∈ s.account turns) :
    entry.1 ∈ turns ∧ ∃ before : Session, entry.2 = before.takeTurn entry.1 := by
  induction turns generalizing s with
  | nil => cases h
  | cons turn turns ih =>
    rw [account] at h
    split at h
    · cases h
    · rcases List.mem_cons.mp h with rfl | h
      · exact ⟨List.mem_cons_self, s, rfl⟩
      · exact ⟨List.mem_cons_of_mem _ (ih h).1, (ih h).2⟩

/-! ## Files -/

theorem runLines_eq_follow (s : Session) (number : Nat) (lines : List Bytes) :
    s.runLines number lines = s.follow (Turn.ofLines number lines) := by
  induction lines generalizing s number with
  | nil => rfl
  | cons line lines ih =>
    by_cases h : s.finished = true
    · rw [runLines_of_finished h, follow_of_finished h]
    · have hturns : Turn.ofLines number (line :: lines) =
          .line (Utf8.lossy line) (some number) :: Turn.ofLines (number + 1) lines := rfl
      rw [runLines_cons h, hturns, follow_cons h, takeTurn]
      simp only [ih]

theorem runOpening_eq_follow {s : Session} (h : ¬s.finished = true) (path : Bytes)
    (opening : Opening) : s.runOpening path opening = s.follow (Turn.ofPath path opening) := by
  rw [Turn.ofPath, follow_cons h]
  cases opening with
  | error failure => exact (andThen_idle _).symm
  | ok content =>
    cases content with
    | file bytes => simp only [runOpening, runContent, runLines_eq_follow, linesOf]; rfl
    | directory => simp only [runOpening, runContent, if_neg h, Reply.andThen]; rfl

/-- **Paths are taken turn by turn.** -/
theorem runFiles_eq_follow (s : Session) (files : Files) (paths : List Bytes) :
    s.runFiles files paths = s.follow (Turn.ofPaths files paths) := by
  induction paths generalizing s with
  | nil => rfl
  | cons path paths ih =>
    by_cases h : s.finished = true
    · rw [runFiles_of_finished h, follow_of_finished h]
    · rw [runFiles_cons h, Turn.ofPaths, List.flatMap_cons, ← Turn.ofPaths, follow_append, runFile,
        runOpening_eq_follow h]
      simp only [ih]

end Session

end TurtleScript
